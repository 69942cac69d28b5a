import DeviceBroker.Proofs.Revision
import DeviceBroker.Proofs.Simulator.Operations

/-!
# Revisions of one card

Every resource belongs to a card, and so does every token, handle and object
that is live, by the site that it stands for. A revision of one card changes
each of the resources there by itself, and keeps, changes or drops each of the
things that are live there by itself. Revisions of two cards commute, and what
is found on a card is the same before and after a revision of another.
-/

namespace DeviceBroker

variable {cards : Nat} {α : Type} {c d : Fin cards}

/-- What is to become of every resource and of everything that is live, and how
many calls are to be counted. -/
structure Revision (cards : Nat) where
  resources : Site cards → Resource → Resource
  tokens : NativeToken → Site cards → Option (Site cards)
  handles : NativeHandle → OpenHandle cards → Option (OpenHandle cards)
  objects : NativeObject → OpenObject cards → Option (OpenObject cards)
  calls : Nat

/-- The card of an open handle. -/
def OpenHandle.card (state : OpenHandle cards) : Fin cards := state.site.card

/-- The card of a live object. -/
def OpenObject.card (state : OpenObject cards) : Fin cards := state.site.card

namespace Revision

def nothing : Revision cards where
  resources _ r := r
  tokens _ site := some site
  handles _ state := some state
  objects _ state := some state
  calls := 0

/-- Change one resource. -/
def ofResource (site : Site cards) (change : Resource → Resource) : Revision cards :=
  { nothing with resources := fun other r => if other = site then change r else r }

/-- Drop a token, if it is on a card. -/
def ofToken (c : Fin cards) (token : NativeToken) : Revision cards :=
  { nothing with tokens := Table.amend Site.card c token fun _ => none }

/-- Change or drop a handle, if it is on a card. -/
def ofHandle (c : Fin cards) (handle : NativeHandle)
    (change : OpenHandle cards → Option (OpenHandle cards)) : Revision cards :=
  { nothing with handles := Table.amend OpenHandle.card c handle change }

/-- Drop an object, if it is on a card. -/
def ofObject (c : Fin cards) (object : NativeObject) : Revision cards :=
  { nothing with objects := Table.amend OpenObject.card c object fun _ => none }

/-- One revision after another. -/
def andThen (first second : Revision cards) : Revision cards where
  resources site r := second.resources site (first.resources site r)
  tokens key value := (first.tokens key value).bind (second.tokens key)
  handles key value := (first.handles key value).bind (second.handles key)
  objects key value := (first.objects key value).bind (second.objects key)
  calls := first.calls + second.calls

/-- A revision of one card. -/
structure On (c : Fin cards) (R : Revision cards) : Prop where
  resources : ∀ site r, site.card ≠ c → R.resources site r = r
  tokens : Table.Local Site.card c R.tokens
  handles : Table.Local OpenHandle.card c R.handles
  objects : Table.Local OpenObject.card c R.objects

theorem on_nothing : On c nothing where
  resources _ _ _ := rfl
  tokens := Table.local_some
  handles := Table.local_some
  objects := Table.local_some

theorem on_ofResource {site : Site cards} (h : site.card = c) (change : Resource → Resource) :
    On c (ofResource site change) where
  resources other _ hp := if_neg fun heq : other = site => hp (heq ▸ h)
  tokens := Table.local_some
  handles := Table.local_some
  objects := Table.local_some

theorem on_ofToken (token : NativeToken) : On c (ofToken c token) where
  resources _ _ _ := rfl
  tokens := Table.local_amend token nofun
  handles := Table.local_some
  objects := Table.local_some

theorem on_ofHandle (handle : NativeHandle)
    {change : OpenHandle cards → Option (OpenHandle cards)}
    (h : ∀ state changed, change state = some changed → changed.card = state.card) :
    On c (ofHandle c handle change) where
  resources _ _ _ := rfl
  tokens := Table.local_some
  handles := Table.local_amend handle h
  objects := Table.local_some

theorem on_ofObject (object : NativeObject) : On c (ofObject c object) where
  resources _ _ _ := rfl
  tokens := Table.local_some
  handles := Table.local_some
  objects := Table.local_amend object nofun

theorem On.andThen {first second : Revision cards} (h : first.On c) (h' : second.On c) :
    (first.andThen second).On c where
  resources site r hp := (h'.resources site _ hp).trans (h.resources site r hp)
  tokens := h.tokens.bind h'.tokens
  handles := h.handles.bind h'.handles
  objects := h.objects.bind h'.objects

end Revision

namespace Simulator

/-- The cards after a revision. -/
def revise (s : Simulator cards) (R : Revision cards) : Simulator cards :=
  { s with
    resources := fun site => R.resources site (s.resources site)
    tokens := s.tokens.revise R.tokens
    handles := s.handles.revise R.handles
    objects := s.objects.revise R.objects
    calls := s.calls + R.calls }

@[simp] theorem revise_nothing (s : Simulator cards) : s.revise .nothing = s := by
  simp [revise, Revision.nothing, Table.revise_some]

theorem revise_revise (s : Simulator cards) (first second : Revision cards) :
    (s.revise first).revise second = s.revise (first.andThen second) := by
  simp only [revise, Revision.andThen, Table.revise_revise, Nat.add_assoc]

/-- Revisions of two cards commute. -/
theorem revise_comm {first second : Revision cards} (h : first.On c) (h' : second.On d)
    (hne : c ≠ d) (s : Simulator cards) :
    (s.revise first).revise second = (s.revise second).revise first := by
  have hresources : ∀ site r, second.resources site (first.resources site r) =
      first.resources site (second.resources site r) := by
    intro site r
    by_cases hp : site.card = c
    · rw [h'.resources site _ (hp ▸ hne), h'.resources site r (hp ▸ hne)]
    · rw [h.resources site r hp, h.resources site _ hp]
  simp only [revise, hresources, h.tokens.revise_comm h'.tokens hne,
    h.handles.revise_comm h'.handles hne, h.objects.revise_comm h'.objects hne,
    Nat.add_right_comm]

/-! ## Cards that agree on one of them -/

/-- The cards agree on one card, and nothing is live on the one side that is
not on the other. -/
structure Agrees (c : Fin cards) (s t : Simulator cards) : Prop where
  resources : ∀ site, site.card = c → t.resources site = s.resources site
  tokens : Table.Agrees Site.card c s.tokens t.tokens
  handles : Table.Agrees OpenHandle.card c s.handles t.handles
  objects : Table.Agrees OpenObject.card c s.objects t.objects
  images : t.images = s.images
  armed : t.armed = s.armed

theorem Agrees.refl (s : Simulator cards) : Agrees c s s where
  resources _ _ := rfl
  tokens := .refl _
  handles := .refl _
  objects := .refl _
  images := rfl
  armed := rfl

theorem Agrees.revise {s t : Simulator cards} (h : Agrees c s t) {R : Revision cards}
    (hR : R.On c) : Agrees c (s.revise R) (t.revise R) where
  resources site hp := congrArg (R.resources site) (h.resources site hp)
  tokens := h.tokens.revise hR.tokens
  handles := h.handles.revise hR.handles
  objects := h.objects.revise hR.objects
  images := h.images
  armed := h.armed

/-- A revision of another card does not show on a card. -/
theorem agrees_revise {R : Revision cards} (hR : R.On d) (hne : c ≠ d) (s : Simulator cards) :
    Agrees c s (s.revise R) where
  resources site hp := hR.resources site _ (hp ▸ hne)
  tokens := hR.tokens.agrees hne _
  handles := hR.handles.agrees hne _
  objects := hR.objects.agrees hne _
  images := rfl
  armed := rfl

/-! ## Calls within a card -/

/-- A token is on a card if it is live at all. -/
def TokenOn (c : Fin cards) (s : Simulator cards) (token : NativeToken) : Prop :=
  Table.Inside Site.card c s.tokens token

/-- A handle is on a card if it is open at all. -/
def HandleOn (c : Fin cards) (s : Simulator cards) (handle : NativeHandle) : Prop :=
  Table.Inside OpenHandle.card c s.handles handle

/-- An object is on a card if it is live at all. -/
def ObjectOn (c : Fin cards) (s : Simulator cards) (object : NativeObject) : Prop :=
  Table.Inside OpenObject.card c s.objects object

section

variable {s t : Simulator cards} {token : NativeToken} {handle : NativeHandle}
  {object : NativeObject}

theorem TokenOn.card_eq (h : TokenOn c s token) {site : Site cards}
    (hs : s.siteOf token = .ok site) : site.card = c :=
  h site (find?_of_siteOf hs)

theorem HandleOn.card_eq (h : HandleOn c s handle) {state : OpenHandle cards}
    (hs : s.handleOf handle = .ok state) : state.site.card = c :=
  h state (find?_of_handleOf hs)

theorem TokenOn.card_of_errorRegister (h : TokenOn c s token) {number : UInt32}
    {found : Site cards × ErrorRegister} (hs : s.errorRegister token number = .ok found) :
    found.1.card = c := by
  unfold errorRegister at hs
  split at hs
  · cases hs
  · rename_i site hsite
    split at hs
    · cases hs
      exact h.card_eq hsite
    · cases hs

theorem HandleOn.card_of_regionFor (h : HandleOn c s handle) {region : UInt32} {offset : UInt64}
    {width : Nat} {found : Site cards × Memory}
    (hs : s.regionFor handle region offset width = .ok found) : found.1.card = c := by
  unfold regionFor at hs
  split at hs
  · cases hs
  · rename_i state hstate
    split at hs
    · cases hs
    · split at hs
      · cases hs
        exact h.card_eq hstate
      · cases hs

theorem ObjectOn.card_eq (h : ObjectOn c s object) {state : OpenObject cards}
    (hs : s.objectOf object = .ok state) : state.site.card = c :=
  h state (find?_of_objectOf hs)

theorem ObjectOn.card_of_shown (h : ObjectOn c s object) {found : OpenObject cards × TreeNode}
    (hs : s.shown object = .ok found) : found.1.site.card = c := by
  unfold shown at hs
  cases ho : s.objectOf object with
  | error fault =>
    rw [ho] at hs
    cases hs
  | ok state =>
    rw [ho] at hs
    cases hn : s.nodeOf state with
    | error fault => simp [hn, Except.map] at hs
    | ok node =>
      obtain rfl : (state, node) = found := by simpa [hn, Except.map] using hs
      exact h.card_eq ho

namespace Agrees

variable (a : Agrees c s t)

include a

theorem siteOf_eq (h : TokenOn c s token) : t.siteOf token = s.siteOf token := by
  unfold siteOf
  rw [a.tokens.find?_eq h]

theorem handleOf_eq (h : HandleOn c s handle) : t.handleOf handle = s.handleOf handle := by
  unfold handleOf
  rw [a.handles.find?_eq h]

theorem objectOf_eq (h : ObjectOn c s object) : t.objectOf object = s.objectOf object := by
  unfold objectOf
  rw [a.objects.find?_eq h]

theorem bufferOf_eq (h : HandleOn c s handle) (workspace : Nat) :
    t.bufferOf handle workspace = s.bufferOf handle workspace := by
  unfold bufferOf
  rw [a.handleOf_eq h]

theorem regionFor_eq (h : HandleOn c s handle) (region : UInt32) (offset : UInt64) (width : Nat) :
    t.regionFor handle region offset width = s.regionFor handle region offset width := by
  unfold regionFor
  rw [a.handleOf_eq h]
  cases hs : s.handleOf handle with
  | error fault => rfl
  | ok state =>
    dsimp only
    rw [a.resources _ (h.card_eq hs)]

theorem errorRegister_eq (h : TokenOn c s token) (number : UInt32) :
    t.errorRegister token number = s.errorRegister token number := by
  unfold errorRegister
  rw [a.siteOf_eq h]
  cases hs : s.siteOf token with
  | error fault => rfl
  | ok site =>
    dsimp only
    rw [a.resources _ (h.card_eq hs)]

theorem shown_eq (h : ObjectOn c s object) : t.shown object = s.shown object := by
  unfold shown
  rw [a.objectOf_eq h]
  cases hs : s.objectOf object with
  | error fault => rfl
  | ok state =>
    dsimp only
    rw [nodeOf, nodeOf, a.resources _ (h.card_eq hs)]

end Agrees

/-! ## What is changed of a table -/

theorem updateResource_eq (site : Site cards) (change : Resource → Resource) :
    t.updateResource site change = t.revise (.ofResource site change) := by
  have hresources : override t.resources site (change (t.resources site)) =
      fun other => if other = site then change (t.resources other) else t.resources other := by
    funext other
    by_cases h : other = site
    · simp [override, h]
    · simp [override, h]
  simp [updateResource, revise, Revision.ofResource, Revision.nothing, Table.revise_some,
    hresources]

theorem eraseToken_eq (h : TokenOn c t token) :
    { t with tokens := t.tokens.erase token } = t.revise (.ofToken c token) := by
  simp [revise, Revision.ofToken, Revision.nothing, Table.revise_some, h.erase_eq]

theorem eraseHandle_eq (h : HandleOn c t handle) :
    { t with handles := t.handles.erase handle } = t.revise (.ofHandle c handle fun _ => none) := by
  simp [revise, Revision.ofHandle, Revision.nothing, Table.revise_some, h.erase_eq]

theorem modifyHandle_eq (h : HandleOn c t handle) (change : OpenHandle cards → OpenHandle cards) :
    { t with handles := t.handles.modify handle change } =
      t.revise (.ofHandle c handle fun state => some (change state)) := by
  simp [revise, Revision.ofHandle, Revision.nothing, Table.revise_some, h.modify_eq]

theorem eraseObject_eq (h : ObjectOn c t object) :
    { t with objects := t.objects.erase object } = t.revise (.ofObject c object) := by
  simp [revise, Revision.ofObject, Revision.nothing, Table.revise_some, h.erase_eq]

end

end Simulator

end DeviceBroker
