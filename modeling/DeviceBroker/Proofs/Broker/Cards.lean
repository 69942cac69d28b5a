import DeviceBroker.Broker.Program
import DeviceBroker.Proofs.Identity.Pruning
import DeviceBroker.Proofs.Simulator.Cards

/-!
# Amendments of one card

An entry of the registry belongs to the card of what it stands for; that of a
mapping or a buffer is the card of the handle it was created through. To amend
a broker on a card is to revise that card and to strike entries which belong
to it. As with revisions, amendments of two cards commute, and an amendment of
one card shows on no other.
-/

namespace DeviceBroker

variable {cards : Nat} {α β : Type} {c d : Fin cards}

/-- To which card an entry of the registry belongs, if to any. -/
abbrev Chart (cards : Nat) : Type := (cls : ResourceClass) → cls.Entry → Option (Fin cards)

namespace Broker

/-- The card of an open handle, named by its identifier. -/
def handleCard? (b : Broker cards) (handleId : RemoteId) : Option (Fin cards) :=
  ((b.registry.map .handle).find? handleId).bind fun entry =>
    (b.device.handles.find? entry.handle).map OpenHandle.card

/-- The card of what an entry stands for. Mappings and buffers are on the card
of their handle. -/
def cardOf? (b : Broker cards) : Chart cards
  | .token, entry => (b.device.tokens.find? entry.token).map Site.card
  | .handle, entry => (b.device.handles.find? entry.handle).map OpenHandle.card
  | .mapping, entry => b.handleCard? entry.owner
  | .buffer, entry => b.handleCard? entry.owner
  | .object, entry => (b.device.objects.find? entry.object).map OpenObject.card

end Broker

/-- The chart tells the cards of everything that is live, and has whatever a
handle owns on the card of the handle. -/
structure Chart.Fits (k : Chart cards) (b : Broker cards) : Prop where
  token : ∀ entry site, b.device.tokens.find? entry.token = some site →
    k .token entry = some site.card
  handle : ∀ entry state, b.device.handles.find? entry.handle = some state →
    k .handle entry = some state.card
  object : ∀ entry state, b.device.objects.find? entry.object = some state →
    k .object entry = some state.card
  owned : ∀ id handle, (b.registry.map .handle).find? id = some handle →
    ∀ (cls : ResourceClass) (entry : cls.Entry), cls.owner? entry = some id →
      k cls entry = k .handle handle

section

variable {k : Chart cards} {b : Broker cards}

theorem Chart.Fits.tokenOn (h : k.Fits b) {entry : TokenEntry} (hk : k .token entry = some c) :
    b.device.TokenOn c entry.token :=
  fun site hf => Option.some.inj ((h.token entry site hf).symm.trans hk)

theorem Chart.Fits.handleOn (h : k.Fits b) {entry : HandleEntry} (hk : k .handle entry = some c) :
    b.device.HandleOn c entry.handle :=
  fun state hf => Option.some.inj ((h.handle entry state hf).symm.trans hk)

theorem Chart.Fits.objectOn (h : k.Fits b) {entry : ObjectEntry} (hk : k .object entry = some c) :
    b.device.ObjectOn c entry.object :=
  fun state hf => Option.some.inj ((h.object entry state hf).symm.trans hk)

end

theorem Broker.fits_cardOf? (b : Broker cards) : Chart.Fits b.cardOf? b where
  token _ _ h := congrArg (Option.map Site.card) h
  handle _ _ h := congrArg (Option.map OpenHandle.card) h
  object _ _ h := congrArg (Option.map OpenObject.card) h
  owned id handle h cls entry ho := by
    have hcard : b.handleCard? id = b.cardOf? .handle handle :=
      congrArg (Option.bind · _) h
    cases cls with
    | mapping => exact (congrArg b.handleCard? (Option.some.inj ho)).trans hcard
    | buffer => exact (congrArg b.handleCard? (Option.some.inj ho)).trans hcard
    | token | handle | object => cases ho

/-! ## Amendments -/

/-- A revision of the cards together with a pruning of the registry. -/
structure Amendment (cards : Nat) where
  revision : Revision cards
  pruning : Pruning

namespace Amendment

variable {k : Chart cards}

def nothing : Amendment cards := ⟨.nothing, .nothing⟩

/-- One amendment after another. -/
def andThen (first second : Amendment cards) : Amendment cards :=
  ⟨first.revision.andThen second.revision, first.pruning.or second.pruning⟩

/-- An amendment of one card, which strikes only entries that belong to it. -/
structure On (k : Chart cards) (c : Fin cards) (A : Amendment cards) : Prop where
  revision : A.revision.On c
  pruning : ∀ cls id entry, A.pruning cls id entry = true → k cls entry = some c

theorem on_nothing : On k c nothing := ⟨Revision.on_nothing, nofun⟩

theorem On.andThen {first second : Amendment cards} (h : first.On k c) (h' : second.On k c) :
    (first.andThen second).On k c where
  revision := h.revision.andThen h'.revision
  pruning cls id entry hs := by
    rcases Bool.or_eq_true_iff.mp hs with hs | hs
    · exact h.pruning cls id entry hs
    · exact h'.pruning cls id entry hs

theorem on_only {R : Revision cards} (hR : R.On c) {cls : ResourceClass}
    {condition : RemoteId → cls.Entry → Bool}
    (h : ∀ id entry, condition id entry = true → k cls entry = some c) :
    On k c ⟨R, .only cls condition⟩ where
  revision := hR
  pruning other id entry hs := by
    by_cases heq : other = cls
    · subst heq
      exact h id entry (by simpa [Pruning.only] using hs)
    · simp [Pruning.only, Function.update_of_ne heq, Pruning.nothing] at hs

end Amendment

namespace Broker

variable {k : Chart cards}

/-- The broker after an amendment. -/
def amend (b : Broker cards) (A : Amendment cards) : Broker cards :=
  { b with registry := b.registry.prune A.pruning, device := b.device.revise A.revision }

@[simp] theorem amend_nothing (b : Broker cards) : b.amend .nothing = b := by
  simp [amend, Amendment.nothing]

theorem amend_amend (b : Broker cards) (first second : Amendment cards) :
    (b.amend first).amend second = b.amend (first.andThen second) := by
  simp only [amend, Amendment.andThen, Registry.prune_prune, Simulator.revise_revise]

/-- Amendments of two cards commute. -/
theorem amend_comm {first second : Amendment cards} (h : first.On k c) (h' : second.On k d)
    (hne : c ≠ d) (b : Broker cards) :
    (b.amend first).amend second = (b.amend second).amend first := by
  simp only [amend, Simulator.revise_comm h.revision h'.revision hne,
    b.registry.prune_comm first.pruning]

theorem amend_only (b : Broker cards) (R : Revision cards) (cls : ResourceClass)
    (condition : RemoteId → cls.Entry → Bool) :
    b.amend ⟨R, .only cls condition⟩ =
      { b with
        registry := b.registry.withMap cls ((b.registry.map cls).prune condition)
        device := b.device.revise R } := by
  rw [amend, Registry.withMap_prune]

/-- Brokers that agree on one card: on the cards themselves, and on the slots
of the identifiers which belong to it. -/
structure AgreesOn (k : Chart cards) (c : Fin cards) (b b' : Broker cards) : Prop where
  slots : ∀ cls, Table.Agrees (fun slot : Slot cls => k cls slot.entry) (some c)
    (b.registry.map cls).slots (b'.registry.map cls).slots
  device : Simulator.Agrees c b.device b'.device

theorem AgreesOn.refl (b : Broker cards) : AgreesOn k c b b := ⟨fun _ => .refl _, .refl _⟩

theorem slots_amend (b : Broker cards) (A : Amendment cards) (cls : ResourceClass) :
    ((b.amend A).registry.map cls).slots =
      (b.registry.map cls).slots.revise (IdentityMap.strike (A.pruning cls)) := by
  rw [← IdentityMap.slots_prune, ← Registry.map_prune]
  rfl

theorem AgreesOn.amend {b b' : Broker cards} (h : AgreesOn k c b b') {A : Amendment cards}
    (hA : A.On k c) : AgreesOn k c (b.amend A) (b'.amend A) where
  slots cls := by
    rw [slots_amend, slots_amend]
    exact (h.slots cls).revise (IdentityMap.local_strike (hA.pruning cls))
  device := h.device.revise hA.revision

/-- An amendment of another card does not show on a card. -/
theorem agreesOn_amend {A : Amendment cards} (hA : A.On k d) (hne : c ≠ d) (b : Broker cards) :
    AgreesOn k c b (b.amend A) where
  slots cls := by
    rw [slots_amend]
    exact (IdentityMap.local_strike (hA.pruning cls)).agrees
      (fun heq => hne (Option.some.inj heq)) _
  device := Simulator.agrees_revise hA.revision hne _

/-- What an identifier resolves to belongs to a card. -/
def IdOn (k : Chart cards) (c : Fin cards) (b : Broker cards) (cls : ResourceClass)
    (id : RemoteId) : Prop :=
  ∀ entry, (b.registry.map cls).find? id = some entry → k cls entry = some c

section

variable {b b' : Broker cards} {cls : ResourceClass} {id : RemoteId}

theorem IdOn.inside (h : IdOn k c b cls id) (hv : id ≠ .sentinel) :
    Table.Inside (fun slot : Slot cls => k cls slot.entry) (some c) (b.registry.map cls).slots
      id :=
  fun slot hs => h slot.entry (IdentityMap.find?_of_slots hv hs)

theorem AgreesOn.find?_eq (a : AgreesOn k c b b') (h : IdOn k c b cls id) :
    (b'.registry.map cls).find? id = (b.registry.map cls).find? id := by
  by_cases hv : id = .sentinel
  · rw [hv, IdentityMap.find?_sentinel, IdentityMap.find?_sentinel]
  · unfold IdentityMap.find?
    rw [(a.slots cls).find?_eq (h.inside hv)]

/-- What is removed with an identifier of a card belongs to the card. -/
theorem IdOn.remove_eq (h : IdOn k c b cls id) (hv : id ≠ .sentinel) :
    ((b.registry.map cls).remove id).2 =
      (b.registry.map cls).prune fun other entry =>
        other == id && decide (k cls entry = some c) := by
  rw [IdentityMap.remove_eq_prune]
  refine IdentityMap.prune_congr fun other slot hs => ?_
  by_cases heq : other = id
  · subst heq
    rw [decide_eq_true (h.inside hv slot hs), Bool.and_true]
  · rw [beq_eq_false_iff_ne.mpr heq, Bool.false_and]

/-- What resolves after an amendment resolved before it. -/
theorem find?_of_amend {A : Amendment cards} {entry : cls.Entry}
    (h : ((b.amend A).registry.map cls).find? id = some entry) :
    (b.registry.map cls).find? id = some entry := by
  obtain ⟨hv, slot, hs, rfl⟩ := IdentityMap.slots_of_find? h
  rw [slots_amend, Table.find?_revise] at hs
  obtain ⟨old, hold, hstrike⟩ := Option.bind_eq_some_iff.mp hs
  unfold IdentityMap.strike at hstrike
  split at hstrike
  · cases hstrike
    exact IdentityMap.find?_of_slots hv hold
  · cases hstrike

theorem AgreesOn.idOn (a : AgreesOn k c b b') (h : IdOn k c b cls id) : IdOn k c b' cls id :=
  fun entry hf => h entry ((a.find?_eq h).symm.trans hf)

theorem IdOn.amend (h : IdOn k c b cls id) (A : Amendment cards) : IdOn k c (b.amend A) cls id :=
  fun entry hf => h entry (find?_of_amend hf)

end

end Broker

/-- A chart that fits still does after an amendment. -/
theorem Chart.Fits.amend {k : Chart cards} {b : Broker cards} (h : k.Fits b) {A : Amendment cards}
    (hA : A.On k d) : k.Fits (b.amend A) where
  token entry site hf := by
    obtain ⟨old, ho, hv⟩ := Option.bind_eq_some_iff.mp ((Table.find?_revise _ _ _).symm.trans hf)
    rw [h.token entry old ho, hA.revision.tokens.placed _ old site hv]
  handle entry state hf := by
    obtain ⟨old, ho, hv⟩ := Option.bind_eq_some_iff.mp ((Table.find?_revise _ _ _).symm.trans hf)
    rw [h.handle entry old ho, hA.revision.handles.placed _ old state hv]
  object entry state hf := by
    obtain ⟨old, ho, hv⟩ := Option.bind_eq_some_iff.mp ((Table.find?_revise _ _ _).symm.trans hf)
    rw [h.object entry old ho, hA.revision.objects.placed _ old state hv]
  owned id handle hf := h.owned id handle (Broker.find?_of_amend hf)

end DeviceBroker
