import DeviceBroker.Proofs.Identity.Registry
import DeviceBroker.Proofs.Simulator.Holdings

/-!
# Registry against holdings

The registry and the driver keep books on the same resources. `Agreement` says
that the books agree: the live identifiers of tokens, handles, objects and
buffers correspond one to one to what the driver holds, and the buffers have
the lengths that were declared for them. The changes that requests make on both
sides are taken one at a time, and each keeps the agreement.
-/

namespace DeviceBroker

theorem comp_override {α β γ : Type} [DecidableEq α] (g : β → γ) (f : α → β) (key : α)
    (value : β) :
    (fun x => g (override f key value x)) = override (fun x => g (f x)) key (g value) := by
  funext x
  by_cases h : x = key <;> simp [override, h]

/-- The identifiers that name something name all that is held, each of it once. -/
structure OneToOne {ν : Type} (live : RemoteId → Option ν) (held : ν → Bool) : Prop where
  /-- What an identifier names is held. -/
  holds : ∀ id value, live id = some value → held value = true
  /-- Distinct identifiers name distinct things. -/
  unique : ∀ id id' value, live id = some value → live id' = some value → id = id'
  /-- What is held has an identifier. -/
  tracked : ∀ value, held value = true → ∃ id, live id = some value

namespace OneToOne

variable {ν : Type} {live : RemoteId → Option ν} {held : ν → Bool}

theorem empty (hl : ∀ id, live id = none) (hh : ∀ value, held value = false) :
    OneToOne live held where
  holds id value hv := by rw [hl] at hv; cases hv
  unique id id' value hv := by rw [hl] at hv; cases hv
  tracked value hv := by rw [hh] at hv; cases hv

theorem insert [DecidableEq ν] (h : OneToOne live held) {id : RemoteId} {value : ν}
    (free : held value = false) (fresh : live id = none) :
    OneToOne (override live id (some value)) (override held value true) := by
  -- Nothing that is not held has an identifier yet.
  have hfree : ∀ other, live other ≠ some value := by
    intro other ho
    rw [h.holds other value ho] at free
    cases free
  refine ⟨fun one v hv => ?_, fun one two v hv hv' => ?_, fun v hv => ?_⟩
  · by_cases ho : v = value
    · rw [ho, override_self]
    · rw [override_of_ne _ _ ho]
      by_cases hi : one = id
      · rw [hi, override_self] at hv
        exact absurd (Option.some.inj hv).symm ho
      · rw [override_of_ne _ _ hi] at hv
        exact h.holds one v hv
  · by_cases hi : one = id
    · by_cases hj : two = id
      · rw [hi, hj]
      · rw [hi, override_self] at hv
        rw [override_of_ne _ _ hj, ← hv] at hv'
        exact absurd hv' (hfree two)
    · by_cases hj : two = id
      · rw [hj, override_self] at hv'
        rw [override_of_ne _ _ hi, ← hv'] at hv
        exact absurd hv (hfree one)
      · rw [override_of_ne _ _ hi] at hv
        rw [override_of_ne _ _ hj] at hv'
        exact h.unique one two v hv hv'
  · by_cases ho : v = value
    · exact ⟨id, by rw [override_self, ho]⟩
    · rw [override_of_ne _ _ ho] at hv
      obtain ⟨other, hother⟩ := h.tracked v hv
      have hne : other ≠ id := by
        rintro rfl
        rw [fresh] at hother
        cases hother
      exact ⟨other, by rw [override_of_ne _ _ hne, hother]⟩

theorem restrict (h : OneToOne live held) {live' : RemoteId → Option ν} {held' : ν → Bool}
    (keep : ν → Prop) (hl : ∀ id value, live' id = some value ↔ live id = some value ∧ keep value)
    (hh : ∀ value, held' value = true ↔ held value = true ∧ keep value) :
    OneToOne live' held' := by
  refine ⟨fun id value hv => ?_, fun id id' value hv hv' => ?_, fun value hv => ?_⟩
  · obtain ⟨hlive, hkeep⟩ := (hl id value).mp hv
    exact (hh value).mpr ⟨h.holds id value hlive, hkeep⟩
  · exact h.unique id id' value ((hl id value).mp hv).1 ((hl id' value).mp hv').1
  · obtain ⟨hheld, hkeep⟩ := (hh value).mp hv
    obtain ⟨id, hid⟩ := h.tracked value hheld
    exact ⟨id, (hl id value).mpr ⟨hid, hkeep⟩⟩

theorem erase [DecidableEq ν] (h : OneToOne live held) {id : RemoteId} {value : ν}
    (hv : live id = some value) :
    OneToOne (override live id none) (override held value false) := by
  refine h.restrict (· ≠ value) (fun other v => ?_) fun v => ?_
  · by_cases hi : other = id
    · subst hi
      simp [hv, eq_comm]
    · rw [override_of_ne _ _ hi]
      constructor
      · intro ho
        refine ⟨ho, ?_⟩
        rintro rfl
        exact hi (h.unique other id v ho hv)
      · exact And.left
  · by_cases ho : v = value <;> simp [override, ho]

end OneToOne

/-- What the live identifiers name, as far as the driver holds it. -/
@[ext] structure Books where
  token : RemoteId → Option NativeToken
  handle : RemoteId → Option NativeHandle
  object : RemoteId → Option NativeObject
  buffer : RemoteId → Option BufferEntry

/-- Where the driver keeps the buffer behind an identifier: under the native
handle of its owner, with its workspace number. -/
def Books.place? (k : Books) (id : RemoteId) : Option (NativeHandle × Nat) :=
  (k.buffer id).bind fun entry => (k.handle entry.owner).map fun handle => (handle, entry.workspace)

theorem Books.place?_eq_some_iff (k : Books) (id : RemoteId) (place : NativeHandle × Nat) :
    k.place? id = some place ↔ ∃ entry, k.buffer id = some entry ∧
      k.handle entry.owner = some place.1 ∧ entry.workspace = place.2 := by
  unfold place?
  rw [Option.bind_eq_some_iff]
  constructor
  · rintro ⟨entry, hb, hm⟩
    obtain ⟨handle, hn, rfl⟩ := Option.map_eq_some_iff.mp hm
    exact ⟨entry, hb, hn, rfl⟩
  · rintro ⟨entry, hb, hn, hw⟩
    exact ⟨entry, hb, Option.map_eq_some_iff.mpr ⟨place.1, hn, Prod.ext rfl hw⟩⟩

theorem Books.place?_override (k : Books) (id : RemoteId) (stored? : Option BufferEntry) :
    place? { k with buffer := override k.buffer id stored? } =
      override k.place? id (stored?.bind fun entry =>
        (k.handle entry.owner).map fun handle => (handle, entry.workspace)) :=
  comp_override (fun stored? : Option BufferEntry => stored?.bind fun entry =>
    (k.handle entry.owner).map fun handle => (handle, entry.workspace)) k.buffer id stored?

namespace Registry

/-- The books that a registry keeps. -/
def books (r : Registry) : Books where
  token id := ((r.map .token).find? id).map TokenEntry.token
  handle id := ((r.map .handle).find? id).map HandleEntry.handle
  object id := ((r.map .object).find? id).map ObjectEntry.object
  buffer := (r.map .buffer).find?

theorem books_empty (source : IdSource) :
    (empty source).books = ⟨fun _ => none, fun _ => none, fun _ => none, fun _ => none⟩ := by
  ext id : 2
  · simp [books, map, empty]
  · simp [books, map, empty]
  · simp [books, map, empty]
  · simp [books, map, empty]

/-- A registry that has one entry more, under an identifier that was not live. -/
structure Puts (r r' : Registry) (cls : ResourceClass) (id : RemoteId) (entry : cls.Entry) :
    Prop where
  fresh : ∀ other, (r.map other).find? id = none
  same : (r'.map cls).find? = override (r.map cls).find? id (some entry)
  rest : ∀ other, other ≠ cls → (r'.map other).find? = (r.map other).find?

theorem puts_add {salt : UInt64} {r : Registry} (h : r.Sound salt) {cls : ResourceClass}
    {entry : cls.Entry} (hb : r.drawn + 1 < 2 ^ 64)
    (hk : ∀ key, cls.nativeKey? entry = some key → (r.map cls).natives.find? key = none) :
    ((r.map cls).add r.source.next.1 entry).1 = true ∧
    r.Puts { r.withMap cls ((r.map cls).add r.source.next.1 entry).2 with
      source := r.source.next.2 } cls r.source.next.1 entry := by
  have hslots := h.slots_next hb
  have hadmits : (r.map cls).admits r.source.next.1 entry = true :=
    (IdentityMap.admits_iff _ _ _).mpr ⟨h.next_ne_sentinel, hslots cls, hk⟩
  unfold IdentityMap.add
  rw [if_pos hadmits]
  refine ⟨rfl, fun other => IdentityMap.find?_eq_none_of_slots (hslots other), ?_, ?_⟩
  · rw [map_withSource, map_withMap_self]
    exact IdentityMap.find?_put _ h.next_ne_sentinel entry
  · intro other ho
    rw [map_withSource, map_withMap_of_ne _ _ ho]

/-- An entry without a native key can always be registered. -/
theorem Sound.register {salt : UInt64} {r : Registry} (h : r.Sound salt) {cls : ResourceClass}
    {entry : cls.Entry} (hk : cls.nativeKey? entry = none)
    (hb : (r.register cls entry).2.drawn < 2 ^ 64) :
    ∃ id, (r.register cls entry).1 = some id ∧ r.Puts (r.register cls entry).2 cls id entry := by
  rw [register_eq] at hb ⊢
  rw [drawn_of_next h] at hb
  obtain ⟨hadded, hputs⟩ := puts_add h hb fun key hkey => by rw [hk] at hkey; cases hkey
  exact ⟨r.source.next.1, by rw [hadded, if_pos rfl], hputs⟩

/-- A token can always be interned; if it is tracked already, nothing changes. -/
theorem Sound.intern {salt : UInt64} {r : Registry} (h : r.Sound salt) {token : NativeToken}
    (hb : (r.intern .token ⟨token⟩).2.drawn < 2 ^ 64) :
    ∃ registration, (r.intern .token ⟨token⟩).1 = some registration ∧
      (((r.intern .token ⟨token⟩).2 = r ∧ r.books.token registration.id = some token) ∨
        ((∀ id, r.books.token id ≠ some token) ∧
          r.Puts (r.intern .token ⟨token⟩).2 .token registration.id ⟨token⟩)) := by
  have hwell := h.wellFormed .token
  cases ht : (r.map .token).tracked? ⟨token⟩ with
  | some id =>
      rw [intern_of_tracked ht]
      refine ⟨.existing id, rfl, .inl ⟨rfl, ?_⟩⟩
      obtain ⟨⟨entry, claimed⟩, hs, hk⟩ := (hwell.indexed token.raw id).mp ht
      have hraw : entry.token = token := NativeToken.ext (Option.some.inj hk)
      change ((r.map .token).find? id).map TokenEntry.token = some token
      rw [hwell.find?_eq, hs]
      exact congrArg some hraw
  | none =>
      rw [intern_of_untracked ht] at hb ⊢
      rw [drawn_of_next h] at hb
      have hkey : (r.map .token).natives.find? token.raw = none := ht
      have hk : ∀ key, ResourceClass.token.nativeKey? ⟨token⟩ = some key →
          (r.map .token).natives.find? key = none :=
        fun key hk => (Option.some.inj hk) ▸ hkey
      obtain ⟨hadded, hputs⟩ := puts_add h hb hk
      refine ⟨.inserted r.source.next.1, by rw [hadded, if_pos rfl], .inr ⟨fun id hid => ?_, hputs⟩⟩
      obtain ⟨entry, hf, hraw⟩ := Option.map_eq_some_iff.mp hid
      obtain ⟨-, slot, hs, rfl⟩ := IdentityMap.slots_of_find? hf
      have hindexed := (hwell.indexed token.raw id).mpr ⟨slot, hs, by rw [← hraw]; rfl⟩
      rw [hkey] at hindexed
      cases hindexed

/-- A registry without an identifier of one class. -/
structure Drops (r r' : Registry) (cls : ResourceClass) (id : RemoteId) : Prop where
  same : (r'.map cls).find? = override (r.map cls).find? id none
  rest : ∀ other, other ≠ cls → (r'.map other).find? = (r.map other).find?

theorem drops_remove (r : Registry) (cls : ResourceClass) (id : RemoteId) :
    r.Drops (r.withMap cls ((r.map cls).remove id).2) cls id := by
  refine ⟨?_, fun other ho => by rw [map_withMap_of_ne _ _ ho]⟩
  rw [map_withMap_self]
  exact IdentityMap.find?_remove _ id

/-! ## Books after a change -/

variable {r r' : Registry} {id : RemoteId}

theorem books_congr (h : ∀ cls, cls ≠ .mapping → (r'.map cls).find? = (r.map cls).find?) :
    r'.books = r.books := by
  unfold books
  rw [h .token (by decide), h .handle (by decide), h .object (by decide), h .buffer (by decide)]

theorem books_of_token {stored? : Option TokenEntry}
    (same : (r'.map .token).find? = override (r.map .token).find? id stored?)
    (rest : ∀ cls, cls ≠ .token → (r'.map cls).find? = (r.map cls).find?) :
    r'.books =
      { r.books with token := override r.books.token id (stored?.map TokenEntry.token) } := by
  unfold books
  rw [same, rest .handle (by decide), rest .object (by decide), rest .buffer (by decide),
    comp_override (Option.map TokenEntry.token)]

theorem books_of_handle {stored? : Option HandleEntry}
    (same : (r'.map .handle).find? = override (r.map .handle).find? id stored?)
    (rest : ∀ cls, cls ≠ .handle → (r'.map cls).find? = (r.map cls).find?) :
    r'.books =
      { r.books with handle := override r.books.handle id (stored?.map HandleEntry.handle) } := by
  unfold books
  rw [same, rest .token (by decide), rest .object (by decide), rest .buffer (by decide),
    comp_override (Option.map HandleEntry.handle)]

theorem books_of_object {stored? : Option ObjectEntry}
    (same : (r'.map .object).find? = override (r.map .object).find? id stored?)
    (rest : ∀ cls, cls ≠ .object → (r'.map cls).find? = (r.map cls).find?) :
    r'.books =
      { r.books with object := override r.books.object id (stored?.map ObjectEntry.object) } := by
  unfold books
  rw [same, rest .token (by decide), rest .handle (by decide), rest .buffer (by decide),
    comp_override (Option.map ObjectEntry.object)]

theorem books_of_buffer {stored? : Option BufferEntry}
    (same : (r'.map .buffer).find? = override (r.map .buffer).find? id stored?)
    (rest : ∀ cls, cls ≠ .buffer → (r'.map cls).find? = (r.map cls).find?) :
    r'.books = { r.books with buffer := override r.books.buffer id stored? } := by
  unfold books
  rw [same, rest .token (by decide), rest .handle (by decide), rest .object (by decide)]

/-- The registry without a handle and what it owns. -/
def closed (r : Registry) (id : RemoteId) : Registry :=
  { r with
    handles := (r.handles.remove id).2
    mappings := (r.mappings.removeOwnedBy id).2
    buffers := (r.buffers.removeOwnedBy id).2 }

theorem books_closed (r : Registry) (id : RemoteId) :
    (r.closed id).books =
      { r.books with
        handle := override r.books.handle id none
        buffer := fun other => (r.books.buffer other).filter fun entry => entry.owner != id } := by
  have hhandle : ((r.closed id).map .handle).find? = override (r.map .handle).find? id none :=
    IdentityMap.find?_remove r.handles id
  have hbuffer : ((r.closed id).map .buffer).find? = fun other =>
      ((r.map .buffer).find? other).filter fun entry => entry.owner != id := by
    funext other
    refine (IdentityMap.find?_removeOwnedBy r.buffers id other).trans ?_
    exact congrArg (fun keep => (r.buffers.find? other).filter keep) (funext fun entry => by
      simp [ResourceClass.owner?, bne])
  unfold books
  rw [hhandle, hbuffer, comp_override (Option.map HandleEntry.handle)]
  rfl

end Registry

/-- The books and the driver agree on what is live. -/
structure Agreement (k : Books) (h : Holdings) : Prop where
  token : OneToOne k.token h.token
  handle : OneToOne k.handle h.handle
  object : OneToOne k.object h.object
  buffer : OneToOne k.place? fun place => (h.buffer place).isSome
  /-- A live buffer belongs to a live handle, and has the length that was declared. -/
  length : ∀ id entry, k.buffer id = some entry →
    ∃ handle, k.handle entry.owner = some handle ∧
      h.buffer (handle, entry.workspace) = some entry.length.toNat
  object_lt : ∀ object, h.object object = true →
    object.raw < Simulator.firstObject + h.nextObject
  workspace_lt : ∀ place, (h.buffer place).isSome = true → place.2 < h.nextWorkspace

namespace Agreement

variable {k : Books} {h : Holdings} {id : RemoteId}

theorem track (agrees : Agreement k h) {token : NativeToken} (free : h.token token = false)
    (fresh : k.token id = none) :
    Agreement { k with token := override k.token id (some token) } (h.track token) :=
  { agrees with token := agrees.token.insert free fresh }

theorem untrack (agrees : Agreement k h) {token : NativeToken} (live : k.token id = some token) :
    Agreement { k with token := override k.token id none }
      { h with token := override h.token token false } :=
  { agrees with token := agrees.token.erase live }

theorem openNext (agrees : Agreement k h) (fresh : k.object id = none) :
    Agreement
      { k with
        object := override k.object id (some ⟨Simulator.firstObject + h.nextObject⟩) }
      (h.openNext ⟨Simulator.firstObject + h.nextObject⟩) := by
  have free : h.object ⟨Simulator.firstObject + h.nextObject⟩ = false := by
    cases hheld : h.object ⟨Simulator.firstObject + h.nextObject⟩ with
    | false => rfl
    | true => exact absurd (agrees.object_lt _ hheld) (Nat.lt_irrefl _)
  refine { agrees with object := agrees.object.insert free fresh, object_lt := ?_ }
  intro object hheld
  dsimp only [Holdings.openNext] at hheld
  by_cases ho : object = ⟨Simulator.firstObject + h.nextObject⟩
  · rw [ho]
    exact Nat.lt_succ_self _
  · rw [override_of_ne _ _ ho] at hheld
    exact Nat.lt_succ_of_lt (agrees.object_lt object hheld)

theorem destroyObject (agrees : Agreement k h) {object : NativeObject}
    (live : k.object id = some object) :
    Agreement { k with object := override k.object id none }
      { h with object := override h.object object false } := by
  refine { agrees with object := agrees.object.erase live, object_lt := ?_ }
  intro other hheld
  dsimp only at hheld
  by_cases ho : other = object
  · rw [ho, override_self] at hheld
    cases hheld
  · rw [override_of_ne _ _ ho] at hheld
    exact agrees.object_lt other hheld

theorem openAt (agrees : Agreement k h) {handle : NativeHandle} (free : h.handle handle = false)
    (fresh : k.handle id = none) :
    Agreement { k with handle := override k.handle id (some handle) } (h.openAt handle) := by
  -- The owner of a live buffer is a live handle, and this identifier was not one.
  have hkept : ∀ other entry, k.buffer other = some entry →
      override k.handle id (some handle) entry.owner = k.handle entry.owner := by
    intro other entry hb
    obtain ⟨owner, ho, -⟩ := agrees.length other entry hb
    refine override_of_ne _ _ ?_
    rintro rfl
    rw [fresh] at ho
    cases ho
  have hplace : Books.place? { k with handle := override k.handle id (some handle) } =
      k.place? := by
    funext other
    unfold Books.place?
    cases hb : k.buffer other with
    | none => rfl
    | some entry =>
        change (override k.handle id (some handle) entry.owner).map _ = _
        rw [hkept other entry hb]
        rfl
  refine { agrees with
    handle := agrees.handle.insert free fresh
    buffer := by rw [hplace]; exact agrees.buffer
    length := ?_ }
  intro other entry hb
  obtain ⟨owner, ho, hlength⟩ := agrees.length other entry hb
  exact ⟨owner, (hkept other entry hb).trans ho, hlength⟩

theorem prepare (agrees : Agreement k h) {handle : NativeHandle} {entry : BufferEntry}
    (owner : k.handle entry.owner = some handle) (next : entry.workspace = h.nextWorkspace)
    (fresh : k.buffer id = none) :
    Agreement { k with buffer := override k.buffer id (some entry) }
      { h with
        buffer := override h.buffer (handle, entry.workspace) (some entry.length.toNat)
        nextWorkspace := h.nextWorkspace + 1 } := by
  -- Workspace numbers are not given out twice, so the place of the buffer is free.
  have free : (h.buffer (handle, entry.workspace)).isSome = false := by
    cases hheld : (h.buffer (handle, entry.workspace)).isSome with
    | false => rfl
    | true =>
        have hlt := agrees.workspace_lt _ hheld
        rw [next] at hlt
        exact absurd hlt (Nat.lt_irrefl _)
  have hplace : k.place? id = none := by
    rw [Books.place?, fresh]
    rfl
  refine { agrees with buffer := ?_, length := ?_, workspace_lt := ?_ }
  · have hinsert := agrees.buffer.insert free hplace
    rw [Books.place?_override, Option.bind_some, owner, Option.map_some]
    dsimp only
    rw [comp_override Option.isSome]
    exact hinsert
  · intro other found hb
    dsimp only at hb ⊢
    by_cases hi : other = id
    · rw [hi, override_self] at hb
      obtain rfl := Option.some.inj hb
      exact ⟨handle, owner, override_self _ _ _⟩
    · rw [override_of_ne _ _ hi] at hb
      obtain ⟨native, hn, hlength⟩ := agrees.length other found hb
      refine ⟨native, hn, ?_⟩
      rw [override_of_ne, hlength]
      intro heq
      rw [← heq, hlength] at free
      cases free
  · intro place hheld
    dsimp only at hheld
    by_cases hp : place = (handle, entry.workspace)
    · rw [hp, next]
      exact Nat.lt_succ_self _
    · rw [override_of_ne _ _ hp] at hheld
      exact Nat.lt_succ_of_lt (agrees.workspace_lt place hheld)

theorem release (agrees : Agreement k h) {place : NativeHandle × Nat}
    (live : k.place? id = some place) :
    Agreement { k with buffer := override k.buffer id none }
      { h with buffer := override h.buffer place none } := by
  refine { agrees with buffer := ?_, length := ?_, workspace_lt := ?_ }
  · have herase := agrees.buffer.erase live
    rw [Books.place?_override, Option.bind_none]
    dsimp only
    rw [comp_override Option.isSome]
    exact herase
  · intro other found hb
    dsimp only at hb ⊢
    by_cases hi : other = id
    · rw [hi, override_self] at hb
      cases hb
    · rw [override_of_ne _ _ hi] at hb
      obtain ⟨native, hn, hlength⟩ := agrees.length other found hb
      refine ⟨native, hn, ?_⟩
      rw [override_of_ne, hlength]
      intro heq
      have hother : k.place? other = some place := by
        rw [Books.place?, hb, Option.bind_some, hn, ← heq]
        rfl
      exact hi (agrees.buffer.unique other id place hother live)
  · intro other hheld
    dsimp only at hheld
    by_cases hp : other = place
    · rw [hp, override_self] at hheld
      cases hheld
    · rw [override_of_ne _ _ hp] at hheld
      exact agrees.workspace_lt other hheld

theorem close (agrees : Agreement k h) {handle : NativeHandle} (live : k.handle id = some handle) :
    Agreement
      { k with
        handle := override k.handle id none
        buffer := fun other => (k.buffer other).filter fun entry => entry.owner != id }
      (h.closeAt handle) := by
  -- The broker drops buffers by owner and the driver by native handle. Both drop the same
  -- ones, since identifiers of handles and native handles correspond one to one.
  have howner : ∀ owner native, k.handle owner = some native → (owner ≠ id ↔ native ≠ handle) := by
    intro owner native ho
    rw [not_iff_not]
    constructor
    · rintro rfl
      rw [live] at ho
      exact (Option.some.inj ho).symm
    · rintro rfl
      exact agrees.handle.unique owner id native ho live
  have hkept : ∀ other entry,
      ((k.buffer other).filter fun entry => entry.owner != id) = some entry ↔
      k.buffer other = some entry ∧ entry.owner ≠ id := by
    intro other entry
    rw [Option.filter_eq_some_iff]
    simp
  refine { agrees with
    handle := agrees.handle.erase live
    buffer := agrees.buffer.restrict (fun place => place.1 ≠ handle) ?_ ?_
    length := ?_
    workspace_lt := ?_ }
  · intro other place
    rw [Books.place?_eq_some_iff, Books.place?_eq_some_iff]
    dsimp only
    constructor
    · rintro ⟨entry, hb, hn, hw⟩
      obtain ⟨hb, ho⟩ := (hkept other entry).mp hb
      rw [override_of_ne _ _ ho] at hn
      exact ⟨⟨entry, hb, hn, hw⟩, (howner _ _ hn).mp ho⟩
    · rintro ⟨⟨entry, hb, hn, hw⟩, hne⟩
      have ho := (howner _ _ hn).mpr hne
      exact ⟨entry, (hkept other entry).mpr ⟨hb, ho⟩, (override_of_ne _ _ ho).trans hn, hw⟩
  · intro place
    dsimp only [Holdings.closeAt]
    by_cases hp : place.1 = handle <;> simp [hp]
  · intro other entry hb
    obtain ⟨hb, ho⟩ := (hkept other entry).mp hb
    obtain ⟨native, hn, hlength⟩ := agrees.length other entry hb
    refine ⟨native, (override_of_ne _ _ ho).trans hn, ?_⟩
    exact (if_neg ((howner _ _ hn).mp ho)).trans hlength
  · intro place hheld
    dsimp only [Holdings.closeAt] at hheld
    split at hheld
    · cases hheld
    · exact agrees.workspace_lt place hheld

end Agreement

end DeviceBroker
