import DeviceBroker.Proofs.Identity.Issue

/-!
# Identity maps without their index

A plain map holds the entries of a class with their claim flags and the three
counters, and nothing beside them: whoever asks it for the identifier of a
native resource makes it look through all entries. `IdentityMap.plain` forgets
the reverse index of an identity map. Forgetting commutes with every use, since
the index of a well-formed map finds exactly what looking through the entries
finds, so from the empty map on the answers of the two are the same.
-/

namespace DeviceBroker

variable {cls : ResourceClass}

/-- One use of an identity map. -/
inductive MapUse (cls : ResourceClass) where
  | add (id : RemoteId) (entry : cls.Entry)
  | find (id : RemoteId)
  | contains (id : RemoteId)
  | findNative (key : Nat)
  /-- Find or add an entry, with an identifier that can be drawn for it. -/
  | findOrAdd (entry : cls.Entry) (id : RemoteId)
  | remove (id : RemoteId)
  | claim (id : RemoteId)
  /-- End a claim; one that is dropped is released. -/
  | settle (id : RemoteId) (how : Settlement)
  | removeOwnedBy (owner : RemoteId)
  | ids
  | size
  | stats

/-- What a use answers. Finding or adding also tells whether the identifier was drawn. -/
@[reducible] def MapUse.Answer : MapUse cls → Type
  | .add _ _ => Bool
  | .find _ => Option cls.Entry
  | .contains _ => Bool
  | .findNative _ => Option RemoteId
  | .findOrAdd _ _ => Option Registration × Bool
  | .remove _ => Bool
  | .claim _ => Except ClaimRefusal cls.Entry
  | .settle _ _ => Bool
  | .removeOwnedBy _ => List (RemoteId × cls.Entry)
  | .ids => List RemoteId
  | .size => Nat
  | .stats => MapStats

/-- The answers to uses one after another, and the map after them. -/
def MapUse.answers {σ : Type} (use : σ → (u : MapUse cls) → u.Answer × σ) :
    σ → List (MapUse cls) → List ((u : MapUse cls) × u.Answer) × σ
  | m, [] => ([], m)
  | m, u :: rest =>
    let (answer, m) := use m u
    let (more, m) := answers use m rest
    (⟨u, answer⟩ :: more, m)

def IdentityMap.use (m : IdentityMap cls) : (u : MapUse cls) → u.Answer × IdentityMap cls
  | .add id entry => m.add id entry
  | .find id => (m.find? id, m)
  | .contains id => (m.contains id, m)
  | .findNative key => (m.findNative? key, m)
  | .findOrAdd entry id =>
    let (registration, m, drawn) := m.findOrAdd entry (fun _ => (id, true)) false
    ((registration, drawn), m)
  | .remove id => m.remove id
  | .claim id => m.claim id
  | .settle id how => m.settle id how
  | .removeOwnedBy owner => m.removeOwnedBy owner
  | .ids => (m.ids, m)
  | .size => (m.size, m)
  | .stats => (m.stats, m)

/-- A finite map from identifiers to entries and claim flags, with counters. -/
@[ext] structure PlainMap (cls : ResourceClass) where
  slots : Table RemoteId (Slot cls)
  adds : Nat
  removes : Nat
  rejectedAdds : Nat

namespace PlainMap

def empty : PlainMap cls := ⟨.empty, 0, 0, 0⟩

/-- The first identifier whose entry has a native key. -/
def tracking? (p : PlainMap cls) (key : Nat) : Option RemoteId :=
  (p.slots.pairs.find? fun pair => cls.nativeKey? pair.2.entry == some key).map Prod.fst

/-- Whether an entry can be added: the identifier is not the sentinel and not
in the map, and no entry of the map has the native key of the new one. -/
def admits (p : PlainMap cls) (id : RemoteId) (entry : cls.Entry) : Bool :=
  id != .sentinel && !p.slots.contains id &&
    (cls.nativeKey? entry).all fun key => (p.tracking? key).isNone

def add (p : PlainMap cls) (id : RemoteId) (entry : cls.Entry) : Bool × PlainMap cls :=
  if p.admits id entry then
    (true, { p with slots := p.slots.insert id ⟨entry, false⟩, adds := p.adds + 1 })
  else (false, { p with rejectedAdds := p.rejectedAdds + 1 })

def remove (p : PlainMap cls) (id : RemoteId) : Bool × PlainMap cls :=
  if p.slots.contains id then
    (true, { p with slots := p.slots.erase id, removes := p.removes + 1 })
  else (false, p)

def mark (p : PlainMap cls) (id : RemoteId) (claimed : Bool) : PlainMap cls :=
  { p with slots := p.slots.modify id fun slot => { slot with claimed := claimed } }

def use (p : PlainMap cls) : (u : MapUse cls) → u.Answer × PlainMap cls
  | .add id entry => p.add id entry
  | .find id => ((p.slots.find? id).map Slot.entry, p)
  | .contains id => (p.slots.contains id, p)
  | .findNative key => (p.tracking? key, p)
  | .findOrAdd entry id =>
    match (cls.nativeKey? entry).bind p.tracking? with
    | some found => ((some (.existing found), false), p)
    | none =>
      let (added, p) := p.add id entry
      ((if added then some (.inserted id) else none, true), p)
  | .remove id => p.remove id
  | .claim id =>
    match p.slots.find? id with
    | none => (.error .absent, p)
    | some ⟨_, true⟩ => (.error .busy, p)
    | some ⟨entry, false⟩ => (.ok entry, p.mark id true)
  | .settle id how =>
    match p.slots.find? id, how with
    | some ⟨_, true⟩, .commit => p.remove id
    | some ⟨_, true⟩, .release => (true, p.mark id false)
    | _, _ => (false, p)
  | .removeOwnedBy owner =>
    let owned := p.slots.filter fun _ slot => cls.owner? slot.entry == some owner
    (owned.pairs.map fun pair => (pair.1, pair.2.entry),
      { p with
        slots := p.slots.filter fun _ slot => cls.owner? slot.entry != some owner
        removes := p.removes + owned.size })
  | .ids => (p.slots.keys.mergeSort RemoteId.precedes, p)
  | .size => (p.slots.size, p)
  | .stats => (⟨p.slots.size, p.adds, p.removes, p.rejectedAdds⟩, p)

/-- Every entry that was added is live or was removed. -/
def Balanced (p : PlainMap cls) : Prop := p.slots.size + p.removes = p.adds

theorem balanced_empty : (empty : PlainMap cls).Balanced := rfl

theorem Balanced.mark {p : PlainMap cls} (h : p.Balanced) (id : RemoteId) (claimed : Bool) :
    (p.mark id claimed).Balanced := by
  unfold Balanced PlainMap.mark
  rw [Table.size_modify]
  exact h

theorem Balanced.add {p : PlainMap cls} (h : p.Balanced) (id : RemoteId) (entry : cls.Entry) :
    (p.add id entry).2.Balanced := by
  unfold PlainMap.add
  split
  · rename_i ha
    have hnew : p.slots.find? id = none := by
      have hc : p.slots.contains id = false := by
        simp only [admits, Bool.and_eq_true, Bool.not_eq_true'] at ha
        exact ha.1.2
      exact (Table.find?_eq_none_iff _ _).mpr hc
    have hsize := Table.size_insert hnew ⟨entry, false⟩
    unfold Balanced at h ⊢
    dsimp only
    omega
  · exact h

theorem Balanced.remove {p : PlainMap cls} (h : p.Balanced) (id : RemoteId) :
    (p.remove id).2.Balanced := by
  unfold PlainMap.remove
  split
  · rename_i hc
    have hsize := Table.size_erase hc
    unfold Balanced at h ⊢
    dsimp only
    omega
  · exact h

theorem Balanced.use {p : PlainMap cls} (h : p.Balanced) (u : MapUse cls) :
    (p.use u).2.Balanced := by
  cases u with
  | add id entry => exact h.add id entry
  | findOrAdd entry id =>
      unfold PlainMap.use
      dsimp only
      split
      · exact h
      · exact h.add id entry
  | remove id => exact h.remove id
  | claim id =>
      unfold PlainMap.use
      dsimp only
      split
      · exact h
      · exact h
      · exact h.mark id true
  | settle id how =>
      unfold PlainMap.use
      dsimp only
      split
      · exact h.remove id
      · exact h.mark id false
      · exact h
  | removeOwnedBy owner =>
      -- What is owned and what is not are together all that was there.
      have hsplit := List.length_eq_length_filter_add (l := p.slots.pairs)
        fun pair => cls.owner? pair.2.entry == some owner
      unfold Balanced at h ⊢
      simp only [PlainMap.use, Table.filter, Table.size, bne] at h ⊢
      omega
  | find id => exact h
  | contains id => exact h
  | findNative key => exact h
  | ids => exact h
  | size => exact h
  | stats => exact h

theorem Balanced.answers {p : PlainMap cls} (h : p.Balanced) (uses : List (MapUse cls)) :
    (MapUse.answers PlainMap.use p uses).2.Balanced := by
  induction uses generalizing p with
  | nil => exact h
  | cons u rest ih => exact ih (h.use u)

end PlainMap

namespace IdentityMap

/-- The map without its reverse index. -/
def plain (m : IdentityMap cls) : PlainMap cls := ⟨m.slots, m.adds, m.removes, m.rejectedAdds⟩

theorem plain_empty : (empty : IdentityMap cls).plain = .empty := rfl

/-- The index finds what looking through all entries finds. -/
theorem WellFormed.tracking?_plain {m : IdentityMap cls} (h : m.WellFormed) (key : Nat) :
    m.plain.tracking? key = m.natives.find? key := by
  unfold PlainMap.tracking?
  cases hf : m.plain.slots.pairs.find? fun pair => cls.nativeKey? pair.2.entry == some key with
  | some pair =>
      have hmem := (m.slots.mem_pairs_iff pair.1 pair.2).mp (List.mem_of_find?_eq_some hf)
      have hkey : cls.nativeKey? pair.2.entry = some key := by simpa using List.find?_some hf
      exact ((h.indexed key pair.1).mpr ⟨pair.2, hmem, hkey⟩).symm
  | none =>
      cases hn : m.natives.find? key with
      | none => rfl
      | some id =>
          obtain ⟨slot, hs, hkey⟩ := (h.indexed key id).mp hn
          have hmem := (m.slots.mem_pairs_iff id slot).mpr hs
          have hmiss := List.find?_eq_none.mp hf (id, slot) hmem
          exact absurd (by simpa using hkey) hmiss

theorem WellFormed.admits_plain {m : IdentityMap cls} (h : m.WellFormed) (id : RemoteId)
    (entry : cls.Entry) : m.plain.admits id entry = m.admits id entry := by
  unfold PlainMap.admits admits
  cases hk : cls.nativeKey? entry with
  | none => rfl
  | some key =>
      have hfree : (m.plain.tracking? key).isNone = !m.natives.contains key := by
        rw [h.tracking?_plain, Table.contains_eq]
        cases m.natives.find? key <;> rfl
      rw [Option.all_some, hfree]
      rfl

theorem plain_drop (m : IdentityMap cls) (id : RemoteId) :
    (m.drop id).plain = { m.plain with slots := m.slots.erase id } := by
  unfold drop
  split
  · rename_i hs
    rw [Table.erase_eq_self hs]
    rfl
  · rfl

theorem plain_add {m : IdentityMap cls} (h : m.WellFormed) (id : RemoteId) (entry : cls.Entry) :
    m.plain.add id entry = ((m.add id entry).1, (m.add id entry).2.plain) := by
  unfold PlainMap.add add
  rw [h.admits_plain]
  split
  · rfl
  · rfl

theorem plain_remove (m : IdentityMap cls) (id : RemoteId) :
    m.plain.remove id = ((m.remove id).1, (m.remove id).2.plain) := by
  unfold PlainMap.remove remove
  change (if m.slots.contains id then _ else _) = _
  split
  · exact congrArg (fun p : PlainMap cls => (true, { p with removes := m.removes + 1 }))
      (m.plain_drop id).symm
  · rfl

/-- Dropping the owned identifiers one by one is filtering their slots out. -/
theorem plain_foldl_drop (owned : List (RemoteId × cls.Entry)) (m : IdentityMap cls) :
    (owned.foldl (fun m p => m.drop p.1) m).plain =
      { m.plain with slots := m.slots.filter fun id _ => decide (id ∉ owned.map Prod.fst) } := by
  have hfold : (owned.foldl (fun m p => m.drop p.1) m).plain =
      { m.plain with slots := (owned.map Prod.fst).foldl Table.erase m.slots } := by
    induction owned generalizing m with
    | nil => rfl
    | cons p rest ih =>
        have hslots : (m.drop p.1).slots = m.slots.erase p.1 :=
          congrArg PlainMap.slots (m.plain_drop p.1)
        rw [List.foldl_cons, ih, plain_drop, hslots, List.map_cons, List.foldl_cons]
  rw [hfold, Table.foldl_erase]

/-- An identifier has one slot, so it is among the owned ones if its own slot is. -/
theorem mem_ownedBy_iff_of_mem {m : IdentityMap cls} {pair : RemoteId × Slot cls}
    (h : pair ∈ m.slots.pairs) (owner : RemoteId) :
    pair.1 ∈ (m.ownedBy owner).map Prod.fst ↔ cls.owner? pair.2.entry = some owner := by
  have hslot := (m.slots.mem_pairs_iff pair.1 pair.2).mp h
  rw [List.mem_map]
  constructor
  · rintro ⟨⟨id, entry⟩, hp, rfl⟩
    obtain ⟨⟨slot, hs, rfl⟩, ho⟩ := (mem_ownedBy m owner pair.1 entry).mp hp
    rwa [← Option.some.inj (hs.symm.trans hslot)]
  · intro ho
    exact ⟨(pair.1, pair.2.entry), (mem_ownedBy m owner _ _).mpr ⟨⟨_, hslot, rfl⟩, ho⟩, rfl⟩

theorem plain_removeOwnedBy (m : IdentityMap cls) (owner : RemoteId) :
    m.plain.use (.removeOwnedBy owner) =
      ((m.removeOwnedBy owner).1, (m.removeOwnedBy owner).2.plain) := by
  have hslots : (m.slots.filter fun id _ => decide (id ∉ (m.ownedBy owner).map Prod.fst)) =
      m.slots.filter fun _ slot => cls.owner? slot.entry != some owner := by
    apply Table.ext
    apply List.filter_congr
    intro pair hpair
    have hmem := mem_ownedBy_iff_of_mem hpair owner
    by_cases ho : cls.owner? pair.2.entry = some owner
    · simp [ho, hmem.mpr ho]
    · simp [ho, mt hmem.mp ho]
  have hdropped := plain_foldl_drop (m.ownedBy owner) m
  have hcount : (m.ownedBy owner).length =
      (m.slots.filter fun _ slot => cls.owner? slot.entry == some owner).size := by
    simp [ownedBy, Table.filter, Table.size]
  rw [hslots] at hdropped
  simp only [removeOwnedBy, hcount]
  exact congrArg (fun p : PlainMap cls => (m.ownedBy owner, { p with
    removes := m.removes +
      (m.slots.filter fun _ slot => cls.owner? slot.entry == some owner).size })) hdropped.symm

theorem plain_claim {m : IdentityMap cls} (h : m.WellFormed) (id : RemoteId) :
    m.plain.use (.claim id) = ((m.claim id).1, (m.claim id).2.plain) := by
  have hfind := h.find?_eq id
  simp only [PlainMap.use]
  change (match m.slots.find? id with
    | none => _
    | some ⟨_, true⟩ => _
    | some ⟨entry, false⟩ => _) = _
  cases hs : m.slots.find? id with
  | none =>
      rw [hs] at hfind
      rw [claim_of_absent hfind]
  | some slot =>
      rw [hs] at hfind
      obtain ⟨hv, -⟩ := slots_of_find? hfind
      obtain ⟨entry, claimed⟩ := slot
      cases claimed with
      | true => rw [claim_of_claimed hv hs rfl]
      | false =>
          rw [claim_of_unclaimed hv hs rfl]
          rfl

theorem plain_settle (m : IdentityMap cls) (id : RemoteId) (how : Settlement) :
    m.plain.use (.settle id how) = ((m.settle id how).1, (m.settle id how).2.plain) := by
  simp only [PlainMap.use, settle]
  change (match m.slots.find? id, how with
    | some ⟨_, true⟩, .commit => _
    | some ⟨_, true⟩, .release => _
    | _, _ => _) = _
  cases hs : m.slots.find? id with
  | none => rfl
  | some slot =>
      obtain ⟨entry, claimed⟩ := slot
      cases claimed with
      | false => rfl
      | true =>
          cases how with
          | release => rfl
          | commit =>
              have hc : m.slots.contains id = true := (Table.contains_iff _ _).mpr ⟨_, hs⟩
              simp [plain_remove, remove, hc]

theorem WellFormed.add {m : IdentityMap cls} (h : m.WellFormed) (id : RemoteId)
    (entry : cls.Entry) : (m.add id entry).2.WellFormed := by
  unfold IdentityMap.add
  split
  · rename_i ha
    exact ⟨(h.put ha).sentinel, (h.put ha).indexed⟩
  · exact ⟨h.sentinel, h.indexed⟩

theorem findOrAdd_of_tracked {σ : Type} {m : IdentityMap cls} {entry : cls.Entry} {id : RemoteId}
    (h : m.tracked? entry = some id) (draw : σ → RemoteId × σ) (source : σ) :
    m.findOrAdd entry draw source = (some (.existing id), m, source) := by
  rw [findOrAdd, h]

theorem findOrAdd_of_untracked {σ : Type} {m : IdentityMap cls} {entry : cls.Entry}
    (h : m.tracked? entry = none) (draw : σ → RemoteId × σ) (source : σ) :
    m.findOrAdd entry draw source =
      (if (m.add (draw source).1 entry).1 then some (.inserted (draw source).1) else none,
        (m.add (draw source).1 entry).2, (draw source).2) := by
  rw [findOrAdd, h]

theorem WellFormed.use {m : IdentityMap cls} (h : m.WellFormed) (u : MapUse cls) :
    (m.use u).2.WellFormed := by
  cases u with
  | add id entry => exact h.add id entry
  | findOrAdd entry id =>
      change (m.findOrAdd entry (fun _ => (id, true)) false).2.1.WellFormed
      cases ht : m.tracked? entry with
      | some found =>
          rw [findOrAdd_of_tracked ht]
          exact h
      | none =>
          rw [findOrAdd_of_untracked ht]
          exact h.add id entry
  | remove id => exact h.remove id
  | claim id => exact (within_claim m id).wellFormed h
  | settle id how => exact (within_settle m id how).wellFormed h
  | removeOwnedBy owner => exact h.removeOwnedBy owner
  | find id => exact h
  | contains id => exact h
  | findNative key => exact h
  | ids => exact h
  | size => exact h
  | stats => exact h

/-- Forgetting the index of a well-formed map commutes with every use. -/
theorem plain_use {m : IdentityMap cls} (h : m.WellFormed) (u : MapUse cls) :
    m.plain.use u = ((m.use u).1, (m.use u).2.plain) := by
  cases u with
  | add id entry => exact plain_add h id entry
  | find id => exact Prod.ext (h.find?_eq id).symm rfl
  | contains id =>
      have hvalid : m.slots.contains id = (id.isValid && m.slots.contains id) := by
        by_cases hv : id = .sentinel
        · rw [hv, Table.contains_eq, h.sentinel]
          rfl
        · rw [(RemoteId.isValid_iff id).mpr hv, Bool.true_and]
      exact Prod.ext hvalid rfl
  | findNative key => exact Prod.ext (h.tracking?_plain key) rfl
  | findOrAdd entry id =>
      have htracked : (cls.nativeKey? entry).bind m.plain.tracking? = m.tracked? entry := by
        unfold tracked?
        cases cls.nativeKey? entry with
        | none => rfl
        | some key => exact h.tracking?_plain key
      simp only [PlainMap.use, IdentityMap.use, htracked]
      cases ht : m.tracked? entry with
      | some found => rw [findOrAdd_of_tracked ht]
      | none => rw [findOrAdd_of_untracked ht, plain_add h]
  | remove id => exact plain_remove m id
  | claim id => exact plain_claim h id
  | settle id how => exact plain_settle m id how
  | removeOwnedBy owner => exact plain_removeOwnedBy m owner
  | ids => rfl
  | size => rfl
  | stats => rfl

/-! ## Sequences of uses -/

theorem plain_answers {m : IdentityMap cls} (h : m.WellFormed) (uses : List (MapUse cls)) :
    MapUse.answers PlainMap.use m.plain uses =
      ((MapUse.answers IdentityMap.use m uses).1,
        (MapUse.answers IdentityMap.use m uses).2.plain) := by
  induction uses generalizing m with
  | nil => rfl
  | cons u rest ih => simp only [MapUse.answers, plain_use h, ih (h.use u)]

theorem WellFormed.answers {m : IdentityMap cls} (h : m.WellFormed) (uses : List (MapUse cls)) :
    (MapUse.answers IdentityMap.use m uses).2.WellFormed := by
  induction uses generalizing m with
  | nil => exact h
  | cons u rest ih => exact ih (h.use u)

/-- What an identity map does at a moment, in terms of what its identifiers resolve to. -/
structure Orderly (m : IdentityMap cls) : Prop where
  /-- The sentinel is no key. -/
  sentinel : m.slots.find? .sentinel = none
  /-- No two live entries share a native key. -/
  distinct : ∀ id other entry entry' key, m.find? id = some entry → m.find? other = some entry' →
    cls.nativeKey? entry = some key → cls.nativeKey? entry' = some key → id = other
  /-- What was added is live or was removed. -/
  balanced : m.size + m.removes = m.adds
  /-- An entry is added if its identifier is not the sentinel and new, and its native key too. -/
  add_iff : ∀ id entry, (m.add id entry).1 = true ↔
    id ≠ .sentinel ∧ m.find? id = none ∧ ∀ other live key, m.find? other = some live →
      cls.nativeKey? live = some key → cls.nativeKey? entry ≠ some key
  added : ∀ id entry, (m.add id entry).1 = true →
    (m.add id entry).2.find? = override m.find? id (some entry)
  /-- An addition that is refused is counted and changes nothing else. -/
  refused : ∀ id entry, (m.add id entry).1 = false →
    (m.add id entry).2 = { m with rejectedAdds := m.rejectedAdds + 1 }
  findNative_iff : ∀ key id, m.findNative? key = some id ↔
    ∃ entry, m.find? id = some entry ∧ cls.nativeKey? entry = some key
  /-- For a native key that is tracked nothing is drawn, from whatever source. -/
  existing : ∀ (σ : Type) (draw : σ → RemoteId × σ) (source : σ) entry key id,
    cls.nativeKey? entry = some key → m.findNative? key = some id →
    m.findOrAdd entry draw source = (some (.existing id), m, source)
  drawn_iff : ∀ entry id, (m.use (.findOrAdd entry id)).1.2 = true ↔
    ∀ key, cls.nativeKey? entry = some key → m.findNative? key = none
  /-- What is removed for an owner is what it owns, claimed or not, each of it once. -/
  owned : ∀ owner, ((m.removeOwnedBy owner).1.map Prod.fst).Nodup ∧
    ∀ id entry, (id, entry) ∈ (m.removeOwnedBy owner).1 ↔
      m.find? id = some entry ∧ cls.owner? entry = some owner
  kept : ∀ owner id, (m.removeOwnedBy owner).2.find? id =
    (m.find? id).filter fun entry => cls.owner? entry != some owner

theorem WellFormed.findNative?_iff {m : IdentityMap cls} (h : m.WellFormed) (key : Nat)
    (id : RemoteId) : m.findNative? key = some id ↔
      ∃ entry, m.find? id = some entry ∧ cls.nativeKey? entry = some key := by
  refine (h.indexed key id).trans ?_
  rw [h.find?_eq]
  constructor
  · rintro ⟨slot, hs, hk⟩
    exact ⟨slot.entry, by rw [hs]; rfl, hk⟩
  · rintro ⟨entry, hf, hk⟩
    obtain ⟨slot, hs, rfl⟩ := Option.map_eq_some_iff.mp hf
    exact ⟨slot, hs, hk⟩

theorem WellFormed.add_iff {m : IdentityMap cls} (h : m.WellFormed) (id : RemoteId)
    (entry : cls.Entry) : (m.add id entry).1 = true ↔
      id ≠ .sentinel ∧ m.find? id = none ∧ ∀ other live key, m.find? other = some live →
        cls.nativeKey? live = some key → cls.nativeKey? entry ≠ some key := by
  have hadmits : (m.add id entry).1 = true ↔ m.admits id entry = true := by
    unfold IdentityMap.add
    split
    · simp [*]
    · simp [*]
  rw [hadmits, admits_iff]
  refine and_congr_right fun hv => and_congr ?_ ?_
  · rw [find?_eq_none_iff]
    exact ⟨.inr, fun hn => hn.resolve_left hv⟩
  · constructor
    · intro hfree other live key hf hk hkey
      have hfound := (h.findNative?_iff key other).mpr ⟨live, hf, hk⟩
      rw [findNative?, hfree key hkey] at hfound
      cases hfound
    · intro hfree key hkey
      cases hn : m.natives.find? key with
      | none => rfl
      | some other =>
          obtain ⟨live, hf, hk⟩ := (h.findNative?_iff key other).mp hn
          exact absurd hkey (hfree other live key hf hk)

theorem WellFormed.orderly {m : IdentityMap cls} (h : m.WellFormed) (hb : m.plain.Balanced) :
    m.Orderly where
  sentinel := h.sentinel
  distinct id other entry entry' key hf hf' hk hk' := by
    have hid := (h.findNative?_iff key id).mpr ⟨entry, hf, hk⟩
    have hother := (h.findNative?_iff key other).mpr ⟨entry', hf', hk'⟩
    exact Option.some.inj (hid.symm.trans hother)
  balanced := hb
  add_iff := h.add_iff
  added id entry ha := by
    obtain ⟨hv, -, -⟩ := (h.add_iff id entry).mp ha
    unfold IdentityMap.add at ha ⊢
    split at ha
    · rename_i hadmits
      rw [if_pos hadmits]
      exact find?_put m hv entry
    · cases ha
  refused id entry ha := by
    unfold IdentityMap.add at ha ⊢
    split at ha
    · cases ha
    · rename_i hadmits
      rw [if_neg hadmits]
  findNative_iff := h.findNative?_iff
  existing σ draw source entry key id hk hn := by
    have htracked : m.tracked? entry = some id := by rw [tracked?, hk, Option.bind_some, hn]
    exact findOrAdd_of_tracked htracked draw source
  drawn_iff entry id := by
    change (m.findOrAdd entry (fun _ => (id, true)) false).2.2 = true ↔ _
    cases ht : m.tracked? entry with
    | some found =>
        obtain ⟨key, hk, hn⟩ := Option.bind_eq_some_iff.mp ht
        rw [findOrAdd_of_tracked ht]
        simp [hk, hn]
    | none =>
        rw [findOrAdd_of_untracked ht]
        simpa using Option.bind_eq_none_iff.mp ht
  owned owner := by
    refine ⟨m.nodup_ownedBy owner, fun id entry => ?_⟩
    refine (mem_ownedBy m owner id entry).trans (and_congr_left fun _ => ?_)
    rw [h.find?_eq, Option.map_eq_some_iff]
  kept owner id := m.find?_removeOwnedBy owner id

/-- From the empty map on, an identity map answers every sequence of uses as a
plain map does, and is orderly after it. -/
theorem answers_eq_plain (uses : List (MapUse cls)) :
    (MapUse.answers IdentityMap.use empty uses).1 = (MapUse.answers PlainMap.use .empty uses).1 ∧
      (MapUse.answers IdentityMap.use (empty : IdentityMap cls) uses).2.Orderly := by
  have hempty : (empty : IdentityMap cls).WellFormed := wellFormed_empty
  have hplain := plain_answers hempty uses
  rw [plain_empty] at hplain
  have hbalanced := PlainMap.balanced_empty.answers uses
  rw [hplain] at hbalanced ⊢
  exact ⟨rfl, (hempty.answers uses).orderly hbalanced⟩

end IdentityMap

end DeviceBroker
