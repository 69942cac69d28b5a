import DeviceBroker.Identity.Map
import DeviceBroker.Proofs.Table

/-!
# The identity map as a plain map

What every operation of an identity map does to `find?`, the partial function
from identifiers to entries. The reverse index is exact and the sentinel is no
key: this is `WellFormed`, which every operation keeps. A claim that is
released leaves the very same map, and a claim that is committed removes its
identifier as if it had never been claimed.
-/

namespace DeviceBroker.IdentityMap

variable {cls : ResourceClass}

/-- The reverse index is the inverse of the slots, and the sentinel has none. -/
structure WellFormed (m : IdentityMap cls) : Prop where
  sentinel : m.slots.find? .sentinel = none
  indexed : ∀ key id, m.natives.find? key = some id ↔
    ∃ slot, m.slots.find? id = some slot ∧ cls.nativeKey? slot.entry = some key

theorem wellFormed_empty : (empty : IdentityMap cls).WellFormed :=
  ⟨rfl, fun key id => by simp [empty]⟩

/-- In a well-formed map an identifier resolves exactly if it has a slot. -/
theorem WellFormed.find?_eq {m : IdentityMap cls} (h : m.WellFormed) (id : RemoteId) :
    m.find? id = (m.slots.find? id).map Slot.entry := by
  by_cases hv : id = .sentinel
  · subst hv
    simp [h.sentinel]
  · have hvalid : id.isValid = true := (RemoteId.isValid_iff id).mpr hv
    simp [find?, hvalid]

theorem find?_eq_none_of_slots {m : IdentityMap cls} {id : RemoteId}
    (h : m.slots.find? id = none) : m.find? id = none := by
  simp [find?, h]

theorem find?_of_slots {m : IdentityMap cls} {id : RemoteId} {slot : Slot cls}
    (hv : id ≠ .sentinel) (h : m.slots.find? id = some slot) : m.find? id = some slot.entry := by
  simp [find?, (RemoteId.isValid_iff id).mpr hv, h]

theorem find?_eq_none_iff (m : IdentityMap cls) (id : RemoteId) :
    m.find? id = none ↔ id = .sentinel ∨ m.slots.find? id = none := by
  by_cases hv : id = .sentinel
  · simp [hv]
  · have hvalid : id.isValid = true := (RemoteId.isValid_iff id).mpr hv
    simp [find?, hvalid, hv]

theorem slots_of_find? {m : IdentityMap cls} {id : RemoteId} {entry : cls.Entry}
    (h : m.find? id = some entry) :
    id ≠ .sentinel ∧ ∃ slot, m.slots.find? id = some slot ∧ slot.entry = entry := by
  unfold find? at h
  split at h
  · rename_i hv
    exact ⟨(RemoteId.isValid_iff id).mp hv, Option.map_eq_some_iff.mp h⟩
  · cases h

theorem admits_iff (m : IdentityMap cls) (id : RemoteId) (entry : cls.Entry) :
    m.admits id entry = true ↔ id ≠ .sentinel ∧ m.slots.find? id = none ∧
      ∀ key, cls.nativeKey? entry = some key → m.natives.find? key = none := by
  cases hk : cls.nativeKey? entry with
  | none => simp [admits, hk, RemoteId.isValid_iff, Table.contains_eq]
  | some key => simp [admits, hk, RemoteId.isValid_iff, Table.contains_eq, and_assoc]

/-! ## Putting an entry -/

theorem find?_put (m : IdentityMap cls) {id : RemoteId} (hv : id ≠ .sentinel)
    (entry : cls.Entry) : (m.put id entry).find? = override m.find? id (some entry) := by
  funext other
  have hvalid : id.isValid = true := (RemoteId.isValid_iff id).mpr hv
  by_cases ho : other = id
  · subst ho
    simp [find?, slots_find?_put, hvalid]
  · rw [override_of_ne _ _ ho]
    simp [find?, slots_find?_put, ho]

theorem natives_find?_put (m : IdentityMap cls) (id : RemoteId) (entry : cls.Entry) (key : Nat) :
    (m.put id entry).natives.find? key =
      if cls.nativeKey? entry = some key then some id else m.natives.find? key := by
  cases hk : cls.nativeKey? entry with
  | none => simp [put, hk]
  | some k =>
      simp only [put, hk, Table.find?_insert, Option.some.injEq]
      by_cases h : key = k
      · simp [h]
      · simp [h, Ne.symm h]

theorem WellFormed.put {m : IdentityMap cls} (h : m.WellFormed) {id : RemoteId}
    {entry : cls.Entry} (ha : m.admits id entry = true) : (m.put id entry).WellFormed := by
  obtain ⟨hv, hnew, hkey⟩ := (admits_iff m id entry).mp ha
  refine ⟨?_, ?_⟩
  · rw [slots_find?_put, if_neg (Ne.symm hv)]
    exact h.sentinel
  · intro key other
    rw [natives_find?_put, slots_find?_put]
    by_cases hk : cls.nativeKey? entry = some key
    · rw [if_pos hk, Option.some.injEq]
      constructor
      · rintro rfl
        exact ⟨⟨entry, false⟩, by simp, hk⟩
      · rintro ⟨slot, hs, hsk⟩
        by_cases ho : other = id
        · exact ho.symm
        · rw [if_neg ho] at hs
          have hfound := (h.indexed key other).mpr ⟨slot, hs, hsk⟩
          rw [hkey key hk] at hfound
          cases hfound
    · rw [if_neg hk, h.indexed key other]
      by_cases ho : other = id
      · subst ho
        simp [hnew, hk]
      · simp [ho]

/-! ## Dropping an identifier -/

theorem find?_drop (m : IdentityMap cls) (id : RemoteId) :
    (m.drop id).find? = override m.find? id none := by
  funext other
  by_cases ho : other = id
  · subst ho
    simp [find?, slots_find?_drop]
  · rw [override_of_ne _ _ ho]
    simp [find?, slots_find?_drop, ho]

theorem natives_find?_drop {m : IdentityMap cls} {id : RemoteId} {slot : Slot cls}
    (h : m.slots.find? id = some slot) (key : Nat) :
    (m.drop id).natives.find? key =
      if cls.nativeKey? slot.entry = some key then none else m.natives.find? key := by
  unfold drop
  rw [h]
  cases hk : cls.nativeKey? slot.entry with
  | none => simp [hk]
  | some k =>
      simp only [hk, Table.find?_erase, Option.some.injEq]
      by_cases hkey : key = k
      · simp [hkey]
      · simp [hkey, Ne.symm hkey]

theorem drop_eq_self {m : IdentityMap cls} {id : RemoteId} (h : m.slots.find? id = none) :
    m.drop id = m := by
  unfold drop
  rw [h]

theorem WellFormed.drop {m : IdentityMap cls} (h : m.WellFormed) (id : RemoteId) :
    (m.drop id).WellFormed := by
  cases hs : m.slots.find? id with
  | none => rwa [drop_eq_self hs]
  | some slot =>
      refine ⟨?_, ?_⟩
      · rw [slots_find?_drop, h.sentinel, ite_self]
      · intro key other
        rw [natives_find?_drop hs, slots_find?_drop]
        -- The key of the dropped entry is free again; no other identifier may have had it.
        by_cases hk : cls.nativeKey? slot.entry = some key
        · have hown : m.natives.find? key = some id := (h.indexed key id).mpr ⟨slot, hs, hk⟩
          rw [if_pos hk]
          constructor
          · intro hn
            cases hn
          · rintro ⟨other', hs', hk'⟩
            by_cases ho : other = id
            · simp [ho] at hs'
            · rw [if_neg ho] at hs'
              have hfound := (h.indexed key other).mpr ⟨other', hs', hk'⟩
              rw [hown] at hfound
              exact absurd (Option.some.inj hfound).symm ho
        · rw [if_neg hk, h.indexed key other]
          by_cases ho : other = id
          · subst ho
            simp [hs, hk]
          · simp [ho]

/-! ## Marking and claiming -/

theorem WellFormed.mark {m : IdentityMap cls} (h : m.WellFormed) (id : RemoteId)
    (claimed : Bool) : (m.mark id claimed).WellFormed := by
  refine ⟨?_, ?_⟩
  · rw [slots_find?_mark]
    by_cases hi : RemoteId.sentinel = id
    · simp [← hi, h.sentinel]
    · rw [if_neg hi, h.sentinel]
  · intro key other
    rw [slots_find?_mark]
    change m.natives.find? key = some other ↔ _
    rw [h.indexed key other]
    by_cases ho : other = id
    · subst ho
      cases m.slots.find? other <;> simp
    · simp [ho]

theorem claim_of_absent {m : IdentityMap cls} {id : RemoteId} (h : m.find? id = none) :
    m.claim id = (.error .absent, m) := by
  unfold claim
  by_cases hv : id.isValid = true
  · have hs : m.slots.find? id = none := by simpa [find?, hv] using h
    simp [hv, hs]
  · simp [hv]

theorem claim_of_claimed {m : IdentityMap cls} {id : RemoteId} {slot : Slot cls}
    (hv : id ≠ .sentinel) (h : m.slots.find? id = some slot) (hc : slot.claimed = true) :
    m.claim id = (.error .busy, m) := by
  simp [claim, (RemoteId.isValid_iff id).mpr hv, h, hc]

theorem claim_of_unclaimed {m : IdentityMap cls} {id : RemoteId} {slot : Slot cls}
    (hv : id ≠ .sentinel) (h : m.slots.find? id = some slot) (hc : slot.claimed = false) :
    m.claim id = (.ok slot.entry, m.mark id true) := by
  simp [claim, (RemoteId.isValid_iff id).mpr hv, h, hc]

/-- A claim is refused without a trace, or it marks an unclaimed slot. -/
theorem claim_cases (m : IdentityMap cls) (id : RemoteId) :
    (m.find? id = none ∧ m.claim id = (.error .absent, m)) ∨
    (∃ entry, m.find? id = some entry ∧ m.claim id = (.error .busy, m)) ∨
    ∃ entry, m.find? id = some entry ∧ m.slots.find? id = some ⟨entry, false⟩ ∧
      m.claim id = (.ok entry, m.mark id true) := by
  cases h : m.find? id with
  | none => exact .inl ⟨rfl, claim_of_absent h⟩
  | some entry =>
      obtain ⟨hv, slot, hs, rfl⟩ := slots_of_find? h
      cases hc : slot.claimed with
      | true => exact .inr (.inl ⟨slot.entry, rfl, claim_of_claimed hv hs hc⟩)
      | false =>
          refine .inr (.inr ⟨slot.entry, rfl, ?_, claim_of_unclaimed hv hs hc⟩)
          rw [hs, ← hc]

theorem settle_release_mark {m : IdentityMap cls} {id : RemoteId} {entry : cls.Entry}
    (h : m.slots.find? id = some ⟨entry, false⟩) :
    (m.mark id true).settle id .release = (true, m) := by
  have hs : (m.mark id true).slots.find? id = some ⟨entry, true⟩ := by
    simp [slots_find?_mark, h]
  -- The very map comes back, not only one that resolves the same.
  have hm : (m.mark id true).mark id false = m := by
    unfold mark
    simp only [Table.modify_modify]
    rw [Table.modify_eq_self h rfl]
  simp [settle, hs, hm]

theorem settle_commit_mark {m : IdentityMap cls} {id : RemoteId} {entry : cls.Entry}
    (h : m.slots.find? id = some ⟨entry, false⟩) :
    (m.mark id true).settle id .commit = (true, (m.remove id).2) := by
  have hs : (m.mark id true).slots.find? id = some ⟨entry, true⟩ := by
    simp [slots_find?_mark, h]
  have hc : m.slots.contains id = true := (Table.contains_iff _ _).mpr ⟨_, h⟩
  have hd : (m.mark id true).drop id = m.drop id := by
    unfold drop
    rw [hs, h]
    simp [mark, Table.erase_modify]
  have hr : (m.mark id true).removes = m.removes := rfl
  simp [settle, hs, remove, hc, hd, hr]

/-! ## Removing -/

theorem find?_remove (m : IdentityMap cls) (id : RemoteId) :
    (m.remove id).2.find? = override m.find? id none := by
  unfold remove
  by_cases hc : m.slots.contains id = true
  · rw [if_pos hc]
    exact find?_drop m id
  · have hn : m.slots.find? id = none := by simpa [Table.contains_eq] using hc
    have h : m.find? id = none := find?_eq_none_of_slots hn
    rw [if_neg hc, ← h, override_eq_self]

theorem WellFormed.remove {m : IdentityMap cls} (h : m.WellFormed) (id : RemoteId) :
    (m.remove id).2.WellFormed := by
  unfold IdentityMap.remove
  split
  · exact ⟨(h.drop id).sentinel, (h.drop id).indexed⟩
  · exact h

theorem mem_ownedBy (m : IdentityMap cls) (owner id : RemoteId) (entry : cls.Entry) :
    (id, entry) ∈ m.ownedBy owner ↔
      (∃ slot, m.slots.find? id = some slot ∧ slot.entry = entry) ∧
        cls.owner? entry = some owner := by
  unfold ownedBy
  rw [List.mem_map]
  constructor
  · rintro ⟨⟨i, slot⟩, hp, heq⟩
    obtain ⟨rfl, rfl⟩ := Prod.mk.inj heq
    obtain ⟨hm, ho⟩ := List.mem_filter.mp hp
    exact ⟨⟨slot, (m.slots.mem_pairs_iff _ _).mp hm, rfl⟩, by simpa using ho⟩
  · rintro ⟨⟨slot, hs, rfl⟩, ho⟩
    refine ⟨(id, slot), List.mem_filter.mpr ⟨(m.slots.mem_pairs_iff _ _).mpr hs, ?_⟩, rfl⟩
    simpa using ho

theorem mem_ids_ownedBy (m : IdentityMap cls) (owner id : RemoteId) :
    id ∈ (m.ownedBy owner).map Prod.fst ↔
      ∃ slot, m.slots.find? id = some slot ∧ cls.owner? slot.entry = some owner := by
  rw [List.mem_map]
  constructor
  · rintro ⟨⟨i, entry⟩, hp, rfl⟩
    obtain ⟨⟨slot, hs, rfl⟩, ho⟩ := (mem_ownedBy m owner i entry).mp hp
    exact ⟨slot, hs, ho⟩
  · rintro ⟨slot, hs, ho⟩
    exact ⟨(id, slot.entry), (mem_ownedBy m owner id _).mpr ⟨⟨slot, hs, rfl⟩, ho⟩, rfl⟩

/-- An owner's entries are listed under distinct identifiers. -/
theorem nodup_ownedBy (m : IdentityMap cls) (owner : RemoteId) :
    ((m.ownedBy owner).map Prod.fst).Nodup := by
  have hsub : ((m.ownedBy owner).map Prod.fst).Sublist m.slots.keys := by
    rw [ownedBy, List.map_map]
    exact List.filter_sublist.map _
  exact m.slots.nodup.sublist hsub

theorem slots_find?_foldl_drop (owned : List (RemoteId × cls.Entry)) (m : IdentityMap cls)
    (other : RemoteId) :
    (owned.foldl (fun m p => m.drop p.1) m).slots.find? other =
      if other ∈ owned.map Prod.fst then none else m.slots.find? other := by
  induction owned generalizing m with
  | nil => simp
  | cons p rest ih =>
      rw [List.foldl_cons, ih, slots_find?_drop, List.map_cons]
      by_cases hr : other ∈ rest.map Prod.fst
      · simp [hr]
      · by_cases hp : other = p.1 <;> simp [hr, hp]

theorem WellFormed.foldl_drop {m : IdentityMap cls} (h : m.WellFormed)
    (owned : List (RemoteId × cls.Entry)) :
    (owned.foldl (fun m p => m.drop p.1) m).WellFormed := by
  induction owned generalizing m with
  | nil => exact h
  | cons p rest ih => exact ih (h.drop p.1)

theorem WellFormed.removeOwnedBy {m : IdentityMap cls} (h : m.WellFormed) (owner : RemoteId) :
    (m.removeOwnedBy owner).2.WellFormed :=
  let kept := h.foldl_drop (m.ownedBy owner)
  ⟨kept.sentinel, kept.indexed⟩

/-- Exactly the entries of the owner leave. -/
theorem slots_find?_removeOwnedBy (m : IdentityMap cls) (owner id : RemoteId) :
    (m.removeOwnedBy owner).2.slots.find? id =
      (m.slots.find? id).filter fun slot => cls.owner? slot.entry != some owner := by
  -- The owned entries are listed once, before any of them is dropped.
  change ((m.ownedBy owner).foldl (fun m p => m.drop p.1) m).slots.find? id = _
  rw [slots_find?_foldl_drop]
  have hmem := m.mem_ids_ownedBy owner id
  cases hs : m.slots.find? id with
  | none => simp
  | some slot =>
      by_cases ho : cls.owner? slot.entry = some owner
      · rw [if_pos (hmem.mpr ⟨slot, hs, ho⟩)]
        simp [Option.filter_some, ho]
      · rw [if_neg fun hm => ?_]
        · simp [Option.filter_some, ho]
        · obtain ⟨slot', hs', ho'⟩ := hmem.mp hm
          rw [hs] at hs'
          exact ho (Option.some.inj hs' ▸ ho')

theorem find?_removeOwnedBy (m : IdentityMap cls) (owner id : RemoteId) :
    (m.removeOwnedBy owner).2.find? id =
      (m.find? id).filter fun entry => cls.owner? entry != some owner := by
  unfold find?
  split
  · rw [slots_find?_removeOwnedBy]
    cases m.slots.find? id with
    | none => rfl
    | some slot =>
        by_cases ho : cls.owner? slot.entry = some owner <;> simp [Option.filter_some, ho]
  · rfl

end DeviceBroker.IdentityMap
