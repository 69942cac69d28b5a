import DeviceBroker.Override
import DeviceBroker.Table
import Mathlib.Data.List.Perm.Subperm

/-!
# Membership in finite tables

Whether a table has a key is a truth-valued function on keys, and inserting or
erasing overrides that function at one key. Changing a value twice is one
change, and a change is forgotten when its key is erased. A new key makes a table
larger by one, and erasing several keys is filtering them out.
-/

namespace DeviceBroker.Table

variable {κ ν : Type} [DecidableEq κ]

theorem contains_iff (t : Table κ ν) (key : κ) :
    t.contains key = true ↔ ∃ value, t.find? key = some value := by
  rw [contains_eq, Option.isSome_iff_exists]

theorem find?_eq_none_iff (t : Table κ ν) (key : κ) :
    t.find? key = none ↔ t.contains key = false := by
  simp [contains_eq]

theorem contains_insert (t : Table κ ν) (key : κ) (value : ν) :
    (t.insert key value).contains = override t.contains key true := by
  funext other
  by_cases h : other = key <;> simp [contains_eq, find?_insert, override, h]

theorem contains_erase (t : Table κ ν) (key : κ) :
    (t.erase key).contains = override t.contains key false := by
  funext other
  by_cases h : other = key <;> simp [contains_eq, find?_erase, override, h]

theorem contains_modify (t : Table κ ν) (key : κ) (change : ν → ν) :
    (t.modify key change).contains = t.contains := by
  funext other
  by_cases h : other = key <;> simp [contains_eq, find?_modify, h]

theorem modify_modify (t : Table κ ν) (key : κ) (first second : ν → ν) :
    (t.modify key first).modify key second = t.modify key (second ∘ first) := by
  apply Table.ext
  change (t.pairs.map _).map _ = t.pairs.map _
  rw [List.map_map]
  apply List.map_congr_left
  intro p _
  by_cases hp : p.1 = key <;> simp [hp]

/-- A change that leaves the value at the key alone leaves the table alone. -/
theorem modify_eq_self {t : Table κ ν} {key : κ} {value : ν} {change : ν → ν}
    (h : t.find? key = some value) (hc : change value = value) : t.modify key change = t := by
  apply Table.ext
  change t.pairs.map _ = t.pairs
  conv => rhs; rw [← List.map_id t.pairs]
  apply List.map_congr_left
  intro p hp
  by_cases hk : p.1 = key
  · have hv := (mem_pairs_iff t p.1 p.2).mp hp
    rw [hk, h] at hv
    have hpv : change p.2 = p.2 := by rw [← Option.some.inj hv, hc]
    simp [hk, hpv]
    exact Prod.ext hk.symm rfl
  · simp [hk]

theorem erase_modify (t : Table κ ν) (key : κ) (change : ν → ν) :
    (t.modify key change).erase key = t.erase key := by
  apply Table.ext
  change (t.pairs.map _).filter _ = t.pairs.filter _
  induction t.pairs with
  | nil => rfl
  | cons p rest ih =>
      by_cases hp : p.1 = key
      · simpa [hp] using ih
      · simpa [hp] using ih

theorem modify_of_absent {t : Table κ ν} {key : κ} (h : t.find? key = none) (change : ν → ν) :
    t.modify key change = t := by
  apply Table.ext
  change t.pairs.map _ = t.pairs
  conv => rhs; rw [← List.map_id t.pairs]
  apply List.map_congr_left
  intro p hp
  have hne : p.1 ≠ key := by
    rintro rfl
    exact not_mem_keys_of_find?_eq_none h (List.mem_map_of_mem hp)
  rw [if_neg hne, id]

theorem insert_of_present {t : Table κ ν} {key : κ} (h : t.find? key ≠ none) (value : ν) :
    t.insert key value = t.modify key fun _ => value := by
  rw [insert, dif_neg h]

/-- Of two values that are written at a key the second stays. -/
theorem insert_insert (t : Table κ ν) (key : κ) (first second : ν) :
    (t.insert key first).insert key second = t.insert key second := by
  rw [insert_of_present (by simp)]
  by_cases h : t.find? key = none
  · apply Table.ext
    have hrest := congrArg pairs (modify_of_absent h fun _ => second)
    simpa [insert, h, modify] using hrest
  · rw [insert_of_present h, insert_of_present h, modify_modify]
    rfl

theorem erase_insert_self (t : Table κ ν) (key : κ) (value : ν) :
    (t.insert key value).erase key = t.erase key := by
  by_cases h : t.find? key = none
  · rw [erase_insert h, erase_eq_self h]
  · rw [insert_of_present h, erase_modify]

/-- The pairs under a key that is in the table are a single one. -/
theorem filter_pairs_eq {t : Table κ ν} {key : κ} {value : ν} (h : t.find? key = some value) :
    t.pairs.filter (fun p => p.1 = key) = [(key, value)] := by
  obtain ⟨pairs, nodup⟩ := t
  simp only [find?] at h
  simp only
  induction pairs with
  | nil => simp at h
  | cons p rest ih =>
      obtain ⟨k, v⟩ := p
      rw [List.map_cons, List.nodup_cons] at nodup
      by_cases hk : key = k
      · subst hk
        have hv : v = value := by simpa [lookup?_cons] using h
        have hrest : rest.filter (fun p => p.1 = key) = [] := by
          rw [List.filter_eq_nil_iff]
          intro p hp
          have hne : p.1 ≠ key := fun hpk => nodup.1 (List.mem_map.mpr ⟨p, hp, hpk⟩)
          simpa using hne
        simp [hrest, hv]
      · have hk' : ¬ k = key := fun hkk => hk hkk.symm
        rw [lookup?_cons, if_neg hk] at h
        simpa [hk'] using ih nodup.2 h

theorem mem_keys_iff (t : Table κ ν) (key : κ) : key ∈ t.keys ↔ t.contains key = true := by
  rw [contains_iff]
  constructor
  · intro h
    obtain ⟨p, hp, rfl⟩ := List.mem_map.mp h
    exact ⟨p.2, (mem_pairs_iff t p.1 p.2).mp hp⟩
  · rintro ⟨value, hv⟩
    exact List.mem_map.mpr ⟨(key, value), (mem_pairs_iff t key value).mpr hv, rfl⟩

theorem keys_insert {t : Table κ ν} {key : κ} (h : t.find? key = none) (value : ν) :
    (t.insert key value).keys = key :: t.keys := by
  simp [insert, h, keys]

theorem keys_erase (t : Table κ ν) (key : κ) :
    (t.erase key).keys = t.keys.filter (· != key) := by
  simp only [erase, filter, keys, List.filter_map]
  rfl

theorem keys_modify (t : Table κ ν) (key : κ) (change : ν → ν) :
    (t.modify key change).keys = t.keys := by
  simp only [modify, keys, List.map_map]
  refine List.map_congr_left fun p _ => ?_
  by_cases hp : p.1 = key <;> simp [hp]

theorem size_insert {t : Table κ ν} {key : κ} (h : t.find? key = none) (value : ν) :
    (t.insert key value).size = t.size + 1 := by
  simp [insert, h, size]

theorem size_modify (t : Table κ ν) (key : κ) (change : ν → ν) :
    (t.modify key change).size = t.size := by
  simp [modify, size]

theorem size_erase {t : Table κ ν} {key : κ} (h : t.contains key = true) :
    (t.erase key).size + 1 = t.size := by
  obtain ⟨value, hv⟩ := (contains_iff t key).mp h
  have hone : (t.pairs.filter fun p => p.1 = key).length = 1 := by
    rw [filter_pairs_eq hv, List.length_singleton]
  have hsplit := List.length_eq_length_filter_add (l := t.pairs) fun p => decide (p.1 = key)
  have hrest : (t.erase key).size = (t.pairs.filter fun p => !decide (p.1 = key)).length := by
    simp [erase, filter, size, bne, beq_eq_decide]
  rw [hrest, size]
  omega

theorem foldl_erase (t : Table κ ν) (keys : List κ) :
    keys.foldl erase t = t.filter fun key _ => decide (key ∉ keys) := by
  induction keys generalizing t with
  | nil =>
      apply Table.ext
      simp [filter]
  | cons key rest ih =>
      rw [List.foldl_cons, ih]
      apply Table.ext
      simp only [erase, filter, List.filter_filter]
      apply List.filter_congr
      intro p _
      by_cases hp : p.1 = key <;> simp [hp]

end DeviceBroker.Table
