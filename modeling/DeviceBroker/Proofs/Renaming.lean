import DeviceBroker.Proofs.Table
import Mathlib.Data.List.Nodup
import Mathlib.Logic.Equiv.Basic

/-!
# Tables under a renaming of their keys

`Table.relabel` gives every key of a table another name and changes every
value in one way. The order of the pairs stays, so every operation of a table
commutes with it on the nose, and two renamings that agree on the keys of a
table relabel it alike.
-/

namespace DeviceBroker.Table

variable {κ ν : Type}

/-- The table with its keys renamed and its values changed. -/
def relabel (t : Table κ ν) (names : κ ≃ κ) (change : ν → ν) : Table κ ν where
  pairs := t.pairs.map fun p => (names p.1, change p.2)
  nodup := by
    have hkeys : (t.pairs.map fun p => (names p.1, change p.2)).map Prod.fst =
        (t.pairs.map Prod.fst).map names := by
      rw [List.map_map, List.map_map]
      rfl
    rw [hkeys]
    exact List.Nodup.map names.injective t.nodup

variable (names : κ ≃ κ) (change : ν → ν)

@[simp] theorem keys_relabel (t : Table κ ν) :
    (t.relabel names change).keys = t.keys.map names := by
  rw [keys, keys, relabel, List.map_map, List.map_map]
  rfl

@[simp] theorem size_relabel (t : Table κ ν) : (t.relabel names change).size = t.size :=
  List.length_map _

theorem relabel_refl (t : Table κ ν) : t.relabel (Equiv.refl κ) (fun value => value) = t :=
  Table.ext (List.map_id _)

variable [DecidableEq κ]

@[simp] theorem find?_relabel (t : Table κ ν) (key : κ) :
    (t.relabel names change).find? (names key) = (t.find? key).map change := by
  obtain ⟨pairs, nodup⟩ := t
  simp only [find?, relabel]
  clear nodup
  induction pairs with
  | nil => rfl
  | cons p rest ih =>
    rw [List.map_cons, lookup?_cons, lookup?_cons, ih]
    by_cases hk : key = p.1
    · simp [hk]
    · simp [hk, names.injective.ne hk]

@[simp] theorem contains_relabel (t : Table κ ν) (key : κ) :
    (t.relabel names change).contains (names key) = t.contains key := by
  rw [contains_eq, contains_eq, find?_relabel, Option.isSome_map]

theorem relabel_erase (t : Table κ ν) (key : κ) :
    (t.erase key).relabel names change = (t.relabel names change).erase (names key) := by
  apply Table.ext
  simp only [relabel, erase, filter, List.filter_map]
  refine congrArg _ (List.filter_congr fun p _ => ?_)
  exact congrArg (!·) (Bool.eq_iff_iff.mpr (by simp))

/-- A change of one value is carried over to the relabelled value. -/
theorem relabel_modify (t : Table κ ν) (key : κ) {f g : ν → ν}
    (h : ∀ value, change (f value) = g (change value)) :
    (t.modify key f).relabel names change = (t.relabel names change).modify (names key) g := by
  apply Table.ext
  simp only [relabel, modify, List.map_map]
  refine List.map_congr_left fun p _ => ?_
  by_cases hk : p.1 = key
  · simp [hk, h]
  · simp [hk, names.injective.ne hk]

theorem relabel_insert (t : Table κ ν) (key : κ) (value : ν) :
    (t.insert key value).relabel names change =
      (t.relabel names change).insert (names key) (change value) := by
  by_cases h : t.find? key = none
  · have h' : (t.relabel names change).find? (names key) = none := by rw [find?_relabel, h]; rfl
    apply Table.ext
    simp only [insert, h, h', dite_true]
    rfl
  · have h' : (t.relabel names change).find? (names key) ≠ none := by
      rwa [find?_relabel, ne_eq, Option.map_eq_none_iff]
    rw [insert_of_present h, insert_of_present h']
    exact t.relabel_modify names change key fun _ => rfl

/-- What counts is how the keys of the table are renamed and its values changed. -/
theorem relabel_congr {t : Table κ ν} {names names' : κ ≃ κ} {change change' : ν → ν}
    (h : ∀ key value, t.find? key = some value →
      names key = names' key ∧ change value = change' value) :
    t.relabel names change = t.relabel names' change' := by
  refine Table.ext (List.map_congr_left fun p hp => ?_)
  obtain ⟨hkey, hvalue⟩ := h p.1 p.2 ((mem_pairs_iff t p.1 p.2).mp hp)
  rw [hkey, hvalue]

end DeviceBroker.Table
