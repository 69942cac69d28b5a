import DeviceBroker.Memory

/-!
# Memories as lists of bytes

A range of a memory is read as the list of its bytes, and two memories compare
as these lists do in the lexicographic order: the comparison walks along both
at once and stops at the first byte that differs, or where one of them ends.
-/

namespace DeviceBroker.Memory

theorem toList_slice (m : Memory) (offset count : Nat) :
    (m.slice offset count).toList = (List.range count).map fun i => m.byte (offset + i) := by
  refine List.map_congr_left fun i hi => ?_
  exact if_pos (List.mem_range.mp hi)

theorem byte_ofList {bytes : List UInt8} {i : Nat} (h : i < bytes.length) :
    bytes[i]? = some ((ofList bytes).byte i) := by
  simp [ofList, ofArray, byte_ofFn, h]

theorem drop_toList_of_lt {m : Memory} {i : Nat} (h : i < m.size) :
    m.toList.drop i = m.byte i :: m.toList.drop (i + 1) := by
  rw [List.drop_eq_getElem_cons (by rwa [length_toList])]
  simp [toList]

theorem drop_toList_of_le {m : Memory} {i : Nat} (h : m.size ≤ i) : m.toList.drop i = [] :=
  List.drop_eq_nil_of_le (by rwa [length_toList])

/-- From a position on, two memories compare as the lists of their further bytes. -/
theorem compareFrom_eq (a b : Memory) (fuel i : Nat) (h : max a.size b.size ≤ i + fuel) :
    compareFrom a b fuel i = compareOfLessAndEq (a.toList.drop i) (b.toList.drop i) := by
  induction fuel generalizing i with
  | zero =>
    rw [drop_toList_of_le (m := a) (by omega), drop_toList_of_le (m := b) (by omega)]
    rfl
  | succ fuel ih =>
    rw [compareFrom]
    by_cases ha : i < a.size <;> by_cases hb : i < b.size
    · rw [if_pos ha, if_pos hb, drop_toList_of_lt ha, drop_toList_of_lt hb, ih (i + 1) (by omega)]
      have hbyte : compare (a.byte i) (b.byte i) = compareOfLessAndEq (a.byte i) (b.byte i) := rfl
      rw [hbyte]
      simp only [compareOfLessAndEq, List.cons_lt_cons_iff, List.cons.injEq]
      by_cases hlt : a.byte i < b.byte i
      · simp [hlt]
      · by_cases heq : a.byte i = b.byte i <;> simp [hlt, heq]
    · rw [if_pos ha, if_neg hb, drop_toList_of_lt ha, drop_toList_of_le (m := b) (by omega)]
      simp [compareOfLessAndEq]
    · rw [if_neg ha, if_pos hb, drop_toList_of_lt hb, drop_toList_of_le (m := a) (by omega)]
      simp [compareOfLessAndEq]
    · rw [if_neg ha, if_neg hb, drop_toList_of_le (m := a) (by omega),
        drop_toList_of_le (m := b) (by omega)]
      rfl

theorem compareLex_eq (a b : Memory) :
    a.compareLex b = compareOfLessAndEq a.toList b.toList :=
  compareFrom_eq a b _ 0 (by omega)

end DeviceBroker.Memory
