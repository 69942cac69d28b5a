import DeviceBroker.Proofs.Table
import DeviceBroker.Simulator.Handle

/-!
# The search for a free slot

A new handle takes the first free slot that a search from one slot to the next
comes upon. The search has no bound of its own: it ends because every turn leaves
one open handle behind it. What it ends at is the least free slot from its
starting point on, and this is the slot that a new handle is given.
-/

namespace DeviceBroker.Simulator

variable {cards : Nat} {s : Simulator cards} {slot first found : Nat}

/-- The search from one slot to the next, until one is free. -/
inductive Seeks (s : Simulator cards) : Nat → Nat → Prop
  | here {slot : Nat} (free : s.handles.contains (handleAt slot) = false) : s.Seeks slot slot
  | next {slot found : Nat} (taken : s.handles.contains (handleAt slot) = true)
      (onward : s.Seeks (slot + 1) found) : s.Seeks slot found

/-- The open handles that a search has ahead of it. -/
def ahead (s : Simulator cards) (slot : Nat) : List NativeHandle :=
  s.handles.keys.filter fun handle => decide (firstHandle + slot ≤ handle.raw)

/-- A turn of the search leaves a handle behind it. -/
theorem length_ahead_succ_lt (taken : s.handles.contains (handleAt slot) = true) :
    (s.ahead (slot + 1)).length < (s.ahead slot).length := by
  have hahead : s.ahead (slot + 1) =
      (s.ahead slot).filter fun handle => decide (firstHandle + (slot + 1) ≤ handle.raw) := by
    rw [ahead, ahead, List.filter_filter]
    refine List.filter_congr fun handle _ => ?_
    rw [Bool.eq_iff_iff]
    simp only [Bool.and_eq_true, decide_eq_true_eq]
    omega
  rw [hahead, List.length_filter_lt_length_iff_exists]
  refine ⟨handleAt slot, List.mem_filter.mpr ⟨(s.handles.mem_keys_iff _).mpr taken, ?_⟩, ?_⟩
  · simp [handleAt]
  · simp [handleAt]

/-- From every slot on the search ends, after no more turns than it has handles ahead. -/
theorem exists_seeks (s : Simulator cards) (first : Nat) :
    ∃ found, s.Seeks first found ∧ found ≤ first + (s.ahead first).length := by
  cases hfirst : s.handles.contains (handleAt first) with
  | false => exact ⟨first, .here hfirst, Nat.le_add_right _ _⟩
  | true =>
    have hfewer := length_ahead_succ_lt hfirst
    obtain ⟨found, honward, hle⟩ := s.exists_seeks (first + 1)
    exact ⟨found, .next hfirst honward, by omega⟩
termination_by (s.ahead first).length

theorem length_ahead_le (s : Simulator cards) (slot : Nat) :
    (s.ahead slot).length ≤ s.handles.size := by
  have hle := List.length_filter_le (fun handle => decide (firstHandle + slot ≤ handle.raw))
    s.handles.keys
  rwa [Table.keys, List.length_map] at hle

/-- The search ends at a free slot, and it has passed none. -/
theorem Seeks.least (h : s.Seeks first found) :
    first ≤ found ∧ s.handles.contains (handleAt found) = false ∧
      ∀ slot, first ≤ slot → slot < found → s.handles.contains (handleAt slot) = true := by
  induction h with
  | here free => exact ⟨Nat.le_refl _, free, fun slot hle hlt => absurd hlt (Nat.not_lt.mpr hle)⟩
  | next taken _ ih =>
    obtain ⟨hle, hfree, hpassed⟩ := ih
    refine ⟨Nat.le_of_succ_le hle, hfree, fun slot hslot hlt => ?_⟩
    rcases Nat.eq_or_lt_of_le hslot with rfl | hslot
    · exact taken
    · exact hpassed slot hslot hlt

/-- Where the search for the slot of a new handle begins. -/
def firstSlot (s : Simulator cards) : Nat := if s.recycling then 0 else s.nextHandle

/-- The slot of a new handle is the one at which the search ends. -/
theorem seeks_freeSlot (s : Simulator cards) : s.Seeks s.firstSlot s.freeSlot := by
  obtain ⟨found, hseeks, hle⟩ := s.exists_seeks s.firstSlot
  obtain ⟨hfirst, hfree, hpassed⟩ := hseeks.least
  have hbound := s.length_ahead_le s.firstSlot
  have hfind : (List.range' s.firstSlot (s.handles.size + 1)).find?
      (fun slot => !s.handles.contains (handleAt slot)) = some found := by
    rw [List.find?_range'_eq_some, List.mem_range'_1]
    exact ⟨by rw [hfree]; rfl, ⟨hfirst, by omega⟩,
      fun slot hslot hlt => by rw [hpassed slot hslot hlt]; rfl⟩
  have hslot : s.freeSlot = found := by
    change ((List.range' s.firstSlot _).find? _).getD _ = _
    rw [hfind, Option.getD_some]
  rwa [hslot]

theorem Seeks.eq_freeSlot (h : s.Seeks s.firstSlot found) : found = s.freeSlot := by
  obtain ⟨hfound, hfree, hpassed⟩ := h.least
  obtain ⟨hslot, hfree', hpassed'⟩ := s.seeks_freeSlot.least
  rcases Nat.lt_trichotomy found s.freeSlot with hlt | heq | hgt
  · rw [hpassed' found hfound hlt] at hfree
    cases hfree
  · exact heq
  · rw [hpassed s.freeSlot hslot hgt] at hfree'
    cases hfree'

theorem not_contains_freeSlot (s : Simulator cards) :
    s.handles.contains (handleAt s.freeSlot) = false :=
  s.seeks_freeSlot.least.2.1

theorem le_freeSlot (h : s.recycling = false) : s.nextHandle ≤ s.freeSlot := by
  have hfirst := s.seeks_freeSlot.least.1
  rwa [firstSlot, h, if_neg Bool.false_ne_true] at hfirst

end DeviceBroker.Simulator
