import DeviceBroker.Proofs.Simulator.Occupancy
import DeviceBroker.Proofs.Simulator.Openings

/-!
# Values of new handles

Where the search for the slot of a new handle begins depends on whether the
values of closed handles are given out again. If so, it begins at the first slot
and finds the least free one. If that was never switched on, it begins beyond all
handles that there ever were, so it ends at once and gives out no value twice.
`Allotted` is the invariant behind this. It ties the counter to a record of the
handles that were handed out, which is kept from the outside by the answers of
the driver.
-/

namespace DeviceBroker.Simulator

variable {cards : Nat} {s t : Simulator cards} {token : NativeToken} {flags : UInt32}
  {handle : NativeHandle}

/-! ## Opens -/

/-- An open meets no armed failure, its token is live, and the resource lets a handle in. -/
def Admits (s : Simulator cards) (token : NativeToken) (flags : UInt32) : Prop :=
  s.armed .openHandle = none ∧ ∃ site, s.tokens.find? token = some site ∧
    (s.resources site).exclusive = false ∧
      (Flags.has flags Flags.openShared = true ∨ (s.resources site).openCount = 0)

theorem admits_iff {site : Site cards} (ha : s.armed .openHandle = none)
    (live : s.tokens.find? token = some site) :
    s.Admits token flags ↔ ((s.tenure.seat site).2 ||
      (!Flags.has flags Flags.openShared && decide ((s.tenure.seat site).1 > 0))) = false := by
  change _ ↔ ((s.resources site).exclusive ||
    (!Flags.has flags Flags.openShared && decide ((s.resources site).openCount > 0))) = false
  simp only [Admits, ha, live, true_and, Option.some.injEq, exists_eq_left',
    Bool.or_eq_false_iff, Bool.and_eq_false_iff, Bool.not_eq_false', decide_eq_false_iff_not,
    gt_iff_lt, Nat.not_lt, Nat.le_zero]

/-- An open succeeds exactly if it is admitted, with the handle of the free slot. -/
theorem answer_openHandle_eq_ok_iff :
    (s.call (.openHandle token flags)).1 = .ok handle ↔
      s.Admits token flags ∧ handle = handleAt s.freeSlot := by
  cases ha : s.armed (DeviceCall.openHandle token flags).kind with
  | some fault =>
    rw [call_of_armed ha]
    refine ⟨fun h => (by cases h), fun ⟨⟨hunarmed, _⟩, _⟩ => ?_⟩
    cases ha.symm.trans hunarmed
  | none =>
    rw [call_of_unarmed ha]
    change (s.commit (s.openHandle token flags)).1 = .ok handle ↔ _
    cases hsite : s.tokens.find? token with
    | none => simp [openHandle, siteOf, hsite, Admits]
    | some site =>
      rw [openHandle_of_live hsite, admits_iff ha hsite]
      cases (s.tenure.seat site).2 ||
        (!Flags.has flags Flags.openShared && decide ((s.tenure.seat site).1 > 0)) with
      | true => simp
      | false => simp [eq_comm]

/-! ## The record of handles -/

/-- The handle that an answer to a call hands out. -/
def granted? : (call : DeviceCall) → Except Fault call.Value → Option NativeHandle
  | .openHandle _ _, .ok handle => some handle
  | _, _ => none

/-- The handle that a move hands out, by the answer of the driver. -/
def granted (s : Simulator cards) : Move → Option NativeHandle
  | .call call => granted? call (s.call call).1
  | .disturb _ => none

/-- Every handle that a run hands out, in the order in which they are handed out. -/
def grants (s : Simulator cards) : List Move → List NativeHandle
  | [] => []
  | m :: rest => (s.granted m).toList ++ (s.move m).grants rest

/-- The counter lies beyond all handles on record, and the open ones are on record. -/
structure Allotted (s : Simulator cards) (record : List NativeHandle) : Prop where
  held : ∀ handle, s.handles.contains handle = true → handle ∈ record
  below : ∀ handle ∈ record, handle.raw < firstHandle + s.nextHandle
  few : s.nextHandle ≤ record.length
  ascending : s.recycling = false → record.Pairwise fun earlier later => earlier.raw < later.raw

variable {record : List NativeHandle}

/-- The search never goes further than to the counter. -/
theorem Allotted.freeSlot_le (h : s.Allotted record) : s.freeSlot ≤ s.nextHandle := by
  obtain ⟨-, -, hpassed⟩ := s.seeks_freeSlot.least
  by_contra hbeyond
  have hfirst : s.firstSlot ≤ s.nextHandle := by
    unfold firstSlot
    split
    · exact Nat.zero_le _
    · exact Nat.le_refl _
  have htaken := hpassed s.nextHandle hfirst (Nat.lt_of_not_le hbeyond)
  exact Nat.lt_irrefl _ (h.below _ (h.held _ htaken))

/-- A new handle lies beyond all handles on record if no value is given out again. -/
theorem Allotted.lt_handleAt_freeSlot (h : s.Allotted record) (hrecycling : s.recycling = false)
    {earlier : NativeHandle} (hearlier : earlier ∈ record) :
    earlier.raw < (handleAt s.freeSlot).raw :=
  Nat.lt_of_lt_of_le (h.below earlier hearlier)
    (Nat.add_le_add_left (le_freeSlot hrecycling) firstHandle)

theorem Allotted.keeps (h : s.Allotted record) (hnext : t.nextHandle = s.nextHandle)
    (hheld : ∀ handle, t.handles.contains handle = true → s.handles.contains handle = true)
    (hrecycling : t.recycling = false → s.recycling = false) : t.Allotted record where
  held handle hhandle := h.held handle (hheld handle hhandle)
  below := hnext ▸ h.below
  few := hnext ▸ h.few
  ascending ht := h.ascending (hrecycling ht)

/-- What an open that hands out a handle does to the handles. -/
theorem after_openHandle (hopen : (s.call (.openHandle token flags)).1 = .ok handle) :
    (s.call (.openHandle token flags)).2.handles.contains =
        override s.handles.contains handle true ∧
      (s.call (.openHandle token flags)).2.nextHandle = max s.nextHandle (s.freeSlot + 1) ∧
        (s.call (.openHandle token flags)).2.recycling = s.recycling := by
  obtain ⟨-, rfl⟩ := answer_openHandle_eq_ok_iff.mp hopen
  have hserves := s.serves_call (.openHandle token flags)
  have htends := s.openings_call (.openHandle token flags)
  generalize s.call (.openHandle token flags) = outcome at hopen hserves htends ⊢
  obtain ⟨result, t⟩ := outcome
  dsimp only at hopen
  subst hopen
  refine ⟨congrArg Holdings.handle hserves.2, ?_, congrArg Openings.recycling htends.2⟩
  have hcounter := congrArg Openings.nextHandle htends.2
  change t.nextHandle = max s.nextHandle (firstHandle + s.freeSlot - firstHandle + 1) at hcounter
  rwa [Nat.add_sub_cancel_left] at hcounter

theorem Allotted.grants (h : s.Allotted record)
    (hopen : (s.call (.openHandle token flags)).1 = .ok handle) :
    (s.call (.openHandle token flags)).2.Allotted (record ++ [handle]) := by
  obtain ⟨hheld, hnext, hrecycling⟩ := after_openHandle hopen
  obtain ⟨-, rfl⟩ := answer_openHandle_eq_ok_iff.mp hopen
  have hslot := h.freeSlot_le
  refine ⟨fun other hother => ?_, fun other hother => ?_, ?_, fun hfresh => ?_⟩
  · rw [List.mem_append, List.mem_singleton]
    by_cases ho : other = handleAt s.freeSlot
    · exact .inr ho
    · rw [hheld, override_of_ne _ _ ho] at hother
      exact .inl (h.held other hother)
  · rw [hnext]
    rcases List.mem_append.mp hother with hother | hother
    · have hbelow := h.below other hother
      omega
    · rw [List.mem_singleton.mp hother]
      change firstHandle + s.freeSlot < _
      omega
  · have hfew := h.few
    rw [hnext, List.length_append, List.length_singleton]
    omega
  · rw [hrecycling] at hfresh
    refine List.pairwise_append.mpr ⟨h.ascending hfresh, List.pairwise_singleton _ _, ?_⟩
    intro earlier hearlier later hlater
    rw [List.mem_singleton.mp hlater]
    exact h.lt_handleAt_freeSlot hfresh hearlier

/-- What is open after a call that hands out no handle was open before. -/
theorem held_of_after {call : DeviceCall} {value : call.Value}
    (quiet : granted? call (.ok value) = none)
    (hheld : (s.holdings.after call value).handle handle = true) :
    s.holdings.handle handle = true := by
  cases call with
  | openHandle => cases quiet
  | closeHandle closed =>
    by_cases hc : handle = closed
    · rw [hc] at hheld
      exact absurd ((override_self _ _ _).symm.trans hheld) Bool.false_ne_true
    · exact (override_of_ne _ _ hc).symm.trans hheld
  | enumerate => rwa [Holdings.after, Holdings.handle_foldl_track] at hheld
  | getProperties | updateProperties | getHandleProperties =>
    rw [Holdings.after] at hheld
    cases hp : value.parent with
    | none => rwa [hp] at hheld
    | some token => rwa [hp] at hheld
  | _ => exact hheld

theorem Allotted.quiet (h : s.Allotted record) {call : DeviceCall}
    (quiet : granted? call (s.call call).1 = none) : (s.call call).2.Allotted record := by
  have hserves := s.serves_call call
  have htends := s.openings_call call
  generalize s.call call = outcome at quiet hserves htends ⊢
  obtain ⟨result, t⟩ := outcome
  have hrecycling := htends.nextHandle_le.1
  refine h.keeps ?_ (fun handle hhandle => ?_) fun ht => hrecycling.symm.trans ht
  · cases result with
    | error fault => exact congrArg Openings.nextHandle htends
    | ok value =>
      refine (congrArg Openings.nextHandle htends.2).trans ?_
      cases call with
      | openHandle => cases quiet
      | _ => rfl
  · cases result with
    | error fault => exact (congrFun (congrArg Holdings.handle hserves) handle).symm.trans hhandle
    | ok value =>
      refine held_of_after quiet ?_
      exact (congrFun (congrArg Holdings.handle hserves.2) handle).symm.trans hhandle

theorem recycling_move (s : Simulator cards) (m : Move) :
    (s.move m).recycling = true ↔ m = .disturb .recycle ∨ s.recycling = true := by
  cases m with
  | call call =>
    have hsame : (s.call call).2.recycling = s.recycling := (s.openings_call call).nextHandle_le.1
    simp [move, hsame]
  | disturb d =>
    by_cases hd : d = .recycle
    · subst hd
      simp [move, disturb, recycle]
    · simp [move, s.recycling_disturb hd, hd]

theorem Allotted.move (h : s.Allotted record) (m : Move) :
    (s.move m).Allotted (record ++ (s.granted m).toList) := by
  cases m with
  | disturb d =>
    rw [granted, Option.toList_none, List.append_nil]
    refine h.keeps ?_ (fun handle hhandle => ?_) fun ht => ?_
    · exact congrArg Openings.nextHandle (s.openings_disturb d)
    · have hheld := congrFun (congrArg Holdings.handle (s.holdings_disturb d)) handle
      exact hheld.symm.trans hhandle
    · have hmoved := mt (s.recycling_move (.disturb d)).mpr (Bool.eq_false_iff.mp ht)
      exact Bool.eq_false_iff.mpr fun hs => hmoved (.inr hs)
  | call call =>
    rw [granted]
    cases hg : granted? call (s.call call).1 with
    | none =>
      rw [Option.toList_none, List.append_nil]
      exact h.quiet hg
    | some handle =>
      cases call with
      | openHandle token flags =>
        rw [Option.toList_some]
        refine h.grants ?_
        cases hanswer : (s.call (.openHandle token flags)).1 with
        | error fault =>
          rw [hanswer] at hg
          cases hg
        | ok value =>
          rw [hanswer] at hg
          cases hg
          rfl
      | _ => cases hg

theorem Allotted.run (h : s.Allotted record) (moves : List Move) :
    (s.run moves).Allotted (record ++ s.grants moves) := by
  induction moves generalizing s record with
  | nil => rwa [Simulator.grants, List.append_nil]
  | cons m rest ih =>
    rw [Simulator.grants, ← List.append_assoc]
    exact ih (h.move m)

theorem recycling_run (s : Simulator cards) (moves : List Move) :
    (s.run moves).recycling = true ↔ .disturb .recycle ∈ moves ∨ s.recycling = true := by
  induction moves generalizing s with
  | nil => simp [run]
  | cons m rest ih =>
    change ((s.move m).run rest).recycling = true ↔ _
    rw [ih, recycling_move, List.mem_cons, or_left_comm, ← or_assoc, eq_comm (a := m)]

theorem allotted_start (cards : Nat) (images : String → Option (List UInt8)) :
    (start cards images).Allotted [] where
  held _ hheld := by cases hheld
  below _ hrecord := by cases hrecord
  few := Nat.le_refl _
  ascending _ := .nil

/-! ## Fresh handles -/

/-- An open, by some token and with some flags, would now be answered with a handle. -/
def HandsOut (s : Simulator cards) (handle : NativeHandle) : Prop :=
  ∃ token flags, (s.call (.openHandle token flags)).1 = .ok handle

theorem HandsOut.eq (h : s.HandsOut handle) : handle = handleAt s.freeSlot := by
  obtain ⟨token, flags, hopen⟩ := h
  exact (answer_openHandle_eq_ok_iff.mp hopen).2

/-- Handles are given values as the record of all that were handed out says. -/
structure Allocates (s : Simulator cards) (record : List NativeHandle) (recycled : Prop) :
    Prop where
  /-- Wherever the search begins, it ends, after at most one turn for every open handle. -/
  ends : ∀ first, ∃ found, s.Seeks first found ∧ found ≤ first + s.handles.size
  /-- An open succeeds exactly if it is admitted, with the one handle that the search ends at. -/
  opens : ∀ token flags (handle : NativeHandle),
    (s.call (.openHandle token flags)).1 = .ok handle ↔
      s.Admits token flags ∧ ∃ slot, s.Seeks s.firstSlot slot ∧ handle = handleAt slot
  /-- The open handles are on record, -/
  held : ∀ handle, s.handles.contains handle = true → handle ∈ record
  /-- and a new one is none of them. -/
  fresh : ∀ handle, s.HandsOut handle → s.handles.contains handle = false
  /-- When closed values are given out again, the new one is the least that is free. -/
  least : recycled → ∀ handle, s.HandsOut handle →
    ∀ slot, s.handles.contains (handleAt slot) = false → handle.raw ≤ (handleAt slot).raw
  /-- While that was never switched on, the new one is larger than all on record, -/
  beyond : ¬ recycled → ∀ handle, s.HandsOut handle →
    ∀ earlier ∈ record, earlier.raw < handle.raw
  /-- and no value is on record twice. -/
  once : ¬ recycled → record.Nodup
  /-- Values grow no faster than the record does. -/
  bounded : ∀ handle, s.HandsOut handle → handle.raw ≤ firstHandle + record.length

theorem Allotted.allocates (h : s.Allotted record) : s.Allocates record (s.recycling = true) where
  ends first := by
    obtain ⟨found, hseeks, hle⟩ := s.exists_seeks first
    exact ⟨found, hseeks, Nat.le_trans hle (Nat.add_le_add_left (s.length_ahead_le first) _)⟩
  opens token flags handle := by
    rw [answer_openHandle_eq_ok_iff]
    refine and_congr_right fun _ => ⟨fun heq => ⟨_, s.seeks_freeSlot, heq⟩, ?_⟩
    rintro ⟨slot, hseeks, heq⟩
    rwa [hseeks.eq_freeSlot] at heq
  held := h.held
  fresh handle hout := by
    rw [hout.eq]
    exact s.seeks_freeSlot.least.2.1
  least hrecycled handle hout slot hfree := by
    obtain ⟨-, -, hpassed⟩ := s.seeks_freeSlot.least
    have hfirst : s.firstSlot ≤ slot := by
      rw [firstSlot, if_pos hrecycled]
      exact Nat.zero_le _
    rw [hout.eq]
    refine Nat.add_le_add_left (Nat.le_of_not_lt fun hlt => ?_) firstHandle
    rw [hpassed slot hfirst hlt] at hfree
    cases hfree
  beyond hfresh handle hout earlier hearlier := by
    rw [hout.eq]
    exact h.lt_handleAt_freeSlot (Bool.eq_false_iff.mpr hfresh) hearlier
  once hfresh := by
    refine (h.ascending (Bool.eq_false_iff.mpr hfresh)).imp fun hlt heq => ?_
    exact Nat.ne_of_lt hlt (congrArg NativeHandle.raw heq)
  bounded handle hout := by
    rw [hout.eq]
    exact Nat.add_le_add_left (Nat.le_trans h.freeSlot_le h.few) firstHandle

/-- Whatever a driver is asked for after its cards have started, and whatever their host
does: a handle that is opened gets a value that no open handle has, the least such value from
when on closed values are given out again, and until then one larger than all before it. -/
theorem allocates_run (images : String → Option (List UInt8)) (moves : List Move) :
    ((start cards images).run moves).Allocates ((start cards images).grants moves)
      (.disturb .recycle ∈ moves) := by
  have hallocates := ((allotted_start cards images).run moves).allocates
  have hrecycling :
      ((start cards images).run moves).recycling = true ↔ .disturb .recycle ∈ moves :=
    ((start cards images).recycling_run moves).trans (or_iff_left Bool.false_ne_true)
  rwa [hrecycling, List.nil_append] at hallocates

/-- The value of a closed handle is given out again once its host says so, and not before. -/
example :
    (start 1 fun _ => none).grants
      [.call (.enumerate [] 2), .call (.openHandle ⟨0x1001⟩ 0), .call (.closeHandle (handleAt 0)),
        .call (.openHandle ⟨0x1001⟩ 0), .disturb .recycle, .call (.closeHandle (handleAt 1)),
        .call (.openHandle ⟨0x1001⟩ 0)] = [handleAt 0, handleAt 1, handleAt 0] :=
  rfl

end DeviceBroker.Simulator
