import DeviceBroker.Proofs.Simulator.Armed

/-!
# Calls that fail

The simulated cards make all the checks of a call before they change anything,
so a call that fails leaves nothing behind: it has been counted, and a failure
that was armed for it is used up. There is one exception. Metrics are sampled
one after another, and the one about performance counts how often it is
sampled; if a later metric does not exist, the call fails, and the samples
that it has taken stay counted.
-/

namespace DeviceBroker

variable {cards : Nat} {α : Type}

namespace Telemetry

/-- Whether there is a metric with a number, if there is a number at all. -/
def known (number? : Option UInt64) : Bool :=
  number?.any fun number => metrics.any fun info => info.number == number

/-- How many samples are counted: those of the performance metric before the first
metric that does not exist. -/
def counted (numbers : List (Option UInt64)) : Nat := (numbers.takeWhile known).count (some 2)

theorem known_some_iff (number : UInt64) :
    known (some number) = true ↔ number = 0 ∨ number = 1 ∨ number = 2 := by
  change (metrics.any fun info => info.number == number) = true ↔ _
  simp only [metrics, describe, List.any_cons, List.any_nil, Bool.or_false, Bool.or_eq_true,
    beq_iff_eq, eq_comm (a := number)]

theorem counted_cons_of_not_known {number? : Option UInt64} (h : known number? = false)
    (rest : List (Option UInt64)) : counted (number? :: rest) = 0 := by
  rw [counted, List.takeWhile_cons_of_neg (by simp [h])]
  rfl

theorem counted_cons_of_known {number? : Option UInt64} (h : known number? = true)
    (rest : List (Option UInt64)) :
    counted (number? :: rest) = counted rest + if number? = some 2 then 1 else 0 := by
  rw [counted, List.takeWhile_cons_of_pos h, List.count_cons]
  simp [counted]

/-- The resource after a number of further samples. -/
def bump (count : Nat) (r : Resource) : Resource :=
  { r with samples := r.samples + UInt64.ofNat count }

@[simp] theorem bump_zero (r : Resource) : bump 0 r = r := by
  simp [bump]

theorem bump_bump (first second : Nat) (r : Resource) :
    bump second (bump first r) = bump (second + first) r := by
  simp [bump, UInt64.add_assoc, Nat.add_comm]

/-- Exactly the metrics that exist can be sampled, and one of them is counted. -/
theorem sample_of_known (card : Nat) {number : UInt64} (h : known (some number) = true)
    (r : Resource) :
    ∃ metric, sample card number r =
      .ok (metric, bump (if some number = some (2 : UInt64) then 1 else 0) r) := by
  rcases (known_some_iff number).mp h with rfl | rfl | rfl
  · exact ⟨_, by rw [if_neg (by decide), bump_zero]; rfl⟩
  · exact ⟨_, by rw [if_neg (by decide), bump_zero]; rfl⟩
  · exact ⟨_, rfl⟩

theorem sample_of_not_known {card : Nat} {number : UInt64} (h : known (some number) = false)
    (r : Resource) : sample card number r = .error .notFound := by
  have hnone := (not_congr (known_some_iff number)).mp (Bool.eq_false_iff.mp h)
  obtain ⟨h0, h1, h2⟩ : number ≠ 0 ∧ number ≠ 1 ∧ number ≠ 2 := by
    simpa only [not_or] using hnone
  rw [sample, if_neg h0, if_neg h1, if_neg h2]

/-- What sampling does to the resource, whether or not it fails in the end. -/
theorem sampleAll_snd (card : Nat) (numbers : List (Option UInt64)) (r : Resource) :
    (sampleAll card numbers r).2 = bump (counted numbers) r := by
  induction numbers generalizing r with
  | nil => exact (bump_zero r).symm
  | cons number? rest ih =>
    cases number? with
    | none => rw [counted_cons_of_not_known rfl, bump_zero, sampleAll]
    | some number =>
      cases hk : known (some number) with
      | false => rw [sampleAll, sample_of_not_known hk, counted_cons_of_not_known hk, bump_zero]
      | true =>
        obtain ⟨metric, hsample⟩ := sample_of_known card hk r
        have hrest := ih (bump (if some number = some (2 : UInt64) then 1 else 0) r)
        rw [bump_bump] at hrest
        rw [sampleAll, hsample, counted_cons_of_known hk, ← hrest]
        dsimp only
        split
        · rename_i heq
          rw [heq]
        · rename_i heq
          rw [heq]

end Telemetry

/-- The handle through which a call samples metrics, and their numbers. -/
def DeviceCall.samples? : DeviceCall → Option (NativeHandle × List (Option UInt64))
  | .getMetricsByIndex handle numbers => some (handle, numbers.map some)
  | .getMetricsByName handle names => some (handle, names.map Telemetry.number?)
  | _ => none

namespace Simulator

variable {s : Simulator cards} {call : DeviceCall} {fault : Fault}

/-- How many samples a call counts on the resource at a site. -/
def countedAt (s : Simulator cards) (call : DeviceCall) (site : Site cards) : Nat :=
  match call.samples? with
  | some (handle, numbers) =>
    if (s.handles.find? handle).map OpenHandle.site = some site then Telemetry.counted numbers
    else 0
  | none => 0

/-- What a failed call leaves behind. A call that meets an armed failure is not served. -/
def remains (s : Simulator cards) (call : DeviceCall) : Simulator cards :=
  { s with
    resources := fun site =>
      if s.armed call.kind = none then Telemetry.bump (s.countedAt call site) (s.resources site)
      else s.resources site
    calls := s.calls + 1
    armed := override s.armed call.kind none }

theorem snd_commit_of_error {result : Except Fault (α × Simulator cards)}
    (h : (s.commit result).1 = .error fault) : (s.commit result).2 = s := by
  cases result with
  | error fault => rfl
  | ok outcome => cases h

/-- A call that samples nothing fails before it changes anything. -/
theorem serve_of_error (hs : call.samples? = none) (h : (s.serve call).1 = .error fault) :
    (s.serve call).2 = s := by
  cases call with
  | enumerate => cases h
  | getMetricsByIndex | getMetricsByName => cases hs
  | destroyToken | cloneToken | getProperties | updateProperties | openHandle | closeHandle
  | resetHandle | getHandleProperties | mapMmio | unmapMmio | writeMmio32 | writeMmio64
  | writeMmio512 | prepareBuffer | releaseBuffer | bufferWrite | clearError | clearAllErrors
  | tokenGetObject | handleGetObject | destroyObject | objectWrite64 | objectGetObject
  | objectGetObjectAt | setUserClock | reconfigureSlot => exact snd_commit_of_error h
  | _ => rfl

theorem resources_sampleMetrics (s : Simulator cards) (handle : NativeHandle)
    (numbers : List (Option UInt64)) :
    (s.sampleMetrics handle numbers).2 =
      { s with
        resources := fun site =>
          if (s.handles.find? handle).map OpenHandle.site = some site then
            Telemetry.bump (Telemetry.counted numbers) (s.resources site)
          else s.resources site } := by
  unfold sampleMetrics handleOf
  cases hf : s.handles.find? handle with
  | none => rfl
  | some state =>
    dsimp only
    rw [updateResource, Telemetry.sampleAll_snd]
    congr 1
    funext site
    by_cases hsite : site = state.site
    · rw [hsite, override_self]
      exact (if_pos rfl).symm
    · rw [override_of_ne _ _ hsite, if_neg]
      exact fun heq => hsite (Option.some.inj heq).symm

/-- A call that samples metrics counts the same samples whether or not it fails. -/
theorem serve_of_samples {handle : NativeHandle} {numbers : List (Option UInt64)}
    (hs : call.samples? = some (handle, numbers)) :
    (s.serve call).2 =
      { s with
        resources := fun site =>
          Telemetry.bump (s.countedAt call site) (s.resources site) } := by
  have hcounted : ∀ site, Telemetry.bump (s.countedAt call site) (s.resources site) =
      if (s.handles.find? handle).map OpenHandle.site = some site then
        Telemetry.bump (Telemetry.counted numbers) (s.resources site)
      else s.resources site := by
    intro site
    unfold countedAt
    rw [hs]
    dsimp only
    split
    · rfl
    · exact Telemetry.bump_zero _
  simp only [hcounted]
  cases call with
  | getMetricsByIndex | getMetricsByName =>
    cases hs
    exact s.resources_sampleMetrics _ _
  | _ => cases hs

theorem call_of_error (failed : (s.call call).1 = .error fault) :
    (s.call call).2 = s.remains call := by
  cases ha : s.armed call.kind with
  | some armed =>
    rw [call_of_armed ha, remains]
    simp [rig, ha]
  | none =>
    have hsame : override s.armed call.kind none = s.armed := by
      rw [← ha, override_eq_self]
    rw [call_of_unarmed ha] at failed ⊢
    rw [remains, hsame]
    simp only [ha, if_true]
    cases hs : call.samples? with
    | none =>
      rw [serve_of_error hs failed]
      simp [countedAt, hs, rig]
    | some asked =>
      rw [serve_of_samples hs]
      rfl

/-- Whatever the cards are asked for and however it fails, nothing is left of it
but the count of the call, a failure that it has met, and samples that it has
taken; nor is anything left of error bits that cannot be raised. -/
theorem nothing_remains_of_failure (s : Simulator cards) :
    (∀ call fault, (s.call call).1 = .error fault →
      (s.call call).2 = s.remains call ∧
        (call.samples? = none →
          (s.call call).2 = s.rig (s.calls + 1) (override s.armed call.kind none))) ∧
      ∀ token number bits fault, (s.raiseError token number bits).1 = .error fault →
        (s.raiseError token number bits).2 = s := by
  refine ⟨fun call fault failed => ?_, fun token number bits fault failed => ?_⟩
  · have hremains := call_of_error failed
    refine ⟨hremains, fun hs => hremains.trans ?_⟩
    simp [remains, countedAt, hs, rig]
  · unfold raiseError at failed ⊢
    split
    · rfl
    · rename_i heq
      rw [heq] at failed
      cases failed

/-- A card whose accelerator was opened, and nothing else. -/
def openedOnce : Simulator 1 :=
  (((start 1 fun _ => none).call (.enumerate [] 2)).2.call (.openHandle ⟨0x1001⟩ 0)).2

theorem nothing_remains_of_failure_openedOnce :
    (openedOnce.call (.unmapMmio ⟨0x20000000⟩ 0)).1 = .error .invalidParam ∧
    (openedOnce.call (.unmapMmio ⟨0x20000000⟩ 0)).2 =
      openedOnce.rig 3 (override openedOnce.armed .unmapMmio none) ∧
    (openedOnce.call (.getMetricsByIndex ⟨0x20000000⟩ [0, 2, 2, 99, 2])).1 = .error .notFound ∧
    (openedOnce.call (.getMetricsByIndex ⟨0x20000000⟩ [0, 2, 2, 99, 2])).2 =
      openedOnce.remains (.getMetricsByIndex ⟨0x20000000⟩ [0, 2, 2, 99, 2]) ∧
    (openedOnce.raiseError ⟨0x1001⟩ 7 1).1 = .error .invalidParam ∧
    (openedOnce.raiseError ⟨0x1001⟩ 7 1).2 = openedOnce :=
  ⟨rfl, (openedOnce.nothing_remains_of_failure.1 (.unmapMmio ⟨0x20000000⟩ 0) _ rfl).2 rfl, rfl,
    (openedOnce.nothing_remains_of_failure.1
      (.getMetricsByIndex ⟨0x20000000⟩ [0, 2, 2, 99, 2]) _ rfl).1,
    rfl, openedOnce.nothing_remains_of_failure.2 ⟨0x1001⟩ 7 1 _ rfl⟩

/-- The second metric does not exist and the call fails, but the first was sampled:
the next sample of it is not the one that it would have been. -/
theorem sample_remains_of_failure :
    (openedOnce.call (.getMetricsByIndex ⟨0x20000000⟩ [2, 99])).1 = .error .notFound ∧
    (openedOnce.resources ⟨0, .accelerator⟩).samples = 0 ∧
    ((openedOnce.call (.getMetricsByIndex ⟨0x20000000⟩ [2, 99])).2.resources
      ⟨0, .accelerator⟩).samples = 1 ∧
    (openedOnce.call (.getMetricsByIndex ⟨0x20000000⟩ [2])).1 = .ok [⟨2, .int 1, true⟩] ∧
    ((openedOnce.call (.getMetricsByIndex ⟨0x20000000⟩ [2, 99])).2.call
      (.getMetricsByIndex ⟨0x20000000⟩ [2])).1 = .ok [⟨2, .int 2, true⟩] :=
  ⟨rfl, rfl, rfl, rfl, rfl⟩

end Simulator

end DeviceBroker
