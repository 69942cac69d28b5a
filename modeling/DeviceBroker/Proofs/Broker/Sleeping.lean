import DeviceBroker.Proofs.Broker.Polling

/-!
# How long the broker sleeps

A poll sleeps before each of its reads but the first, and no other request has the
broker sleep. So a poll for which the first read is enough does not sleep, one
that never sees the expected bits sleeps once less often than it may read, and
none sleeps more often than that, whatever the buffer holds and whatever failures
are armed.
-/

namespace DeviceBroker

variable {α β : Type} {cards : Nat}

namespace Service

/-- A service that makes no more calls of the driver than a number. -/
def CallsAtMost (count : Nat) (s : Service α) : Prop :=
  ∀ (cards : Nat) (b : Broker cards), (exec s b).2.device.calls ≤ b.device.calls + count

theorem callsAtMost_pure (value : α) : CallsAtMost 0 (pure value) := fun _ _ => Nat.le_refl _

theorem callsAtMost_throw (fault : Fault) (count : Nat) :
    CallsAtMost count (throw fault : Service α) := fun _ _ => Nat.le_add_right _ _

theorem callsAtMost_require (condition : Bool) (fault : Fault) :
    CallsAtMost 0 (require condition fault) := fun _ _ => Nat.le_refl _

theorem callsAtMost_lookup (cls : ResourceClass) (id : RemoteId) :
    CallsAtMost 0 (lookup cls id) := by
  intro cards b
  rw [exec_lookup]
  split
  · exact Nat.le_refl _
  · exact Nat.le_refl _

theorem callsAtMost_device (call : DeviceCall) : CallsAtMost 1 (device call) := by
  intro cards b
  rw [exec_device]
  exact Nat.le_of_eq (b.device.calls_call call)

/-- The calls of two services add up. -/
theorem CallsAtMost.bind {first second : Nat} {s : Service α} {next : α → Service β}
    (hs : CallsAtMost first s) (hn : ∀ value, CallsAtMost second (next value)) :
    CallsAtMost (first + second) (s >>= next) := by
  intro cards b
  have hfirst := hs cards b
  rw [exec_bind]
  generalize exec s b = outcome at hfirst ⊢
  obtain ⟨fault | value, b'⟩ := outcome
  · exact Nat.le_trans hfirst (Nat.add_le_add_left (Nat.le_add_right _ _) _)
  · have hsecond := hn value cards b'
    rw [← Nat.add_assoc]
    exact Nat.le_trans hsecond (Nat.add_le_add_right hfirst _)

theorem callsAtMost_bufferRange (handleId bufferId : RemoteId) (offset count : UInt64) :
    CallsAtMost 0 (bufferRange handleId bufferId offset count) :=
  (callsAtMost_lookup _ _).bind fun _ =>
    ((callsAtMost_lookup _ _).bind fun _ =>
      (callsAtMost_require _ _).bind fun _ => callsAtMost_pure _).bind fun _ =>
        (callsAtMost_require _ _).bind fun _ => callsAtMost_pure _

theorem callsAtMost_poll (handle : NativeHandle) (workspace : Nat) (offset : UInt64)
    (width : UInt32) (mask expected : UInt64) (attempts : Nat) :
    CallsAtMost attempts (poll handle workspace offset width mask expected attempts) := by
  induction attempts with
  | zero => exact callsAtMost_throw _ _
  | succ attempts ih =>
    have hturn : CallsAtMost (1 + attempts)
        (poll handle workspace offset width mask expected (attempts + 1)) := by
      refine (callsAtMost_device _).bind fun data => ?_
      split
      · exact fun _ _ => Nat.le_add_right _ _
      · exact ih
    exact Nat.add_comm 1 attempts ▸ hturn

end Service

open Service

/-- The time in microseconds for which a request has the broker sleep at most. -/
def Request.patienceMicros : Request → Nat
  | .bufferPoll _ _ _ _ _ _ sleepMicros attempts => (attempts.toNat - 1) * sleepMicros.toNat
  | _ => 0

namespace Broker

variable {b : Broker cards} {request : Request}

theorem sleptSince_handle_le (b : Broker cards) (request : Request) :
    (b.handle request).2.sleptSince b request.pauseMicros ≤ request.patienceMicros := by
  cases request with
  | bufferPoll handleId bufferId offset width mask expected sleepMicros attempts =>
    have hcalls : CallsAtMost (max attempts.toNat 1) (Request.serve b.payloadLimit
        (.bufferPoll handleId bufferId offset width mask expected sleepMicros attempts)) := by
      have hserve := (callsAtMost_require (pollWidths.contains width) .invalidParam).bind fun _ =>
        (callsAtMost_bufferRange handleId bufferId offset width.toUInt64).bind fun found =>
          callsAtMost_poll found.1.handle found.2.workspace offset width mask expected
            (max attempts.toNat 1)
      rwa [Nat.zero_add, Nat.zero_add] at hserve
    have hcount : (b.handle (.bufferPoll handleId bufferId offset width mask expected sleepMicros
        attempts)).2.device.calls ≤ b.device.calls + max attempts.toNat 1 := by
      rw [handle_eq]
      exact hcalls cards b
    exact Nat.mul_le_mul_right _ (by omega)
  | _ => exact Nat.le_of_eq (Nat.mul_zero _)

/-- The calls of a request tell for how long the broker slept. -/
theorem AnswersAfter.sleptSince {count : Nat} {call : DeviceCall}
    {result : Except Fault request.operation.Value}
    (h : b.AnswersAfter request count call result) :
    (b.handle request).2.sleptSince b request.pauseMicros =
      (count - 1) * request.pauseMicros := by
  have hcalls : (b.handle request).2.device.calls = b.device.calls + count := by
    rw [h.1]
    rfl
  rw [Broker.sleptSince, hcalls, Nat.add_sub_cancel_left]

end Broker

end DeviceBroker
