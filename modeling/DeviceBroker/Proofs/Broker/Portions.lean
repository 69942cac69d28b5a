import DeviceBroker.Client.Call
import DeviceBroker.Proofs.Broker.Execution

/-!
# No more than was asked for

A broker answers a request with no more than was asked for: tokens up to the
number that the listing may have, bytes up to the length of the read, and
metrics and thresholds up to their number. What a client then cuts off a value
is therefore nothing, whatever the driver has answered.
-/

namespace DeviceBroker

variable {α β : Type}

namespace Service

/-- Whatever a service returns, on any broker, has a property. -/
structure Yields (s : Service α) (P : α → Prop) : Prop where
  of_exec {cards : Nat} {b b' : Broker cards} {value : α} : exec s b = (.ok value, b') → P value

theorem yields_pure {P : α → Prop} {value : α} (h : P value) : Yields (pure value) P where
  of_exec he := by
    cases he
    exact h

theorem Yields.bind {s : Service α} {next : α → Service β} {P : α → Prop} {Q : β → Prop}
    (hs : Yields s P) (h : ∀ value, P value → Yields (next value) Q) :
    Yields (s >>= next) Q where
  of_exec {cards b b' value} he := by
    rcases hfirst : exec s b with ⟨fault | found, mid⟩
    · rw [exec_bind_of_error next hfirst] at he
      cases he
    · rw [exec_bind_of_ok next hfirst] at he
      exact (h found (hs.of_exec hfirst)).of_exec he

/-- The last steps of a service decide what it returns. -/
theorem yields_bind {s : Service α} {next : α → Service β} {P : β → Prop}
    (h : ∀ value, Yields (next value) P) : Yields (s >>= next) P :=
  Yields.bind (P := fun _ => True) ⟨fun _ => trivial⟩ fun value _ => h value

theorem yields_mapM (s : α → Service β) (values : List α) :
    Yields (values.mapM s) fun results => results.length = values.length := by
  induction values with
  | nil => exact yields_pure rfl
  | cons value values ih =>
    rw [List.mapM_cons]
    refine yields_bind fun result => Yields.bind ih fun results h => yields_pure ?_
    rw [List.length_cons, List.length_cons, h]

theorem yields_take (values : List α) (count : Nat) :
    Yields (pure (values.take count)) fun found => found.take count = found :=
  yields_pure (by rw [List.take_take, Nat.min_self])

end Service

open Service

/-- The value of a request is not longer than what was asked for. -/
theorem Request.yields_serve (limit : UInt64) (request : Request) :
    Yields (request.serve limit) fun value => request.clamp value = value := by
  cases request with
  | enumerate filters maxTokens =>
    refine yields_bind fun natives => yields_bind fun listing =>
      Yields.bind (yields_mapM exportToken _) fun tokens h => yields_pure ?_
    have hle : tokens.length ≤ maxTokens.toNat := h ▸ List.length_take_le _ _
    rw [clamp, List.take_of_length_le hle]
  | objectRead | bufferRead =>
    exact yields_bind fun _ => yields_bind fun _ => yields_bind fun _ => yields_take _ _
  | getMetricsInfo | getMetricsByIndex | getMetricsByName | getMetricThresholds =>
    exact yields_bind fun _ => yields_bind fun _ => yields_take _ _
  | _ => exact ⟨fun _ => rfl⟩

end DeviceBroker
