import DeviceBroker.Message.Operation
import DeviceBroker.Outcome

/-!
# Replies

A broker answers an operation with an outcome of that operation, or rejects a
frame that it could not use. The outcome is typed by the operation, so a reply
cannot carry the value of another operation.
-/

namespace DeviceBroker

/-- What the broker answers. -/
inductive Reply where
  | answer (op : Operation) (outcome : Outcome op.Value)
  /-- The broker could not decode or accept the request. -/
  | rejected (reason : String)

namespace Reply

/-- The name that logs and error texts give a reply. -/
def method : Reply → String
  | .answer op _ => op.method
  | .rejected _ => "rejected"

/-- The status that a reply carries, unless it is a rejection. -/
def status? : Reply → Option Status
  | .answer _ outcome => some outcome.status
  | .rejected _ => none

/-- The reply that reports the result of an operation. -/
def ofResult (op : Operation) (result : Except Fault op.Value) : Reply :=
  .answer op (.ofResult result)

/-- The outcome of the given operation, if that is what the reply answers. -/
def outcome? (reply : Reply) (op : Operation) : Option (Outcome op.Value) :=
  match reply with
  | .answer answered outcome => if h : answered = op then some (h ▸ outcome) else none
  | .rejected _ => none

@[simp] theorem outcome?_answer (op : Operation) (outcome : Outcome op.Value) :
    (Reply.answer op outcome).outcome? op = some outcome := by
  simp [outcome?]

theorem outcome?_answer_of_ne {answered op : Operation} (outcome : Outcome answered.Value)
    (h : answered ≠ op) : (Reply.answer answered outcome).outcome? op = none := by
  simp [outcome?, h]

@[simp] theorem outcome?_rejected (reason : String) (op : Operation) :
    (Reply.rejected reason).outcome? op = none := rfl

end Reply

end DeviceBroker
