import DeviceBroker.Message.Arguments
import DeviceBroker.Message.Reply
import DeviceBroker.Wire.Record

/-!
# Messages on the wire

A request is the index of its operation and then the arguments in order; a
reply is the index of its operation and then the outcome, or the index after
the last operation and the reason of a rejection.
-/

namespace DeviceBroker

namespace Wire

open Codec (seq)

def arguments : (op : Operation) → Codec op.Arguments
  | .enumerate => seq (.list properties) .uint32
  | .destroyToken => remoteId
  | .cloneToken => remoteId
  | .getProperties => remoteId
  | .updateProperties => remoteId
  | .openHandle => seq remoteId .uint32
  | .closeHandle => remoteId
  | .resetHandle => remoteId
  | .getHandleProperties => remoteId
  | .mapMmio => seq remoteId .uint32
  | .unmapMmio => seq remoteId (seq remoteId .uint32)
  | .readMmio32 => seq remoteId (seq .uint32 .uint64)
  | .writeMmio32 => seq remoteId (seq .uint32 (seq .uint64 .uint32))
  | .readMmio64 => seq remoteId (seq .uint32 .uint64)
  | .writeMmio64 => seq remoteId (seq .uint32 (seq .uint64 .uint64))
  | .readMmio512 => seq remoteId (seq .uint32 .uint64)
  | .writeMmio512 => seq remoteId (seq .uint32 (seq .uint64 .bytes))
  | .prepareBuffer => seq remoteId (seq .uint64 (seq (.option .uint64) .uint32))
  | .releaseBuffer => seq remoteId remoteId
  | .getIoAddress => seq remoteId remoteId
  | .readError => seq remoteId .uint32
  | .getErrorInfo => seq remoteId .uint32
  | .clearError => seq remoteId .uint32
  | .clearAllErrors => remoteId
  | .tokenGetObject => seq remoteId (seq .text .uint32)
  | .handleGetObject => seq remoteId (seq .text .uint32)
  | .destroyObject => remoteId
  | .objectGetType => remoteId
  | .objectGetName => remoteId
  | .objectGetSize => seq remoteId .uint32
  | .objectRead => seq remoteId (seq .uint64 (seq .uint64 .uint32))
  | .objectRead64 => seq remoteId .uint32
  | .objectWrite64 => seq remoteId (seq .uint64 .uint32)
  | .objectGetObject => seq remoteId (seq .text .uint32)
  | .objectGetObjectAt => seq remoteId .uint64
  | .setUserClock => seq remoteId (seq .uint64 (seq .uint64 .uint32))
  | .getUserClock => seq remoteId .uint32
  | .getNumMetrics => remoteId
  | .getMetricsInfo => seq remoteId .uint64
  | .getMetricsByIndex => seq remoteId (.list .uint64)
  | .getMetricsByName => seq remoteId (.list .text)
  | .getMetricThresholds => seq remoteId .uint32
  | .reconfigureSlot => seq remoteId (seq .uint32 (seq .text .uint32))
  | .bufferFill => seq remoteId (seq remoteId (seq .uint64 (seq .uint8 .uint64)))
  | .bufferWrite => seq remoteId (seq remoteId (seq .uint64 (seq .bytes .uint64)))
  | .bufferRead => seq remoteId (seq remoteId (seq .uint64 .uint64))
  | .bufferPoll =>
    seq remoteId (seq remoteId (seq .uint64 (seq .uint32
      (seq .uint64 (seq .uint64 (seq .uint64 .uint64))))))
  | .bufferCompare =>
    seq remoteId (seq remoteId (seq .uint64 (seq remoteId (seq .uint64 .uint64))))
  | .bufferPattern => seq remoteId (seq remoteId .text)

def value : (op : Operation) → Codec op.Value
  | .enumerate => enumerationResult
  | .destroyToken => .unit
  | .cloneToken => tokenHeader
  | .getProperties => properties
  | .updateProperties => properties
  | .openHandle => handleHeader
  | .closeHandle => .unit
  | .resetHandle => .unit
  | .getHandleProperties => properties
  | .mapMmio => remoteId
  | .unmapMmio => .unit
  | .readMmio32 => .uint32
  | .writeMmio32 => .unit
  | .readMmio64 => .uint64
  | .writeMmio64 => .unit
  | .readMmio512 => .array 64
  | .writeMmio512 => .unit
  | .prepareBuffer => remoteId
  | .releaseBuffer => .unit
  | .getIoAddress => .uint64
  | .readError => .uint64
  | .getErrorInfo => errorInfo
  | .clearError => .unit
  | .clearAllErrors => .unit
  | .tokenGetObject => remoteId
  | .handleGetObject => remoteId
  | .destroyObject => .unit
  | .objectGetType => nodeKind
  | .objectGetName => .text
  | .objectGetSize => .uint32
  | .objectRead => .bytes
  | .objectRead64 => .uint64
  | .objectWrite64 => .unit
  | .objectGetObject => remoteId
  | .objectGetObjectAt => remoteId
  | .setUserClock => .unit
  | .getUserClock => userClock
  | .getNumMetrics => .uint64
  | .getMetricsInfo => .list metricInfo
  | .getMetricsByIndex => .list metric
  | .getMetricsByName => .list metric
  | .getMetricThresholds => .list metricThresholds
  | .reconfigureSlot => .unit
  | .bufferFill => .unit
  | .bufferWrite => .unit
  | .bufferRead => .bytes
  | .bufferPoll => .unit
  | .bufferCompare => .int32
  | .bufferPattern => .unit

def operation : Codec Operation := .enumeration Operation.all

def request : Codec Request := (Codec.choice operation arguments).convert Request.join Request.split

/-- A status, as its code. -/
def status : Codec Status :=
  Codec.uint32.refine
    (fun code =>
      match Status.ofCode? code with
      | some status => .ok status
      | none => .error (.resultCode code.toNat))
    Status.code

/-- An outcome: the status and the value that may come with it. -/
def outcome {α : Type} (value : Codec α) : Codec (Outcome α) :=
  (seq status (.option value)).convert (fun p => ⟨p.1, p.2⟩) (fun o => (o.status, o.value))

/-- What follows the index of a reply: an outcome, or the reason of a rejection. -/
@[reducible] def ReplyBody : Option Operation → Type
  | some op => Outcome op.Value
  | none => String

/-- The operation that a reply answers; rejections have the index after the last. -/
def answered : Codec (Option Operation) := .enumeration (Operation.all.map some ++ [none])

/-- What follows the index of a reply. -/
def replyBody : (answered : Option Operation) → Codec (ReplyBody answered)
  | some op => outcome (value op)
  | none => .text

/-- A reply as its index and what follows. -/
def splitReply : Reply → (answered : Option Operation) × ReplyBody answered
  | .answer op outcome => ⟨some op, outcome⟩
  | .rejected reason => ⟨none, reason⟩

/-- The reply with an index and what follows it. -/
def joinReply : (answered : Option Operation) × ReplyBody answered → Reply
  | ⟨some op, outcome⟩ => .answer op outcome
  | ⟨none, reason⟩ => .rejected reason

@[simp] theorem joinReply_splitReply (reply : Reply) : joinReply (splitReply reply) = reply := by
  cases reply <;> rfl

@[simp] theorem splitReply_joinReply (parts : (answered : Option Operation) × ReplyBody answered) :
    splitReply (joinReply parts) = parts := by
  rcases parts with ⟨_ | op, body⟩ <;> rfl

def reply : Codec Reply := (Codec.choice answered replyBody).convert joinReply splitReply

end Wire

end DeviceBroker
