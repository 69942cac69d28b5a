import DeviceBroker.Transport.Error

/-!
# Remote calls

What a client makes of a reply. A call returns a value only if the reply
answers the operation that was called, with success and a value; the value is
then cut to what was asked for, whatever the broker sent. Some requests say a
thing twice, and a client only makes those that say it the same way both times:
those are the `ClientCall`s.
-/

namespace DeviceBroker

namespace Reply

/-- What a reply says about the call of an operation. -/
def resultOf (op : Operation) (reply : Reply) : Except CallError op.Value :=
  match reply with
  | .rejected reason => .error (.transport (.rejected reason))
  | .answer answered outcome =>
    match (Reply.answer answered outcome).outcome? op with
    | none =>
      .error (.transport (.unexpectedReply op.method ("got " ++ answered.method ++ " reply")))
    | some outcome =>
      match outcome.result? with
      | some (.ok value) => .ok value
      | some (.error fault) => .error (.remote fault)
      | none => .error (.transport (.unexpectedReply op.method "success without a value"))

@[simp] theorem resultOf_rejected (op : Operation) (reason : String) :
    (Reply.rejected reason).resultOf op = .error (.transport (.rejected reason)) := rfl

/-- A reply that reports a result is understood as that result. -/
theorem resultOf_ofResult (op : Operation) (result : Except Fault op.Value) :
    (Reply.ofResult op result).resultOf op = result.mapError .remote := by
  cases result <;> simp [ofResult, resultOf] <;> rfl

end Reply

namespace Request

/-- A value cut to what a request asked for. -/
def clamp : (request : Request) → request.operation.Value → request.operation.Value
  | .enumerate _ maxTokens, found => { found with tokens := found.tokens.take maxTokens.toNat }
  | .objectRead _ _ length _, bytes => bytes.take length.toNat
  | .getMetricsInfo _ count, metrics => metrics.take count.toNat
  | .getMetricsByIndex _ numbers, metrics => metrics.take numbers.length
  | .getMetricsByName _ names, metrics => metrics.take names.length
  | .getMetricThresholds _ count, thresholds => thresholds.take count.toNat
  | .bufferRead _ _ _ count, bytes => bytes.take count.toNat
  | _, value => value

/-- What a client makes of the answer to a request. -/
def conclude (request : Request) (answer : Except TransportError Reply) :
    Except CallError request.operation.Value :=
  match answer with
  | .error e => .error (.transport e)
  | .ok reply => (reply.resultOf request.operation).map request.clamp

/-- Whether the arguments that say the same thing agree. A register word has its
64 bytes, and the size of a copy is the number of the bytes that are copied. -/
def IsConsistent : Request → Prop
  | .writeMmio512 _ _ _ values => values.length = 64
  | .bufferWrite _ _ _ source count => count.toNat = source.length
  | _ => True

instance : DecidablePred IsConsistent := fun request => by
  cases request <;> unfold IsConsistent <;> infer_instance

/-- The request with agreeing arguments: a register word is the first 64 bytes, and
the size of a copy follows the bytes. -/
def agreeing : Request → Request
  | .writeMmio512 handleId region offset values =>
    .writeMmio512 handleId region offset (values.take 64)
  | .bufferWrite handleId bufferId offset source _ =>
    .bufferWrite handleId bufferId offset source (UInt64.ofNat source.length)
  | request => request

end Request

/-- A request that a client makes. -/
structure ClientCall where
  request : Request
  consistent : request.IsConsistent

namespace ClientCall

@[reducible] def Value (call : ClientCall) : Type := call.request.operation.Value

/-- The call with the arguments of a request, unless there are too few bytes for a
register word or too many for a copy. -/
def ofRequest? (request : Request) : Option ClientCall :=
  if h : request.agreeing.IsConsistent then some ⟨request.agreeing, h⟩ else none

end ClientCall

/-- A way to have requests answered, with a state that it may change. -/
structure Transport (σ : Type) where
  roundTrip : Request → σ → Except TransportError Reply × σ

def Transport.call {σ : Type} (t : Transport σ) (call : ClientCall) (s : σ) :
    Except CallError call.Value × σ :=
  let (answer, s) := t.roundTrip call.request s
  (call.request.conclude answer, s)

end DeviceBroker
