import DeviceBroker.Broker.Serve
import DeviceBroker.Transport.Error

/-!
# Sessions

The server's end of a stream. Every frame body gets exactly one reply: a body
that cannot be used is rejected without a word to the handler, under the
identifier in its front if that can be read, and any other is handled once. A
session ends when its stream can no longer be framed or a reply is too large
to be written; frames after that are not looked at.
-/

namespace DeviceBroker

def rejection (id : Uuid) (e : TransportError) : Envelope Reply :=
  .current id (.rejected e.message)

/-- Serve the request in a frame body. -/
def Broker.answer {cards : Nat} (b : Broker cards) (body : List UInt8) :
    Envelope Reply × Broker cards :=
  match Wire.peekHeader body with
  | .error e => (rejection .nil (.ofDecodeError e), b)
  | .ok header =>
    if header.version ≠ protocolVersion then
      (rejection header.correlationId (.unsupportedVersion header.version protocolVersion), b)
    else
      match Wire.decodeFrame Wire.requestEnvelope body with
      | .error e => (rejection header.correlationId (.ofDecodeError e), b)
      | .ok envelope =>
        let (reply, b) := b.handle envelope.payload
        (.current header.correlationId reply, b)

/-- One client at the server: the bytes of a frame that is still incomplete, and the
requests that were answered. -/
@[ext] structure Session where
  framer : Framer
  requests : Nat
  deriving DecidableEq, Repr

namespace Session

variable {cards : Nat}

def start (maxFrameBytes : UInt64) : Session := ⟨.start maxFrameBytes.toNat, 0⟩

/-- Answer frame bodies in order, until a reply cannot be written: the bytes that go
back, the number of bodies answered, whether all could be, and the broker. -/
def answerAll (maxBytes : Nat) :
    List (List UInt8) → Broker cards → List UInt8 × Nat × Bool × Broker cards
  | [], b => ([], 0, true, b)
  | body :: bodies, b =>
    let (envelope, b) := b.answer body
    match Frame.encode maxBytes (Wire.replyEnvelope.encode envelope) with
    | .error _ => ([], 1, false, b)
    | .ok bytes =>
      let (more, count, written, b) := answerAll maxBytes bodies b
      (bytes ++ more, count + 1, written, b)

@[simp] theorem answerAll_nil (maxBytes : Nat) (b : Broker cards) :
    answerAll maxBytes [] b = ([], 0, true, b) := rfl

/-- Receive bytes: the bytes that go back, and the session unless it ends. -/
def receive (s : Session) (chunk : List UInt8) (b : Broker cards) :
    List UInt8 × Option Session × Broker cards :=
  let (bodies, left) := s.framer.feed chunk
  let (bytes, count, written, b) := answerAll s.framer.maxBytes bodies b
  match left, written with
  | .ok framer, true => (bytes, some ⟨framer, s.requests + count⟩, b)
  | _, _ => (bytes, none, b)

end Session

end DeviceBroker
