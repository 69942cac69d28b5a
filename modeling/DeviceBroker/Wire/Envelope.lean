import DeviceBroker.Text.Hex
import DeviceBroker.Wire.Message

/-!
# Envelopes

The body of a frame is an envelope: the protocol version, the correlation
identifier that ties a reply to its request, and the message. Version and
identifier come first and can be read on their own, so a message that cannot
be read can still be answered.
-/

namespace DeviceBroker

/-- The identifier of one call. -/
@[ext] structure Uuid where
  bytes : Vector UInt8 16
  deriving DecidableEq

namespace Uuid

def nil : Uuid := ⟨Vector.replicate 16 0⟩

/-- The digits of an identifier, with hyphens after 8, 12, 16 and 20 of them. -/
def display (id : Uuid) : String :=
  let digits := Hex.ofBytes id.bytes.toList
  let part (start count : Nat) := String.ofList ((digits.drop start).take count)
  part 0 8 ++ "-" ++ part 8 4 ++ "-" ++ part 12 4 ++ "-" ++ part 16 4 ++ "-" ++ part 20 12

end Uuid

def protocolVersion : UInt16 := 1

/-- A message with the version and the identifier of its call. -/
@[ext] structure Envelope (α : Type) where
  version : UInt16
  correlationId : Uuid
  payload : α

/-- The front of an envelope. -/
@[ext] structure EnvelopeHeader where
  version : UInt16
  correlationId : Uuid
  deriving DecidableEq

namespace Envelope

variable {α : Type}

def current (correlationId : Uuid) (payload : α) : Envelope α :=
  ⟨protocolVersion, correlationId, payload⟩

def header (e : Envelope α) : EnvelopeHeader := ⟨e.version, e.correlationId⟩

def isSupported (e : Envelope α) : Bool := e.version == protocolVersion

end Envelope

namespace Wire

/-- A correlation identifier, with its length before it. -/
def uuid : Codec Uuid :=
  (Codec.counted .bodyEnded).refine
    (fun bytes => (Codec.sized 16 (.uuidLength bytes.length) bytes).map Uuid.mk)
    (fun id => id.bytes.toList)

def header : Codec EnvelopeHeader :=
  (Codec.seq .uint16 uuid).convert (fun p => ⟨p.1, p.2⟩) (fun h => (h.version, h.correlationId))

def envelope {α : Type} (payload : Codec α) : Codec (Envelope α) :=
  (Codec.seq header payload).convert
    (fun p => ⟨p.1.version, p.1.correlationId, p.2⟩) (fun e => (e.header, e.payload))

def requestEnvelope : Codec (Envelope Request) := envelope request

def replyEnvelope : Codec (Envelope Reply) := envelope reply

/-- Read a whole frame body; bytes after the value are ignored. -/
def decodeFrame {α : Type} (c : Codec α) (frame : List UInt8) : Except DecodeError α :=
  (c.decode frame).map Prod.fst

/-- Read only the front of a frame body. -/
def peekHeader (frame : List UInt8) : Except DecodeError EnvelopeHeader :=
  decodeFrame header frame

end Wire

end DeviceBroker
