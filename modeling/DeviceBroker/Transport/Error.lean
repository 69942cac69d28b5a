import DeviceBroker.Outcome
import DeviceBroker.Wire.Envelope
import DeviceBroker.Wire.Frame

/-!
# Transport errors

Why a call got no trustworthy answer. A transport error carries no result of
the device. All but two of them mean that the stream can no longer be trusted:
a reply that was read in full and merely answers something else, or refuses
the request, leaves the stream in step.
-/

namespace DeviceBroker

/-- Why a call got no trustworthy answer. -/
inductive TransportError where
  /-- The broker could not be reached. -/
  | connect (address source : String)
  /-- The broker could not be reached in time. -/
  | connectTimeout (address : String)
  /-- No reply came in time. -/
  | callTimeout (millis : UInt64)
  /-- The stream ended before the reply. -/
  | closed
  /-- The stream failed. -/
  | io (source : String)
  /-- The request could not be written. -/
  | encode (detail : String)
  /-- The reply could not be read. -/
  | decode (detail : String)
  /-- The message is of another version of the protocol. -/
  | unsupportedVersion (received supported : UInt16)
  /-- The reply belongs to another call. -/
  | correlationMismatch (expected received : Uuid)
  /-- The reply does not answer the call. -/
  | unexpectedReply (method detail : String)
  /-- The broker refused the request. -/
  | rejected (reason : String)
  deriving DecidableEq

namespace TransportError

def message : TransportError → String
  | .connect address source => "failed to connect to " ++ address ++ ": " ++ source
  | .connectTimeout address => "connecting to " ++ address ++ " timed out"
  | .callTimeout millis => "call timed out after " ++ toString millis.toNat ++ "ms"
  | .closed => "connection closed by peer"
  | .io source => "i/o error: " ++ source
  | .encode detail => "failed to encode frame: " ++ detail
  | .decode detail => "failed to decode frame: " ++ detail
  | .unsupportedVersion received supported =>
    "unsupported protocol version " ++ toString received.toNat ++ " (supported: "
      ++ toString supported.toNat ++ ")"
  | .correlationMismatch expected received =>
    "reply correlation " ++ received.display ++ " does not match request " ++ expected.display
  | .unexpectedReply method detail => "unexpected reply to " ++ method ++ ": " ++ detail
  | .rejected reason => "request rejected by broker: " ++ reason

/-- Whether the stream can no longer be trusted. -/
def poisons : TransportError → Bool
  | .unexpectedReply _ _ => false
  | .rejected _ => false
  | _ => true

/-- The error of a frame that could not be read. -/
def ofDecodeError (e : DecodeError) : TransportError := .decode e.message

/-- The error of a stream that could not be framed. -/
def ofFrameError (e : FrameError) : TransportError := .io e.message

end TransportError

/-- Why a remote call did not return a value. -/
inductive CallError where
  /-- The broker answered with a fault. -/
  | remote (fault : Fault)
  /-- No trustworthy answer came. -/
  | transport (error : TransportError)
  deriving DecidableEq

namespace CallError

def message : CallError → String
  | .remote fault => "broker returned " ++ fault.message
  | .transport error => error.message

def isTransport : CallError → Bool
  | .remote _ => false
  | .transport _ => true

/-- The status for callers that know nothing but codes: transport errors count as
exceptions. -/
def status : CallError → Status
  | .remote fault => .failure fault
  | .transport _ => .failure .exception

end CallError

end DeviceBroker
