import DeviceBroker.Client.Call
import DeviceBroker.Config.Settings

/-!
# Connections

The client's end of a stream, as a machine: events come from the caller and from
the network, and actions go back to them. A stream is dialed for the first call
and kept for the next one as long as calls succeed; a call that fails abandons
its stream, so that a late reply can never answer a later call. Streams are
numbered, and events of a stream that was abandoned change nothing. Calls are
served one at a time in the order in which they were issued.
-/

namespace DeviceBroker

/-- How a stream ends. -/
inductive StreamEnd where
  | closed
  | failed (source : String)
  deriving DecidableEq, Repr

/-- A stream: its number, the bytes that have arrived and are not yet read, and its
end if that has arrived as well. -/
@[ext] structure Stream where
  number : Nat
  received : List UInt8
  ending : Option StreamEnd
  deriving DecidableEq, Repr

/-- The reply in a frame body, if it answers the call with an identifier. -/
def checkReply (id : Uuid) (body : List UInt8) : Except TransportError Reply := do
  let envelope ← (Wire.decodeFrame Wire.replyEnvelope body).mapError .ofDecodeError
  if envelope.version ≠ protocolVersion then
    throw (.unsupportedVersion envelope.version protocolVersion)
  if envelope.correlationId ≠ id then
    throw (.correlationMismatch id envelope.correlationId)
  return envelope.payload

/-- The bytes that ask for a request on a stream. -/
def requestFrame (maxFrameBytes : UInt64) (id : Uuid) (request : Request) :
    Except TransportError (List UInt8) :=
  (Frame.encode maxFrameBytes.toNat
    (Wire.requestEnvelope.encode (.current id request))).mapError .ofFrameError

/-- What can be read of the reply to a call. -/
inductive Reading where
  /-- The reply has not arrived in full. -/
  | pending
  /-- The reply, and the stream after it. -/
  | reply (reply : Reply) (rest : Stream)
  /-- No reply that can be used will come. -/
  | failed (error : TransportError)

/-- Look for the reply to a call on a stream. -/
def Stream.read (maxFrameBytes : UInt64) (id : Uuid) (s : Stream) : Reading :=
  match Frame.front maxFrameBytes.toNat s.received with
  | .oversized => .failed (.ofFrameError .tooBig)
  | .frame body rest =>
    match checkReply id body with
    | .ok reply => .reply reply { s with received := rest }
    | .error e => .failed e
  | .partly =>
    match s.ending with
    | none => .pending
    | some (.failed source) => .failed (.io source)
    | some .closed =>
      if s.received.isEmpty then .failed .closed else .failed (.ofFrameError .truncated)

/-- What a caller asks of a connection. -/
inductive Command where
  | call (id : Uuid) (request : Request)
  | disconnect

/-- What a connection is doing. -/
inductive Phase where
  | idle
  /-- A stream is being dialed for a call. -/
  | dialing (id : Uuid) (request : Request)
  /-- The request of a call is out on the stream. -/
  | waiting (id : Uuid)

/-- The client's end. -/
@[ext] structure Connection where
  config : ConnectionConfig
  stream : Option Stream
  phase : Phase
  /-- The commands that wait for their turn. -/
  queue : List Command
  streams : Nat

/-- What a connection does. -/
inductive ConnectionAction where
  | dial
  | send (stream : Nat) (bytes : List UInt8)
  | abandon (stream : Nat)
  | finish (id : Uuid) (result : Except TransportError Reply)

/-- What happens to a connection. -/
inductive ConnectionEvent where
  | issue (command : Command)
  /-- The stream that was dialed is there. -/
  | connected
  | connectFailed (source : String)
  | connectTimedOut
  | arrived (stream : Nat) (bytes : List UInt8)
  | ended (stream : Nat) (how : StreamEnd)
  /-- The time for the call is over. -/
  | timedOut

namespace Connection

def start (config : ConnectionConfig) : Connection := ⟨config, none, .idle, [], 0⟩

def isConnected (c : Connection) : Bool := c.stream.isSome

/-- End a call that failed, and abandon its stream. -/
def fail (c : Connection) (id : Uuid) (s : Stream) (e : TransportError) :
    List ConnectionAction × Connection :=
  ([.abandon s.number, .finish id (.error e)], { c with stream := none, phase := .idle })

/-- Read the reply to a call if it has arrived, and wait for it otherwise. -/
def progress (c : Connection) (id : Uuid) (s : Stream) : List ConnectionAction × Connection :=
  match s.read c.config.maxFrameBytes id with
  | .pending => ([], { c with stream := some s, phase := .waiting id })
  | .reply reply rest =>
    ([.finish id (.ok reply)], { c with stream := some rest, phase := .idle })
  | .failed e => c.fail id s e

/-- Write the request of a call, and read its reply if that has arrived already.
Nothing can be written on a stream that has failed. -/
def transmit (c : Connection) (id : Uuid) (request : Request) (s : Stream) :
    List ConnectionAction × Connection :=
  match requestFrame c.config.maxFrameBytes id request with
  | .error e => c.fail id s e
  | .ok bytes =>
    match s.ending with
    | some (.failed source) => c.fail id s (.io source)
    | _ =>
      let (actions, c) := c.progress id s
      (.send s.number bytes :: actions, c)

def takeUp (c : Connection) : Command → List ConnectionAction × Connection
  | .disconnect =>
    match c.stream with
    | none => ([], c)
    | some s => ([.abandon s.number], { c with stream := none })
  | .call id request =>
    match c.stream with
    | none => ([.dial], { c with phase := .dialing id request })
    | some s => c.transmit id request s

/-- Take up commands in order until one has to wait; the rest are queued. -/
def drain : List Command → Connection → List ConnectionAction × Connection
  | [], c => ([], { c with queue := [] })
  | command :: rest, c =>
    let (actions, c) := c.takeUp command
    match c.phase with
    | .idle =>
      let (more, c) := drain rest c
      (actions ++ more, c)
    | _ => (actions, { c with queue := rest })

/-- Go on with the queue once a call has ended. -/
def resume (result : List ConnectionAction × Connection) : List ConnectionAction × Connection :=
  match result.2.phase with
  | .idle =>
    let (more, c) := drain result.2.queue result.2
    (result.1 ++ more, c)
  | _ => result

def failDial (c : Connection) (e : TransportError) : List ConnectionAction × Connection :=
  match c.phase with
  | .dialing id _ => resume ([.finish id (.error e)], { c with phase := .idle })
  | _ => ([], c)

/-- Change the current stream if it has the number, and look for the reply that is
waited for. -/
def onStream (c : Connection) (number : Nat) (change : Stream → Stream) :
    List ConnectionAction × Connection :=
  match c.stream with
  | none => ([], c)
  | some s =>
    if s.number = number then
      match c.phase with
      | .waiting id => resume (c.progress id (change s))
      | _ => ([], { c with stream := some (change s) })
    else ([], c)

/-- What a connection does when something happens. -/
def step (c : Connection) : ConnectionEvent → List ConnectionAction × Connection
  | .issue command =>
    match c.phase with
    | .idle => drain (c.queue ++ [command]) c
    | _ => ([], { c with queue := c.queue ++ [command] })
  | .connected =>
    match c.phase with
    | .dialing id request =>
      resume ({ c with streams := c.streams + 1 }.transmit id request ⟨c.streams, [], none⟩)
    | _ => ([], c)
  | .connectFailed source => c.failDial (.connect c.config.address source)
  | .connectTimedOut => c.failDial (.connectTimeout c.config.address)
  | .arrived number bytes =>
    c.onStream number fun s =>
      match s.ending with
      | none => { s with received := s.received ++ bytes }
      | some _ => s
  | .ended number how => c.onStream number fun s => { s with ending := s.ending.or (some how) }
  | .timedOut =>
    match c.phase, c.stream with
    | .waiting id, some s => resume (c.fail id s (.callTimeout c.config.callTimeoutMs))
    | _, _ => ([], c)

def run : List ConnectionEvent → Connection → List ConnectionAction × Connection
  | [], c => ([], c)
  | event :: events, c =>
    let (actions, c) := c.step event
    let (more, c) := run events c
    (actions ++ more, c)

@[simp] theorem run_nil (c : Connection) : run [] c = ([], c) := rfl

theorem run_append (first second : List ConnectionEvent) (c : Connection) :
    run (first ++ second) c =
      ((run first c).1 ++ (run second (run first c).2).1, (run second (run first c).2).2) := by
  induction first generalizing c with
  | nil => simp
  | cons event events ih => simp [run, ih, List.append_assoc]

end Connection

end DeviceBroker
