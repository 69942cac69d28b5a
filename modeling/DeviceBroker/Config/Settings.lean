import DeviceBroker.Document.Basic
import DeviceBroker.Text.Blank

/-!
# Settings

The settings of the listener, the broker and the client, with their defaults,
the checks that they have to pass and the way they are read from and written to
documents. Checks are made in a fixed order and the first that fails is reported.
-/

namespace DeviceBroker

/-- Why the settings of a broker are refused. -/
inductive ConfigError where
  | blankHost
  /-- Frames are too small to be of use. -/
  | smallFrames (maxFrameBytes : UInt64)
  | noConnections
  | noPayload
  | noCards
  /-- A frame cannot carry the largest payload. -/
  | payloadAboveFrame (maxPayloadBytes maxFrameBytes : UInt64)
  deriving DecidableEq, Repr

/-- Why the settings of a client are refused. -/
inductive ClientConfigError where
  | blankHost
  | zeroPort
  | zeroTimeout
  /-- Frames are too small to be of use. -/
  | smallFrames (maxFrameBytes : UInt64)
  deriving DecidableEq, Repr

def smallFramesMessage (maxFrameBytes : UInt64) : String :=
  "max_frame_bytes " ++ toString maxFrameBytes.toNat ++ " is below 1024"

namespace ConfigError

def isLimit : ConfigError → Bool
  | .blankHost => false
  | _ => true

def detail : ConfigError → String
  | .blankHost => "host must not be empty"
  | .smallFrames maxFrameBytes => smallFramesMessage maxFrameBytes
  | .noConnections => "max_connections must be positive"
  | .noPayload => "max_payload_bytes must be positive"
  | .noCards => "sim_devices must be positive"
  | .payloadAboveFrame maxPayloadBytes maxFrameBytes =>
    "max_payload_bytes " ++ toString maxPayloadBytes.toNat ++ " must be below max_frame_bytes "
      ++ toString maxFrameBytes.toNat

def message (e : ConfigError) : String :=
  (if e.isLimit then "invalid limit: " else "invalid configuration: ") ++ e.detail

end ConfigError

namespace ClientConfigError

def isLimit : ClientConfigError → Bool
  | .blankHost => false
  | .zeroPort => false
  | .zeroTimeout => true
  | .smallFrames _ => true

def detail : ClientConfigError → String
  | .blankHost => "host must not be empty"
  | .zeroPort => "port must not be 0"
  | .zeroTimeout => "timeouts must be positive"
  | .smallFrames maxFrameBytes => smallFramesMessage maxFrameBytes

def message (e : ClientConfigError) : String :=
  (if e.isLimit then "invalid limit: " else "invalid client config: ") ++ e.detail

end ClientConfigError

def defaultMaxFrameBytes : UInt64 := 16777216

def defaultMaxPayloadBytes : UInt64 := 8388608

/-- The least that the largest frame can be set to. -/
def leastMaxFrameBytes : UInt64 := 1024

/-- Whether nothing but blank characters is in a host name. -/
def isBlankHost (host : String) : Bool := (Blank.trim host.toList).isEmpty

def address (host : String) (port : UInt16) : String := host ++ ":" ++ toString port.toNat

/-- The settings of the listener. -/
@[ext] structure ServerConfig where
  host : String := "127.0.0.1"
  port : UInt16 := 50051
  maxFrameBytes : UInt64 := defaultMaxFrameBytes
  maxConnections : UInt64 := 64
  deriving DecidableEq, Repr

/-- The settings of the request handler. -/
@[ext] structure DispatcherConfig where
  maxPayloadBytes : UInt64 := defaultMaxPayloadBytes
  deriving DecidableEq, Repr

/-- The settings of the log. -/
@[ext] structure LoggingConfig where
  logLevel : String := "info"
  jsonLogs : Bool := false
  deriving DecidableEq, Repr

/-- The settings of a broker. -/
@[ext] structure BrokerConfig where
  server : ServerConfig := {}
  dispatcher : DispatcherConfig := {}
  logging : LoggingConfig := {}
  simDevices : UInt64 := 1
  deriving DecidableEq, Repr

/-- The settings of a client. -/
@[ext] structure ClientConfig where
  host : String := "127.0.0.1"
  port : UInt16 := 50051
  connectTimeoutMs : UInt64 := 5000
  callTimeoutMs : UInt64 := 30000
  maxFrameBytes : UInt64 := defaultMaxFrameBytes
  deriving DecidableEq, Repr

/-- What a connection needs to know of the settings of a client. -/
@[ext] structure ConnectionConfig where
  address : String
  connectTimeoutMs : UInt64
  callTimeoutMs : UInt64
  maxFrameBytes : UInt64
  deriving DecidableEq, Repr

/-- Succeed only if the condition holds. -/
def demand {ε : Type} (condition : Bool) (error : ε) : Except ε Unit :=
  if condition then .ok () else .error error

@[simp] theorem demand_eq_ok_iff {ε : Type} {condition : Bool} {error : ε} {u : Unit} :
    demand condition error = .ok u ↔ condition = true := by
  cases condition <;> simp [demand]

/-- Checks pass in a row exactly if each of them passes. -/
theorem check_then_eq_ok_iff {ε : Type} {first second : Except ε Unit} {u : Unit} :
    (first >>= fun _ => second) = .ok u ↔ first = .ok () ∧ second = .ok () := by
  cases first with
  | error e => simp [bind, Except.bind]
  | ok _ => simp [bind, Except.bind]

namespace ServerConfig

def bindAddress (c : ServerConfig) : String := address c.host c.port

def validate (c : ServerConfig) : Except ConfigError Unit := do
  demand (!isBlankHost c.host) .blankHost
  demand (leastMaxFrameBytes ≤ c.maxFrameBytes) (.smallFrames c.maxFrameBytes)
  demand (c.maxConnections != 0) .noConnections

theorem validate_eq_ok_iff (c : ServerConfig) :
    c.validate = .ok () ↔
      isBlankHost c.host = false ∧ leastMaxFrameBytes ≤ c.maxFrameBytes ∧
        c.maxConnections ≠ 0 := by
  simp only [validate, check_then_eq_ok_iff, demand_eq_ok_iff, Bool.not_eq_true',
    decide_eq_true_eq, bne_iff_ne]

def ofDocument? (d : Document) : Option ServerConfig := do
  let field ← d.fields? ["host", "port", "max_frame_bytes", "max_connections"]
  let default : ServerConfig := {}
  return {
    host := ← Document.readOr default.host Document.text? (field "host")
    port := ← Document.readOr default.port Document.uint16? (field "port")
    maxFrameBytes :=
      ← Document.readOr default.maxFrameBytes Document.uint64? (field "max_frame_bytes")
    maxConnections :=
      ← Document.readOr default.maxConnections Document.uint64? (field "max_connections") }

def toDocument (c : ServerConfig) : Document :=
  .record
    [("host", .text c.host), ("port", .whole c.port.toNat),
     ("max_frame_bytes", .whole c.maxFrameBytes.toNat),
     ("max_connections", .whole c.maxConnections.toNat)]

end ServerConfig

namespace DispatcherConfig

def validate (c : DispatcherConfig) : Except ConfigError Unit :=
  demand (c.maxPayloadBytes != 0) .noPayload

theorem validate_eq_ok_iff (c : DispatcherConfig) :
    c.validate = .ok () ↔ c.maxPayloadBytes ≠ 0 := by
  simp only [validate, demand_eq_ok_iff, bne_iff_ne]

def ofDocument? (d : Document) : Option DispatcherConfig := do
  let field ← d.fields? ["max_payload_bytes"]
  let default : DispatcherConfig := {}
  return {
    maxPayloadBytes :=
      ← Document.readOr default.maxPayloadBytes Document.uint64? (field "max_payload_bytes") }

def toDocument (c : DispatcherConfig) : Document :=
  .record [("max_payload_bytes", .whole c.maxPayloadBytes.toNat)]

end DispatcherConfig

namespace LoggingConfig

def ofDocument? (d : Document) : Option LoggingConfig := do
  let field ← d.fields? ["log_level", "json_logs"]
  let default : LoggingConfig := {}
  return {
    logLevel := ← Document.readOr default.logLevel Document.text? (field "log_level")
    jsonLogs := ← Document.readOr default.jsonLogs Document.boolean? (field "json_logs") }

def toDocument (c : LoggingConfig) : Document :=
  .record [("log_level", .text c.logLevel), ("json_logs", .boolean c.jsonLogs)]

end LoggingConfig

namespace BrokerConfig

def validate (c : BrokerConfig) : Except ConfigError Unit := do
  c.server.validate
  c.dispatcher.validate
  demand (c.simDevices != 0) .noCards
  demand (c.dispatcher.maxPayloadBytes < c.server.maxFrameBytes)
    (.payloadAboveFrame c.dispatcher.maxPayloadBytes c.server.maxFrameBytes)

theorem validate_eq_ok_iff (c : BrokerConfig) :
    c.validate = .ok () ↔
      c.server.validate = .ok () ∧ c.dispatcher.validate = .ok () ∧ c.simDevices ≠ 0 ∧
        c.dispatcher.maxPayloadBytes < c.server.maxFrameBytes := by
  simp only [validate, check_then_eq_ok_iff, demand_eq_ok_iff, decide_eq_true_eq, bne_iff_ne]

def ofDocument? (d : Document) : Option BrokerConfig := do
  let field ← d.fields? ["server", "dispatcher", "logging", "sim_devices"]
  let default : BrokerConfig := {}
  return {
    server := ← Document.readOr default.server ServerConfig.ofDocument? (field "server")
    dispatcher :=
      ← Document.readOr default.dispatcher DispatcherConfig.ofDocument? (field "dispatcher")
    logging := ← Document.readOr default.logging LoggingConfig.ofDocument? (field "logging")
    simDevices := ← Document.readOr default.simDevices Document.uint64? (field "sim_devices") }

def toDocument (c : BrokerConfig) : Document :=
  .record
    [("server", c.server.toDocument), ("dispatcher", c.dispatcher.toDocument),
     ("logging", c.logging.toDocument), ("sim_devices", .whole c.simDevices.toNat)]

end BrokerConfig

namespace ClientConfig

def validate (c : ClientConfig) : Except ClientConfigError Unit := do
  demand (!isBlankHost c.host) .blankHost
  demand (c.port != 0) .zeroPort
  demand (c.connectTimeoutMs != 0 && c.callTimeoutMs != 0) .zeroTimeout
  demand (leastMaxFrameBytes ≤ c.maxFrameBytes) (.smallFrames c.maxFrameBytes)

theorem validate_eq_ok_iff (c : ClientConfig) :
    c.validate = .ok () ↔
      isBlankHost c.host = false ∧ c.port ≠ 0 ∧
        (c.connectTimeoutMs ≠ 0 ∧ c.callTimeoutMs ≠ 0) ∧
          leastMaxFrameBytes ≤ c.maxFrameBytes := by
  simp only [validate, check_then_eq_ok_iff, demand_eq_ok_iff, Bool.and_eq_true,
    Bool.not_eq_true', decide_eq_true_eq, bne_iff_ne]

def connection (c : ClientConfig) : ConnectionConfig where
  address := address c.host c.port
  connectTimeoutMs := c.connectTimeoutMs
  callTimeoutMs := c.callTimeoutMs
  maxFrameBytes := c.maxFrameBytes

def ofDocument? (d : Document) : Option ClientConfig := do
  let field ←
    d.fields? ["host", "port", "connect_timeout_ms", "call_timeout_ms", "max_frame_bytes"]
  let default : ClientConfig := {}
  return {
    host := ← Document.readOr default.host Document.text? (field "host")
    port := ← Document.readOr default.port Document.uint16? (field "port")
    connectTimeoutMs :=
      ← Document.readOr default.connectTimeoutMs Document.uint64? (field "connect_timeout_ms")
    callTimeoutMs :=
      ← Document.readOr default.callTimeoutMs Document.uint64? (field "call_timeout_ms")
    maxFrameBytes :=
      ← Document.readOr default.maxFrameBytes Document.uint64? (field "max_frame_bytes") }

def toDocument (c : ClientConfig) : Document :=
  .record
    [("host", .text c.host), ("port", .whole c.port.toNat),
     ("connect_timeout_ms", .whole c.connectTimeoutMs.toNat),
     ("call_timeout_ms", .whole c.callTimeoutMs.toNat),
     ("max_frame_bytes", .whole c.maxFrameBytes.toNat)]

end ClientConfig

end DeviceBroker
