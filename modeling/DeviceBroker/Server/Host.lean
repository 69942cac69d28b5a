import DeviceBroker.Config.Settings
import DeviceBroker.Server.Session
import DeviceBroker.Table

/-!
# Servers

A server is a broker behind a listener. It is bound only with settings that
pass their checks, and then holds one session for every client that is
connected, up to the number that the settings allow; the sessions share the
broker. `Server.boot` also sets the broker up, over cards that have started.
-/

namespace DeviceBroker

/-- Why a server cannot be had. -/
inductive ServerError where
  | bind (address source : String)
  | config (error : ConfigError)
  deriving DecidableEq, Repr

def ServerError.message : ServerError → String
  | .bind address source => "failed to bind " ++ address ++ ": " ++ source
  | .config error => "configuration error: " ++ error.message

/-- A broker behind a listener. -/
structure Server (cards : Nat) where
  config : ServerConfig
  broker : Broker cards
  sessions : Table Nat Session

namespace Server

variable {cards : Nat}

/-- A server over a broker, if the settings pass their checks. -/
def bind (config : ServerConfig) (broker : Broker cards) : Except ServerError (Server cards) :=
  match config.validate with
  | .error e => .error (.config e)
  | .ok () => .ok ⟨config, broker, .empty⟩

/-- Let a client in under a number. The client has to wait while there are as many
as the settings allow. -/
def accept (s : Server cards) (client : Nat) : Option (Server cards) :=
  if s.sessions.size < s.config.maxConnections.toNat then
    some { s with sessions := s.sessions.insert client (.start s.config.maxFrameBytes) }
  else none

/-- Receive bytes from a client that has a session: the bytes that go back, and
whether the session goes on. -/
def receive (s : Server cards) (client : Nat) (chunk : List UInt8) :
    Option (List UInt8 × Bool × Server cards) :=
  (s.sessions.find? client).map fun session =>
    match session.receive chunk s.broker with
    | (bytes, some session, broker) =>
      (bytes, true, { s with broker, sessions := s.sessions.insert client session })
    | (bytes, none, broker) =>
      (bytes, false, { s with broker, sessions := s.sessions.erase client })

def hangUp (s : Server cards) (client : Nat) : Server cards :=
  { s with sessions := s.sessions.erase client }

/-- A server over a new broker for the given cards, if all settings pass their checks. -/
def boot (config : BrokerConfig) (source : IdSource) (device : Simulator cards) :
    Except ServerError (Server cards) :=
  match config.validate with
  | .error e => .error (.config e)
  | .ok () => bind config.server (.start source device config.dispatcher.maxPayloadBytes)

end Server

end DeviceBroker
