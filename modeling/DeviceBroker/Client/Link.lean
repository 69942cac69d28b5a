import DeviceBroker.Client.Connection
import DeviceBroker.Override
import DeviceBroker.Server.Host

/-!
# Links

Clients and their server, joined by a network. The network loses nothing: what
a client writes arrives at once and whole, and so does what comes back. It may
have no way from a client to the server, and then every attempt to connect
fails. A client for whom the server has no room is connected but not heard. A
round trip is the sequence of events that this network makes of one call.

Time passes only while the broker sleeps between the reads of a poll. A client
gives up a call for which it sleeps too long, and the answer that comes later
finds nobody. A call that is not answered runs out of time as well.
-/

namespace DeviceBroker

/-- What comes of attempts to connect. -/
inductive Network where
  | reachable
  | unreachable (reason : String)
  deriving DecidableEq, Repr

/-- The reason of a host without a route to the address. -/
def Network.noRoute : Network := .unreachable "Network is unreachable (os error 101)"

/-- Clients and their server. -/
structure Link (cards : Nat) where
  network : Network
  server : Server cards
  clients : Nat → Connection

namespace Link

variable {cards : Nat}

/-- What comes of a dial of a client that takes so many microseconds. -/
def dialed (l : Link cards) (client micros : Nat) : List ConnectionEvent × Link cards :=
  match l.network with
  | .unreachable reason => ([.connectFailed reason], l)
  | .reachable =>
    if (l.clients client).config.connectTimeoutMs.toNat * 1000 ≤ micros then
      ([.connectTimedOut], l)
    else ([.connected], { l with server := (l.server.accept client).getD l.server })

/-- What a client hears of an answer that takes so many microseconds. The time for the call
may be over before it comes. -/
def answered (l : Link cards) (client micros : Nat) (answer : List ConnectionEvent) :
    List ConnectionEvent :=
  if (l.clients client).config.callTimeoutMs.toNat * 1000 ≤ micros then .timedOut :: answer
  else answer

/-- The events that the network makes of an action of a client. The stream of a client
reaches the session of the same number, and the broker pauses between calls of its driver. -/
def react (l : Link cards) (client pauseMicros : Nat) :
    ConnectionAction → List ConnectionEvent × Link cards
  | .dial => l.dialed client 0
  | .send stream bytes =>
    match l.server.receive client bytes with
    | none => ([], l)
    | some (reply, goesOn, server) =>
      (l.answered client (server.broker.sleptSince l.server.broker pauseMicros)
          (.arrived stream reply :: (if goesOn then [] else [.ended stream .closed])),
        { l with server })
  | .abandon _ => ([], { l with server := l.server.hangUp client })
  | .finish _ _ => ([], l)

/-- The events that the network makes of some actions, in order. -/
def reactAll (client pauseMicros : Nat) :
    List ConnectionAction → Link cards → List ConnectionEvent × Link cards
  | [], l => ([], l)
  | action :: actions, l =>
    let (events, l) := l.react client pauseMicros action
    let (more, l) := reactAll client pauseMicros actions l
    (events ++ more, l)

@[simp] theorem reactAll_nil (l : Link cards) (client pauseMicros : Nat) :
    reactAll client pauseMicros [] l = ([], l) := rfl

theorem reactAll_append (l : Link cards) (client pauseMicros : Nat)
    (first second : List ConnectionAction) :
    reactAll client pauseMicros (first ++ second) l =
      ((reactAll client pauseMicros first l).1 ++
          (reactAll client pauseMicros second (reactAll client pauseMicros first l).2).1,
        (reactAll client pauseMicros second (reactAll client pauseMicros first l).2).2) := by
  induction first generalizing l with
  | nil => rfl
  | cons action first ih => simp [reactAll, ih, List.append_assoc]

/-- Let events reach a client: what it does. -/
def deliver (l : Link cards) (client : Nat) (events : List ConnectionEvent) :
    List ConnectionAction × Link cards :=
  let (actions, connection) := (l.clients client).run events
  (actions, { l with clients := override l.clients client connection })

/-- Let events reach a client, and then what the network makes of its actions, for a
number of rounds: what the client does in all of them. -/
def rounds (client pauseMicros : Nat) :
    Nat → List ConnectionEvent → Link cards → List ConnectionAction × Link cards
  | 0, _, l => ([], l)
  | count + 1, events, l =>
    let (actions, l) := l.deliver client events
    let (events, l) := reactAll client pauseMicros actions l
    let (more, l) := rounds client pauseMicros count events l
    (actions ++ more, l)

/-- The result of a call among the actions of a client. -/
def resultOf? (id : Uuid) (actions : List ConnectionAction) :
    Option (Except TransportError Reply) :=
  actions.findSome? fun
    | .finish finished result => if finished = id then some result else none
    | _ => none

/-- The rounds of one call: issue it, hear that the stream is there, hear the reply. -/
def roundsPerCall : Nat := 3

def roundTrip (client : Nat) (id : Uuid) (request : Request) (l : Link cards) :
    Except TransportError Reply × Link cards :=
  let pause := request.pauseMicros
  let (actions, l) := rounds client pause roundsPerCall [.issue (.call id request)] l
  let (late, l) := rounds client pause 1 [.timedOut] l
  ((resultOf? id (actions ++ late)).getD (.error .closed), l)

def disconnect (client : Nat) (l : Link cards) : Link cards :=
  (rounds client 0 1 [.issue .disconnect] l).2

/-- The transport of a client, whose next call has the given identifier. -/
def transport (client : Nat) (id : Uuid) : Transport (Link cards) := ⟨roundTrip client id⟩

end Link

end DeviceBroker
