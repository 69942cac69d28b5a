import DeviceBroker.Client.Link
import DeviceBroker.Proofs.Server.Pieces

/-!
# Networks that cut and delay

A network that loses nothing may still hand over what it carries in pieces, in
both directions, and take its time. A link whose network hands over everything
whole and at once is the case in which a cut leaves one piece and nothing is
delayed. What the two ends make of a call apart from its duration is the case of
a client without a clock, which waits for a reply for as long as it takes.
-/

namespace DeviceBroker

variable {cards : Nat}

/-- A way to cut bytes into pieces, of which none is lost. -/
structure Cut where
  pieces : List UInt8 → List (List UInt8)
  flatten_pieces (bytes : List UInt8) : (pieces bytes).flatten = bytes

def Cut.whole : Cut := ⟨fun bytes => [bytes], fun bytes => List.append_nil bytes⟩

/-- How a network hands over what it carries. The way to the server and back takes so many
microseconds, and a client that waits for a reply may have a clock. -/
structure Carriage where
  toServer : Cut
  toClient : Cut
  delayMicros : Nat
  clock : Bool

namespace Carriage

def whole : Carriage := ⟨.whole, .whole, 0, true⟩

def withoutClock (carriage : Carriage) : Carriage := { carriage with clock := false }

end Carriage

namespace Link

/-- The events that the network makes of an action when it cuts and delays what it carries. -/
def reactBy (carriage : Carriage) (l : Link cards) (client pauseMicros : Nat) :
    ConnectionAction → List ConnectionEvent × Link cards
  | .dial => l.dialed client carriage.delayMicros
  | .send stream bytes =>
    if l.server.sessions.contains client then
      let (reply, goesOn, server) := l.server.hear client (carriage.toServer.pieces bytes)
      let answer := (carriage.toClient.pieces reply).map (.arrived stream) ++
        (if goesOn then [] else [.ended stream .closed])
      let micros := carriage.delayMicros + server.broker.sleptSince l.server.broker pauseMicros
      (if carriage.clock then l.answered client micros answer else answer, { l with server })
    else ([], l)
  | action => l.react client pauseMicros action

def reactAllBy (carriage : Carriage) (client pauseMicros : Nat) :
    List ConnectionAction → Link cards → List ConnectionEvent × Link cards
  | [], l => ([], l)
  | action :: actions, l =>
    let (events, l) := l.reactBy carriage client pauseMicros action
    let (more, l) := reactAllBy carriage client pauseMicros actions l
    (events ++ more, l)

def roundsBy (carriage : Carriage) (client pauseMicros : Nat) :
    Nat → List ConnectionEvent → Link cards → List ConnectionAction × Link cards
  | 0, _, l => ([], l)
  | count + 1, events, l =>
    let (actions, l) := l.deliver client events
    let (events, l) := reactAllBy carriage client pauseMicros actions l
    let (more, l) := roundsBy carriage client pauseMicros count events l
    (actions ++ more, l)

def roundTripBy (carriage : Carriage) (client : Nat) (id : Uuid) (request : Request)
    (l : Link cards) : Except TransportError Reply × Link cards :=
  let pause := request.pauseMicros
  let (actions, l) := roundsBy carriage client pause roundsPerCall [.issue (.call id request)] l
  let (late, l) := roundsBy carriage client pause 1 [.timedOut] l
  ((resultOf? id (actions ++ late)).getD (.error .closed), l)

/-- The transport of a client over a network that cuts and delays what it carries. -/
def transportBy (carriage : Carriage) (client : Nat) (id : Uuid) : Transport (Link cards) :=
  ⟨roundTripBy carriage client id⟩

theorem reactBy_whole (l : Link cards) (client pauseMicros : Nat) (action : ConnectionAction) :
    l.reactBy .whole client pauseMicros action = l.react client pauseMicros action := by
  cases action with
  | send stream bytes =>
    rw [reactBy, react, Table.contains_eq]
    cases hs : l.server.sessions.find? client with
    | none => simp [Server.receive, hs]
    | some session =>
      rcases h : session.receive bytes l.server.broker with ⟨reply, _ | session', after⟩
      · have hreceive := Server.receive_of_none hs h
        simp [Carriage.whole, Cut.whole, Server.hear, hreceive]
      · have hreceive := Server.receive_of_some hs h
        simp [Carriage.whole, Cut.whole, Server.hear, hreceive]
  | dial | abandon | finish => rfl

theorem reactAllBy_whole (client pauseMicros : Nat) (actions : List ConnectionAction)
    (l : Link cards) :
    reactAllBy .whole client pauseMicros actions l = reactAll client pauseMicros actions l := by
  induction actions generalizing l with
  | nil => rfl
  | cons action actions ih => simp only [reactAllBy, reactAll, reactBy_whole, ih]

theorem roundsBy_whole (client pauseMicros count : Nat) (events : List ConnectionEvent)
    (l : Link cards) :
    roundsBy .whole client pauseMicros count events l =
      rounds client pauseMicros count events l := by
  induction count generalizing events l with
  | zero => rfl
  | succ count ih => simp only [roundsBy, rounds, reactAllBy_whole, ih]

/-- A link is the case in which everything is handed over whole. -/
theorem transportBy_whole (client : Nat) (id : Uuid) :
    (transportBy .whole client id : Transport (Link cards)) = transport client id := by
  have h : (roundTripBy .whole client id : Request → Link cards → _) = roundTrip client id := by
    funext request l
    simp only [roundTripBy, roundTrip, roundsBy_whole]
  rw [transportBy, transport, h]

end Link

end DeviceBroker
