import DeviceBroker.Client.Call

/-!
# Scripted transports

A transport that answers from a list and keeps the requests that it was given.
When the list has run out it behaves as a stream that was closed.
-/

namespace DeviceBroker

/-- The answers still to be given, and the requests so far. -/
structure Script where
  answers : List (Except TransportError Reply)
  sent : List Request

namespace Script

def empty : Script := ⟨[], []⟩

/-- Add an answer at the end. -/
def push (s : Script) (answer : Except TransportError Reply) : Script :=
  { s with answers := s.answers ++ [answer] }

def roundTrip (request : Request) (s : Script) : Except TransportError Reply × Script :=
  match s.answers with
  | [] => (.error .closed, ⟨[], s.sent ++ [request]⟩)
  | answer :: rest => (answer, ⟨rest, s.sent ++ [request]⟩)

theorem roundTrip_empty (request : Request) :
    empty.roundTrip request = (.error .closed, ⟨[], [request]⟩) := rfl

theorem roundTrip_push {s : Script} (h : s.answers = []) (answer : Except TransportError Reply)
    (request : Request) :
    (s.push answer).roundTrip request = (answer, ⟨[], s.sent ++ [request]⟩) := by
  simp [push, roundTrip, h]

def transport : Transport Script := ⟨roundTrip⟩

end Script

end DeviceBroker
