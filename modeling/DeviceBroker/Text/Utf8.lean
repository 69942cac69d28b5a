/-!
# Faults in UTF-8

Bytes that are not valid UTF-8 are described by where the valid beginning ends
and by how many bytes the faulty sequence has, or by its being cut off at the
end. `firstFault?` finds the first fault.
-/

namespace DeviceBroker.Utf8

/-- The first fault of a byte sequence. -/
@[ext] structure Fault where
  /-- The length of the valid beginning. -/
  validUpTo : Nat
  /-- The bytes of the faulty sequence; absent when the end cuts it off. -/
  length? : Option Nat
  deriving DecidableEq, Repr

def Fault.message (fault : Fault) : String :=
  match fault.length? with
  | some length =>
    "invalid utf-8 sequence of " ++ toString length ++ " bytes from index "
      ++ toString fault.validUpTo
  | none => "incomplete utf-8 byte sequence from index " ++ toString fault.validUpTo

def isContinuation (b : UInt8) : Bool := 0x80 ≤ b && b ≤ 0xbf

/-- How a sequence goes on after its first byte: how many bytes follow, and the
range of the next one. Bytes that start no sequence have none. -/
def afterFirst? (b : UInt8) : Option (Nat × UInt8 × UInt8) :=
  if b < 0x80 then some (0, 0, 0)
  else if b < 0xc2 then none
  else if b < 0xe0 then some (1, 0x80, 0xbf)
  else if b = 0xe0 then some (2, 0xa0, 0xbf)
  else if b = 0xed then some (2, 0x80, 0x9f)
  else if b < 0xf0 then some (2, 0x80, 0xbf)
  else if b = 0xf0 then some (3, 0x90, 0xbf)
  else if b < 0xf4 then some (3, 0x80, 0xbf)
  else if b = 0xf4 then some (3, 0x80, 0x8f)
  else none

/-- The first fault from an index on. `pending` bytes of the sequence that starts
at `start` are still missing, and the next of them has to be in the range. -/
def faultFrom : List UInt8 → (start index pending : Nat) → (low high : UInt8) → Option Fault
  | [], start, _, pending, _, _ => if pending = 0 then none else some ⟨start, none⟩
  | b :: rest, start, index, pending, low, high =>
    match pending with
    | 0 =>
      match afterFirst? b with
      | none => some ⟨index, some 1⟩
      | some (following, low, high) => faultFrom rest index (index + 1) following low high
    | pending + 1 =>
      if low ≤ b ∧ b ≤ high then faultFrom rest start (index + 1) pending 0x80 0xbf
      else some ⟨start, some (index - start)⟩

/-- The first fault of a byte sequence; valid bytes have none. -/
def firstFault? (bytes : List UInt8) : Option Fault := faultFrom bytes 0 0 0 0 0

end DeviceBroker.Utf8
