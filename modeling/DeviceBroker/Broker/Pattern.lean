import DeviceBroker.Memory

/-!
# Fill patterns

The named patterns that a buffer can be filled with. Names are read without
regard to the case of their letters, and two of the patterns have a second
name.
-/

namespace DeviceBroker

/-- A pattern of bytes. -/
inductive FillPattern where
  | zero
  | ones
  | increment
  | deadBeef
  deriving DecidableEq, Repr

namespace FillPattern

def name : FillPattern → String
  | .zero => "zero"
  | .ones => "ones"
  | .increment => "increment"
  | .deadBeef => "deadbeef"

def ofName? (text : String) : Option FillPattern :=
  match text.toLower with
  | "zero" => some .zero
  | "zeros" => some .zero
  | "ones" => some .ones
  | "increment" => some .increment
  | "incr" => some .increment
  | "deadbeef" => some .deadBeef
  | _ => none

def byteAt : FillPattern → Nat → UInt8
  | .zero, _ => 0
  | .ones, _ => 0xff
  | .increment, i => UInt8.ofNat i
  | .deadBeef, i =>
    match i % 4 with
    | 0 => 0xef
    | 1 => 0xbe
    | 2 => 0xad
    | _ => 0xde

def fill (pattern : FillPattern) (size : Nat) : Memory := .ofFn size pattern.byteAt

end FillPattern

end DeviceBroker
