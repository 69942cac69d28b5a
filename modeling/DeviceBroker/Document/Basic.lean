import DeviceBroker.Device

/-!
# Documents

Settings are written down as documents: trees of records, lists, texts,
numbers and truth values. A record is read field by field, from a document of
named fields or from a plain list of the fields in order. A field that is not
given takes its default; a field of the wrong form makes the whole document
unreadable; fields that nobody asked for are ignored.
-/

namespace DeviceBroker

/-- A tree of plain data. -/
inductive Document where
  | null
  | boolean (value : Bool)
  | whole (value : Int)
  | decimal (value : Double)
  | text (value : String)
  | list (items : List Document)
  | record (fields : List (String × Document))
  deriving Inhabited

namespace Document

variable {α : Type}

def text? : Document → Option String
  | .text value => some value
  | _ => none

def boolean? : Document → Option Bool
  | .boolean value => some value
  | _ => none

/-- The whole number below a bound of a document that is one. -/
def natural? (bound : Nat) : Document → Option Nat
  | .whole value => if 0 ≤ value ∧ value < bound then some value.toNat else none
  | _ => none

def uint16? (d : Document) : Option UInt16 := (d.natural? UInt16.size).map UInt16.ofNat

def uint64? (d : Document) : Option UInt64 := (d.natural? UInt64.size).map UInt64.ofNat

/-- What a document gives for the fields of a record, whose names are known in
order. A list gives the first of them, and must not give more than there are. -/
def fields? (names : List String) : Document → Option (String → Option Document)
  | .record fields => some fun name => fields.lookup name
  | .list items =>
    if items.length ≤ names.length then some fun name => (names.zip items).lookup name else none
  | _ => none

/-- Read a field, or take the default where it is not given. -/
def readOr (default : α) (read : Document → Option α) : Option Document → Option α
  | none => some default
  | some d => read d

@[simp] theorem readOr_none (default : α) (read : Document → Option α) :
    readOr default read none = some default := rfl

@[simp] theorem readOr_some (default : α) (read : Document → Option α) (d : Document) :
    readOr default read (some d) = read d := rfl

/-- Without fields, every field of a record takes its default. -/
theorem fields?_record_nil (names : List String) :
    (record []).fields? names = some fun _ => none := rfl

end Document

end DeviceBroker
