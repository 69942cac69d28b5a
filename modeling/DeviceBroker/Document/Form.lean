import DeviceBroker.Document.Basic

/-!
# Forms

A form writes values of a type as documents and reads them back. Records are
put together from named fields: `Fields α` are the fields that hold a value of
type `α`, one group of fields can follow another, and a group becomes the form
of a record.
-/

namespace DeviceBroker

/-- A way to write values as documents and to read them back. -/
structure Form (α : Type) where
  write : α → Document
  read? : Document → Option α

/-- A way to write values as named fields and to read them back. -/
structure Fields (α : Type) where
  write : α → List (String × Document)
  read? : (String → Option Document) → Option α

namespace Form

variable {α β : Type}

def convert (f : Form α) (into : α → Option β) (back : β → α) : Form β where
  write value := f.write (back value)
  read? d := (f.read? d).bind into

def natural (bound : Nat) : Form Nat := ⟨fun n => .whole n, Document.natural? bound⟩

def uint8 : Form UInt8 := (natural UInt8.size).convert (some ∘ UInt8.ofNat) UInt8.toNat

def uint16 : Form UInt16 := (natural UInt16.size).convert (some ∘ UInt16.ofNat) UInt16.toNat

def uint32 : Form UInt32 := (natural UInt32.size).convert (some ∘ UInt32.ofNat) UInt32.toNat

def uint64 : Form UInt64 := (natural UInt64.size).convert (some ∘ UInt64.ofNat) UInt64.toNat

def int32 : Form Int32 where
  write n := .whole n.toInt
  read?
    | .whole n => if -0x80000000 ≤ n ∧ n < 0x80000000 then some (Int32.ofInt n) else none
    | _ => none

/-- Doubles; a whole number counts as well. -/
def double : Form Double where
  write value := .decimal value
  read?
    | .decimal value => some value
    | .whole n => some ⟨(Float.ofInt n).toBits⟩
    | _ => none

def boolean : Form Bool := ⟨.boolean, Document.boolean?⟩

def text : Form String := ⟨.text, Document.text?⟩

def done : Form Unit where
  write _ := .boolean true
  read?
    | .boolean true => some ()
    | _ => none

def option (f : Form α) : Form (Option α) where
  write
    | none => .null
    | some value => f.write value
  read?
    | .null => some none
    | d => (f.read? d).map some

def list (f : Form α) : Form (List α) where
  write values := .list (values.map f.write)
  read?
    | .list items => items.mapM f.read?
    | _ => none

def bytes (size : Nat) : Form (Vector UInt8 size) :=
  (list uint8).convert
    (fun bytes =>
      if h : bytes.length = size then some ⟨bytes.toArray, by simpa using h⟩ else none)
    Vector.toList

def named [DecidableEq α] (names : List (α × String)) : Form α where
  write value := .text ((List.lookup value names).getD "")
  read? d := d.text?.bind fun name => (names.find? fun entry => entry.2 = name).map Prod.fst

def field (name : String) (f : Form α) : Fields α where
  write value := [(name, f.write value)]
  read? lookup := (lookup name).bind f.read?

end Form

namespace Fields

variable {α β : Type}

def seq (first : Fields α) (second : Fields β) : Fields (α × β) where
  write value := first.write value.1 ++ second.write value.2
  read? lookup := do return (← first.read? lookup, ← second.read? lookup)

def record (f : Fields α) : Form α where
  write value := .record (f.write value)
  read?
    | .record fields => f.read? fun name => List.lookup name fields
    | _ => none

/-- The record of the fields, for another type. -/
def recordOf (f : Fields α) (into : α → β) (back : β → α) : Form β :=
  f.record.convert (some ∘ into) back

end Fields

end DeviceBroker
