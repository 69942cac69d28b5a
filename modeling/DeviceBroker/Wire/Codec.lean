import DeviceBroker.Bytes
import DeviceBroker.Text.Utf8

/-!
# Codecs

A codec writes values of a type as bytes and reads them back. Reading takes
the value from the front and returns the bytes that are left, so codecs can be
put one after another. The basic codecs are fixed-width integers and byte
strings, and the combinators are sequence, choice by a tag, option, list and
change of type; every format of this library is built from these.
-/

namespace DeviceBroker

/-- Why bytes could not be read as a value. -/
inductive DecodeError where
  /-- The input ends inside an integer, a tag or an element. -/
  | ended
  /-- The input ends inside the body of a text or of an array with a length. -/
  | bodyEnded
  /-- A tag that names no variant, and the number of variants. -/
  | variant (index : Nat) (count : Nat)
  /-- A tag of an option that is neither zero nor one. -/
  | optionTag (tag : Nat)
  /-- A truth value that is neither zero nor one. -/
  | boolean (byte : Nat)
  /-- A result code outside the table. -/
  | resultCode (code : Nat)
  /-- A text that is not valid UTF-8. -/
  | text (fault : Utf8.Fault)
  /-- A correlation identifier of another length. -/
  | uuidLength (length : Nat)
  /-- An array of another length. -/
  | arrayLength (length : Nat) (expected : Nat)
  deriving DecidableEq, Repr

def DecodeError.message : DecodeError → String
  | .ended => "io error: unexpected end of file"
  | .bodyEnded => "io error: "
  | .variant index count =>
    "invalid value: integer `" ++ toString index ++ "`, expected variant index 0 <= i < "
      ++ toString count
  | .optionTag tag => "tag for enum is not valid, found " ++ toString tag
  | .boolean byte =>
    "invalid u8 while decoding bool, expected 0 or 1, found " ++ toString byte
  | .resultCode code => "unknown result code " ++ toString code
  | .text fault => "string is not valid utf8: " ++ fault.message
  | .uuidLength length =>
    "UUID parsing failed: invalid length: expected 16 bytes, found " ++ toString length
  | .arrayLength length expected =>
    "invalid length " ++ toString length ++ ", expected an byte array of size "
      ++ toString expected

/-- A way to write values as bytes and to read them back. -/
structure Codec (α : Type) where
  encode : α → List UInt8
  decode : List UInt8 → Except DecodeError (α × List UInt8)

namespace Codec

variable {α β : Type}

def takeBytes (count : Nat) (short : DecodeError) (input : List UInt8) :
    Except DecodeError (List UInt8 × List UInt8) :=
  if count ≤ input.length then .ok (input.take count, input.drop count) else .error short

/-- A natural number in `width` bytes, least significant first. -/
def natural (width : Nat) : Codec Nat where
  encode n := Bytes.littleEndian width n
  decode input := do
    let (bytes, rest) ← takeBytes width .ended input
    return (Bytes.ofLittleEndian bytes, rest)

/-- Read more exactly: the value that was read has to be convertible. -/
def refine (c : Codec α) (into : α → Except DecodeError β) (back : β → α) : Codec β where
  encode value := c.encode (back value)
  decode input := do
    let (raw, rest) ← c.decode input
    return (← into raw, rest)

/-- The same bytes for another type. -/
def convert (c : Codec α) (into : α → β) (back : β → α) : Codec β :=
  c.refine (fun value => .ok (into value)) back

/-- Two values one after the other. -/
def seq (first : Codec α) (second : Codec β) : Codec (α × β) where
  encode value := first.encode value.1 ++ second.encode value.2
  decode input := do
    let (a, rest) ← first.decode input
    let (b, rest) ← second.decode rest
    return ((a, b), rest)

/-- A tag, and a value of the type that the tag selects. -/
def choice {ι : Type} {γ : ι → Type} (tag : Codec ι) (body : (i : ι) → Codec (γ i)) :
    Codec ((i : ι) × γ i) where
  encode value := tag.encode value.1 ++ (body value.1).encode value.2
  decode input := do
    let (i, rest) ← tag.decode input
    let (value, rest) ← (body i).decode rest
    return (⟨i, value⟩, rest)

def unit : Codec Unit where
  encode _ := []
  decode input := .ok ((), input)

def uint8 : Codec UInt8 := (natural 1).convert UInt8.ofNat UInt8.toNat

def uint16 : Codec UInt16 := (natural 2).convert UInt16.ofNat UInt16.toNat

def uint32 : Codec UInt32 := (natural 4).convert UInt32.ofNat UInt32.toNat

def uint64 : Codec UInt64 := (natural 8).convert UInt64.ofNat UInt64.toNat

/-- Four bytes in two's complement. -/
def int32 : Codec Int32 := uint32.convert UInt32.toInt32 Int32.toUInt32

def boolean : Codec Bool :=
  uint8.refine
    (fun b => if b = 0 then .ok false else if b = 1 then .ok true else .error (.boolean b.toNat))
    (fun value => if value then 1 else 0)

/-- One of a list of values, by its place in the list. -/
def enumeration [DecidableEq α] (values : List α) : Codec α :=
  uint32.refine
    (fun index =>
      match values[index.toNat]? with
      | some value => .ok value
      | none => .error (.variant index.toNat values.length))
    (fun value => UInt32.ofNat (values.idxOf value))

/-- The tag that tells if an optional value is there. -/
def presence : Codec Bool :=
  uint8.refine
    (fun b => if b = 0 then .ok false else if b = 1 then .ok true else .error (.optionTag b.toNat))
    (fun value => if value then 1 else 0)

def option (c : Codec α) : Codec (Option α) where
  encode
    | none => presence.encode false
    | some value => presence.encode true ++ c.encode value
  decode input := do
    let (present, rest) ← presence.decode input
    if present then
      let (value, rest) ← c.decode rest
      return (some value, rest)
    else return (none, rest)

def decodeMany (c : Codec α) : Nat → List UInt8 → Except DecodeError (List α × List UInt8)
  | 0, input => .ok ([], input)
  | count + 1, input => do
    let (value, rest) ← c.decode input
    let (values, rest) ← decodeMany c count rest
    return (value :: values, rest)

/-- The number of values, and then the values. -/
def list (c : Codec α) : Codec (List α) where
  encode values := (natural 8).encode values.length ++ values.flatMap c.encode
  decode input := do
    let (count, rest) ← (natural 8).decode input
    decodeMany c count rest

/-- The number of bytes, and then the bytes; `short` reports bytes that are missing. -/
def counted (short : DecodeError) : Codec (List UInt8) where
  encode bytes := (natural 8).encode bytes.length ++ bytes
  decode input := do
    let (count, rest) ← (natural 8).decode input
    takeBytes count short rest

def bytes : Codec (List UInt8) := counted .ended

/-- The bytes as an array of a size, or the given error. -/
def sized (size : Nat) (mismatch : DecodeError) (bytes : List UInt8) :
    Except DecodeError (Vector UInt8 size) :=
  if h : bytes.length = size then .ok ⟨bytes.toArray, h⟩ else .error mismatch

/-- The bytes of an array, without a length. -/
def bare (size : Nat) : Codec (Vector UInt8 size) where
  encode value := value.toList
  decode input := do
    let (bytes, rest) ← takeBytes size .ended input
    return (← sized size .ended bytes, rest)

/-- The bytes of an array after their number. -/
def array (size : Nat) : Codec (Vector UInt8 size) :=
  (counted .bodyEnded).refine
    (fun bytes => sized size (.arrayLength bytes.length size) bytes)
    (fun value => value.toList)

def textOfBytes (bytes : List UInt8) : Except DecodeError String :=
  match String.fromUTF8? ⟨bytes.toArray⟩ with
  | some text => .ok text
  | none => .error (.text ((Utf8.firstFault? bytes).getD ⟨0, none⟩))

/-- A text as UTF-8 after the number of its bytes. -/
def text : Codec String :=
  (counted .bodyEnded).refine textOfBytes fun text => text.toByteArray.data.toList

end Codec

end DeviceBroker
