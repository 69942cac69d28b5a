import DeviceBroker.Document.Basic
import DeviceBroker.Text.Hex
import DeviceBroker.Text.Number

/-!
# Documents as text

JSON text of documents. Of two fields with one name the later is found. A
number is whole if it has neither a fraction nor an exponent and fits 64 bits
with or without a sign; minus zero is not whole. A decimal is read as the
nearest double and written as the text of its bits, so that nothing is lost.
-/

namespace DeviceBroker

/-- The double nearest to a decimal, unless it is far too large. -/
def Double.ofDecimal? (negative : Bool) (digits : Nat) (exponent : Int) : Option Double :=
  let magnitude : Int := (toString digits).length + exponent
  if digits = 0 ∨ magnitude < -400 then some ⟨(if negative then -0.0 else 0.0 : Float).toBits⟩
  else if 400 < magnitude then none
  else
    let value := Float.ofScientific digits (exponent < 0) exponent.natAbs
    some ⟨(if negative then -value else value).toBits⟩

namespace Json

def isSpace (c : Char) : Bool := c = ' ' || c = '\n' || c = '\r' || c = '\t'

def skip (text : List Char) : List Char := text.dropWhile isSpace

def unescape? : Char → Option Char
  | '"' => some '"'
  | '\\' => some '\\'
  | '/' => some '/'
  | 'b' => some '\x08'
  | 'f' => some '\x0c'
  | 'n' => some '\n'
  | 'r' => some '\r'
  | 't' => some '\t'
  | _ => none

/-- The character of a code unit that stands alone, or of a pair of units. -/
def unitChar? (unit : Nat) (second : Option Nat) : Option Char :=
  match second with
  | none => if 0xd800 ≤ unit ∧ unit < 0xe000 then none else some (Char.ofNat unit)
  | some low =>
    if 0xd800 ≤ unit ∧ unit < 0xdc00 ∧ 0xdc00 ≤ low ∧ low < 0xe000 then
      some (Char.ofNat (0x10000 + (unit - 0xd800) * 0x400 + (low - 0xdc00)))
    else none

/-- The rest of a quoted text; `seen` are the characters so far, the last first. -/
def textTail? (seen : List Char) : List Char → Option (String × List Char)
  | [] => none
  | '"' :: rest => some (String.ofList seen.reverse, rest)
  | '\\' :: 'u' :: a :: b :: c :: d :: rest =>
    match Number.natural? 16 [a, b, c, d] with
    | none => none
    | some unit =>
      match unitChar? unit none, rest with
      | some char, rest => textTail? (char :: seen) rest
      | none, '\\' :: 'u' :: e :: f :: g :: h :: rest =>
        match (Number.natural? 16 [e, f, g, h]).bind fun low => unitChar? unit (some low) with
        | some char => textTail? (char :: seen) rest
        | none => none
      | none, _ => none
  | '\\' :: c :: rest =>
    match unescape? c with
    | some char => textTail? (char :: seen) rest
    | none => none
  | c :: rest => if c.toNat < 0x20 then none else textTail? (c :: seen) rest

/-- The digits at the front of a text, of which there has to be one, and the rest. -/
def digits? (text : List Char) : Option (List Char × List Char) :=
  let digits := text.takeWhile Char.isDigit
  if digits.isEmpty then none else some (digits, text.dropWhile Char.isDigit)

/-- The sign at the front of a text, and the rest. -/
def sign (plus : Bool) : List Char → Bool × List Char
  | '-' :: rest => (true, rest)
  | '+' :: rest => (false, if plus then rest else '+' :: rest)
  | text => (false, text)

/-- The fraction at the front of a text, if there is a point. -/
def fraction? : List Char → Option (List Char × List Char)
  | '.' :: rest => digits? rest
  | text => some ([], text)

/-- The exponent at the front of a text, if there is its letter. -/
def exponent? : List Char → Option (Option Int × List Char)
  | 'e' :: rest | 'E' :: rest => do
    let (negative, rest) := sign true rest
    let (digits, rest) ← digits? rest
    let value ← Number.natural? 10 digits
    return (some (if negative then -(value : Int) else value), rest)
  | text => some (none, text)

/-- Whether a number without fraction and exponent is whole. -/
def isWhole (negative : Bool) (value : Nat) : Bool :=
  if negative then value != 0 && value ≤ UInt64.size / 2 else value < UInt64.size

def number? (text : List Char) : Option (Document × List Char) := do
  let (negative, rest) := sign false text
  let (whole, rest) ← digits? rest
  let (fraction, rest) ← fraction? rest
  let (exponent, rest) ← exponent? rest
  let value ← Number.natural? 10 (whole ++ fraction)
  if whole.length > 1 ∧ whole.head? = some '0' then none
  else if fraction.isEmpty ∧ exponent.isNone ∧ isWhole negative value then
    return (.whole (if negative then -(value : Int) else value), rest)
  else
    let double ← Double.ofDecimal? negative value (exponent.getD 0 - fraction.length)
    return (.decimal double, rest)

mutual

/-- The value at the front of a text. The fuel bounds how far values are inside one
another or after one another. -/
def value? (fuel : Nat) (text : List Char) : Option (Document × List Char) :=
  match fuel with
  | 0 => none
  | fuel + 1 =>
    match skip text with
    | '"' :: rest => (textTail? [] rest).map fun (value, rest) => (.text value, rest)
    | '[' :: rest =>
      match skip rest with
      | ']' :: rest => some (.list [], rest)
      | rest => items? fuel [] rest
    | '\x7b' :: rest =>
      match skip rest with
      | '\x7d' :: rest => some (.record [], rest)
      | rest => fields? fuel [] rest
    | 't' :: 'r' :: 'u' :: 'e' :: rest => some (.boolean true, rest)
    | 'f' :: 'a' :: 'l' :: 's' :: 'e' :: rest => some (.boolean false, rest)
    | 'n' :: 'u' :: 'l' :: 'l' :: rest => some (.null, rest)
    | rest => number? rest

/-- The rest of a list; `seen` are the items so far, the last first. -/
def items? (fuel : Nat) (seen : List Document) (text : List Char) :
    Option (Document × List Char) :=
  match fuel with
  | 0 => none
  | fuel + 1 =>
    match value? fuel text with
    | none => none
    | some (value, rest) =>
      match skip rest with
      | ',' :: rest => items? fuel (value :: seen) rest
      | ']' :: rest => some (.list (value :: seen).reverse, rest)
      | _ => none

/-- The rest of a record; `seen` are the fields so far, the last first. They stay in
that order, so that the last of a name is found first. -/
def fields? (fuel : Nat) (seen : List (String × Document)) (text : List Char) :
    Option (Document × List Char) :=
  match fuel with
  | 0 => none
  | fuel + 1 =>
    match skip text with
    | '"' :: rest =>
      match textTail? [] rest with
      | none => none
      | some (name, rest) =>
        match skip rest with
        | ':' :: rest =>
          match value? fuel rest with
          | none => none
          | some (value, rest) =>
            match skip rest with
            | ',' :: rest => fields? fuel ((name, value) :: seen) rest
            | '\x7d' :: rest => some (.record ((name, value) :: seen), rest)
            | _ => none
        | _ => none
    | _ => none

end

/-- The document that a text writes. A list or record takes two characters for its
brackets and one for every separator, so the length of the text is fuel enough. -/
def parse? (text : String) : Option Document :=
  let characters := text.toList
  match value? (characters.length + 1) characters with
  | some (value, rest) => if (skip rest).isEmpty then some value else none
  | none => none

def escape (c : Char) : List Char :=
  if c = '"' then ['\\', '"']
  else if c = '\\' then ['\\', '\\']
  else if c.toNat < 0x20 then '\\' :: 'u' :: Hex.fixed 4 c.toNat
  else [c]

def quote (text : String) : String :=
  String.ofList ('"' :: text.toList.flatMap escape ++ ['"'])

def doubleText (value : Double) : String :=
  "f64:" ++ String.ofList (Hex.fixed 16 value.bits.toNat)

mutual

/-- The text of a document, after what was written before. -/
def write (before : String) : Document → String
  | .null => before ++ "null"
  | .boolean value => before ++ if value then "true" else "false"
  | .whole value => before ++ toString value
  | .decimal value => before ++ quote (doubleText value)
  | .text value => before ++ quote value
  | .list items => writeItems (before ++ "[") "" items ++ "]"
  | .record fields => writeFields (before ++ "\x7b") "" fields ++ "\x7d"

/-- The items of a list, the first after a separator of its own. -/
def writeItems (before separator : String) : List Document → String
  | [] => before
  | item :: items => writeItems (write (before ++ separator) item) "," items

/-- The fields of a record, the first after a separator of its own. -/
def writeFields (before separator : String) : List (String × Document) → String
  | [] => before
  | (name, value) :: fields =>
    writeFields (write (before ++ separator ++ quote name ++ ":") value) "," fields

end

def render (d : Document) : String := write "" d

end Json

end DeviceBroker
