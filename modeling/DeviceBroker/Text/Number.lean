/-!
# Reading numbers

Unsigned numbers written in digits of a base: at least one digit, an optional
single `+` in front, and no value above what a word holds.
-/

namespace DeviceBroker.Number

/-- The value of a digit of the base; letters count in either case. -/
def digitValue? (base : Nat) (c : Char) : Option Nat :=
  let value :=
    if c.isDigit then c.toNat - '0'.toNat
    else if 'a' ≤ c ∧ c ≤ 'z' then c.toNat - 'a'.toNat + 10
    else if 'A' ≤ c ∧ c ≤ 'Z' then c.toNat - 'A'.toNat + 10
    else base
  if value < base then some value else none

/-- The number that continues the value `start` with the given digits. -/
def continued? (base : Nat) : Nat → List Char → Option Nat
  | start, [] => some start
  | start, c :: rest =>
    (digitValue? base c).bind fun d => continued? base (start * base + d) rest

@[simp] theorem continued?_nil (base start : Nat) : continued? base start [] = some start := rfl

theorem continued?_cons (base start : Nat) (c : Char) (rest : List Char) :
    continued? base start (c :: rest) =
      (digitValue? base c).bind fun d => continued? base (start * base + d) rest := rfl

/-- The natural number written in one digit or more. -/
def natural? (base : Nat) (digits : List Char) : Option Nat :=
  if digits.isEmpty then none else continued? base 0 digits

/-- The text without one leading `+`. -/
def dropPlus : List Char → List Char
  | '+' :: rest => rest
  | text => text

/-- The 64-bit word written in the digits of the base, after an optional `+`. -/
def word? (base : Nat) (text : List Char) : Option UInt64 :=
  (natural? base (dropPlus text)).bind fun n =>
    if n < UInt64.size then some (UInt64.ofNat n) else none

end DeviceBroker.Number
