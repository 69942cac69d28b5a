/-!
# Hexadecimal text

Lower-case hexadecimal digits of naturals. `fixed w n` is the text of exactly
`w` digits, which keeps the order of numbers; `minimal n` has no leading zero.
-/

namespace DeviceBroker.Hex

/-- The digit of a value below sixteen. -/
def digit (n : Nat) : Char := Nat.digitChar n

/-- The last `w` hexadecimal digits of `n`, most significant first. -/
def fixed : Nat → Nat → List Char
  | 0, _ => []
  | w + 1, n => fixed w (n / 16) ++ [digit (n % 16)]

@[simp] theorem fixed_zero (n : Nat) : fixed 0 n = [] := rfl

theorem fixed_succ (w n : Nat) :
    fixed (w + 1) n = fixed w (n / 16) ++ [digit (n % 16)] := rfl

@[simp] theorem length_fixed (w n : Nat) : (fixed w n).length = w := by
  induction w generalizing n with
  | zero => rfl
  | succ w ih => simp [fixed_succ, ih]

/-- The digits of `n` without a leading zero; zero is the single digit `0`. -/
def minimal (n : Nat) : List Char := Nat.toDigits 16 n

def ofBytes (bytes : List UInt8) : List Char :=
  bytes.flatMap fun b => fixed 2 b.toNat

@[simp] theorem ofBytes_nil : ofBytes [] = [] := rfl

@[simp] theorem ofBytes_cons (b : UInt8) (bytes : List UInt8) :
    ofBytes (b :: bytes) = fixed 2 b.toNat ++ ofBytes bytes := rfl

end DeviceBroker.Hex
