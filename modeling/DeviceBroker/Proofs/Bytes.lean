import DeviceBroker.Bytes
import Mathlib.Algebra.Group.Nat.Defs

/-!
# Numbers and their bytes

Writing a number as `w` bytes keeps it modulo `256 ^ w`, and what is read from
`w` bytes is below that bound. So numbers below the bound and lists of `w`
bytes correspond one to one, in either byte order.
-/

namespace DeviceBroker.Bytes

/-- Reading back gives the low bytes of the number. -/
theorem ofLittleEndian_littleEndian (w n : Nat) :
    ofLittleEndian (littleEndian w n) = n % 256 ^ w := by
  induction w generalizing n with
  | zero => simp [Nat.mod_one]
  | succ w ih =>
    have h : n % 256 % 2 ^ 8 = n % 256 := Nat.mod_eq_of_lt (by omega)
    rw [littleEndian_succ, ofLittleEndian_cons, ih, UInt8.toNat_ofNat', h, Nat.pow_succ',
      Nat.mod_mul]

theorem ofLittleEndian_lt (bytes : List UInt8) : ofLittleEndian bytes < 256 ^ bytes.length := by
  induction bytes with
  | nil => simp
  | cons b rest ih =>
    have hb : b.toNat < 256 := b.toNat_lt
    rw [ofLittleEndian_cons, List.length_cons, Nat.pow_succ]
    omega

theorem ofBigEndian_bigEndian (w n : Nat) : ofBigEndian (bigEndian w n) = n % 256 ^ w := by
  simp [ofBigEndian, bigEndian, ofLittleEndian_littleEndian]

end DeviceBroker.Bytes
