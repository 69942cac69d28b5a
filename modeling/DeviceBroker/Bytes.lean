/-!
# Byte orders

A natural number becomes a fixed count of bytes and back. `littleEndian w n`
keeps the low `8 * w` bits of `n`, least significant byte first;
`bigEndian w n` is the same list reversed. Every fixed-width field of the wire
format, the register file and the identifiers is built from these two.
-/

namespace DeviceBroker.Bytes

/-- The `w` bytes of `n`, least significant first. -/
def littleEndian : Nat → Nat → List UInt8
  | 0, _ => []
  | w + 1, n => UInt8.ofNat (n % 256) :: littleEndian w (n / 256)

/-- The number whose bytes these are, least significant first. -/
def ofLittleEndian : List UInt8 → Nat
  | [] => 0
  | b :: rest => b.toNat + 256 * ofLittleEndian rest

@[simp] theorem littleEndian_zero (n : Nat) : littleEndian 0 n = [] := rfl

theorem littleEndian_succ (w n : Nat) :
    littleEndian (w + 1) n = UInt8.ofNat (n % 256) :: littleEndian w (n / 256) := rfl

@[simp] theorem ofLittleEndian_nil : ofLittleEndian [] = 0 := rfl

@[simp] theorem ofLittleEndian_cons (b : UInt8) (rest : List UInt8) :
    ofLittleEndian (b :: rest) = b.toNat + 256 * ofLittleEndian rest := rfl

@[simp] theorem length_littleEndian (w n : Nat) : (littleEndian w n).length = w := by
  induction w generalizing n with
  | zero => rfl
  | succ w ih => simp [littleEndian_succ, ih]

/-- A list of bytes is what its number is written as. -/
theorem littleEndian_ofLittleEndian (bytes : List UInt8) :
    littleEndian bytes.length (ofLittleEndian bytes) = bytes := by
  induction bytes with
  | nil => rfl
  | cons b rest ih =>
    have hb : b.toNat < 256 := b.toNat_lt
    have hm : (b.toNat + 256 * ofLittleEndian rest) % 256 = b.toNat := by omega
    have hd : (b.toNat + 256 * ofLittleEndian rest) / 256 = ofLittleEndian rest := by omega
    rw [List.length_cons, littleEndian_succ, ofLittleEndian_cons, hm, hd, ih, UInt8.ofNat_toNat]

/-- The `w` bytes of `n`, most significant first. -/
def bigEndian (w n : Nat) : List UInt8 := (littleEndian w n).reverse

/-- The number whose bytes these are, most significant first. -/
def ofBigEndian (bytes : List UInt8) : Nat := ofLittleEndian bytes.reverse

@[simp] theorem length_bigEndian (w n : Nat) : (bigEndian w n).length = w := by
  simp [bigEndian]

theorem bigEndian_ofBigEndian (bytes : List UInt8) :
    bigEndian bytes.length (ofBigEndian bytes) = bytes := by
  have h := littleEndian_ofLittleEndian bytes.reverse
  rw [List.length_reverse] at h
  simp [bigEndian, ofBigEndian, h]

end DeviceBroker.Bytes
