import DeviceBroker.Proofs.Bytes
import DeviceBroker.RemoteId

/-!
# The order of identifiers

Bytes in big-endian order and hexadecimal text of a fixed width are both
positional notations: the digits of a number in some base, most significant
first. Among numbers of one width such a notation keeps the order, if its digits
stand in the order of their values. An identifier is written as two words of one
width, so its bytes and its text are in lexicographic order exactly if the
identifiers are in their own order, which reads the words in turn.
-/

namespace DeviceBroker

namespace Positional

variable {α : Type} {base w m n : Nat} {digit : Nat → α}

/-! ## Positional notation -/

/-- The last `w` digits of `n` in a base, most significant first. -/
def digits (base : Nat) (digit : Nat → α) : Nat → Nat → List α
  | 0, _ => []
  | w + 1, n => digits base digit w (n / base) ++ [digit (n % base)]

theorem digits_succ (base : Nat) (digit : Nat → α) (w n : Nat) :
    digits base digit (w + 1) n =
      digits base digit w (n / base) ++ [digit (n % base)] := rfl

@[simp] theorem length_digits (base : Nat) (digit : Nat → α) (w n : Nat) :
    (digits base digit w n).length = w := by
  induction w generalizing n with
  | zero => rfl
  | succ w ih => rw [digits_succ, List.length_append, ih, List.length_singleton]

theorem map_digits {β : Type} (f : α → β) (base : Nat) (digit : Nat → α) (w n : Nat) :
    (digits base digit w n).map f = digits base (f ∘ digit) w n := by
  induction w generalizing n with
  | zero => rfl
  | succ w ih =>
    rw [digits_succ, digits_succ, List.map_append, ih, List.map_singleton,
      Function.comp_apply]

theorem mem_digits {c : α} (hbase : 0 < base) (h : c ∈ digits base digit w n) :
    ∃ d < base, c = digit d := by
  induction w generalizing n with
  | zero => cases h
  | succ w ih =>
    rcases List.mem_append.mp h with h | h
    · exact ih h
    · exact ⟨n % base, Nat.mod_lt n hbase, List.mem_singleton.mp h⟩

theorem bigEndian_eq_digits (w n : Nat) :
    Bytes.bigEndian w n = digits 256 UInt8.ofNat w n := by
  induction w generalizing n with
  | zero => rfl
  | succ w ih =>
    rw [digits_succ, ← ih, Bytes.bigEndian, Bytes.littleEndian_succ, List.reverse_cons]
    rfl

theorem fixed_eq_digits (w n : Nat) : Hex.fixed w n = digits 16 Hex.digit w n := by
  induction w generalizing n with
  | zero => rfl
  | succ w ih => rw [Hex.fixed_succ, digits_succ, ih]

/-! ## Lexicographic order -/

/-- A number is smaller by its leading digits, or by its last one where these agree. -/
theorem lt_iff_div_mod (base m n : Nat) :
    m < n ↔ m / base < n / base ∨ m / base = n / base ∧ m % base < n % base := by
  have hm := Nat.div_add_mod m base
  have hn := Nat.div_add_mod n base
  constructor
  · intro h
    rcases Nat.lt_or_eq_of_le (Nat.div_le_div_right (c := base) (Nat.le_of_lt h)) with hlt | heq
    · exact .inl hlt
    · rw [heq] at hm
      exact .inr ⟨heq, by omega⟩
  · rintro (hlt | ⟨heq, hlt⟩)
    · exact Nat.lt_of_div_lt_div hlt
    · rw [heq] at hm
      omega

variable [LT α]

/-- Where the first parts have one length, lists compare by these before the rest. -/
theorem append_lt_append_iff {xs ys us vs : List α} (h : xs.length = ys.length) :
    xs ++ us < ys ++ vs ↔ xs < ys ∨ xs = ys ∧ us < vs := by
  induction xs generalizing ys with
  | nil =>
    obtain rfl := List.length_eq_zero_iff.mp h.symm
    simp
  | cons x xs ih =>
    cases ys with
    | nil => cases h
    | cons y ys =>
      rw [List.cons_append, List.cons_append, List.cons_lt_cons_iff, List.cons_lt_cons_iff,
        ih (Nat.succ.inj h), List.cons.injEq, and_or_left, and_assoc, or_assoc]

variable [Std.Irrefl (α := α) (· < ·)]

/-- Numbers whose written forms are in their order are the same if these are. -/
theorem eq_of_lt_iff {write : Nat → List α} (hmn : write m < write n ↔ m < n)
    (hnm : write n < write m ↔ n < m) (h : write m = write n) : m = n := by
  rw [h] at hmn hnm
  have hle := mt hmn.mpr (List.lt_irrefl _)
  have hge := mt hnm.mpr (List.lt_irrefl _)
  omega

/-- Numbers of one width are in the order of their digits. -/
theorem digits_lt_iff (hbase : 0 < base)
    (ordered : ∀ i < base, ∀ j < base, digit i < digit j ↔ i < j)
    (hm : m < base ^ w) (hn : n < base ^ w) :
    digits base digit w m < digits base digit w n ↔ m < n := by
  induction w generalizing m n with
  | zero =>
    rw [Nat.pow_zero, Nat.lt_one_iff] at hm hn
    subst hm hn
    simp [digits]
  | succ w ih =>
    have hm' : m / base < base ^ w := Nat.div_lt_of_lt_mul (by rwa [Nat.pow_succ'] at hm)
    have hn' : n / base < base ^ w := Nat.div_lt_of_lt_mul (by rwa [Nat.pow_succ'] at hn)
    have hlead : digits base digit w (m / base) = digits base digit w (n / base) ↔
        m / base = n / base :=
      ⟨eq_of_lt_iff (ih hm' hn') (ih hn' hm'), fun heq => congrArg _ heq⟩
    rw [digits_succ, digits_succ, append_lt_append_iff (by simp), ih hm' hn', hlead,
      List.cons_lt_cons_iff, ordered _ (Nat.mod_lt m hbase) _ (Nat.mod_lt n hbase),
      lt_iff_div_mod base m n]
    simp

end Positional

/-- A text whose characters take one byte each is encoded character by character. -/
theorem utf8_ofList {chars : List Char} (h : ∀ c ∈ chars, c.utf8Size = 1) :
    (String.ofList chars).toByteArray.data.toList = chars.map fun c => c.val.toUInt8 := by
  rw [String.toByteArray_ofList, List.utf8Encode, List.data_toByteArray, List.toList_toArray]
  induction chars with
  | nil => rfl
  | cons c rest ih =>
    rw [List.flatMap_cons, ih fun c hc => h c (List.mem_cons_of_mem _ hc),
      String.utf8EncodeChar_eq_singleton (h c List.mem_cons_self)]
    rfl

namespace RemoteId

open Positional

/-! ## Identifiers -/

theorem compare_eq_lt_iff (a b : RemoteId) :
    a.compare b = .lt ↔ a.high < b.high ∨ a.high = b.high ∧ a.low < b.low := by
  have hlt (x y : UInt64) : Ord.compare x y = .lt ↔ x < y := compareOfLessAndEq_eq_lt
  have heq (x y : UInt64) : Ord.compare x y = .eq ↔ x = y :=
    compareOfLessAndEq_eq_eq UInt64.le_refl UInt64.not_le
  rw [compare, Ordering.then_eq_lt, hlt, hlt, heq]

/-- Two identifiers are the same if neither comes before the other. -/
theorem eq_of_not_lt {a b : RemoteId} (hab : a.compare b ≠ .lt) (hba : b.compare a ≠ .lt) :
    a = b := by
  rw [Ne, compare_eq_lt_iff, UInt64.lt_iff_toNat_lt, UInt64.lt_iff_toNat_lt, ← UInt64.toNat_inj]
    at hab hba
  apply RemoteId.ext
  · exact UInt64.toNat_inj.mp (by omega)
  · exact UInt64.toNat_inj.mp (by omega)

section

variable {α : Type} [LT α] [Std.Irrefl (α := α) (· < ·)] {base w : Nat} {digit : Nat → α}

/-- Identifiers are in the order of their written forms, if both words are written in as many
digits as a word needs and one after the other, whatever stands between them. -/
theorem joined_lt_iff (hbase : 0 < base) (hw : base ^ w = UInt64.size)
    (ordered : ∀ i < base, ∀ j < base, digit i < digit j ↔ i < j) (between : List α)
    (a b : RemoteId) :
    digits base digit w a.high.toNat ++ (between ++ digits base digit w a.low.toNat) <
        digits base digit w b.high.toNat ++ (between ++ digits base digit w b.low.toNat) ↔
      a.compare b = .lt := by
  have hlt (x y : UInt64) :
      digits base digit w x.toNat < digits base digit w y.toNat ↔ x.toNat < y.toNat :=
    digits_lt_iff hbase ordered (hw ▸ x.toNat_lt) (hw ▸ y.toNat_lt)
  have heq : digits base digit w a.high.toNat = digits base digit w b.high.toNat ↔
      a.high = b.high :=
    ⟨fun h => UInt64.toNat_inj.mp (eq_of_lt_iff (hlt _ _) (hlt _ _) h), fun h => h ▸ rfl⟩
  rw [append_lt_append_iff (by simp), append_lt_append_iff rfl, hlt, hlt, heq, compare_eq_lt_iff,
    UInt64.lt_iff_toNat_lt, UInt64.lt_iff_toNat_lt]
  simp [List.lt_irrefl]

end

theorem ofNat_lt_ofNat_iff : ∀ i < 256, ∀ j < 256, UInt8.ofNat i < UInt8.ofNat j ↔ i < j := by
  intro i hi j hj
  rw [UInt8.lt_iff_toNat_lt, UInt8.toNat_ofNat_of_lt' hi, UInt8.toNat_ofNat_of_lt' hj]

theorem digit_lt_digit_iff : ∀ i < 16, ∀ j < 16, Hex.digit i < Hex.digit j ↔ i < j := by decide

theorem toBytes_lt_iff (a b : RemoteId) : a.toBytes < b.toBytes ↔ a.compare b = .lt := by
  rw [← Vector.lt_toList]
  simp only [toBytes, Vector.toList_mk, bigEndian_eq_digits]
  exact joined_lt_iff (by decide) (by decide) ofNat_lt_ofNat_iff [] a b

theorem display_lt_iff (a b : RemoteId) : a.display < b.display ↔ a.compare b = .lt := by
  change a.display.toList < b.display.toList ↔ _
  simp only [display, String.toList_ofList, fixed_eq_digits]
  simpa only [List.singleton_append] using
    joined_lt_iff (by decide) (by decide) digit_lt_digit_iff ['-'] a b

/-- The bytes of a display text are its characters. -/
theorem utf8_display (id : RemoteId) :
    id.display.toByteArray.data.toList = id.display.toList.map fun c => c.val.toUInt8 := by
  have hdigit : ∀ d < 16, (Hex.digit d).utf8Size = 1 := by decide
  have hfixed (n : Nat) : ∀ c ∈ Hex.fixed 16 n, c.utf8Size = 1 := by
    intro c hc
    rw [fixed_eq_digits] at hc
    obtain ⟨d, hd, rfl⟩ := mem_digits (by decide) hc
    exact hdigit d hd
  rw [display, String.toList_ofList]
  refine utf8_ofList fun c hc => ?_
  rcases List.mem_append.mp hc with hc | hc
  · exact hfixed _ c hc
  rcases List.mem_cons.mp hc with rfl | hc
  · rfl
  · exact hfixed _ c hc

theorem utf8_display_lt_iff (a b : RemoteId) :
    a.display.toByteArray.data.toList < b.display.toByteArray.data.toList ↔
      a.compare b = .lt := by
  have hdigit : ∀ i < 16, ∀ j < 16,
      (Hex.digit i).val.toUInt8 < (Hex.digit j).val.toUInt8 ↔ i < j := by decide
  rw [utf8_display, utf8_display]
  simp only [display, String.toList_ofList, fixed_eq_digits, List.map_append, List.map_cons,
    map_digits, Function.comp_def]
  simpa only [List.singleton_append] using
    joined_lt_iff (by decide) (by decide) hdigit ['-'.val.toUInt8] a b

theorem length_display (id : RemoteId) : id.display.length = 33 := by
  rw [display, String.length_ofList, List.length_append, List.length_cons, Hex.length_fixed,
    Hex.length_fixed]

theorem utf8ByteSize_display (id : RemoteId) : id.display.utf8ByteSize = 33 := by
  have hbytes := congrArg List.length (utf8_display id)
  rw [List.length_map, String.length_toList, length_display, Array.length_toList] at hbytes
  rw [← String.size_toByteArray, ByteArray.size, hbytes]

theorem ofBytes_toBytes (id : RemoteId) : ofBytes id.toBytes = id := by
  have hword (word : UInt64) :
      UInt64.ofNat (Bytes.ofBigEndian (Bytes.bigEndian 8 word.toNat)) = word := by
    have hlt : word.toNat < 256 ^ 8 := word.toNat_lt
    rw [Bytes.ofBigEndian_bigEndian, Nat.mod_eq_of_lt hlt, UInt64.ofNat_toNat]
  simp only [ofBytes, toBytes, Vector.toList_mk]
  rw [List.take_left' (Bytes.length_bigEndian 8 _), List.drop_left' (Bytes.length_bigEndian 8 _),
    hword, hword]

theorem toBytes_ofBytes (bytes : Vector UInt8 16) : (ofBytes bytes).toBytes = bytes := by
  have hword {half : List UInt8} (hlength : half.length = 8) :
      Bytes.bigEndian 8 (UInt64.ofNat (Bytes.ofBigEndian half)).toNat = half := by
    have hlt : Bytes.ofBigEndian half < UInt64.size := by
      have hbound := Bytes.ofLittleEndian_lt half.reverse
      rwa [List.length_reverse, hlength] at hbound
    rw [UInt64.toNat_ofNat_of_lt' hlt, ← hlength, Bytes.bigEndian_ofBigEndian]
  apply Vector.toList_inj.mp
  simp only [ofBytes, toBytes, Vector.toList_mk]
  rw [hword (by simp), hword (by simp), List.take_append_drop]

/-- Sixteen bytes are an identifier and an identifier is sixteen bytes; both the bytes and the
display text, by its characters and by its own bytes, are in the order of the identifiers; and
the text has one length and names one identifier. -/
theorem encodings_inOrder (a b : RemoteId) :
    ofBytes a.toBytes = a ∧ (∀ bytes, (ofBytes bytes).toBytes = bytes) ∧
      (a.compare b = .lt ↔ a.toBytes < b.toBytes) ∧
      (a.compare b = .lt ↔ a.display < b.display) ∧
      (a.compare b = .lt ↔
        a.display.toByteArray.data.toList < b.display.toByteArray.data.toList) ∧
      a.display.length = 33 ∧ a.display.utf8ByteSize = 33 ∧ (a.display = b.display ↔ a = b) := by
  refine ⟨ofBytes_toBytes a, toBytes_ofBytes, (toBytes_lt_iff a b).symm,
    (display_lt_iff a b).symm, (utf8_display_lt_iff a b).symm, length_display a,
    utf8ByteSize_display a, ⟨fun h => ?_, fun h => h ▸ rfl⟩⟩
  have hirrefl := String.lt_irrefl b.display
  apply eq_of_not_lt
  · rwa [Ne, ← display_lt_iff, h]
  · rwa [Ne, ← display_lt_iff, h]

end RemoteId

end DeviceBroker
