import DeviceBroker.Simulator.Resource

/-!
# Numerals of attributes

A number that is written to an attribute is kept as a hexadecimal numeral, and
whoever reads the attribute as a number gets the same number back: every word
is read from the text that is written for it. The bytes of a guid are kept as
two digits each. Which digits these are is said here by a list of the sixteen,
whatever the texts are made with.
-/

namespace DeviceBroker

namespace Blank

/-- Where nothing is blank, nothing is trimmed. -/
theorem trim_eq_self {text : List Char} (h : ∀ c ∈ text, isBlank c = false) : trim text = text := by
  have kept : ∀ {chars : List Char}, (∀ c ∈ chars, isBlank c = false) →
      chars.dropWhile isBlank = chars := by
    intro chars hchars
    cases chars with
    | nil => rfl
    | cons c rest => simp [List.dropWhile, hchars c List.mem_cons_self]
  rw [trim, kept h, kept fun c hc => h c (List.mem_reverse.mp hc), List.reverse_reverse]

end Blank

namespace Hex

/-- The lower-case hexadecimal digits. -/
def digits : List Char :=
  ['0', '1', '2', '3', '4', '5', '6', '7', '8', '9', 'a', 'b', 'c', 'd', 'e', 'f']

theorem digits_getElem? : ∀ d < 16, digits[d]? = some (digit d) := by decide

theorem digit_mem_digits {d : Nat} (h : d < 16) : digit d ∈ digits :=
  List.mem_of_getElem? (digits_getElem? d h)

theorem isBlank_of_mem_digits {c : Char} (h : c ∈ digits) : Blank.isBlank c = false := by
  have hall : digits.all (fun c => !Blank.isBlank c) = true := by decide
  simpa using List.all_eq_true.mp hall c h

/-! ## Numbers -/

/-- A text writes a number in lower-case digits, the greatest first and without a leading
zero. -/
structure IsNumeral (text : List Char) (n : Nat) : Prop where
  nonempty : text ≠ []
  lowercase : ∀ c ∈ text, c ∈ digits
  value : text.foldl (fun value c => 16 * value + digits.idxOf c) 0 = n
  minimal : text.head? = some '0' → text = ['0']

theorem idxOf_digit : ∀ d < 16, digits.idxOf (digit d) = d := by decide

theorem isNumeral_digit {d : Nat} (h : d < 16) : IsNumeral [digit d] d := by
  refine ⟨List.cons_ne_nil _ _, fun c hc => ?_, ?_, fun hzero => ?_⟩
  · rw [List.mem_singleton.mp hc]
    exact digit_mem_digits h
  · rw [List.foldl_cons, List.foldl_nil, idxOf_digit d h]
    omega
  · rw [Option.some.inj hzero]

/-- A numeral with a digit behind it. Zero is left out, because it would become a leading
zero. -/
theorem IsNumeral.snoc {text : List Char} {n d : Nat} (h : IsNumeral text n) (hpos : 0 < n)
    (hd : d < 16) : IsNumeral (text ++ [digit d]) (16 * n + d) := by
  refine ⟨List.append_ne_nil_of_left_ne_nil h.nonempty _, fun c hc => ?_, ?_, fun hzero => ?_⟩
  · rcases List.mem_append.mp hc with hc | hc
    · exact h.lowercase c hc
    · rw [List.mem_singleton.mp hc]
      exact digit_mem_digits hd
  · rw [List.foldl_append, h.value, List.foldl_cons, List.foldl_nil, idxOf_digit d hd]
  · obtain ⟨c, rest, rfl⟩ := List.exists_cons_of_ne_nil h.nonempty
    have hvalue := h.value
    rw [h.minimal hzero] at hvalue
    cases hvalue
    exact absurd hpos (by decide)

theorem isNumeral_minimal (n : Nat) : IsNumeral (minimal n) n := by
  induction n using Nat.strongRecOn with
  | ind n ih =>
    rw [minimal, Nat.toDigits_eq_if (by decide)]
    split
    · rename_i hlt
      exact isNumeral_digit hlt
    · have hfront := (ih (n / 16) (by omega)).snoc (by omega) (Nat.mod_lt n (by decide))
      rwa [Nat.div_add_mod] at hfront

/-! ## Bytes -/

/-- A text writes bytes in lower-case digits, two for each of them and the one for the upper
half first. -/
structure Writes (text : List Char) (bytes : List UInt8) : Prop where
  length : text.length = 2 * bytes.length
  upper : ∀ i byte, bytes[i]? = some byte → text[2 * i]? = digits[byte.toNat / 16]?
  lower : ∀ i byte, bytes[i]? = some byte → text[2 * i + 1]? = digits[byte.toNat % 16]?

theorem writes_ofBytes (bytes : List UInt8) : Writes (ofBytes bytes) bytes := by
  induction bytes with
  | nil => exact ⟨rfl, nofun, nofun⟩
  | cons first rest ih =>
    obtain ⟨length, upper, lower⟩ := ih
    have hhalf : first.toNat / 16 < 16 := Nat.div_lt_of_lt_mul first.toNat_lt
    have hcons : ofBytes (first :: rest) =
        digit (first.toNat / 16) :: digit (first.toNat % 16) :: ofBytes rest := by
      simp [fixed_succ, Nat.mod_eq_of_lt hhalf]
    rw [hcons]
    refine ⟨?length, fun i byte hbyte => ?upper, fun i byte hbyte => ?lower⟩
    case length =>
      simp only [List.length_cons, length]
      omega
    case upper =>
      cases i with
      | zero =>
        cases hbyte
        exact (digits_getElem? _ hhalf).symm
      | succ i => exact upper i byte hbyte
    case lower =>
      cases i with
      | zero =>
        cases hbyte
        exact (digits_getElem? _ (Nat.mod_lt _ (by decide))).symm
      | succ i => exact lower i byte hbyte

/-- The digits leave no choice. -/
theorem Writes.unique {text text' : List Char} {bytes : List UInt8} (h : Writes text bytes)
    (h' : Writes text' bytes) : text = text' := by
  refine List.ext_getElem? fun k => ?_
  by_cases hk : k < 2 * bytes.length
  · have hbyte : bytes[k / 2]? = some bytes[k / 2] := List.getElem?_eq_getElem (by omega)
    obtain heven | hodd : k = 2 * (k / 2) ∨ k = 2 * (k / 2) + 1 := by omega
    · rw [heven, h.upper _ _ hbyte, h'.upper _ _ hbyte]
    · rw [hodd, h.lower _ _ hbyte, h'.lower _ _ hbyte]
  · rw [List.getElem?_eq_none (h.length ▸ Nat.le_of_not_lt hk),
      List.getElem?_eq_none (h'.length ▸ Nat.le_of_not_lt hk)]

end Hex

namespace Number

theorem digitValue?_digit : ∀ d < 16, digitValue? 16 (Hex.digit d) = some d := by decide

theorem continued?_append (base start : Nat) (front back : List Char) :
    continued? base start (front ++ back) =
      (continued? base start front).bind fun value => continued? base value back := by
  induction front generalizing start with
  | nil => rfl
  | cons c rest ih =>
    rw [List.cons_append, continued?_cons, continued?_cons, Option.bind_assoc]
    exact congrArg _ (funext fun d => ih _)

theorem continued?_minimal (n : Nat) : continued? 16 0 (Hex.minimal n) = some n := by
  induction n using Nat.strongRecOn with
  | ind n ih =>
    rw [Hex.minimal, Nat.toDigits_eq_if (by decide)]
    split
    · rename_i hlt
      rw [continued?_cons, ← Hex.digit, digitValue?_digit n hlt, Option.bind_some, continued?_nil]
      simp
    · rename_i hge
      have hdigit := digitValue?_digit _ (Nat.mod_lt n (by decide))
      rw [continued?_append, ← Hex.minimal, ih (n / 16) (by omega), Option.bind_some,
        continued?_cons, ← Hex.digit, hdigit, Option.bind_some, continued?_nil]
      congr 1
      omega

/-- A word is read from its numeral without leading zeros. -/
theorem word?_minimal (value : UInt64) : word? 16 (Hex.minimal value.toNat) = some value := by
  have hplus : dropPlus (Hex.minimal value.toNat) = Hex.minimal value.toNat := by
    unfold dropPlus
    split
    · rename_i rest h
      have hmem : '+' ∈ Hex.minimal value.toNat := h ▸ List.mem_cons_self
      exact absurd ((Hex.isNumeral_minimal _).lowercase '+' hmem) (by decide)
    · rfl
  have hnatural : natural? 16 (Hex.minimal value.toNat) = some value.toNat := by
    have hne : (Hex.minimal value.toNat).isEmpty = false :=
      List.isEmpty_eq_false_iff.mpr Nat.toDigits_ne_nil
    rw [natural?, hne, if_neg Bool.false_ne_true, continued?_minimal]
  rw [word?, hplus, hnatural, Option.bind_some, if_pos value.toNat_lt, UInt64.ofNat_toNat]

end Number

/-- The text that is written for a number is read as the number. -/
theorem attributeNumber?_attributeText (value : UInt64) :
    attributeNumber? (attributeText value) = some value := by
  have htrim : Blank.trim ('0' :: 'x' :: Hex.minimal value.toNat) =
      '0' :: 'x' :: Hex.minimal value.toNat := by
    refine Blank.trim_eq_self fun c hc => ?_
    rcases List.mem_cons.mp hc with rfl | hc
    · rfl
    rcases List.mem_cons.mp hc with rfl | hc
    · rfl
    exact Hex.isBlank_of_mem_digits ((Hex.isNumeral_minimal _).lowercase c hc)
  rw [attributeNumber?, attributeText, String.toList_ofList, htrim]
  exact Number.word?_minimal value

end DeviceBroker
