import DeviceBroker.Broker.Pattern
import Mathlib.Data.List.Forall2

/-!
# Names of fill patterns

What a client knows of the patterns is a table: six names, each with the bytes
that are repeated. A name may be written with capitals for any of its letters.
The broker reads names as the table says, and fills with the bytes of the table.
-/

namespace DeviceBroker.FillPattern

/-- A text spells a name: each character is that of the name, or its capital. -/
def Spells (text name : String) : Prop :=
  List.Forall₂ (fun c letter => c = letter ∨ c.isUpper = true ∧ c.toNat + 32 = letter.toNat)
    text.toList name.toList

instance (text name : String) : Decidable (Spells text name) :=
  inferInstanceAs (Decidable (List.Forall₂ _ _ _))

/-- The names of patterns, with the bytes that each pattern repeats. -/
def table : List (String × List UInt8) :=
  [("zero", [0x00]),
   ("zeros", [0x00]),
   ("ones", [0xff]),
   ("increment", (List.range 256).map UInt8.ofNat),
   ("incr", (List.range 256).map UInt8.ofNat),
   ("deadbeef", [0xef, 0xbe, 0xad, 0xde])]

def IsName (text : String) : Prop := ∃ entry ∈ table, Spells text entry.1

instance (text : String) : Decidable (IsName text) :=
  inferInstanceAs (Decidable (∃ entry ∈ table, Spells text entry.1))

/-- The bytes that are repeated if a text is a name. -/
def repeated? (text : String) : Option (List UInt8) :=
  (table.find? fun entry => Spells text entry.1).map Prod.snd

/-! ## Spelling -/

theorem isUpper_iff {c : Char} : c.isUpper = true ↔ 65 ≤ c.toNat ∧ c.toNat ≤ 90 :=
  decide_eq_true_iff.trans (and_congr UInt32.le_iff_toNat_le UInt32.le_iff_toNat_le)

theorem toNat_toLower {c : Char} (h : c.isUpper = true) : c.toLower.toNat = c.toNat + 32 := by
  have hrange := isUpper_iff.mp h
  have hcode : c.toLower.val = c.val + 32 :=
    congrArg Char.val (dif_pos (of_decide_eq_true h))
  rw [← Char.toNat_val, ← Char.toNat_val, hcode, UInt32.toNat_add]
  rw [← Char.toNat_val] at hrange
  exact Nat.mod_eq_of_lt (by change c.val.toNat + 32 < _; omega)

theorem toLower_eq_iff {c letter : Char} (h : letter.isUpper = false) :
    c.toLower = letter ↔ c = letter ∨ c.isUpper = true ∧ c.toNat + 32 = letter.toNat := by
  by_cases hc : c.isUpper = true
  · have hne : c ≠ letter := fun heq => by
      rw [heq, h] at hc
      cases hc
    rw [← Char.toNat_inj, toNat_toLower hc, or_iff_right hne, and_iff_right hc]
  · have hsame : c.toLower = c := dif_neg fun hrange => hc (decide_eq_true hrange)
    rw [hsame, or_iff_left fun hcapital => hc hcapital.1]

theorem toList_toLower (text : String) : text.toLower.toList = text.toList.map Char.toLower :=
  String.toList_map

/-- To spell a name in lower case is to be that name once capitals are gone. -/
theorem spells_iff {text name : String} (h : ∀ letter ∈ name.toList, letter.isUpper = false) :
    Spells text name ↔ text.toLower = name := by
  rw [← String.toList_inj, toList_toLower, ← List.forall₂_eq_eq_eq, List.forall₂_map_left_iff,
    Spells]
  generalize name.toList = letters at h ⊢
  generalize text.toList = chars
  induction letters generalizing chars with
  | nil => rw [List.forall₂_nil_right_iff, List.forall₂_nil_right_iff]
  | cons letter letters ih =>
    cases chars with
    | nil => rw [List.forall₂_nil_left_iff, List.forall₂_nil_left_iff]
    | cons c chars =>
      rw [List.forall₂_cons, List.forall₂_cons, toLower_eq_iff (h _ List.mem_cons_self),
        ih (fun other hother => h other (List.mem_cons_of_mem _ hother))]

/-! ## Reading -/

/-- The bytes that a pattern repeats. -/
def cycle : FillPattern → List UInt8
  | .zero => [0]
  | .ones => [0xff]
  | .increment => (List.range 256).map UInt8.ofNat
  | .deadBeef => [0xef, 0xbe, 0xad, 0xde]

theorem cycle_getElem? (pattern : FillPattern) (i : Nat) :
    pattern.cycle[i % pattern.cycle.length]? = some (pattern.byteAt i) := by
  cases pattern with
  | zero | ones => simp [cycle, byteAt, Nat.mod_one]
  | increment =>
    have hlt : i % 256 < 256 := Nat.mod_lt _ (by decide)
    have hbyte : UInt8.ofNat (i % 256) = UInt8.ofNat i := UInt8.toNat_inj.mp (by simp)
    simp [cycle, byteAt, hlt, hbyte]
  | deadBeef =>
    have hlt : i % 4 < 4 := Nat.mod_lt _ (by decide)
    rw [byteAt]
    change FillPattern.deadBeef.cycle[i % 4]? = _
    generalize i % 4 = k at hlt ⊢
    obtain rfl | rfl | rfl | rfl : k = 0 ∨ k = 1 ∨ k = 2 ∨ k = 3 := by omega
    · rfl
    · rfl
    · rfl
    · rfl

/-- The broker and the table know the same names, for the same bytes. -/
theorem repeated?_eq (text : String) : repeated? text = (ofName? text).map cycle := by
  have hlower : ∀ entry ∈ table, ∀ letter ∈ entry.1.toList, letter.isUpper = false := by
    simp [table]
  have hspells : (table.filter fun entry => decide (Spells text entry.1)) =
      table.filter fun entry => decide (text.toLower = entry.1) :=
    List.filter_congr fun entry hentry => decide_eq_decide.mpr (spells_iff (hlower entry hentry))
  rw [repeated?, ← List.head?_filter, hspells, List.head?_filter, ofName?]
  generalize text.toLower = lower
  split
  · rfl
  · rfl
  · rfl
  · rfl
  · rfl
  · rfl
  · rename_i hzero hzeros hones hincrement hincr hbeef
    simp only [table, List.find?_cons, decide_eq_false hzero, decide_eq_false hzeros,
      decide_eq_false hones, decide_eq_false hincrement, decide_eq_false hincr,
      decide_eq_false hbeef, List.find?_nil, Option.map_none]

theorem isSome_ofName?_iff (text : String) : (ofName? text).isSome = true ↔ IsName text := by
  have hread : (repeated? text).isSome = (ofName? text).isSome := by
    rw [repeated?_eq, Option.isSome_map]
  rw [← hread, repeated?, Option.isSome_map]
  simp [IsName]

end DeviceBroker.FillPattern
