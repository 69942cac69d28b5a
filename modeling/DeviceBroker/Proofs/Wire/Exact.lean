import DeviceBroker.Proofs.Bytes
import DeviceBroker.Wire.Codec

/-!
# Exact codecs

A codec is exact on the values that fit when it reads each of them back from
its own encoding, leaves what follows untouched, and reads nothing else. The
second half says that no value has a second encoding that is also accepted.
Every combinator keeps exactness, so a format is exact as soon as its parts
are, and what has to fit is the lengths that are written before texts, byte
strings and lists.
-/

namespace DeviceBroker.Codec

variable {α β : Type}

/-- The codec reads back exactly the encodings of the values that fit. -/
structure Exact (c : Codec α) (Fits : α → Prop) : Prop where
  decode_encode (value : α) (rest : List UInt8) :
    Fits value → c.decode (c.encode value ++ rest) = .ok (value, rest)
  of_decode {input : List UInt8} {value : α} {rest : List UInt8} :
    c.decode input = .ok (value, rest) → Fits value ∧ input = c.encode value ++ rest

/-- The codec is exact on all values. -/
abbrev Total (c : Codec α) : Prop := Exact c fun _ => True

@[simp] theorem ok_bind {ε : Type} (a : α) (next : α → Except ε β) :
    (Except.ok a >>= next) = next a := rfl

@[simp] theorem pure_eq_ok {ε : Type} (a : α) : (pure a : Except ε α) = .ok a := rfl

theorem bind_eq_ok {ε : Type} {first : Except ε α} {next : α → Except ε β} {value : β} :
    first >>= next = .ok value ↔ ∃ a, first = .ok a ∧ next a = .ok value := by
  cases first with
  | error e => simp [bind, Except.bind]
  | ok a => simp [bind, Except.bind]

namespace Exact

theorem congr {c : Codec α} {P Q : α → Prop} (h : Exact c P) (hPQ : ∀ value, P value ↔ Q value) :
    Exact c Q := by
  have : P = Q := funext fun value => propext (hPQ value)
  rwa [← this]

theorem total {c : Codec α} {P : α → Prop} (h : Exact c P) (hP : ∀ value, P value) : Total c :=
  h.congr fun value => iff_of_true (hP value) trivial

/-- The conversion has to accept the raw forms of the values that fit, and no
other raw value. -/
theorem refine {c : Codec α} {P : α → Prop} {Q : β → Prop} {into : α → Except DecodeError β}
    {back : β → α} (h : Exact c P) (hinto : ∀ value, Q value → into (back value) = .ok value)
    (hfits : ∀ value, Q value → P (back value))
    (hback : ∀ raw value, P raw → into raw = .ok value → Q value ∧ back value = raw) :
    Exact (c.refine into back) Q := by
  constructor
  · intro value rest hv
    have hd := h.decode_encode (back value) rest (hfits value hv)
    simp [Codec.refine, hd, hinto value hv]
  · intro input value rest hd
    simp only [Codec.refine] at hd
    obtain ⟨⟨raw, rest'⟩, hraw, hd⟩ := bind_eq_ok.1 hd
    obtain ⟨value', hvalue, hd⟩ := bind_eq_ok.1 hd
    cases hd
    obtain ⟨hP, rfl⟩ := h.of_decode hraw
    obtain ⟨hQ, rfl⟩ := hback raw value hP hvalue
    exact ⟨hQ, rfl⟩

theorem convert {c : Codec α} {P : α → Prop} {into : α → β} {back : β → α} (h : Exact c P)
    (hinto : ∀ value, into (back value) = value) (hback : ∀ raw, P raw → back (into raw) = raw) :
    Exact (c.convert into back) fun value => P (back value) := by
  refine h.refine ?_ ?_ ?_
  · intro value _
    rw [hinto]
  · intro value hv
    exact hv
  · rintro raw value hP ⟨⟩
    rw [hback raw hP]
    exact ⟨hP, rfl⟩

theorem seq {c : Codec α} {d : Codec β} {P : α → Prop} {Q : β → Prop} (hc : Exact c P)
    (hd : Exact d Q) : Exact (c.seq d) fun value => P value.1 ∧ Q value.2 := by
  constructor
  · rintro ⟨a, b⟩ rest ⟨ha, hb⟩
    have h1 := hc.decode_encode a (d.encode b ++ rest) ha
    have h2 := hd.decode_encode b rest hb
    simp [Codec.seq, h1, h2]
  · intro input value rest h
    simp only [Codec.seq] at h
    obtain ⟨⟨a, rest₁⟩, h1, h⟩ := bind_eq_ok.1 h
    obtain ⟨⟨b, rest₂⟩, h2, h⟩ := bind_eq_ok.1 h
    cases h
    obtain ⟨ha, rfl⟩ := hc.of_decode h1
    obtain ⟨hb, rfl⟩ := hd.of_decode h2
    exact ⟨⟨ha, hb⟩, by simp [Codec.seq]⟩

theorem choice {ι : Type} {γ : ι → Type} {tag : Codec ι} {body : (i : ι) → Codec (γ i)}
    {P : (i : ι) → γ i → Prop} (htag : Total tag) (hbody : ∀ i, Exact (body i) (P i)) :
    Exact (Codec.choice tag body) fun value => P value.1 value.2 := by
  constructor
  · rintro ⟨i, value⟩ rest hv
    have h1 := htag.decode_encode i ((body i).encode value ++ rest) trivial
    have h2 := (hbody i).decode_encode value rest hv
    simp [Codec.choice, h1, h2]
  · intro input value rest h
    simp only [Codec.choice] at h
    obtain ⟨⟨i, rest₁⟩, h1, h⟩ := bind_eq_ok.1 h
    -- The type of what follows must be that of the tag alone before the rest is substituted.
    dsimp only at h
    obtain ⟨⟨value', rest₂⟩, h2, h⟩ := bind_eq_ok.1 h
    cases h
    obtain ⟨-, rfl⟩ := htag.of_decode h1
    obtain ⟨hv, rfl⟩ := (hbody i).of_decode h2
    exact ⟨hv, by simp [Codec.choice]⟩

theorem unit : Total Codec.unit := by
  constructor
  · intro value rest _
    rfl
  · rintro input value rest ⟨⟩
    exact ⟨trivial, rfl⟩

end Exact

/-! ### Bytes and numbers -/

theorem takeBytes_append (bytes rest : List UInt8) (short : DecodeError) :
    takeBytes bytes.length short (bytes ++ rest) = .ok (bytes, rest) := by
  simp [takeBytes]

theorem takeBytes_eq_ok {count : Nat} {short : DecodeError} {input bytes rest : List UInt8}
    (h : takeBytes count short input = .ok (bytes, rest)) :
    bytes.length = count ∧ input = bytes ++ rest := by
  rw [takeBytes] at h
  split at h
  · rename_i hcount
    cases h
    constructor
    · exact List.length_take_of_le hcount
    · exact (List.take_append_drop count input).symm
  · cases h

namespace Exact

theorem natural (width : Nat) : Exact (Codec.natural width) fun n => n < 256 ^ width := by
  constructor
  · intro n rest hn
    have h := takeBytes_append (Bytes.littleEndian width n) rest .ended
    rw [Bytes.length_littleEndian] at h
    have hval : Bytes.ofLittleEndian (Bytes.littleEndian width n) = n := by
      rw [Bytes.ofLittleEndian_littleEndian, Nat.mod_eq_of_lt hn]
    simp [Codec.natural, h, hval]
  · intro input n rest h
    simp only [Codec.natural] at h
    obtain ⟨⟨bytes, rest'⟩, h1, h⟩ := bind_eq_ok.1 h
    cases h
    obtain ⟨rfl, rfl⟩ := takeBytes_eq_ok h1
    constructor
    · exact Bytes.ofLittleEndian_lt bytes
    · simp [Codec.natural, Bytes.littleEndian_ofLittleEndian]

theorem length : Exact (Codec.natural 8) fun n => n < 2 ^ 64 :=
  (natural 8).congr fun n => by simp

theorem uint8 : Total Codec.uint8 := by
  have h := (natural 1).convert (fun b => UInt8.ofNat_toNat)
    (fun n hn => UInt8.toNat_ofNat_of_lt' (n := n) hn)
  exact h.total fun b => b.toNat_lt

theorem uint16 : Total Codec.uint16 := by
  have h := (natural 2).convert (fun b => UInt16.ofNat_toNat)
    (fun n hn => UInt16.toNat_ofNat_of_lt' (n := n) hn)
  exact h.total fun b => b.toNat_lt

theorem uint32 : Total Codec.uint32 := by
  have h := (natural 4).convert (fun b => UInt32.ofNat_toNat)
    (fun n hn => UInt32.toNat_ofNat_of_lt' (n := n) hn)
  exact h.total fun b => b.toNat_lt

theorem uint64 : Total Codec.uint64 := by
  have h := (natural 8).convert (fun b => UInt64.ofNat_toNat)
    (fun n hn => UInt64.toNat_ofNat_of_lt' (n := n) hn)
  exact h.total fun b => b.toNat_lt

theorem int32 : Total Codec.int32 :=
  uint32.convert Int32.toInt32_toUInt32 fun raw _ => UInt32.toUInt32_toInt32 raw

/-- A flag is the byte zero or one; `fault` is what any other byte is reported as. -/
theorem flag (fault : UInt8 → DecodeError) :
    Total (Codec.uint8.refine
      (fun b => if b = 0 then .ok false else if b = 1 then .ok true else .error (fault b))
      (fun value => if value then 1 else 0)) := by
  refine uint8.refine ?_ ?_ ?_
  · rintro (_ | _) _
    · rfl
    · rfl
  · intro value _
    trivial
  · intro b value _ h
    split at h
    · cases h
      exact ⟨trivial, by simp_all⟩
    · split at h
      · cases h
        exact ⟨trivial, by simp_all⟩
      · cases h

theorem boolean : Total Codec.boolean := flag _

theorem presence : Total Codec.presence := flag _

/-- An index is read exactly when no value of the list has two places and all
values have one. -/
theorem enumeration [DecidableEq α] {values : List α} (hnodup : values.Nodup)
    (hall : ∀ value, value ∈ values) (hlength : values.length < 2 ^ 32) :
    Total (Codec.enumeration values) := by
  -- No index is cut off when it is written in four bytes.
  have hindex : ∀ value, (UInt32.ofNat (values.idxOf value)).toNat = values.idxOf value := by
    intro value
    have hlt := List.idxOf_lt_length_of_mem (hall value)
    exact UInt32.toNat_ofNat_of_lt' (Nat.lt_trans hlt hlength)
  refine uint32.refine ?_ ?_ ?_
  · intro value _
    rw [hindex, List.getElem?_eq_getElem (List.idxOf_lt_length_of_mem (hall value)),
      List.getElem_idxOf]
  · intro value _
    trivial
  · intro index value _ h
    cases hget : values[index.toNat]? with
    | none =>
      rw [hget] at h
      cases h
    | some found =>
      rw [hget] at h
      cases h
      obtain ⟨hlt, rfl⟩ := List.getElem?_eq_some_iff.1 hget
      refine ⟨trivial, ?_⟩
      rw [hnodup.idxOf_getElem, UInt32.ofNat_toNat]

end Exact

/-! ### Options and lists -/

namespace Exact

theorem option {c : Codec α} {P : α → Prop} (h : Exact c P) :
    Exact (Codec.option c) fun value => ∀ a ∈ value, P a := by
  constructor
  · rintro (_ | a) rest hv
    · have h1 := presence.decode_encode false rest trivial
      simp [Codec.option, h1]
    · have h1 := presence.decode_encode true (c.encode a ++ rest) trivial
      have h2 := h.decode_encode a rest (hv a rfl)
      simp [Codec.option, h1, h2]
  · intro input value rest hd
    simp only [Codec.option] at hd
    obtain ⟨⟨present, rest₁⟩, h1, hpresent⟩ := bind_eq_ok.1 hd
    obtain ⟨-, rfl⟩ := presence.of_decode h1
    cases present with
    | false =>
      cases hpresent
      exact ⟨by simp, rfl⟩
    | true =>
      obtain ⟨⟨a, rest₂⟩, h2, hsome⟩ := bind_eq_ok.1 hpresent
      cases hsome
      obtain ⟨ha, rfl⟩ := h.of_decode h2
      exact ⟨by simpa using ha, by simp [Codec.option]⟩

theorem decodeMany_flatMap {c : Codec α} {P : α → Prop} (h : Exact c P) (values : List α)
    (rest : List UInt8) (hv : ∀ value ∈ values, P value) :
    decodeMany c values.length (values.flatMap c.encode ++ rest) = .ok (values, rest) := by
  induction values with
  | nil => rfl
  | cons value values ih =>
    have h1 := h.decode_encode value (values.flatMap c.encode ++ rest) (hv value (by simp))
    have h2 := ih fun v hm => hv v (by simp [hm])
    simp [decodeMany, h1, h2]

theorem of_decodeMany {c : Codec α} {P : α → Prop} (h : Exact c P) {count : Nat}
    {input rest : List UInt8} {values : List α}
    (hd : decodeMany c count input = .ok (values, rest)) :
    values.length = count ∧ (∀ value ∈ values, P value) ∧
      input = values.flatMap c.encode ++ rest := by
  -- Each round reads one value, whatever was in front of it has been read already.
  induction count generalizing input values with
  | zero =>
    cases hd
    simp
  | succ count ih =>
    simp only [decodeMany] at hd
    obtain ⟨⟨value, rest₁⟩, h1, hd⟩ := bind_eq_ok.1 hd
    obtain ⟨⟨values', rest₂⟩, h2, hd⟩ := bind_eq_ok.1 hd
    cases hd
    obtain ⟨hv, rfl⟩ := h.of_decode h1
    obtain ⟨rfl, hvs, rfl⟩ := ih h2
    refine ⟨rfl, ?_, by simp⟩
    intro v hm
    rcases List.mem_cons.1 hm with rfl | hm
    · exact hv
    · exact hvs v hm

theorem list {c : Codec α} {P : α → Prop} (h : Exact c P) :
    Exact (Codec.list c) fun values => values.length < 2 ^ 64 ∧ ∀ value ∈ values, P value := by
  constructor
  · rintro values rest ⟨hlength, hv⟩
    have h1 := length.decode_encode values.length (values.flatMap c.encode ++ rest) hlength
    have h2 := h.decodeMany_flatMap values rest hv
    simp [Codec.list, h1, h2]
  · intro input values rest hd
    simp only [Codec.list] at hd
    obtain ⟨⟨count, rest₁⟩, h1, h2⟩ := bind_eq_ok.1 hd
    obtain ⟨hcount, rfl⟩ := length.of_decode h1
    obtain ⟨rfl, hv, rfl⟩ := h.of_decodeMany h2
    exact ⟨⟨hcount, hv⟩, by simp [Codec.list]⟩

end Exact

/-! ### Byte strings, arrays and texts -/

namespace Exact

theorem counted (short : DecodeError) :
    Exact (Codec.counted short) fun bytes => bytes.length < 2 ^ 64 := by
  constructor
  · intro bytes rest hlength
    have h1 := length.decode_encode bytes.length (bytes ++ rest) hlength
    have h2 := takeBytes_append bytes rest short
    simp [Codec.counted, h1, h2]
  · intro input bytes rest hd
    simp only [Codec.counted] at hd
    obtain ⟨⟨count, rest₁⟩, h1, h2⟩ := bind_eq_ok.1 hd
    obtain ⟨hcount, rfl⟩ := length.of_decode h1
    obtain ⟨rfl, rfl⟩ := takeBytes_eq_ok h2
    exact ⟨hcount, by simp [Codec.counted]⟩

theorem bytes : Exact Codec.bytes fun bytes => bytes.length < 2 ^ 64 := counted .ended

theorem sized_toList {size : Nat} (value : Vector UInt8 size) (mismatch : DecodeError) :
    sized size mismatch value.toList = .ok value := by
  obtain ⟨bytes, rfl⟩ := value
  simp [sized, Vector.toList]

theorem toList_of_sized {size : Nat} {mismatch : DecodeError} {bytes : List UInt8}
    {value : Vector UInt8 size} (h : sized size mismatch bytes = .ok value) :
    value.toList = bytes := by
  rw [sized] at h
  split at h
  · cases h
    rfl
  · cases h

theorem bare (size : Nat) : Total (Codec.bare size) := by
  constructor
  · intro value rest _
    have h1 := takeBytes_append value.toList rest .ended
    rw [Vector.length_toList] at h1
    simp [Codec.bare, h1, sized_toList]
  · intro input value rest hd
    simp only [Codec.bare] at hd
    obtain ⟨⟨bytes, rest₁⟩, h1, hd⟩ := bind_eq_ok.1 hd
    obtain ⟨value', h2, hd⟩ := bind_eq_ok.1 hd
    cases hd
    obtain ⟨-, rfl⟩ := takeBytes_eq_ok h1
    exact ⟨trivial, by simp [Codec.bare, toList_of_sized h2]⟩

theorem array {size : Nat} (hsize : size < 2 ^ 64) : Total (Codec.array size) := by
  refine (counted .bodyEnded).refine ?_ ?_ ?_
  · intro value _
    exact sized_toList value _
  · intro value _
    simpa using hsize
  · intro bytes value _ h
    exact ⟨trivial, toList_of_sized h⟩

theorem textOfBytes_toByteArray (text : String) :
    textOfBytes text.toByteArray.data.toList = .ok text := by
  simp [textOfBytes, String.fromUTF8?, text.isValidUTF8, String.fromUTF8]

theorem toByteArray_of_textOfBytes {bytes : List UInt8} {text : String}
    (h : textOfBytes bytes = .ok text) : text.toByteArray.data.toList = bytes := by
  rw [textOfBytes] at h
  split at h
  · rename_i found hfound
    cases h
    simp only [String.fromUTF8?] at hfound
    split at hfound
    · cases hfound
      rfl
    · cases hfound
  · cases h

theorem text : Exact Codec.text fun text => text.utf8ByteSize < 2 ^ 64 := by
  refine (counted .bodyEnded).refine ?_ ?_ ?_
  · intro text _
    exact textOfBytes_toByteArray text
  · intro text htext
    exact htext
  · intro bytes text hlength h
    obtain rfl := toByteArray_of_textOfBytes h
    exact ⟨hlength, rfl⟩

end Exact

/-! ### Parts that always fit -/

theorem Exact.seqTotal {c : Codec α} {d : Codec β} {P : α → Prop} (hc : Exact c P)
    (hd : Total d) : Exact (c.seq d) fun value => P value.1 :=
  (hc.seq hd).congr fun _ => and_iff_left trivial

theorem Total.seq {c : Codec α} {d : Codec β} {Q : β → Prop} (hc : Total c) (hd : Exact d Q) :
    Exact (c.seq d) fun value => Q value.2 :=
  (Exact.seq hc hd).congr fun _ => and_iff_right trivial

theorem Total.option {c : Codec α} (h : Total c) : Total (Codec.option c) :=
  (Exact.option h).total fun _ _ _ => trivial

theorem Total.list {c : Codec α} (h : Total c) :
    Exact (Codec.list c) fun values => values.length < 2 ^ 64 :=
  (Exact.list h).congr fun _ => and_iff_left fun _ _ => trivial

end DeviceBroker.Codec
