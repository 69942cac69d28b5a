import DeviceBroker.Proofs.Wire.Widths
import DeviceBroker.Transport.Error
import Mathlib.Data.Nat.Digits.Defs

/-!
# Complaints

What a decoder complains about is quoted in the reason of a rejection, so a
body of any size must not make a long reason. No error quotes more of its input
than numbers: tags, whose width is fixed, and lengths and positions, which lie
within what eight bytes of length can announce. So every reason is short, and
a rejection fits the smallest frame.
-/

namespace DeviceBroker

/-! ### Numbers in a text -/

/-- A number of at most eight bytes has at most twenty digits. -/
theorem utf8ByteSize_toString_le {n : Nat} (h : n ≤ 2 ^ 64) :
    (toString n).utf8ByteSize ≤ 80 := by
  have hdigits : (Nat.toDigits 10 n).length ≤ 20 :=
    (Nat.length_toDigits_le_iff (by decide) (by decide)).mpr (by omega)
  have hbytes := utf8ByteSize_ofList_le (Nat.toDigits 10 n)
  rw [Nat.toString_eq_repr, Nat.repr]
  omega

theorem utf8ByteSize_append_le {s t : String} {m n : Nat} (hs : s.utf8ByteSize ≤ m)
    (ht : t.utf8ByteSize ≤ n) : (s ++ t).utf8ByteSize ≤ m + n := by
  rw [String.utf8ByteSize_append]
  exact Nat.add_le_add hs ht

/-- A text before a number. -/
theorem utf8ByteSize_before_le (s : String) {n : Nat} (h : n ≤ 2 ^ 64) :
    (s ++ toString n).utf8ByteSize ≤ s.utf8ByteSize + 80 :=
  utf8ByteSize_append_le (Nat.le_refl _) (utf8ByteSize_toString_le h)

/-- A number between two texts. -/
theorem utf8ByteSize_between_le {s : String} {m n : Nat} (hs : s.utf8ByteSize ≤ m) (t : String)
    (h : n ≤ 2 ^ 64) : (s ++ t ++ toString n).utf8ByteSize ≤ m + t.utf8ByteSize + 80 :=
  utf8ByteSize_append_le (utf8ByteSize_append_le hs (Nat.le_refl _)) (utf8ByteSize_toString_le h)

namespace DecodeError

/-- The numbers that an error quotes. -/
def quotes : DecodeError → List Nat
  | .ended => []
  | .bodyEnded => []
  | .variant index count => [index, count]
  | .optionTag tag => [tag]
  | .boolean byte => [byte]
  | .resultCode code => [code]
  | .text fault => fault.validUpTo :: fault.length?.toList
  | .uuidLength length => [length]
  | .arrayLength length expected => [length, expected]

/-- An error that quotes small numbers. -/
def Terse (e : DecodeError) : Prop := ∀ n ∈ e.quotes, n ≤ 2 ^ 64

theorem terse_ended : DecodeError.ended.Terse := List.forall_mem_nil _

theorem terse_bodyEnded : DecodeError.bodyEnded.Terse := List.forall_mem_nil _

theorem Terse.utf8ByteSize_message_le {e : DecodeError} (h : e.Terse) :
    e.message.utf8ByteSize ≤ 256 := by
  cases e with
  | ended | bodyEnded => decide
  | optionTag n | boolean n | resultCode n | uuidLength n =>
    exact Nat.le_trans (utf8ByteSize_before_le _ (h n (List.mem_singleton_self n))) (by decide)
  | variant m n | arrayLength m n =>
    have hm : m ≤ 2 ^ 64 := h m List.mem_cons_self
    have hn : n ≤ 2 ^ 64 := h n (List.mem_cons_of_mem _ List.mem_cons_self)
    exact Nat.le_trans (utf8ByteSize_between_le (utf8ByteSize_before_le _ hm) _ hn) (by decide)
  | text fault =>
    obtain ⟨position, length?⟩ := fault
    have hposition : position ≤ 2 ^ 64 := h position List.mem_cons_self
    refine Nat.le_trans (utf8ByteSize_append_le (n := 214) (Nat.le_refl _) ?_) (by decide)
    cases length? with
    | none => exact Nat.le_trans (utf8ByteSize_before_le _ hposition) (by decide)
    | some length =>
      have hlength : length ≤ 2 ^ 64 := h length (List.mem_cons_of_mem _ List.mem_cons_self)
      exact Nat.le_trans
        (utf8ByteSize_between_le (utf8ByteSize_before_le _ hlength) _ hposition) (by decide)

end DecodeError

/-- A fault lies within the bytes, up to one position behind them. -/
theorem Utf8.faultFrom_le {bytes : List UInt8} {start index pending : Nat} {low high : UInt8}
    {fault : Utf8.Fault} (hstart : start ≤ index)
    (h : Utf8.faultFrom bytes start index pending low high = some fault) :
    fault.validUpTo ≤ index + bytes.length ∧
      ∀ length ∈ fault.length?, length ≤ index + bytes.length := by
  induction bytes generalizing start index pending low high with
  | nil =>
    rw [Utf8.faultFrom] at h
    split at h
    · cases h
    · cases h
      exact ⟨Nat.le_add_right_of_le hstart, nofun⟩
  | cons b rest ih =>
    rw [List.length_cons]
    cases pending with
    | zero =>
      rw [Utf8.faultFrom] at h
      split at h
      · cases h
        exact ⟨Nat.le_add_right _ _, fun length hl => by cases hl; omega⟩
      · have hrest := ih (Nat.le_succ index) h
        rwa [Nat.succ_add_eq_add_succ] at hrest
    | succ pending =>
      rw [Utf8.faultFrom] at h
      split at h
      · have hrest := ih (Nat.le_succ_of_le hstart) h
        rwa [Nat.succ_add_eq_add_succ] at hrest
      · cases h
        exact ⟨Nat.le_add_right_of_le hstart, fun length hl => by cases hl; omega⟩

namespace Codec

variable {α β : Type}

/-- The codec complains in few words. -/
structure Terse (c : Codec α) : Prop where
  of_error {input : List UInt8} {e : DecodeError} : c.decode input = .error e → e.Terse

/-- What fails either fails at once or fails in what follows. -/
theorem bind_eq_error {ε : Type} {first : Except ε α} {next : α → Except ε β} {e : ε}
    (h : first >>= next = .error e) :
    first = .error e ∨ ∃ a, first = .ok a ∧ next a = .error e := by
  cases first with
  | error e' => exact .inl (congrArg Except.error (Except.error.inj h))
  | ok a => exact .inr ⟨a, rfl, h⟩

namespace Terse

theorem takeBytes {count : Nat} {short e : DecodeError} {input : List UInt8} (hshort : short.Terse)
    (h : Codec.takeBytes count short input = .error e) : e.Terse := by
  unfold Codec.takeBytes at h
  split at h
  · cases h
  · cases h
    exact hshort

theorem natural (width : Nat) : Terse (Codec.natural width) where
  of_error h := by
    rcases bind_eq_error h with h | ⟨_, -, h⟩
    · exact takeBytes DecodeError.terse_ended h
    · cases h

theorem refine {c : Codec α} {into : α → Except DecodeError β} {back : β → α}
    (hc : Terse c) (hinto : ∀ {input raw rest e}, c.decode input = .ok (raw, rest) →
      into raw = .error e → e.Terse) : Terse (c.refine into back) where
  of_error h := by
    rcases bind_eq_error h with h | ⟨⟨raw, rest⟩, hraw, h⟩
    · exact hc.of_error h
    · rcases bind_eq_error h with h | ⟨_, -, h⟩
      · exact hinto hraw h
      · cases h

theorem convert {c : Codec α} {into : α → β} {back : β → α} (hc : Terse c) :
    Terse (c.convert into back) :=
  hc.refine fun _ h => nomatch h

theorem seq {c : Codec α} {d : Codec β} (hc : Terse c) (hd : Terse d) : Terse (c.seq d) where
  of_error h := by
    rcases bind_eq_error h with h | ⟨_, -, h⟩
    · exact hc.of_error h
    · rcases bind_eq_error h with h | ⟨_, -, h⟩
      · exact hd.of_error h
      · cases h

theorem choice {ι : Type} {γ : ι → Type} {tag : Codec ι} {body : (i : ι) → Codec (γ i)}
    (htag : Terse tag) (hbody : ∀ i, Terse (body i)) : Terse (Codec.choice tag body) where
  of_error h := by
    rcases bind_eq_error h with h | ⟨_, -, h⟩
    · exact htag.of_error h
    · rcases bind_eq_error h with h | ⟨_, -, h⟩
      · exact (hbody _).of_error h
      · cases h

theorem uint8 : Terse Codec.uint8 := (natural 1).convert

theorem uint16 : Terse Codec.uint16 := (natural 2).convert

theorem uint32 : Terse Codec.uint32 := (natural 4).convert

theorem uint64 : Terse Codec.uint64 := (natural 8).convert

theorem presence : Terse Codec.presence :=
  uint8.refine fun {_ b _ _} _ h => by
    split at h
    · cases h
    · split at h
      · cases h
      · cases h
        exact List.forall_mem_singleton.mpr (Nat.le_trans (Nat.le_of_lt b.toNat_lt) (by decide))

theorem enumeration [DecidableEq α] {values : List α} (hvalues : values.length ≤ 2 ^ 64) :
    Terse (Codec.enumeration values) :=
  uint32.refine fun {_ index _ _} _ h => by
    split at h
    · cases h
    · cases h
      have hindex : index.toNat ≤ 2 ^ 64 := Nat.le_trans (Nat.le_of_lt index.toNat_lt) (by decide)
      exact List.forall_mem_cons.mpr ⟨hindex, List.forall_mem_singleton.mpr hvalues⟩

theorem option {c : Codec α} (hc : Terse c) : Terse (Codec.option c) where
  of_error h := by
    rcases bind_eq_error h with h | ⟨⟨present, rest⟩, -, h⟩
    · exact presence.of_error h
    · cases present with
      | false => cases h
      | true =>
        rcases bind_eq_error h with h | ⟨_, -, h⟩
        · exact hc.of_error h
        · cases h

theorem decodeMany {c : Codec α} (hc : Terse c) {count : Nat} {input : List UInt8}
    {e : DecodeError} (h : Codec.decodeMany c count input = .error e) : e.Terse := by
  induction count generalizing input with
  | zero => cases h
  | succ count ih =>
    rcases bind_eq_error h with h | ⟨⟨value, rest⟩, -, h⟩
    · exact hc.of_error h
    · rcases bind_eq_error h with h | ⟨_, -, h⟩
      · exact ih h
      · cases h

theorem list {c : Codec α} (hc : Terse c) : Terse (Codec.list c) where
  of_error h := by
    rcases bind_eq_error h with h | ⟨⟨count, rest⟩, -, h⟩
    · exact (natural 8).of_error h
    · exact hc.decodeMany h

theorem counted {short : DecodeError} (hshort : short.Terse) : Terse (Codec.counted short) where
  of_error h := by
    rcases bind_eq_error h with h | ⟨⟨count, rest⟩, -, h⟩
    · exact (natural 8).of_error h
    · exact takeBytes hshort h

/-- The length of a byte string is one that eight bytes can announce. -/
theorem length_le_of_counted {short : DecodeError} {input bytes rest : List UInt8}
    (h : (Codec.counted short).decode input = .ok (bytes, rest)) : bytes.length ≤ 2 ^ 64 :=
  Nat.le_of_lt ((Exact.counted short).of_decode h).1

theorem sized {size : Nat} {mismatch e : DecodeError} {bytes : List UInt8}
    (h : Codec.sized size mismatch bytes = .error e) : e = mismatch := by
  unfold Codec.sized at h
  split at h
  · cases h
  · exact (Except.error.inj h).symm

theorem bare (size : Nat) : Terse (Codec.bare size) where
  of_error h := by
    rcases bind_eq_error h with h | ⟨_, -, h⟩
    · exact takeBytes DecodeError.terse_ended h
    · rcases bind_eq_error h with h | ⟨_, -, h⟩
      · exact sized h ▸ DecodeError.terse_ended
      · cases h

theorem bytes : Terse Codec.bytes := counted DecodeError.terse_ended

theorem text : Terse Codec.text :=
  (counted DecodeError.terse_bodyEnded).refine fun {_ bytes _ _} hbytes h => by
    have hlength := length_le_of_counted hbytes
    unfold textOfBytes at h
    split at h
    · cases h
    · cases h
      cases hfault : Utf8.firstFault? bytes with
      | none => exact List.forall_mem_singleton.mpr (Nat.zero_le _)
      | some fault =>
        obtain ⟨hposition, hsize⟩ := Utf8.faultFrom_le (Nat.le_refl 0) hfault
        rw [Nat.zero_add] at hposition hsize
        refine List.forall_mem_cons.mpr ⟨Nat.le_trans hposition hlength, fun n hn => ?_⟩
        exact Nat.le_trans (hsize n (Option.mem_toList.mp hn)) hlength

end Terse

end Codec

namespace Wire

open Codec (Terse)

theorem remoteId_terse : Terse remoteId := (Terse.uint64.seq Terse.uint64).convert

theorem properties_terse : Terse properties := by
  have hversion : Terse imageVersion := (Terse.uint8.seq (Terse.uint8.seq Terse.uint16)).convert
  exact Terse.convert <|
    remoteId_terse.option.seq <| (Terse.enumeration (by decide)).option.seq <|
    Terse.uint16.option.seq <| Terse.uint8.option.seq <| Terse.uint8.option.seq <|
    Terse.uint8.option.seq <| Terse.uint8.option.seq <| Terse.uint16.option.seq <|
    Terse.uint16.option.seq <| Terse.uint16.option.seq <| Terse.uint16.option.seq <|
    Terse.uint64.option.seq <| (Terse.bare 16).option.seq <| Terse.uint32.option.seq <|
    Terse.text.option.seq <| Terse.uint32.option.seq <| Terse.uint64.option.seq <|
    hversion.option.seq <| (Terse.enumeration (by decide)).option.seq <|
    Terse.uint32.option.seq Terse.uint32.option

theorem arguments_terse (op : Operation) : Terse (arguments op) := by
  have hid : Terse remoteId := remoteId_terse
  cases op with
  | enumerate => exact properties_terse.list.seq Terse.uint32
  | destroyToken | cloneToken | getProperties | updateProperties | closeHandle | resetHandle
  | getHandleProperties | clearAllErrors | destroyObject | objectGetType | objectGetName
  | getNumMetrics => exact hid
  | openHandle | mapMmio | readError | getErrorInfo | clearError | objectGetSize | objectRead64
  | getUserClock | getMetricThresholds => exact hid.seq Terse.uint32
  | objectGetObjectAt | getMetricsInfo => exact hid.seq Terse.uint64
  | getMetricsByIndex => exact hid.seq Terse.uint64.list
  | getMetricsByName => exact hid.seq Terse.text.list
  | releaseBuffer | getIoAddress => exact hid.seq hid
  | unmapMmio => exact hid.seq (hid.seq Terse.uint32)
  | readMmio32 | readMmio64 | readMmio512 => exact hid.seq (Terse.uint32.seq Terse.uint64)
  | objectWrite64 => exact hid.seq (Terse.uint64.seq Terse.uint32)
  | tokenGetObject | handleGetObject | objectGetObject =>
    exact hid.seq (Terse.text.seq Terse.uint32)
  | prepareBuffer => exact hid.seq (Terse.uint64.seq (Terse.uint64.option.seq Terse.uint32))
  | objectRead | setUserClock =>
    exact hid.seq (Terse.uint64.seq (Terse.uint64.seq Terse.uint32))
  | writeMmio32 => exact hid.seq (Terse.uint32.seq (Terse.uint64.seq Terse.uint32))
  | writeMmio64 => exact hid.seq (Terse.uint32.seq (Terse.uint64.seq Terse.uint64))
  | writeMmio512 => exact hid.seq (Terse.uint32.seq (Terse.uint64.seq Terse.bytes))
  | reconfigureSlot => exact hid.seq (Terse.uint32.seq (Terse.text.seq Terse.uint32))
  | bufferFill => exact hid.seq (hid.seq (Terse.uint64.seq (Terse.uint8.seq Terse.uint64)))
  | bufferWrite => exact hid.seq (hid.seq (Terse.uint64.seq (Terse.bytes.seq Terse.uint64)))
  | bufferRead => exact hid.seq (hid.seq (Terse.uint64.seq Terse.uint64))
  | bufferPoll =>
    exact hid.seq <| hid.seq <| Terse.uint64.seq <| Terse.uint32.seq <|
      Terse.uint64.seq <| Terse.uint64.seq <| Terse.uint64.seq Terse.uint64
  | bufferCompare =>
    exact hid.seq <| hid.seq <| Terse.uint64.seq <| hid.seq <| Terse.uint64.seq Terse.uint64
  | bufferPattern => exact hid.seq (hid.seq Terse.text)

theorem header_terse : Terse header := by
  have huuid : Terse uuid :=
    (Terse.counted DecodeError.terse_bodyEnded).refine fun {_ bytes _ _} hbytes h => by
      have hlength := Terse.length_le_of_counted hbytes
      cases hsized : Codec.sized 16 (.uuidLength bytes.length) bytes with
      | ok value =>
        rw [hsized] at h
        cases h
      | error fault =>
        rw [hsized] at h
        obtain rfl := Terse.sized hsized
        obtain rfl := Except.error.inj h
        exact List.forall_mem_singleton.mpr hlength
  exact (Terse.uint16.seq huuid).convert

theorem envelope_terse {α : Type} {payload : Codec α} (h : Terse payload) :
    Terse (envelope payload) := (header_terse.seq h).convert

theorem requestEnvelope_terse : Terse requestEnvelope :=
  envelope_terse (Terse.choice (Terse.enumeration (by decide)) arguments_terse).convert

theorem terse_of_decodeFrame {α : Type} {c : Codec α} (hc : Terse c) {frame : List UInt8}
    {e : DecodeError} (h : decodeFrame c frame = .error e) : e.Terse := by
  unfold decodeFrame at h
  cases hd : c.decode frame with
  | ok found =>
    rw [hd] at h
    cases h
  | error e' =>
    rw [hd] at h
    obtain rfl := Except.error.inj h
    exact hc.of_error hd

end Wire

namespace TransportError

theorem utf8ByteSize_ofDecodeError_le {e : DecodeError} (h : e.Terse) :
    (ofDecodeError e).message.utf8ByteSize ≤ 512 :=
  Nat.le_trans (utf8ByteSize_append_le (Nat.le_refl _) h.utf8ByteSize_message_le) (by decide)

theorem utf8ByteSize_unsupportedVersion_le (received supported : UInt16) :
    (unsupportedVersion received supported).message.utf8ByteSize ≤ 512 := by
  have hsmall (version : UInt16) : version.toNat ≤ 2 ^ 64 :=
    Nat.le_trans (Nat.le_of_lt version.toNat_lt) (by decide)
  exact Nat.le_trans
    (utf8ByteSize_append_le
      (utf8ByteSize_between_le (utf8ByteSize_before_le _ (hsmall received)) _ (hsmall supported))
      (Nat.le_refl _)) (by decide)

end TransportError

end DeviceBroker
