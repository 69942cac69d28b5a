import DeviceBroker.Proofs.Wire.Format

/-!
# Short encodings

What a message has to fit are the lengths that are written before its texts,
byte strings and lists. Each of these is the length of a part of the encoding,
so a message whose encoding is short fits as it is: a codec bounds what its
values have to fit. A list needs a little more, since a value that took no bytes
could be listed any number of times; no element of a list of this format does.
-/

namespace DeviceBroker

namespace Codec

variable {α β : Type}

/-- Values with an encoding below the largest length fit. -/
structure Bounds (c : Codec α) (Fits : α → Prop) : Prop where
  fits (value : α) : (c.encode value).length < 2 ^ 64 → Fits value

/-- Every encoding has a byte. -/
structure Visible (c : Codec α) : Prop where
  pos (value : α) : 0 < (c.encode value).length

theorem length_encode_natural (width n : Nat) : ((natural width).encode n).length = width :=
  Bytes.length_littleEndian width n

theorem length_encode_counted (short : DecodeError) (bytes : List UInt8) :
    ((counted short).encode bytes).length = 8 + bytes.length := by
  show ((natural 8).encode bytes.length ++ bytes).length = _
  rw [List.length_append, length_encode_natural]

theorem length_encode_seq (c : Codec α) (d : Codec β) (value : α × β) :
    ((c.seq d).encode value).length = (c.encode value.1).length + (d.encode value.2).length :=
  List.length_append

/-! ### Visible codecs -/

namespace Visible

theorem natural (width : Nat) : Visible (Codec.natural (width + 1)) where
  pos n := by
    rw [length_encode_natural]
    exact Nat.succ_pos width

theorem counted (short : DecodeError) : Visible (Codec.counted short) where
  pos bytes := by
    rw [length_encode_counted]
    omega

theorem refine {c : Codec α} {into : α → Except DecodeError β} {back : β → α} (h : Visible c) :
    Visible (c.refine into back) where
  pos value := h.pos (back value)

theorem convert {c : Codec α} {into : α → β} {back : β → α} (h : Visible c) :
    Visible (c.convert into back) := h.refine

theorem seq {c : Codec α} {d : Codec β} (h : Visible c) : Visible (c.seq d) where
  pos value := by
    rw [length_encode_seq]
    exact Nat.add_pos_left (h.pos value.1) _

theorem option (c : Codec α) : Visible (Codec.option c) where
  pos
    | none => Nat.one_pos
    | some _ => Nat.succ_pos _

theorem uint64 : Visible Codec.uint64 := (natural 7).convert

theorem text : Visible Codec.text := (counted .bodyEnded).refine

end Visible

/-! ### Codecs that bound their values -/

namespace Bounds

theorem mono {c : Codec α} {P Q : α → Prop} (h : Bounds c P) (hPQ : ∀ value, P value → Q value) :
    Bounds c Q where
  fits value hlength := hPQ value (h.fits value hlength)

theorem bytes : Bounds Codec.bytes fun bytes => bytes.length < 2 ^ 64 where
  fits bytes hlength := by
    rw [Codec.bytes, length_encode_counted] at hlength
    omega

theorem text : Bounds Codec.text fun text => text.utf8ByteSize < 2 ^ 64 where
  fits text hlength := by
    have hsum : (Codec.text.encode text).length = 8 + text.utf8ByteSize :=
      length_encode_counted .bodyEnded text.toByteArray.data.toList
    omega

theorem convert {c : Codec α} {P : α → Prop} {into : α → β} {back : β → α} (h : Bounds c P) :
    Bounds (c.convert into back) fun value => P (back value) where
  fits value := h.fits (back value)

theorem fst {c : Codec α} {d : Codec β} {P : α → Prop} (h : Bounds c P) :
    Bounds (c.seq d) fun value => P value.1 where
  fits value hlength := by
    rw [length_encode_seq] at hlength
    exact h.fits value.1 (Nat.lt_of_le_of_lt (Nat.le_add_right _ _) hlength)

theorem snd {c : Codec α} {d : Codec β} {Q : β → Prop} (h : Bounds d Q) :
    Bounds (c.seq d) fun value => Q value.2 where
  fits value hlength := by
    rw [length_encode_seq] at hlength
    exact h.fits value.2 (Nat.lt_of_le_of_lt (Nat.le_add_left _ _) hlength)

theorem seq {c : Codec α} {d : Codec β} {P : α → Prop} {Q : β → Prop} (hc : Bounds c P)
    (hd : Bounds d Q) : Bounds (c.seq d) fun value => P value.1 ∧ Q value.2 where
  fits value hlength := ⟨hc.fst.fits value hlength, hd.snd.fits value hlength⟩

theorem choice {ι : Type} {γ : ι → Type} {tag : Codec ι} {body : (i : ι) → Codec (γ i)}
    {P : (i : ι) → γ i → Prop} (h : ∀ i, Bounds (body i) (P i)) :
    Bounds (Codec.choice tag body) fun value => P value.1 value.2 where
  fits value hlength := by
    have hsum : ((Codec.choice tag body).encode value).length =
        (tag.encode value.1).length + ((body value.1).encode value.2).length := List.length_append
    rw [hsum] at hlength
    exact (h value.1).fits value.2 (Nat.lt_of_le_of_lt (Nat.le_add_left _ _) hlength)

theorem option {c : Codec α} {P : α → Prop} (h : Bounds c P) :
    Bounds (Codec.option c) fun value => ∀ a ∈ value, P a where
  fits value hlength a ha := by
    obtain rfl : value = some a := ha
    have hsum : ((Codec.option c).encode (some a)).length = 1 + (c.encode a).length :=
      List.length_append
    exact h.fits a (by omega)

end Bounds

/-- As each element has a byte, there are no more elements than bytes. -/
theorem Visible.length_le {c : Codec α} (h : Visible c) (values : List α) :
    values.length ≤ (values.flatMap c.encode).length := by
  induction values with
  | nil => exact Nat.le_refl 0
  | cons value values ih =>
    have hpos := h.pos value
    rw [List.flatMap_cons, List.length_append, List.length_cons]
    omega

theorem Bounds.list {c : Codec α} {P : α → Prop} (hvisible : Visible c) (h : Bounds c P) :
    Bounds (Codec.list c) fun values => values.length < 2 ^ 64 ∧ ∀ value ∈ values, P value where
  fits values hlength := by
    have hsum : ((Codec.list c).encode values).length =
        8 + (values.flatMap c.encode).length := by
      show ((Codec.natural 8).encode values.length ++ values.flatMap c.encode).length = _
      rw [List.length_append, length_encode_natural]
    have hcount := hvisible.length_le values
    refine ⟨by omega, fun value hm => h.fits value ?_⟩
    have hpart : (c.encode value).length ≤ (values.flatMap c.encode).length := by
      rw [List.flatMap_def]
      exact (List.sublist_flatten_of_mem (List.mem_map_of_mem hm)).length_le
    omega

/-- However large the elements are, a short list can be counted. -/
theorem Bounds.length {c : Codec α} (hvisible : Visible c) :
    Bounds (Codec.list c) fun values => values.length < 2 ^ 64 :=
  (Bounds.list hvisible (P := fun _ => True) ⟨fun _ _ => trivial⟩).mono fun _ h => h.1

end Codec

namespace Wire

open Codec (Bounds Visible)

/-! ### Records -/

theorem text_bounds : Bounds .text TextFits := Bounds.text

/-- The interface is the one field without a fixed width. -/
theorem properties_bounds : Bounds properties PropertiesFit :=
  Bounds.convert text_bounds.option.fst.snd.snd.snd.snd.snd.snd.snd.snd.snd.snd.snd.snd.snd.snd

theorem properties_visible : Visible properties := (Visible.option remoteId).seq.convert

theorem tokenHeader_bounds : Bounds tokenHeader fun t => HeaderFits t.header := by
  have hheader : Bounds deviceHeader HeaderFits := text_bounds.fst.snd.snd.snd.snd.snd.snd.convert
  exact hheader.snd.convert

theorem tokenHeader_visible : Visible tokenHeader := Visible.uint64.seq.convert.seq.convert

theorem enumerationResult_bounds :
    Bounds enumerationResult fun e => ListFits (fun t => HeaderFits t.header) e.tokens :=
  (tokenHeader_bounds.list tokenHeader_visible).fst.convert

theorem errorInfo_bounds : Bounds errorInfo fun info => TextFits info.name :=
  text_bounds.fst.convert

theorem metricInfo_bounds : Bounds metricInfo MetricInfoFits :=
  (text_bounds.seq (text_bounds.seq (text_bounds.seq text_bounds.fst))).snd.snd.convert

theorem metricInfo_visible : Visible metricInfo := Visible.uint64.seq.convert

theorem metricThresholds_bounds : Bounds metricThresholds ThresholdsFit := by
  have threshold_bounds : Bounds threshold fun t => TextFits t.name := text_bounds.fst.convert
  have level := threshold_bounds.option
  have h : Bounds metricThresholds _ :=
    (text_bounds.seq <| level.seq <| level.seq <| level.seq <| level.seq <| level.seq <|
      level.seq level).convert
  exact h.mono fun t ht => by simpa [ThresholdsFit] using ht

theorem metricThresholds_visible : Visible metricThresholds := Visible.text.seq.convert

theorem metric_visible : Visible metric := Visible.uint64.seq.convert

/-! ### Messages -/

theorem arguments_bounds (op : Operation) : Bounds (arguments op) (ArgumentsFit op) := by
  cases op with
  | enumerate => exact (properties_bounds.list properties_visible).fst
  | writeMmio512 => exact Bounds.bytes.snd.snd.snd
  | tokenGetObject | handleGetObject | objectGetObject => exact text_bounds.fst.snd
  | getMetricsByIndex => exact (Bounds.length Visible.uint64).snd
  | getMetricsByName => exact (text_bounds.list Visible.text).snd
  | reconfigureSlot => exact text_bounds.fst.snd.snd
  | bufferWrite => exact Bounds.bytes.fst.snd.snd.snd
  | bufferPattern => exact text_bounds.snd.snd
  | _ => exact ⟨fun _ _ => trivial⟩

theorem value_bounds (op : Operation) : Bounds (value op) (ValueFits op) := by
  cases op with
  | enumerate => exact enumerationResult_bounds
  | cloneToken => exact tokenHeader_bounds
  | getProperties | updateProperties | getHandleProperties => exact properties_bounds
  | getErrorInfo => exact errorInfo_bounds
  | objectGetName => exact text_bounds
  | objectRead | bufferRead => exact Bounds.bytes
  | getMetricsInfo => exact metricInfo_bounds.list metricInfo_visible
  | getMetricsByIndex | getMetricsByName => exact Bounds.length metric_visible
  | getMetricThresholds => exact metricThresholds_bounds.list metricThresholds_visible
  | _ => exact ⟨fun _ _ => trivial⟩

theorem request_bounds : Bounds request RequestFits := (Bounds.choice arguments_bounds).convert

theorem outcome_bounds {α : Type} {value : Codec α} {Fits : α → Prop} (h : Bounds value Fits) :
    Bounds (outcome value) fun o => ∀ a ∈ o.value, Fits a := h.option.snd.convert

theorem reply_bounds : Bounds reply ReplyFits := by
  have hbody : ∀ answered,
      Bounds (replyBody answered) fun body => ReplyFits (joinReply ⟨answered, body⟩) := by
    rintro (_ | op)
    · exact text_bounds
    · exact outcome_bounds (value_bounds op)
  have h : Bounds reply _ := (Bounds.choice hbody).convert
  exact h.mono fun reply hfits => by rwa [joinReply_splitReply] at hfits

theorem envelope_bounds {α : Type} {payload : Codec α} {Fits : α → Prop} (h : Bounds payload Fits) :
    Bounds (envelope payload) fun e => Fits e.payload := h.snd.convert

/-- An envelope with a short encoding is read back from it. -/
theorem decodeFrame_encode_of_length {α : Type} {payload : Codec α} {Fits : α → Prop}
    (hexact : Codec.Exact payload Fits) (hbounds : Bounds payload Fits) {e : Envelope α}
    (hlength : ((envelope payload).encode e).length < 2 ^ 64) :
    decodeFrame (envelope payload) ((envelope payload).encode e) = .ok e :=
  decodeFrame_encode (envelope_exact hexact) ((envelope_bounds hbounds).fits e hlength)

end Wire

end DeviceBroker
