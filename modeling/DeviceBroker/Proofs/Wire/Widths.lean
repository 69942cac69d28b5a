import DeviceBroker.Proofs.Wire.Short
import DeviceBroker.Simulator.Telemetry
import Mathlib.Data.String.Basic

/-!
# Widths

How many bytes a codec writes at most. Numbers, tags and identifiers have a
fixed width, an optional value takes a tag more, and widths add up along a
sequence. What is left open is the size of texts and byte strings and the
number of elements of a list. So the width of a reply is known once the texts
in it are short: only tokens, samples and bytes can then make it long, and it
grows by a fixed width with each of them.
-/

namespace DeviceBroker

/-- No character takes more than four bytes. -/
theorem utf8ByteSize_ofList_le (chars : List Char) :
    (String.ofList chars).utf8ByteSize ≤ 4 * chars.length := by
  rw [String.utf8ByteSize_ofList]
  induction chars with
  | nil => exact Nat.le_refl 0
  | cons c rest ih =>
    have hc := c.utf8Size_le_four
    rw [String.utf8Len_cons, List.length_cons]
    omega

namespace Codec

variable {α β : Type}

/-- Values with a property take at most so many bytes. -/
structure Within (c : Codec α) (P : α → Prop) (most : Nat) : Prop where
  le (value : α) : P value → (c.encode value).length ≤ most

/-- All values take at most so many bytes. -/
abbrev AtMost (c : Codec α) (most : Nat) : Prop := Within c (fun _ => True) most

theorem length_encode_list (c : Codec α) (values : List α) :
    ((Codec.list c).encode values).length = 8 + (values.flatMap c.encode).length := by
  show ((natural 8).encode values.length ++ values.flatMap c.encode).length = _
  rw [List.length_append, length_encode_natural]

namespace Within

theorem mono {c : Codec α} {P : α → Prop} {m n : Nat} (h : Within c P m) (hmn : m ≤ n) :
    Within c P n where
  le value hv := Nat.le_trans (h.le value hv) hmn

theorem natural (width : Nat) : AtMost (Codec.natural width) width where
  le n _ := Nat.le_of_eq (length_encode_natural width n)

theorem refine {c : Codec α} {P : α → Prop} {most : Nat} {into : α → Except DecodeError β}
    {back : β → α} (h : Within c P most) :
    Within (c.refine into back) (fun value => P (back value)) most where
  le value := h.le (back value)

theorem convert {c : Codec α} {P : α → Prop} {most : Nat} {into : α → β} {back : β → α}
    (h : Within c P most) : Within (c.convert into back) (fun value => P (back value)) most where
  le value := h.le (back value)

/-- The second of two parts may be wide. -/
theorem seq {c : Codec α} {d : Codec β} {Q : β → Prop} {m n : Nat} (hc : AtMost c m)
    (hd : Within d Q n) : Within (c.seq d) (fun value => Q value.2) (m + n) where
  le value hv := by
    rw [length_encode_seq]
    exact Nat.add_le_add (hc.le value.1 trivial) (hd.le value.2 hv)

/-- The first of two parts may be wide. -/
theorem seqAtMost {c : Codec α} {d : Codec β} {P : α → Prop} {m n : Nat} (hc : Within c P m)
    (hd : AtMost d n) : Within (c.seq d) (fun value => P value.1) (m + n) where
  le value hv := by
    rw [length_encode_seq]
    exact Nat.add_le_add (hc.le value.1 hv) (hd.le value.2 trivial)

theorem uint8 : AtMost Codec.uint8 1 := (natural 1).convert

theorem uint16 : AtMost Codec.uint16 2 := (natural 2).convert

theorem uint32 : AtMost Codec.uint32 4 := (natural 4).convert

theorem uint64 : AtMost Codec.uint64 8 := (natural 8).convert

theorem enumeration [DecidableEq α] (values : List α) : AtMost (Codec.enumeration values) 4 :=
  uint32.refine

theorem option {c : Codec α} {P : α → Prop} {most : Nat} (h : Within c P most) :
    Within (Codec.option c) (fun value => ∀ a ∈ value, P a) (1 + most) where
  le
    | none, _ => Nat.le_add_right 1 most
    | some value, hv => by
      have htag : (presence.encode true).length = 1 := length_encode_natural 1 _
      show (presence.encode true ++ c.encode value).length ≤ 1 + most
      rw [List.length_append, htag]
      exact Nat.add_le_add_left (h.le value (hv value rfl)) 1

theorem atMost_option {c : Codec α} {most : Nat} (h : AtMost c most) :
    AtMost (Codec.option c) (1 + most) where
  le value _ := h.option.le value fun _ _ => trivial

theorem choice {ι : Type} {γ : ι → Type} {tag : Codec ι} {body : (i : ι) → Codec (γ i)}
    {P : (i : ι) → γ i → Prop} {m n : Nat} (htag : AtMost tag m)
    (hbody : ∀ i, Within (body i) (P i) n) :
    Within (Codec.choice tag body) (fun value => P value.1 value.2) (m + n) where
  le value hv := by
    show (tag.encode value.1 ++ (body value.1).encode value.2).length ≤ m + n
    rw [List.length_append]
    exact Nat.add_le_add (htag.le value.1 trivial) ((hbody value.1).le value.2 hv)

theorem counted (short : DecodeError) (most : Nat) :
    Within (Codec.counted short) (fun bytes => bytes.length ≤ most) (8 + most) where
  le bytes hb := by
    rw [length_encode_counted]
    exact Nat.add_le_add_left hb 8

theorem text (most : Nat) : Within Codec.text (fun text => text.utf8ByteSize ≤ most) (8 + most) :=
  (counted .bodyEnded most).refine

theorem bare (size : Nat) : AtMost (Codec.bare size) size where
  le value _ := Nat.le_of_eq value.length_toList

theorem array (size : Nat) : AtMost (Codec.array size) (8 + size) where
  le value _ := (counted .bodyEnded size).le value.toList (Nat.le_of_eq value.length_toList)

theorem flatMap_le {c : Codec α} {P : α → Prop} {most : Nat} (h : Within c P most)
    {values : List α} (hv : ∀ value ∈ values, P value) :
    (values.flatMap c.encode).length ≤ most * values.length := by
  induction values with
  | nil => exact Nat.le_refl 0
  | cons value values ih =>
    rw [List.forall_mem_cons] at hv
    rw [List.flatMap_cons, List.length_append, List.length_cons, Nat.mul_succ, Nat.add_comm]
    exact Nat.add_le_add (ih hv.2) (h.le value hv.1)

/-- A list takes its length and a fixed width for each element. -/
theorem list_le {c : Codec α} {P : α → Prop} {most : Nat} (h : Within c P most)
    {values : List α} (hv : ∀ value ∈ values, P value) :
    ((Codec.list c).encode values).length ≤ 8 + most * values.length := by
  rw [length_encode_list]
  exact Nat.add_le_add_left (h.flatMap_le hv) 8

end Within

/-- The front of a list takes no more than the list. -/
theorem length_encode_list_le_of_prefix (c : Codec α) {front values : List α}
    (h : front <+: values) :
    ((Codec.list c).encode front).length ≤ ((Codec.list c).encode values).length := by
  obtain ⟨rest, rfl⟩ := h
  rw [length_encode_list, length_encode_list, List.flatMap_append, List.length_append]
  omega

end Codec

namespace Wire

open Codec (Within AtMost)

/-! ### Records -/

theorem remoteId_atMost : AtMost remoteId 16 := (Within.uint64.seq Within.uint64).convert

theorem imageVersion_atMost : AtMost imageVersion 4 :=
  (Within.uint8.seq (Within.uint8.seq Within.uint16)).convert

/-- An interface with a short name. -/
def InterfaceBrief (text : String) : Prop := text.utf8ByteSize ≤ 3

theorem properties_within :
    Within properties (fun p => ∀ text ∈ p.interface, InterfaceBrief text) 122 :=
  Within.convert <|
    remoteId_atMost.atMost_option.seq <| (Within.enumeration _).atMost_option.seq <|
    Within.uint16.atMost_option.seq <| Within.uint8.atMost_option.seq <|
    Within.uint8.atMost_option.seq <| Within.uint8.atMost_option.seq <|
    Within.uint8.atMost_option.seq <| Within.uint16.atMost_option.seq <|
    Within.uint16.atMost_option.seq <| Within.uint16.atMost_option.seq <|
    Within.uint16.atMost_option.seq <| Within.uint64.atMost_option.seq <|
    (Within.bare 16).atMost_option.seq <| Within.uint32.atMost_option.seq <|
    (Within.text 3).option.seqAtMost <| Within.uint32.atMost_option.seq <|
    Within.uint64.atMost_option.seq <| imageVersion_atMost.atMost_option.seq <|
    (Within.enumeration _).atMost_option.seq <|
    Within.uint32.atMost_option.seq Within.uint32.atMost_option

theorem tokenHeader_within :
    Within tokenHeader (fun t => InterfaceBrief t.header.interface) 76 := by
  have hheader : Within deviceHeader (fun h => InterfaceBrief h.interface) 60 :=
    Within.convert <|
      Within.uint16.seq <| Within.uint16.seq <| Within.uint16.seq <| Within.uint8.seq <|
      Within.uint8.seq <| Within.uint8.seq <| (Within.text 3).seqAtMost <|
      (Within.enumeration _).seq <| Within.uint64.seq <| (Within.array 16).seq <|
      Within.uint16.seq Within.uint16
  exact (remoteId_atMost.seq hheader).convert

theorem metric_atMost : AtMost metric 21 := by
  have hboolean : AtMost Codec.boolean 1 := Within.uint8.refine
  have hbody : ∀ kind, Within (metricValueBody kind) (fun _ => True) 8 := by
    rintro (_ | _ | _)
    · exact Within.uint64
    · exact Within.uint64.convert
    · exact hboolean.mono (by decide)
  have hvalue : AtMost metricValue 12 := (Within.choice (Within.enumeration _) hbody).convert
  exact (Within.uint64.seq (hvalue.seq hboolean)).convert

/-! ### Values -/

/-- A name, or the text of an attribute, that is short. -/
def TextBrief (text : String) : Prop := text.utf8ByteSize ≤ 128

/-- The texts in the value of an operation are short, and descriptions of metrics are those of
the driver's own table. -/
def ValueBrief : (op : Operation) → op.Value → Prop
  | .enumerate, e => ∀ token ∈ e.tokens, InterfaceBrief token.header.interface
  | .cloneToken, token => InterfaceBrief token.header.interface
  | .getProperties, p => ∀ text ∈ p.interface, InterfaceBrief text
  | .updateProperties, p => ∀ text ∈ p.interface, InterfaceBrief text
  | .getHandleProperties, p => ∀ text ∈ p.interface, InterfaceBrief text
  | .getErrorInfo, info => TextBrief info.name
  | .objectGetName, name => TextBrief name
  | .objectRead, bytes => bytes.length ≤ 128
  | .getMetricsInfo, infos => infos <+: Telemetry.metrics
  | .getMetricThresholds, thresholds => thresholds <+: Telemetry.thresholds
  | _, _ => True

/-- The width of a value that the smallest frame has room for, beside the rest of a reply. -/
def narrowWidth : Nat := 989

/-- How wide a value can be whose texts are short. Tokens, samples and the bytes of a buffer
are what there may be many of. -/
def valueWidth : (op : Operation) → op.Value → Nat
  | .enumerate, e => 12 + 76 * e.tokens.length
  | .getMetricsByIndex, metrics => 8 + 21 * metrics.length
  | .getMetricsByName, metrics => 8 + 21 * metrics.length
  | .bufferRead, bytes => 8 + bytes.length
  | _, _ => narrowWidth

theorem narrow_of_within {α : Type} {c : Codec α} {P : α → Prop} {most : Nat} {v : α}
    (h : Within c P most) (hmost : most ≤ narrowWidth) (hv : P v) :
    (c.encode v).length ≤ narrowWidth := Nat.le_trans (h.le v hv) hmost

theorem length_encode_value_le (op : Operation) (v : op.Value) (h : ValueBrief op v) :
    ((value op).encode v).length ≤ valueWidth op v := by
  cases op with
  | enumerate =>
    have htokens := tokenHeader_within.list_le h
    have hcount := Within.uint32.le v.numMatches trivial
    have hsum : (enumerationResult.encode v).length =
        ((Codec.list tokenHeader).encode v.tokens).length +
          (Codec.uint32.encode v.numMatches).length := List.length_append
    show (enumerationResult.encode v).length ≤ 12 + 76 * v.tokens.length
    omega
  | cloneToken => exact narrow_of_within tokenHeader_within (by decide) h
  | getProperties | updateProperties | getHandleProperties =>
    exact narrow_of_within properties_within (by decide) h
  | getErrorInfo =>
    have hinfo : Within errorInfo (fun info => TextBrief info.name) 137 :=
      ((Within.text 128).seqAtMost Within.uint8.refine).convert
    exact narrow_of_within hinfo (by decide) h
  | objectGetName => exact narrow_of_within (Within.text 128) (by decide) h
  | objectRead => exact narrow_of_within (Within.counted .ended 128) (by decide) h
  | getMetricsInfo =>
    have htable : ((Codec.list metricInfo).encode Telemetry.metrics).length ≤ narrowWidth := by
      decide +kernel
    exact Nat.le_trans (Codec.length_encode_list_le_of_prefix metricInfo h) htable
  | getMetricThresholds =>
    have htable : ((Codec.list metricThresholds).encode Telemetry.thresholds).length ≤
        narrowWidth := by decide +kernel
    exact Nat.le_trans (Codec.length_encode_list_le_of_prefix metricThresholds h) htable
  | getMetricsByIndex | getMetricsByName => exact metric_atMost.list_le fun _ _ => trivial
  | bufferRead => exact (Within.counted .ended v.length).le v (Nat.le_refl _)
  | openHandle =>
    have hheader : AtMost handleHeader 32 := (remoteId_atMost.seq remoteId_atMost).convert
    exact narrow_of_within hheader (by decide) trivial
  | mapMmio | prepareBuffer | tokenGetObject | handleGetObject | objectGetObject
  | objectGetObjectAt => exact narrow_of_within remoteId_atMost (by decide) trivial
  | readMmio32 | objectGetSize => exact narrow_of_within Within.uint32 (by decide) trivial
  | bufferCompare => exact narrow_of_within Within.uint32.convert (by decide) trivial
  | readMmio64 | getIoAddress | readError | objectRead64 | getNumMetrics =>
    exact narrow_of_within Within.uint64 (by decide) trivial
  | readMmio512 => exact narrow_of_within (Within.array 64) (by decide) trivial
  | objectGetType => exact narrow_of_within (Within.enumeration _) (by decide) trivial
  | getUserClock =>
    have hclock : AtMost userClock 16 := (Within.uint64.seq Within.uint64).convert
    exact narrow_of_within hclock (by decide) trivial
  | destroyToken | closeHandle | resetHandle | unmapMmio | writeMmio32 | writeMmio64
  | writeMmio512 | releaseBuffer | clearError | clearAllErrors | destroyObject | objectWrite64
  | setUserClock | reconfigureSlot | bufferFill | bufferWrite | bufferPoll | bufferPattern =>
    exact Nat.zero_le _

/-! ### Replies -/

/-- An answer takes two tags and a status, and the value that may come with it. -/
theorem length_encode_answer_le {op : Operation} {outcome : Outcome op.Value} {most : Nat}
    (h : ∀ v ∈ outcome.value, ((value op).encode v).length ≤ most) :
    (reply.encode (.answer op outcome)).length ≤ 9 + most := by
  have hvalue : Within (value op) (fun v => v ∈ outcome.value) most :=
    ⟨fun v hv => h v hv⟩
  have houtcome : Within (Wire.outcome (value op))
      (fun o => ∀ v ∈ o.value, v ∈ outcome.value) (4 + (1 + most)) :=
    (Within.uint32.refine.seq hvalue.option).convert
  have htag : (answered.encode (some op)).length ≤ 4 := (Within.enumeration _).le _ trivial
  have hbody := houtcome.le outcome fun _ hv => hv
  show (answered.encode (some op) ++ (Wire.outcome (value op)).encode outcome).length ≤ 9 + most
  rw [List.length_append]
  omega

theorem length_encode_rejected_le {reason : String} {most : Nat}
    (h : reason.utf8ByteSize ≤ most) :
    (reply.encode (.rejected reason)).length ≤ 12 + most := by
  have htag : (answered.encode none).length ≤ 4 := (Within.enumeration _).le _ trivial
  have hbody := (Within.text most).le reason h
  show (answered.encode none ++ Codec.text.encode reason).length ≤ 12 + most
  rw [List.length_append]
  omega

end Wire

end DeviceBroker
