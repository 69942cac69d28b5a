import DeviceBroker.Proofs.Wire.Exact
import DeviceBroker.Wire.Envelope

/-!
# The wire format is exact

A message fits when the length of every text, byte string and list in it can
be written in eight bytes. On messages that fit, the codecs of all records,
arguments and values are exact, one case per operation, and so are the
envelopes of requests and replies. A frame body therefore decodes to an
envelope exactly when it begins with the encoding of that envelope: encodings
are injective and prefix-free, and frames that decode to the same envelope
differ in their trailing bytes only.
-/

namespace DeviceBroker.Wire

open Codec (Exact Total)

/-! ### The lengths in a message -/

/-- A text whose length can be written. -/
def TextFits (text : String) : Prop := text.utf8ByteSize < 2 ^ 64

/-- A list whose length can be written, of values that fit. -/
def ListFits {α : Type} (Fits : α → Prop) (values : List α) : Prop :=
  values.length < 2 ^ 64 ∧ ∀ value ∈ values, Fits value

def PropertiesFit (p : Properties RemoteId) : Prop := ∀ text ∈ p.interface, TextFits text

def HeaderFits (h : DeviceHeader) : Prop := TextFits h.interface

def MetricInfoFits (m : MetricInfo) : Prop :=
  TextFits m.qualifierName ∧ TextFits m.groupName ∧ TextFits m.name ∧ TextFits m.units

/-- The levels of a metric are named, and so are those that are set. -/
def ThresholdsFit (t : MetricThresholds) : Prop :=
  TextFits t.metricName ∧
    ∀ level ∈ [t.upperNonRecoverable, t.upperCritical, t.upperNonCritical, t.lowerNonRecoverable,
      t.lowerCritical, t.lowerNonCritical, t.hysteresis],
      ∀ threshold ∈ level, TextFits threshold.name

/-- The lengths in the arguments of an operation. -/
def ArgumentsFit : (op : Operation) → op.Arguments → Prop
  | .enumerate, (filters, _) => ListFits PropertiesFit filters
  | .writeMmio512, (_, _, _, values) => values.length < 2 ^ 64
  | .tokenGetObject, (_, name, _) => TextFits name
  | .handleGetObject, (_, name, _) => TextFits name
  | .objectGetObject, (_, name, _) => TextFits name
  | .getMetricsByIndex, (_, numbers) => numbers.length < 2 ^ 64
  | .getMetricsByName, (_, names) => ListFits TextFits names
  | .reconfigureSlot, (_, _, path, _) => TextFits path
  | .bufferWrite, (_, _, _, source, _) => source.length < 2 ^ 64
  | .bufferPattern, (_, _, pattern) => TextFits pattern
  | _, _ => True

/-- The lengths in the value of an operation. -/
def ValueFits : (op : Operation) → op.Value → Prop
  | .enumerate, enumeration => ListFits (fun t => HeaderFits t.header) enumeration.tokens
  | .cloneToken, token => HeaderFits token.header
  | .getProperties, p => PropertiesFit p
  | .updateProperties, p => PropertiesFit p
  | .getHandleProperties, p => PropertiesFit p
  | .getErrorInfo, info => TextFits info.name
  | .objectGetName, name => TextFits name
  | .objectRead, bytes => bytes.length < 2 ^ 64
  | .getMetricsInfo, infos => ListFits MetricInfoFits infos
  | .getMetricsByIndex, metrics => metrics.length < 2 ^ 64
  | .getMetricsByName, metrics => metrics.length < 2 ^ 64
  | .getMetricThresholds, thresholds => ListFits ThresholdsFit thresholds
  | .bufferRead, bytes => bytes.length < 2 ^ 64
  | _, _ => True

def RequestFits (request : Request) : Prop := ArgumentsFit request.split.1 request.split.2

def ReplyFits : Reply → Prop
  | .answer op outcome => ∀ value ∈ outcome.value, ValueFits op value
  | .rejected reason => TextFits reason

/-! ### Records -/

theorem text_exact : Exact .text TextFits := Exact.text

theorem remoteId_total : Total remoteId :=
  (Exact.uint64.seq Exact.uint64).convert (fun _ => rfl) fun _ _ => rfl

theorem double_total : Total double := Exact.uint64.convert (fun _ => rfl) fun _ _ => rfl

theorem resourceKind_total : Total resourceKind :=
  Exact.enumeration (by decide) (by rintro (_ | _) <;> decide) (by decide)

theorem assignment_total : Total assignment :=
  Exact.enumeration (by decide) (by rintro (_ | _) <;> decide) (by decide)

theorem nodeKind_total : Total nodeKind :=
  Exact.enumeration (by decide) (by rintro (_ | _) <;> decide) (by decide)

theorem metricDatatype_total : Total metricDatatype :=
  Exact.enumeration (by decide) (by rintro (_ | _) <;> decide) (by decide)

theorem metricCategory_total : Total metricCategory :=
  Exact.enumeration (by decide) (by rintro (_ | _) <;> decide) (by decide)

theorem imageVersion_total : Total imageVersion :=
  (Exact.uint8.seq (Exact.uint8.seq Exact.uint16)).convert (fun _ => rfl) fun _ _ => rfl

theorem properties_exact : Exact properties PropertiesFit :=
  Exact.convert
    (remoteId_total.option.seq <| resourceKind_total.option.seq <| Exact.uint16.option.seq <|
      Exact.uint8.option.seq <| Exact.uint8.option.seq <| Exact.uint8.option.seq <|
      Exact.uint8.option.seq <| Exact.uint16.option.seq <| Exact.uint16.option.seq <|
      Exact.uint16.option.seq <| Exact.uint16.option.seq <| Exact.uint64.option.seq <|
      (Exact.bare 16).option.seq <| Exact.uint32.option.seq <| text_exact.option.seqTotal <|
      Exact.uint32.option.seq <| Exact.uint64.option.seq <| imageVersion_total.option.seq <|
      assignment_total.option.seq <| Exact.uint32.option.seq Exact.uint32.option)
    (fun _ => rfl) fun _ _ => rfl

theorem deviceHeader_exact : Exact deviceHeader HeaderFits :=
  Exact.convert
    (Exact.uint16.seq <| Exact.uint16.seq <| Exact.uint16.seq <| Exact.uint8.seq <|
      Exact.uint8.seq <| Exact.uint8.seq <| text_exact.seqTotal <| resourceKind_total.seq <|
      Exact.uint64.seq <| (Exact.array (by decide)).seq <| Exact.uint16.seq Exact.uint16)
    (fun _ => rfl) fun _ _ => rfl

theorem tokenHeader_exact : Exact tokenHeader fun t => HeaderFits t.header :=
  Exact.convert (remoteId_total.seq deviceHeader_exact) (fun _ => rfl) fun _ _ => rfl

theorem handleHeader_total : Total handleHeader :=
  Exact.convert (remoteId_total.seq remoteId_total) (fun _ => rfl) fun _ _ => rfl

theorem enumerationResult_exact :
    Exact enumerationResult fun e => ListFits (fun t => HeaderFits t.header) e.tokens :=
  Exact.convert (tokenHeader_exact.list.seqTotal Exact.uint32) (fun _ => rfl) fun _ _ => rfl

theorem errorInfo_exact : Exact errorInfo fun info => TextFits info.name :=
  Exact.convert (text_exact.seqTotal Exact.boolean) (fun _ => rfl) fun _ _ => rfl

theorem userClock_total : Total userClock :=
  Exact.convert (Exact.uint64.seq Exact.uint64) (fun _ => rfl) fun _ _ => rfl

theorem metricInfo_exact : Exact metricInfo MetricInfoFits :=
  Exact.convert
    (Exact.uint64.seq <| (Exact.array (by decide)).seq <| text_exact.seq <| text_exact.seq <|
      text_exact.seq <| text_exact.seqTotal <| metricDatatype_total.seq metricCategory_total)
    (fun _ => rfl) fun _ _ => rfl

theorem metricValueBody_total (kind : MetricValueKind) : Total (metricValueBody kind) := by
  cases kind with
  | int => exact Exact.uint64
  | double => exact double_total
  | bool => exact Exact.boolean

theorem metricValue_total : Total metricValue := by
  have htag : Total (.enumeration [MetricValueKind.int, .double, .bool]) :=
    Exact.enumeration (by decide) (by rintro (_ | _) <;> decide) (by decide)
  refine (Exact.choice htag metricValueBody_total).convert ?_ ?_
  · rintro (_ | _ | _)
    · rfl
    · rfl
    · rfl
  · rintro ⟨_ | _ | _, _⟩ _
    · rfl
    · rfl
    · rfl

theorem metric_total : Total metric :=
  Exact.convert (Exact.uint64.seq (metricValue_total.seq Exact.boolean)) (fun _ => rfl)
    fun _ _ => rfl

theorem threshold_exact : Exact threshold fun t => TextFits t.name :=
  Exact.convert (text_exact.seqTotal double_total) (fun _ => rfl) fun _ _ => rfl

theorem metricThresholds_exact : Exact metricThresholds ThresholdsFit := by
  have level := threshold_exact.option
  have h := text_exact.seq <| level.seq <| level.seq <| level.seq <| level.seq <| level.seq <|
    level.seq level
  refine (h.convert (fun _ => rfl) fun _ _ => rfl).congr fun t => ?_
  simp [ThresholdsFit]

/-! ### Messages -/

theorem arguments_exact : (op : Operation) → Exact (arguments op) (ArgumentsFit op)
  | .enumerate => properties_exact.list.seqTotal Exact.uint32
  | .destroyToken => remoteId_total
  | .cloneToken => remoteId_total
  | .getProperties => remoteId_total
  | .updateProperties => remoteId_total
  | .openHandle => remoteId_total.seq Exact.uint32
  | .closeHandle => remoteId_total
  | .resetHandle => remoteId_total
  | .getHandleProperties => remoteId_total
  | .mapMmio => remoteId_total.seq Exact.uint32
  | .unmapMmio => remoteId_total.seq (remoteId_total.seq Exact.uint32)
  | .readMmio32 => remoteId_total.seq (Exact.uint32.seq Exact.uint64)
  | .writeMmio32 => remoteId_total.seq (Exact.uint32.seq (Exact.uint64.seq Exact.uint32))
  | .readMmio64 => remoteId_total.seq (Exact.uint32.seq Exact.uint64)
  | .writeMmio64 => remoteId_total.seq (Exact.uint32.seq (Exact.uint64.seq Exact.uint64))
  | .readMmio512 => remoteId_total.seq (Exact.uint32.seq Exact.uint64)
  | .writeMmio512 => remoteId_total.seq (Exact.uint32.seq (Exact.uint64.seq Exact.bytes))
  | .prepareBuffer =>
    remoteId_total.seq (Exact.uint64.seq (Exact.uint64.option.seq Exact.uint32))
  | .releaseBuffer => remoteId_total.seq remoteId_total
  | .getIoAddress => remoteId_total.seq remoteId_total
  | .readError => remoteId_total.seq Exact.uint32
  | .getErrorInfo => remoteId_total.seq Exact.uint32
  | .clearError => remoteId_total.seq Exact.uint32
  | .clearAllErrors => remoteId_total
  | .tokenGetObject => remoteId_total.seq (text_exact.seqTotal Exact.uint32)
  | .handleGetObject => remoteId_total.seq (text_exact.seqTotal Exact.uint32)
  | .destroyObject => remoteId_total
  | .objectGetType => remoteId_total
  | .objectGetName => remoteId_total
  | .objectGetSize => remoteId_total.seq Exact.uint32
  | .objectRead => remoteId_total.seq (Exact.uint64.seq (Exact.uint64.seq Exact.uint32))
  | .objectRead64 => remoteId_total.seq Exact.uint32
  | .objectWrite64 => remoteId_total.seq (Exact.uint64.seq Exact.uint32)
  | .objectGetObject => remoteId_total.seq (text_exact.seqTotal Exact.uint32)
  | .objectGetObjectAt => remoteId_total.seq Exact.uint64
  | .setUserClock => remoteId_total.seq (Exact.uint64.seq (Exact.uint64.seq Exact.uint32))
  | .getUserClock => remoteId_total.seq Exact.uint32
  | .getNumMetrics => remoteId_total
  | .getMetricsInfo => remoteId_total.seq Exact.uint64
  | .getMetricsByIndex => remoteId_total.seq Exact.uint64.list
  | .getMetricsByName => remoteId_total.seq text_exact.list
  | .getMetricThresholds => remoteId_total.seq Exact.uint32
  | .reconfigureSlot => remoteId_total.seq (Exact.uint32.seq (text_exact.seqTotal Exact.uint32))
  | .bufferFill =>
    remoteId_total.seq (remoteId_total.seq (Exact.uint64.seq (Exact.uint8.seq Exact.uint64)))
  | .bufferWrite =>
    remoteId_total.seq (remoteId_total.seq (Exact.uint64.seq (Exact.bytes.seqTotal Exact.uint64)))
  | .bufferRead => remoteId_total.seq (remoteId_total.seq (Exact.uint64.seq Exact.uint64))
  | .bufferPoll =>
    remoteId_total.seq (remoteId_total.seq (Exact.uint64.seq (Exact.uint32.seq
      (Exact.uint64.seq (Exact.uint64.seq (Exact.uint64.seq Exact.uint64))))))
  | .bufferCompare =>
    remoteId_total.seq (remoteId_total.seq (Exact.uint64.seq (remoteId_total.seq
      (Exact.uint64.seq Exact.uint64))))
  | .bufferPattern => remoteId_total.seq (remoteId_total.seq text_exact)

theorem value_exact : (op : Operation) → Exact (value op) (ValueFits op)
  | .enumerate => enumerationResult_exact
  | .destroyToken => Exact.unit
  | .cloneToken => tokenHeader_exact
  | .getProperties => properties_exact
  | .updateProperties => properties_exact
  | .openHandle => handleHeader_total
  | .closeHandle => Exact.unit
  | .resetHandle => Exact.unit
  | .getHandleProperties => properties_exact
  | .mapMmio => remoteId_total
  | .unmapMmio => Exact.unit
  | .readMmio32 => Exact.uint32
  | .writeMmio32 => Exact.unit
  | .readMmio64 => Exact.uint64
  | .writeMmio64 => Exact.unit
  | .readMmio512 => Exact.array (by decide)
  | .writeMmio512 => Exact.unit
  | .prepareBuffer => remoteId_total
  | .releaseBuffer => Exact.unit
  | .getIoAddress => Exact.uint64
  | .readError => Exact.uint64
  | .getErrorInfo => errorInfo_exact
  | .clearError => Exact.unit
  | .clearAllErrors => Exact.unit
  | .tokenGetObject => remoteId_total
  | .handleGetObject => remoteId_total
  | .destroyObject => Exact.unit
  | .objectGetType => nodeKind_total
  | .objectGetName => text_exact
  | .objectGetSize => Exact.uint32
  | .objectRead => Exact.bytes
  | .objectRead64 => Exact.uint64
  | .objectWrite64 => Exact.unit
  | .objectGetObject => remoteId_total
  | .objectGetObjectAt => remoteId_total
  | .setUserClock => Exact.unit
  | .getUserClock => userClock_total
  | .getNumMetrics => Exact.uint64
  | .getMetricsInfo => metricInfo_exact.list
  | .getMetricsByIndex => metric_total.list
  | .getMetricsByName => metric_total.list
  | .getMetricThresholds => metricThresholds_exact.list
  | .reconfigureSlot => Exact.unit
  | .bufferFill => Exact.unit
  | .bufferWrite => Exact.unit
  | .bufferRead => Exact.bytes
  | .bufferPoll => Exact.unit
  | .bufferCompare => Exact.int32
  | .bufferPattern => Exact.unit

theorem operation_total : Total operation :=
  Exact.enumeration (by decide) (by rintro (_ | _) <;> decide) (by decide)

theorem request_exact : Exact request RequestFits :=
  (Exact.choice operation_total arguments_exact).convert Request.join_split
    fun parts _ => Request.split_join parts

theorem status_total : Total status := by
  refine Exact.uint32.refine ?_ ?_ ?_
  · intro status _
    rw [Status.ofCode?_code]
  · intro status _
    trivial
  · intro code status _ h
    cases hcode : Status.ofCode? code with
    | none =>
      rw [hcode] at h
      cases h
    | some found =>
      rw [hcode] at h
      cases h
      exact ⟨trivial, Status.code_of_ofCode? hcode⟩

theorem outcome_exact {α : Type} {value : Codec α} {Fits : α → Prop} (h : Exact value Fits) :
    Exact (outcome value) fun o => ∀ a ∈ o.value, Fits a :=
  Exact.convert (status_total.seq h.option) (fun _ => rfl) fun _ _ => rfl

theorem answered_total : Total answered :=
  Exact.enumeration (by decide) (by rintro (_ | _ | _) <;> decide) (by decide)

theorem reply_exact : Exact reply ReplyFits := by
  have hbody : ∀ answered,
      Exact (replyBody answered) fun body => ReplyFits (joinReply ⟨answered, body⟩) := by
    rintro (_ | op)
    · exact text_exact
    · exact outcome_exact (value_exact op)
  have h := (Exact.choice answered_total hbody).convert joinReply_splitReply
    fun parts _ => splitReply_joinReply parts
  exact h.congr fun reply => Iff.of_eq (congrArg ReplyFits (joinReply_splitReply reply))

/-! ### Envelopes -/

theorem uuid_total : Total uuid := by
  refine (Exact.counted .bodyEnded).refine ?_ ?_ ?_
  · intro id _
    rw [Exact.sized_toList]
    rfl
  · intro id _
    rw [Vector.length_toList]
    decide
  · intro bytes id _ h
    cases hsized : Codec.sized 16 (.uuidLength bytes.length) bytes with
    | error fault =>
      rw [hsized] at h
      cases h
    | ok found =>
      rw [hsized] at h
      cases h
      exact ⟨trivial, Exact.toList_of_sized hsized⟩

theorem header_total : Total header :=
  Exact.convert (Exact.uint16.seq uuid_total) (fun _ => rfl) fun _ _ => rfl

theorem envelope_exact {α : Type} {payload : Codec α} {Fits : α → Prop} (h : Exact payload Fits) :
    Exact (envelope payload) fun e => Fits e.payload :=
  Exact.convert (header_total.seq h) (fun _ => rfl) fun _ _ => rfl

/-! ### Frame bodies -/

/-- Frame bodies show by themselves where the value in them ends. -/
structure SelfDelimiting {α : Type} (c : Codec α) (Fits : α → Prop) : Prop where
  /-- A frame body decodes to a value exactly when it begins with its encoding. -/
  decode_iff (frame : List UInt8) (value : α) :
    Fits value → (decodeFrame c frame = .ok value ↔ ∃ rest, frame = c.encode value ++ rest)
  /-- Nothing is decoded that does not fit. -/
  fits_of_decode (frame : List UInt8) (value : α) : decodeFrame c frame = .ok value → Fits value
  /-- Decoding undoes encoding. -/
  decode_encode (value : α) : Fits value → decodeFrame c (c.encode value) = .ok value
  encode_injective (a b : α) : Fits a → Fits b → c.encode a = c.encode b → a = b
  /-- No encoding begins with the encoding of another value. -/
  prefixFree (a b : α) : Fits a → Fits b → c.encode a <+: c.encode b → a = b
  /-- An encoding that is cut off does not decode. -/
  error_of_cut (frame : List UInt8) (value : α) : Fits value →
    frame <+: c.encode value → frame ≠ c.encode value → ∃ e, decodeFrame c frame = .error e
  /-- Frame bodies that decode to the same value differ in their trailing bytes only. -/
  differ_in_trailing (frame frame' : List UInt8) (value : α) :
    decodeFrame c frame = .ok value → decodeFrame c frame' = .ok value →
      ∃ rest rest', frame = c.encode value ++ rest ∧ frame' = c.encode value ++ rest'

section Frames

variable {α : Type} {c : Codec α} {Fits : α → Prop}

theorem decodeFrame_eq_ok {frame : List UInt8} {value : α} :
    decodeFrame c frame = .ok value ↔ ∃ rest, c.decode frame = .ok (value, rest) := by
  rw [decodeFrame]
  cases c.decode frame with
  | error e => simp [Except.map]
  | ok parts => simp [Except.map, Prod.ext_iff]

theorem decodeFrame_iff (h : Exact c Fits) (frame : List UInt8) (value : α) :
    decodeFrame c frame = .ok value ↔ Fits value ∧ ∃ rest, frame = c.encode value ++ rest := by
  rw [decodeFrame_eq_ok]
  constructor
  · rintro ⟨rest, hd⟩
    obtain ⟨hv, hframe⟩ := h.of_decode hd
    exact ⟨hv, rest, hframe⟩
  · rintro ⟨hv, rest, rfl⟩
    exact ⟨rest, h.decode_encode value rest hv⟩

theorem decodeFrame_encode_append (h : Exact c Fits) {value : α} (hv : Fits value)
    (rest : List UInt8) : decodeFrame c (c.encode value ++ rest) = .ok value :=
  (decodeFrame_iff h _ value).2 ⟨hv, rest, rfl⟩

theorem decodeFrame_encode (h : Exact c Fits) {value : α} (hv : Fits value) :
    decodeFrame c (c.encode value) = .ok value := by
  simpa using decodeFrame_encode_append h hv []

theorem eq_of_encode_isPrefix (h : Exact c Fits) {a b : α} (ha : Fits a) (hb : Fits b)
    (hab : c.encode a <+: c.encode b) : a = b := by
  obtain ⟨rest, hrest⟩ := hab
  -- Both values are what the longer encoding decodes to.
  have hda := decodeFrame_encode_append h ha rest
  rw [hrest, decodeFrame_encode h hb] at hda
  exact (Except.ok.inj hda).symm

theorem exists_error_of_cut (h : Exact c Fits) {frame : List UInt8} {value : α}
    (hv : Fits value) (hframe : frame <+: c.encode value) (hne : frame ≠ c.encode value) :
    ∃ e, decodeFrame c frame = .error e := by
  cases hd : decodeFrame c frame with
  | error e => exact ⟨e, rfl⟩
  | ok found =>
    -- What was found would be the encoded value itself, whose encoding is not that short.
    obtain ⟨hfound, rest, rfl⟩ := (decodeFrame_iff h frame found).1 hd
    have hprefix := (List.prefix_append (c.encode found) rest).trans hframe
    obtain rfl := eq_of_encode_isPrefix h hfound hv hprefix
    have hlength := hframe.length_le
    rw [List.length_append] at hlength
    have hrest : rest = [] := List.length_eq_zero_iff.1 (by omega)
    rw [hrest, List.append_nil] at hne
    exact absurd rfl hne

theorem selfDelimiting_of_exact (h : Exact c Fits) : SelfDelimiting c Fits where
  decode_iff frame value hv := by
    rw [decodeFrame_iff h]
    exact and_iff_right hv
  fits_of_decode frame value hd := ((decodeFrame_iff h frame value).1 hd).1
  decode_encode value hv := decodeFrame_encode h hv
  encode_injective a b ha hb hab := by
    apply eq_of_encode_isPrefix h ha hb
    exact ⟨[], by rw [List.append_nil, hab]⟩
  prefixFree a b ha hb hab := eq_of_encode_isPrefix h ha hb hab
  error_of_cut frame value hv hframe hne :=
    exists_error_of_cut h hv hframe hne
  differ_in_trailing frame frame' value hd hd' := by
    obtain ⟨-, rest, hrest⟩ := (decodeFrame_iff h frame value).1 hd
    obtain ⟨-, rest', hrest'⟩ := (decodeFrame_iff h frame' value).1 hd'
    exact ⟨rest, rest', hrest, hrest'⟩

end Frames

/-- The envelopes of requests and of replies are self-delimiting, as far as
their lengths can be written. -/
theorem envelopes_selfDelimiting :
    SelfDelimiting requestEnvelope (fun e => RequestFits e.payload) ∧
      SelfDelimiting replyEnvelope (fun e => ReplyFits e.payload) := by
  constructor
  · exact selfDelimiting_of_exact (envelope_exact request_exact)
  · exact selfDelimiting_of_exact (envelope_exact reply_exact)

/-- A request with a text reads back from its encoding whatever follows it, and
not from an encoding that lacks its last byte. -/
theorem decodeFrame_getObject_of_trailing_and_cut :
    let e := Envelope.current Uuid.nil (Request.tokenGetObject ⟨5, 1⟩ "errors" 0)
    (∀ rest, decodeFrame requestEnvelope (requestEnvelope.encode e ++ rest) = .ok e) ∧
      ∃ fault, decodeFrame requestEnvelope (requestEnvelope.encode e).dropLast = .error fault := by
  intro e
  have hfits : RequestFits e.payload := by
    show "errors".utf8ByteSize < 2 ^ 64
    decide
  have hlength : 0 < (requestEnvelope.encode e).length := by decide
  constructor
  · intro rest
    exact (envelopes_selfDelimiting.1.decode_iff _ e hfits).2 ⟨rest, rfl⟩
  · apply envelopes_selfDelimiting.1.error_of_cut _ e hfits
    · exact List.dropLast_prefix (requestEnvelope.encode e)
    · intro heq
      have := congrArg List.length heq
      rw [List.length_dropLast] at this
      omega

end DeviceBroker.Wire
