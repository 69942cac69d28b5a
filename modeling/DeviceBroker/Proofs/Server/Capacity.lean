import DeviceBroker.Proofs.Server.Replies

/-!
# Room for the largest payload

Three messages carry bytes that nothing but the payload limit bounds: the write of a
buffer, the write of a wide register and the answer to the read of a buffer. Everything
else in them has a fixed width, so the size of each is its payload and a constant. The
settings are checked as if the constant were one byte: the payload limit has to be below
the frame limit. What a frame can hold is therefore known exactly, and it can be less than
the largest payload with what stands around it.
-/

namespace DeviceBroker

variable {α β : Type}

namespace Codec

/-- Every value takes exactly the given number of bytes. -/
structure Takes (c : Codec α) (width : α → Nat) : Prop where
  length_eq (value : α) : (c.encode value).length = width value

namespace Takes

theorem natural (width : Nat) : Takes (Codec.natural width) fun _ => width :=
  ⟨length_encode_natural width⟩

theorem refine {c : Codec α} {width : α → Nat} {into : α → Except DecodeError β} {back : β → α}
    (h : Takes c width) : Takes (c.refine into back) fun value => width (back value) :=
  ⟨fun value => h.length_eq (back value)⟩

theorem convert {c : Codec α} {width : α → Nat} {into : α → β} {back : β → α}
    (h : Takes c width) : Takes (c.convert into back) fun value => width (back value) := h.refine

theorem seq {c : Codec α} {d : Codec β} {m : α → Nat} {n : β → Nat} (hc : Takes c m)
    (hd : Takes d n) : Takes (c.seq d) fun value => m value.1 + n value.2 where
  length_eq value := by rw [length_encode_seq, hc.length_eq, hd.length_eq]

theorem uint32 : Takes Codec.uint32 fun _ => 4 := (natural 4).convert

theorem uint64 : Takes Codec.uint64 fun _ => 8 := (natural 8).convert

theorem bytes : Takes Codec.bytes fun bytes => 8 + bytes.length :=
  ⟨length_encode_counted .ended⟩

theorem enumeration [DecidableEq α] (values : List α) :
    Takes (Codec.enumeration values) fun _ => 4 := uint32.refine

end Takes

/-- A value that is there takes a tag more. -/
theorem length_encode_option_some (c : Codec α) (value : α) :
    ((Codec.option c).encode (some value)).length = 1 + (c.encode value).length := by
  have htag : (presence.encode true).length = 1 := length_encode_natural 1 _
  show (presence.encode true ++ c.encode value).length = _
  rw [List.length_append, htag]

end Codec

namespace Wire

open Codec (Takes)

theorem remoteId_takes : Takes remoteId fun _ => 16 := (Takes.uint64.seq Takes.uint64).convert

theorem length_encode_envelope (payload : Codec α) (e : Envelope α) :
    ((envelope payload).encode e).length = headerWidth + (payload.encode e.payload).length := by
  show (header.encode e.header ++ payload.encode e.payload).length = _
  rw [List.length_append, length_encode_header]

/-- A request is a tag and its arguments. -/
theorem length_encode_request (r : Request) :
    (request.encode r).length = 4 + ((arguments r.split.1).encode r.split.2).length := by
  have htag := (Takes.enumeration Operation.all).length_eq r.split.1
  show (operation.encode r.split.1 ++ (arguments r.split.1).encode r.split.2).length = _
  rw [List.length_append]
  exact congrArg (· + _) htag

/-- An answer with a value is a tag, a status, another tag and the value. -/
theorem length_encode_answer (op : Operation) (status : Status) (v : op.Value) :
    (reply.encode (.answer op ⟨status, some v⟩)).length = 9 + ((value op).encode v).length := by
  have htag : (answered.encode (some op)).length = 4 := (Takes.enumeration _).length_eq _
  have hstatus : (Wire.status.encode status).length = 4 := Takes.uint32.refine.length_eq _
  show (answered.encode (some op) ++
    (Wire.status.encode status ++ (Codec.option (value op)).encode (some v))).length = _
  rw [List.length_append, List.length_append, htag, hstatus, Codec.length_encode_option_some]
  omega

end Wire

open Codec (Takes)

/-- A message that carries a payload, with all that it says beside it. -/
inductive Carrier where
  | bufferWrite (handleId bufferId : RemoteId) (offset count : UInt64)
  | wideWrite (handleId : RemoteId) (region : UInt32) (offset : UInt64)
  /-- The answer to a read. -/
  | bufferRead (status : Status)

namespace Carrier

/-- The frame body with the message around a payload. -/
def body (version : UInt16) (id : Uuid) (payload : List UInt8) : Carrier → List UInt8
  | .bufferWrite handleId bufferId offset count =>
    Wire.requestEnvelope.encode
      ⟨version, id, .bufferWrite handleId bufferId offset payload count⟩
  | .wideWrite handleId region offset =>
    Wire.requestEnvelope.encode ⟨version, id, .writeMmio512 handleId region offset payload⟩
  | .bufferRead status =>
    Wire.replyEnvelope.encode ⟨version, id, .answer .bufferRead ⟨status, some payload⟩⟩

/-- The bytes that stand around the payload: the front of an envelope, tags, identifiers,
numbers and the length of the payload. -/
def overhead : Carrier → Nat
  | .bufferWrite _ _ _ _ => Wire.headerWidth + (4 + (16 + (16 + (8 + (8 + 8)))))
  | .wideWrite _ _ _ => Wire.headerWidth + (4 + (16 + (4 + (8 + 8))))
  | .bufferRead _ => Wire.headerWidth + (9 + 8)

/-- No message has more around its payload than the write of a buffer. -/
def mostOverhead : Nat := 86

theorem overhead_le (carrier : Carrier) : carrier.overhead ≤ mostOverhead := by
  cases carrier with
  | bufferWrite => exact Nat.le_refl 86
  | wideWrite => exact (by decide : 66 ≤ 86)
  | bufferRead => exact (by decide : 43 ≤ 86)

theorem length_body (carrier : Carrier) (version : UInt16) (id : Uuid) (payload : List UInt8) :
    (carrier.body version id payload).length = payload.length + carrier.overhead := by
  cases carrier with
  | bufferWrite handleId bufferId offset count =>
    have harguments := (Wire.remoteId_takes.seq (Wire.remoteId_takes.seq
      (Takes.uint64.seq (Takes.bytes.seq Takes.uint64)))).length_eq
        (handleId, bufferId, offset, payload, count)
    refine (Wire.length_encode_envelope _ _).trans ?_
    rw [Wire.length_encode_request]
    refine (congrArg (fun n => Wire.headerWidth + (4 + n)) harguments).trans ?_
    simp only [overhead]
    omega
  | wideWrite handleId region offset =>
    have harguments := (Wire.remoteId_takes.seq
      (Takes.uint32.seq (Takes.uint64.seq Takes.bytes))).length_eq
        (handleId, region, offset, payload)
    refine (Wire.length_encode_envelope _ _).trans ?_
    rw [Wire.length_encode_request]
    refine (congrArg (fun n => Wire.headerWidth + (4 + n)) harguments).trans ?_
    simp only [overhead]
    omega
  | bufferRead status =>
    refine (Wire.length_encode_envelope _ _).trans ?_
    rw [Wire.length_encode_answer]
    refine (congrArg (fun n => Wire.headerWidth + (9 + n)) (Takes.bytes.length_eq payload)).trans ?_
    simp only [overhead]
    omega

end Carrier

namespace BrokerConfig

/-- The most bytes that a request may carry or ask for. -/
def payloadBytes (config : BrokerConfig) : Nat := config.dispatcher.maxPayloadBytes.toNat

/-- How the largest payloads and frames go together under given settings. -/
structure Capacity (config : BrokerConfig) : Prop where
  size (carrier : Carrier) (version : UInt16) (id : Uuid) (payload : List UInt8) :
    (carrier.body version id payload).length = payload.length + carrier.overhead
  /-- A message with a payload of the largest size is written exactly if the frame has room
  for what stands around it as well. -/
  written (carrier : Carrier) (version : UInt16) (id : Uuid) (payload : List UInt8) :
    payload.length = config.payloadBytes →
    Frame.encode config.server.maxFrameBytes.toNat (carrier.body version id payload) =
      if config.payloadBytes + carrier.overhead ≤ config.frameBytes then
        .ok (Frame.ofBody (carrier.body version id payload))
      else .error .tooBig
  /-- The write of a buffer decides whether all of them fit. -/
  all_fit : (∀ (carrier : Carrier) (version : UInt16) (id : Uuid) (payload : List UInt8),
      payload.length = config.payloadBytes →
      (carrier.body version id payload).length ≤ config.frameBytes) ↔
    config.payloadBytes + Carrier.mostOverhead ≤ config.frameBytes
  /-- Unless the frame limit is more than a length can express, a payload that stays 85 bytes
  below its limit fits. -/
  short (carrier : Carrier) (version : UInt16) (id : Uuid) (payload : List UInt8) :
    config.server.maxFrameBytes.toNat < 2 ^ 32 →
    payload.length + 85 ≤ config.payloadBytes →
    (carrier.body version id payload).length ≤ config.frameBytes

/-- Settings that pass their checks put the payload limit below the frame limit, which is
less than the largest messages need. -/
theorem capacity_of_validate {config : BrokerConfig} (h : config.validate = .ok ()) :
    config.Capacity where
  size := Carrier.length_body
  written carrier version id payload hpayload := by
    have hlength := carrier.length_body version id payload
    rw [hpayload] at hlength
    rw [← hlength]
    rfl
  all_fit := by
    constructor
    · intro hall
      have hwrite := hall (.bufferWrite .sentinel .sentinel 0 0) 0 .nil
        (List.replicate config.payloadBytes 0) List.length_replicate
      rwa [Carrier.length_body, List.length_replicate] at hwrite
    · intro hroom carrier version id payload hpayload
      have hmost := carrier.overhead_le
      rw [Carrier.length_body, hpayload]
      omega
  short carrier version id payload hframe hpayload := by
    have hbelow : config.payloadBytes < config.server.maxFrameBytes.toNat :=
      ((BrokerConfig.validate_eq_ok_iff config).mp h).2.2.2
    have hmost : carrier.overhead ≤ 86 := carrier.overhead_le
    refine Nat.le_min.mpr ⟨?_, ?_⟩
    · rw [Carrier.length_body]
      omega
    · rw [Carrier.length_body]
      change _ ≤ 2 ^ 32 - 1
      omega

theorem capacity_of_validate_default :
    ({} : BrokerConfig).validate = .ok () ∧ ({} : BrokerConfig).Capacity :=
  ⟨by decide, capacity_of_validate (by decide)⟩

/-- With a payload limit of 1023 bytes and a frame limit of 1024 none of the three messages is
written, and the write of a buffer takes 1109 bytes. -/
theorem unwritten_of_brimful :
    Workload.brimful.validate = .ok () ∧ Workload.brimful.payloadBytes = 1023 ∧
      Workload.brimful.frameBytes = 1024 ∧
      ((Carrier.bufferWrite ⟨7, 3⟩ ⟨7, 4⟩ 0 1023).body 1 .nil (.replicate 1023 0)).length = 1109 ∧
      ((Carrier.wideWrite ⟨7, 3⟩ 0 0).body 1 .nil (.replicate 1023 0)).length = 1089 ∧
      ((Carrier.bufferRead .success).body 1 .nil (.replicate 1023 0)).length = 1066 := by
  refine ⟨by decide, rfl, rfl, ?_, ?_, ?_⟩
  · rw [Carrier.length_body, List.length_replicate]
    rfl
  · rw [Carrier.length_body, List.length_replicate]
    rfl
  · rw [Carrier.length_body, List.length_replicate]
    rfl

end BrokerConfig

end DeviceBroker
