import DeviceBroker.Proofs.Wire.Format
import DeviceBroker.Server.Session

/-!
# Answers to frame bodies

The front of an envelope has a fixed width, so whether it can be read, and what
it says, is settled by the first bytes of a frame body. Whatever stands after
them, a body that decodes as an envelope has the front that is read on its own:
the two readers of a body never disagree about the identifier it is answered
under.

`answerWith` answers a body by any handler, on a state of the handler's own.
The broker's answer is that of its own handler, and with a handler that keeps a
record of its requests the record tells which bodies reached it.
-/

namespace DeviceBroker

variable {σ : Type}

namespace Wire

/-- Two bytes of version, eight of the length of the identifier, and the identifier. -/
def headerWidth : Nat := 26

theorem length_encode_header (h : EnvelopeHeader) : (header.encode h).length = headerWidth := by
  have hversion : (Codec.uint16.encode h.version).length = 2 := Bytes.length_littleEndian _ _
  have hid : (uuid.encode h.correlationId).length = 8 + 16 := by
    show (Bytes.littleEndian 8 _ ++ h.correlationId.bytes.toList).length = 8 + 16
    rw [List.length_append, Bytes.length_littleEndian, Vector.length_toList]
  show (Codec.uint16.encode h.version ++ uuid.encode h.correlationId).length = headerWidth
  rw [List.length_append, hversion, hid]
  rfl

/-- The front of a body is read exactly when its first bytes are those of a front. -/
theorem peekHeader_eq_ok_iff (body : List UInt8) (h : EnvelopeHeader) :
    peekHeader body = .ok h ↔ body.take headerWidth = header.encode h := by
  rw [peekHeader, decodeFrame_iff header_total]
  constructor
  · rintro ⟨-, rest, rfl⟩
    exact List.take_left' (length_encode_header h)
  · intro htake
    refine ⟨trivial, body.drop headerWidth, ?_⟩
    rw [← htake, List.take_append_drop]

/-- Bodies with the same first bytes have the same front, or none. -/
theorem toOption_peekHeader_congr {body body' : List UInt8}
    (h : body.take headerWidth = body'.take headerWidth) :
    (peekHeader body).toOption = (peekHeader body').toOption := by
  have hiff : ∀ front, peekHeader body = .ok front ↔ peekHeader body' = .ok front := by
    intro front
    rw [peekHeader_eq_ok_iff, peekHeader_eq_ok_iff, h]
  cases hbody : peekHeader body with
  | ok front => rw [(hiff front).1 hbody]
  | error e =>
    cases hbody' : peekHeader body' with
    | ok front => rw [(hiff front).2 hbody'] at hbody; cases hbody
    | error e' => rfl

/-- Reading a whole envelope reads its front on the way, whatever the payload is. -/
theorem peekHeader_of_decodeFrame {α : Type} {payload : Codec α} {body : List UInt8}
    {e : Envelope α} (h : decodeFrame (envelope payload) body = .ok e) :
    peekHeader body = .ok e.header := by
  obtain ⟨rest, hd⟩ := decodeFrame_eq_ok.1 h
  obtain ⟨⟨⟨front, value⟩, rest'⟩, hparts, hd⟩ := Codec.bind_eq_ok.1 hd
  obtain ⟨⟨front', rest₁⟩, hfront, hparts⟩ := Codec.bind_eq_ok.1 hparts
  obtain ⟨⟨value', rest₂⟩, -, hparts⟩ := Codec.bind_eq_ok.1 hparts
  cases hparts
  cases hd
  exact decodeFrame_eq_ok.2 ⟨rest₁, hfront⟩

end Wire

/-- Serve the request in a frame body by a handler. -/
def answerWith (handler : Request → σ → Reply × σ) (body : List UInt8) (s : σ) :
    Envelope Reply × σ :=
  match Wire.peekHeader body with
  | .error e => (rejection .nil (.ofDecodeError e), s)
  | .ok header =>
    if header.version ≠ protocolVersion then
      (rejection header.correlationId (.unsupportedVersion header.version protocolVersion), s)
    else
      match Wire.decodeFrame Wire.requestEnvelope body with
      | .error e => (rejection header.correlationId (.ofDecodeError e), s)
      | .ok envelope =>
        (.current header.correlationId (handler envelope.payload s).1,
          (handler envelope.payload s).2)

theorem Broker.answer_eq_answerWith {cards : Nat} (b : Broker cards) (body : List UInt8) :
    b.answer body = answerWith (fun request b => b.handle request) body b := rfl

/-- The handler with a record of the requests that it was given. -/
def recording (handler : Request → σ → Reply × σ) (request : Request) (s : σ × List Request) :
    Reply × σ × List Request :=
  ((handler request s.1).1, (handler request s.1).2, s.2 ++ [request])

/-- How a body has to be answered on a state by a handler: the reply, the state after
it, and the requests that the handler was given. -/
structure WellAddressed (handler : Request → σ → Reply × σ) (body : List UInt8) (s : σ)
    (reply : Envelope Reply) (after : σ) (asked : List Request) : Prop where
  version : reply.version = 1
  unreadable (e : DecodeError) : Wire.peekHeader body = .error e →
    reply.correlationId = .nil ∧
      reply.payload = .rejected (TransportError.ofDecodeError e).message ∧ after = s ∧ asked = []
  /-- A front that can be read gives the identifier, whatever comes of the rest. -/
  addressed (header : EnvelopeHeader) : Wire.peekHeader body = .ok header →
    reply.correlationId = header.correlationId
  /-- Of another version nothing more is looked at. -/
  unsupported (header : EnvelopeHeader) : Wire.peekHeader body = .ok header → header.version ≠ 1 →
    reply.payload = .rejected (TransportError.unsupportedVersion header.version 1).message ∧
      after = s ∧ asked = []
  undecodable (header : EnvelopeHeader) (e : DecodeError) : Wire.peekHeader body = .ok header →
    header.version = 1 → Wire.decodeFrame Wire.requestEnvelope body = .error e →
      reply.payload = .rejected (TransportError.ofDecodeError e).message ∧ after = s ∧ asked = []
  served (envelope : Envelope Request) :
    Wire.decodeFrame Wire.requestEnvelope body = .ok envelope → envelope.version = 1 →
      reply.correlationId = envelope.correlationId ∧
        (reply.payload, after) = handler envelope.payload s ∧ asked = [envelope.payload]

section Cases

variable (handler : Request → σ → Reply × σ) {body : List UInt8} (s : σ)

theorem answerWith_of_unreadable {e : DecodeError} (h : Wire.peekHeader body = .error e) :
    answerWith handler body s = (rejection .nil (.ofDecodeError e), s) := by
  rw [answerWith, h]

theorem answerWith_of_unsupported {header : EnvelopeHeader} (h : Wire.peekHeader body = .ok header)
    (hversion : header.version ≠ protocolVersion) :
    answerWith handler body s =
      (rejection header.correlationId (.unsupportedVersion header.version protocolVersion), s) := by
  rw [answerWith, h]
  exact if_pos hversion

theorem answerWith_of_undecodable {header : EnvelopeHeader} {e : DecodeError}
    (h : Wire.peekHeader body = .ok header) (hversion : header.version = protocolVersion)
    (hdecode : Wire.decodeFrame Wire.requestEnvelope body = .error e) :
    answerWith handler body s = (rejection header.correlationId (.ofDecodeError e), s) := by
  rw [answerWith, h, hdecode]
  exact if_neg (not_not_intro hversion)

/-- The identifier is that of the envelope itself: its front is the one that was read first. -/
theorem answerWith_of_decodeFrame {envelope : Envelope Request}
    (hdecode : Wire.decodeFrame Wire.requestEnvelope body = .ok envelope)
    (hversion : envelope.version = protocolVersion) :
    answerWith handler body s = (.current envelope.correlationId (handler envelope.payload s).1,
      (handler envelope.payload s).2) := by
  rw [answerWith, Wire.peekHeader_of_decodeFrame hdecode, hdecode]
  exact if_neg (not_not_intro hversion)

end Cases

/-- A body is answered in one of four ways, and the conditions say which. -/
theorem readings (body : List UInt8) :
    (∃ e, Wire.peekHeader body = .error e) ∨
      (∃ header, Wire.peekHeader body = .ok header ∧ header.version ≠ protocolVersion) ∨
      (∃ header e, Wire.peekHeader body = .ok header ∧ header.version = protocolVersion ∧
        Wire.decodeFrame Wire.requestEnvelope body = .error e) ∨
      ∃ envelope : Envelope Request, Wire.decodeFrame Wire.requestEnvelope body = .ok envelope ∧
        envelope.version = protocolVersion := by
  cases hpeek : Wire.peekHeader body with
  | error e => exact .inl ⟨e, rfl⟩
  | ok header =>
    by_cases hversion : header.version = protocolVersion
    · cases hdecode : Wire.decodeFrame Wire.requestEnvelope body with
      | error e => exact .inr (.inr (.inl ⟨header, e, rfl, hversion, rfl⟩))
      | ok envelope =>
        have hfront := Wire.peekHeader_of_decodeFrame hdecode
        rw [hpeek] at hfront
        obtain rfl := Except.ok.inj hfront
        exact .inr (.inr (.inr ⟨envelope, rfl, hversion⟩))
    · exact .inr (.inl ⟨header, rfl, hversion⟩)

/-- Keeping a record changes neither the answer nor the state. -/
theorem answerWith_recording (handler : Request → σ → Reply × σ) (body : List UInt8) (s : σ) :
    (answerWith (recording handler) body (s, [])).1 = (answerWith handler body s).1 ∧
      (answerWith (recording handler) body (s, [])).2.1 = (answerWith handler body s).2 := by
  rcases readings body with ⟨e, h⟩ | ⟨header, h, hversion⟩ | ⟨header, e, h, hversion, hdecode⟩ |
    ⟨envelope, hdecode, hversion⟩
  · simp only [answerWith_of_unreadable _ _ h, and_self]
  · simp only [answerWith_of_unsupported _ _ h hversion, and_self]
  · simp only [answerWith_of_undecodable _ _ h hversion hdecode, and_self]
  · simp only [answerWith_of_decodeFrame _ _ hdecode hversion, recording, and_self]

theorem version_answerWith (handler : Request → σ → Reply × σ) (body : List UInt8) (s : σ) :
    (answerWith handler body s).1.version = protocolVersion := by
  rcases readings body with ⟨e, h⟩ | ⟨header, h, hversion⟩ | ⟨header, e, h, hversion, hdecode⟩ |
    ⟨envelope, hdecode, hversion⟩
  · rw [answerWith_of_unreadable _ _ h]
    rfl
  · rw [answerWith_of_unsupported _ _ h hversion]
    rfl
  · rw [answerWith_of_undecodable _ _ h hversion hdecode]
    rfl
  · rw [answerWith_of_decodeFrame _ _ hdecode hversion]
    rfl

theorem correlationId_answerWith (handler : Request → σ → Reply × σ) {body : List UInt8}
    {header : EnvelopeHeader} (h : Wire.peekHeader body = .ok header) (s : σ) :
    (answerWith handler body s).1.correlationId = header.correlationId := by
  rcases readings body with ⟨e, he⟩ | ⟨front, hf, hversion⟩ | ⟨front, e, hf, hversion, hdecode⟩ |
    ⟨envelope, hdecode, hversion⟩
  · cases h.symm.trans he
  · cases h.symm.trans hf
    rw [answerWith_of_unsupported _ _ h hversion]
    rfl
  · cases h.symm.trans hf
    rw [answerWith_of_undecodable _ _ h hversion hdecode]
    rfl
  · cases h.symm.trans (Wire.peekHeader_of_decodeFrame hdecode)
    rw [answerWith_of_decodeFrame _ _ hdecode hversion]
    rfl

theorem wellAddressed_answerWith (handler : Request → σ → Reply × σ) (body : List UInt8) (s : σ) :
    WellAddressed handler body s (answerWith (recording handler) body (s, [])).1
      (answerWith (recording handler) body (s, [])).2.1
      (answerWith (recording handler) body (s, [])).2.2 where
  version := version_answerWith _ body _
  unreadable e h := by
    rw [answerWith_of_unreadable _ _ h]
    exact ⟨rfl, rfl, rfl, rfl⟩
  addressed header h := correlationId_answerWith _ h _
  unsupported header h hversion := by
    rw [answerWith_of_unsupported _ _ h hversion]
    exact ⟨rfl, rfl, rfl⟩
  undecodable header e h hversion hdecode := by
    rw [answerWith_of_undecodable _ _ h hversion hdecode]
    exact ⟨rfl, rfl, rfl⟩
  served envelope hdecode hversion := by
    rw [answerWith_of_decodeFrame _ _ hdecode hversion]
    exact ⟨rfl, rfl, rfl⟩

/-- Every frame body is answered once, under the identifier in its front if that
can be read, and only a body that decodes in the right version reaches the
handler. The front is the one that a whole envelope would be read with, and it
is settled by the first bytes. -/
theorem answer_wellAddressed {cards : Nat} (b : Broker cards) (body : List UInt8) :
    (∃ asked, answerWith (recording fun request b => b.handle request) body (b, []) =
        ((b.answer body).1, (b.answer body).2, asked) ∧
      WellAddressed (fun request b => b.handle request) body b (b.answer body).1
        (b.answer body).2 asked) ∧
      (∀ (α : Type) (payload : Codec α) (e : Envelope α),
        Wire.decodeFrame (Wire.envelope payload) body = .ok e →
          Wire.peekHeader body = .ok ⟨e.version, e.correlationId⟩) ∧
      ∀ body' : List UInt8, body.take 26 = body'.take 26 →
        (Wire.peekHeader body).toOption = (Wire.peekHeader body').toOption := by
  refine ⟨?_, ?_, ?_⟩
  · let handler (request : Request) (b : Broker cards) := b.handle request
    have hwell := wellAddressed_answerWith handler body b
    obtain ⟨hreply, hafter⟩ := answerWith_recording handler body b
    rw [b.answer_eq_answerWith]
    rw [hreply, hafter] at hwell
    exact ⟨_, Prod.ext hreply (Prod.ext hafter rfl), hwell⟩
  · intro α payload e h
    exact Wire.peekHeader_of_decodeFrame h
  · intro body' h
    exact Wire.toOption_peekHeader_congr h

end DeviceBroker
