import DeviceBroker.Client.Connection
import DeviceBroker.Proofs.Wire.Framing
import DeviceBroker.Proofs.Wire.Short

/-!
# One call on a connection

A call that is issued on a connection at rest is written on its stream, or a
stream is dialed for it first. The connection then waits until the last byte of
the frame with the reply has come, in however many pieces, and is at rest again,
or until the time for the call is over, and then it has no stream any more.
Calls take turns: a connection at rest has nothing queued.
-/

namespace DeviceBroker

section MapError

variable {α ε ε' : Type} (f : ε → ε')

@[simp] theorem mapError_ok (value : α) :
    (Except.ok value : Except ε α).mapError f = .ok value := rfl

@[simp] theorem mapError_error (e : ε) :
    (Except.error e : Except ε α).mapError f = .error (f e) := rfl

end MapError

/-- The body of the frame that asks for a request. -/
def requestBytes (id : Uuid) (request : Request) : List UInt8 :=
  Wire.requestEnvelope.encode (.current id request)

/-- The body of the frame that replies to a call. -/
def replyBytes (id : Uuid) (reply : Reply) : List UInt8 :=
  Wire.replyEnvelope.encode (.current id reply)

theorem requestFrame_of_le {maxFrameBytes : UInt64} {id : Uuid} {request : Request}
    (h : (requestBytes id request).length ≤ Frame.effectiveMax maxFrameBytes.toNat) :
    requestFrame maxFrameBytes id request = .ok (Frame.ofBody (requestBytes id request)) := by
  rw [requestFrame, ← requestBytes, Frame.encode_of_le h, mapError_ok]

/-- The call with the identifier of a reply accepts it, if a frame can hold it. -/
theorem checkReply_replyBytes {maxBytes : Nat} {id : Uuid} {reply : Reply}
    (h : (replyBytes id reply).length ≤ Frame.effectiveMax maxBytes) :
    checkReply id (replyBytes id reply) = .ok reply := by
  have hdecode : Wire.decodeFrame Wire.replyEnvelope (replyBytes id reply) =
      .ok (.current id reply) :=
    Wire.decodeFrame_encode_of_length Wire.reply_exact Wire.reply_bounds
      (Frame.length_lt_of_le h)
  rw [checkReply, hdecode]
  simp [Envelope.current, bind, Except.bind, pure, Except.pure]

namespace Connection

/-- A stream on which nothing is under way. -/
def quiet (number : Nat) : Stream := ⟨number, [], none⟩

/-- The connection is free for the next call. -/
def AtRest (c : Connection) : Prop := c.phase = .idle ∧ c.queue = []

/-- The connection waits for the reply to a call, of which some bytes have come. -/
structure Awaits (c : Connection) (id : Uuid) (number : Nat) (received : List UInt8) : Prop where
  stream : c.stream = some ⟨number, received, none⟩
  phase : c.phase = .waiting id
  queue : c.queue = []

variable {c : Connection} {id : Uuid} {request : Request} {reply : Reply} {number : Nat}
  {received bytes body : List UInt8}

/-! ### Asking -/

theorem transmit_quiet (number : Nat)
    (h : requestFrame c.config.maxFrameBytes id request = .ok bytes) :
    c.transmit id request (quiet number) =
      ([.send number bytes], { c with stream := some (quiet number), phase := .waiting id }) := by
  have hread : (quiet number).read c.config.maxFrameBytes id = .pending := by
    rw [Stream.read, quiet, Frame.front_nil]
  simp only [transmit, h, progress, hread]
  rfl

theorem step_issue_of_stream (hrest : c.AtRest) (hstream : c.stream = some (quiet number))
    (h : requestFrame c.config.maxFrameBytes id request = .ok bytes) :
    c.step (.issue (.call id request)) =
      ([.send number bytes], { c with phase := .waiting id }) := by
  obtain ⟨config, stream, phase, queue, streams⟩ := c
  obtain ⟨rfl, rfl⟩ := hrest
  obtain rfl : stream = some (quiet number) := hstream
  simp only [step, List.nil_append, drain, takeUp, transmit_quiet number h]

theorem step_issue_of_none (hrest : c.AtRest) (hstream : c.stream = none) :
    c.step (.issue (.call id request)) = ([.dial], { c with phase := .dialing id request }) := by
  obtain ⟨config, stream, phase, queue, streams⟩ := c
  obtain ⟨rfl, rfl⟩ := hrest
  obtain rfl : stream = none := hstream
  rfl

theorem step_connected (hphase : c.phase = .dialing id request)
    (h : requestFrame c.config.maxFrameBytes id request = .ok bytes) :
    c.step .connected =
      ([.send c.streams bytes],
        { c with
          stream := some (quiet c.streams)
          phase := .waiting id
          streams := c.streams + 1 }) := by
  obtain ⟨config, stream, phase, queue, streams⟩ := c
  obtain rfl : phase = .dialing id request := hphase
  have htransmit :=
    transmit_quiet (c := ⟨config, stream, .dialing id request, queue, streams + 1⟩) streams h
  exact congrArg resume htransmit

/-! ### Hearing the reply -/

theorem step_arrived_of_partly (h : c.Awaits id number received)
    (hpart : Frame.front c.config.maxFrameBytes.toNat (received ++ bytes) = .partly) :
    c.step (.arrived number bytes) =
      ([], { c with stream := some ⟨number, received ++ bytes, none⟩ }) := by
  obtain ⟨config, stream, phase, queue, streams⟩ := c
  obtain ⟨rfl, rfl, rfl⟩ := h
  have hread : (⟨number, received ++ bytes, none⟩ : Stream).read config.maxFrameBytes id =
      .pending := by
    rw [Stream.read, hpart]
  simp only [step, onStream, if_true, progress, hread, resume]

theorem step_arrived_of_frame (h : c.Awaits id number received)
    (hlimit : body.length ≤ Frame.effectiveMax c.config.maxFrameBytes.toNat)
    (hcheck : checkReply id body = .ok reply) (hframe : received ++ bytes = Frame.ofBody body) :
    c.step (.arrived number bytes) =
      ([.finish id (.ok reply)], { c with stream := some (quiet number), phase := .idle }) := by
  obtain ⟨config, stream, phase, queue, streams⟩ := c
  obtain ⟨rfl, rfl, rfl⟩ := h
  have hfront := Frame.front_ofBody_append hlimit []
  rw [List.append_nil] at hfront
  have hread : (⟨number, Frame.ofBody body, none⟩ : Stream).read config.maxFrameBytes id =
      .reply reply (quiet number) := by
    rw [Stream.read, hfront]
    simp only [hcheck]
    rfl
  simp only [step, onStream, if_true, hframe, progress, hread, resume, drain, List.append_nil]

theorem step_arrived_nil (hrest : c.AtRest) (hstream : c.stream = some (quiet number)) :
    c.step (.arrived number []) = ([], c) := by
  obtain ⟨config, stream, phase, queue, streams⟩ := c
  obtain ⟨rfl, rfl⟩ := hrest
  obtain rfl : stream = some (quiet number) := hstream
  simp [step, onStream, quiet]

theorem run_arrived_nil (hrest : c.AtRest) (hstream : c.stream = some (quiet number))
    {pieces : List (List UInt8)} (h : pieces.flatten = []) :
    c.run (pieces.map (.arrived number)) = ([], c) := by
  induction pieces with
  | nil => rfl
  | cons piece pieces ih =>
    obtain ⟨rfl, hrest'⟩ := List.append_eq_nil_iff.1 h
    simp only [List.map_cons, run, step_arrived_nil hrest hstream, ih hrest', List.append_nil]

/-- The reply is read when the last piece of its frame has come. -/
theorem run_arrived (h : c.Awaits id number received)
    (hlimit : body.length ≤ Frame.effectiveMax c.config.maxFrameBytes.toNat)
    (hcheck : checkReply id body = .ok reply) {pieces : List (List UInt8)}
    (hpieces : received ++ pieces.flatten = Frame.ofBody body)
    (hmore : received ≠ Frame.ofBody body) :
    c.run (pieces.map (.arrived number)) =
      ([.finish id (.ok reply)], { c with stream := some (quiet number), phase := .idle }) := by
  induction pieces generalizing c received with
  | nil => exact absurd (by simpa using hpieces) hmore
  | cons piece pieces ih =>
    rw [List.flatten_cons, ← List.append_assoc] at hpieces
    by_cases hdone : received ++ piece = Frame.ofBody body
    · have hnone : pieces.flatten = [] := by
        rw [hdone] at hpieces
        simpa using hpieces
      rw [List.map_cons, run, step_arrived_of_frame h hlimit hcheck hdone]
      simp only [run_arrived_nil (c := { c with stream := some (quiet number), phase := .idle })
        ⟨rfl, h.queue⟩ rfl hnone, List.append_nil]
    · have hpart := Frame.front_of_isPrefix hlimit ⟨_, hpieces⟩ hdone
      rw [List.map_cons, run, step_arrived_of_partly h hpart]
      simp only [ih (c := { c with stream := some ⟨number, received ++ piece, none⟩ })
        ⟨rfl, h.phase, h.queue⟩ hlimit hpieces hdone, List.nil_append]

/-! ### Running out of time -/

theorem step_timedOut_of_atRest (h : c.AtRest) : c.step .timedOut = ([], c) := by
  simp only [step, h.1]

theorem step_timedOut_of_awaits (h : c.Awaits id number received) :
    c.step .timedOut =
      ([.abandon number, .finish id (.error (.callTimeout c.config.callTimeoutMs))],
        { c with stream := none, phase := .idle }) := by
  obtain ⟨config, stream, phase, queue, streams⟩ := c
  obtain ⟨rfl, rfl, rfl⟩ := h
  rfl

theorem run_arrived_of_none (h : c.stream = none) (number : Nat) (pieces : List (List UInt8)) :
    c.run (pieces.map (.arrived number)) = ([], c) := by
  have hstep (piece : List UInt8) : c.step (.arrived number piece) = ([], c) := by
    simp only [step, onStream, h]
  induction pieces with
  | nil => rfl
  | cons piece pieces ih => simp only [List.map_cons, run, hstep, ih, List.append_nil]

/-- Once its time is over a call has failed, and nothing that comes after is heard. -/
theorem run_timedOut (h : c.Awaits id number received) (pieces : List (List UInt8)) :
    c.run (.timedOut :: pieces.map (.arrived number)) =
      ([.abandon number, .finish id (.error (.callTimeout c.config.callTimeoutMs))],
        { c with stream := none, phase := .idle }) := by
  have hdeaf := run_arrived_of_none (c := { c with stream := none, phase := .idle }) rfl number
    pieces
  simp only [run, step_timedOut_of_awaits h, hdeaf, List.append_nil]

end Connection

end DeviceBroker
