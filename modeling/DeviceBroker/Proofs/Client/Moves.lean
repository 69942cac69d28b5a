import DeviceBroker.Client.Connection

/-!
# Moves of a connection

What happens to a connection is noted first: a command joins the queue, bytes
join what a stream has received. What the connection then does is made of few
moves. It takes up the command at the front of its queue when it is idle, and it
settles the call that it is dialing for or waiting for; every other part of its
step only decides which move comes next. So what holds of every move holds of
everything that a connection ever does.
-/

namespace DeviceBroker

/-! ## Errors that end a call -/

theorem checkReply_eq (id : Uuid) (body : List UInt8) :
    checkReply id body =
      match Wire.decodeFrame Wire.replyEnvelope body with
      | .error e => .error (.ofDecodeError e)
      | .ok envelope =>
        if envelope.version ≠ protocolVersion then
          .error (.unsupportedVersion envelope.version protocolVersion)
        else if envelope.correlationId ≠ id then
          .error (.correlationMismatch id envelope.correlationId)
        else .ok envelope.payload := by
  unfold checkReply
  cases Wire.decodeFrame Wire.replyEnvelope body with
  | error e => rfl
  | ok envelope =>
    have hread : (Except.ok envelope : Except DecodeError (Envelope Reply)).mapError
        TransportError.ofDecodeError = .ok envelope := rfl
    rw [hread]
    by_cases hv : envelope.version = protocolVersion
    · by_cases hi : envelope.correlationId = id
      · simp [bind, Except.bind, hv, hi, pure, Except.pure]
      · simp [bind, Except.bind, hv, hi, throw, throwThe, MonadExceptOf.throw]
    · simp [bind, Except.bind, hv, throw, throwThe, MonadExceptOf.throw]

/-- A body is accepted exactly if it is an envelope of this version of the protocol
with the identifier of the call. -/
theorem checkReply_eq_ok_iff {id : Uuid} {body : List UInt8} {reply : Reply} :
    checkReply id body = .ok reply ↔
      Wire.decodeFrame Wire.replyEnvelope body = .ok ⟨protocolVersion, id, reply⟩ := by
  rw [checkReply_eq]
  cases Wire.decodeFrame Wire.replyEnvelope body with
  | error e => exact ⟨nofun, nofun⟩
  | ok envelope =>
    obtain ⟨version, received, payload⟩ := envelope
    by_cases hv : version = protocolVersion
    · by_cases hi : received = id
      · simp [hv, hi]
      · simp [hv, hi]
    · simp [hv]

theorem poisons_of_checkReply {id : Uuid} {body : List UInt8} {e : TransportError}
    (h : checkReply id body = .error e) : e.poisons = true := by
  rw [checkReply_eq] at h
  split at h
  · cases h
    rfl
  · split at h
    · cases h
      rfl
    · split at h
      · cases h
        rfl
      · cases h

theorem poisons_of_requestFrame {maxFrameBytes : UInt64} {id : Uuid} {request : Request}
    {e : TransportError} (h : requestFrame maxFrameBytes id request = .error e) :
    e.poisons = true := by
  unfold requestFrame at h
  cases hframe : Frame.encode maxFrameBytes.toNat
      (Wire.requestEnvelope.encode (.current id request)) with
  | ok bytes =>
    rw [hframe] at h
    cases h
  | error found =>
    rw [hframe] at h
    cases h
    rfl

/-- What can be read on a stream: an accepted reply at its front, or an error. -/
inductive Stream.Read (maxFrameBytes : UInt64) (id : Uuid) (s : Stream) : Reading → Prop
  | pending : Read maxFrameBytes id s .pending
  | reply {body left : List UInt8} {reply : Reply}
    (front : Frame.front maxFrameBytes.toNat s.received = .frame body left)
    (accepted : checkReply id body = .ok reply) :
    Read maxFrameBytes id s (.reply reply { s with received := left })
  | failed {e : TransportError} (poisons : e.poisons = true) : Read maxFrameBytes id s (.failed e)

theorem Stream.read_spec (maxFrameBytes : UInt64) (id : Uuid) (s : Stream) :
    s.Read maxFrameBytes id (s.read maxFrameBytes id) := by
  unfold Stream.read
  split
  · exact .failed rfl
  · rename_i body left hfront
    split
    · rename_i reply hcheck
      exact .reply hfront hcheck
    · rename_i e hcheck
      exact .failed (poisons_of_checkReply hcheck)
  · split
    · exact .pending
    · exact .failed rfl
    · split
      · exact .failed rfl
      · exact .failed rfl

/-- A stream after bytes have come; after its end none come. -/
def Stream.hear (s : Stream) (bytes : List UInt8) : Stream :=
  match s.ending with
  | none => { s with received := s.received ++ bytes }
  | some _ => s

namespace Connection

/-! ## Moves -/

/-- One thing that a connection does. -/
inductive Move (c : Connection) : List ConnectionAction → Connection → Prop
  /-- There is no stream to hang up. -/
  | pass {rest : List Command} (phase : c.phase = .idle) (queue : c.queue = .disconnect :: rest)
    (stream : c.stream = none) : Move c [] { c with queue := rest }
  | hangUp {rest : List Command} {s : Stream} (phase : c.phase = .idle)
    (queue : c.queue = .disconnect :: rest) (stream : c.stream = some s) :
    Move c [.abandon s.number] { c with stream := none, queue := rest }
  | dial {id : Uuid} {request : Request} {rest : List Command} (phase : c.phase = .idle)
    (queue : c.queue = .call id request :: rest) (stream : c.stream = none) :
    Move c [.dial] { c with phase := .dialing id request, queue := rest }
  /-- The stream that was dialed for a call does not come. -/
  | refuse {id : Uuid} {request : Request} {e : TransportError}
    (phase : c.phase = .dialing id request) (poisons : e.poisons = true) :
    Move c [.finish id (.error e)] { c with phase := .idle }
  /-- The stream that was dialed is there, and the request is written on it. -/
  | askFirst {id : Uuid} {request : Request} {bytes : List UInt8}
    (phase : c.phase = .dialing id request)
    (frame : requestFrame c.config.maxFrameBytes id request = .ok bytes) :
    Move c [.send c.streams bytes]
      { c with
        stream := some ⟨c.streams, [], none⟩
        phase := .waiting id
        streams := c.streams + 1 }
  /-- The stream that was dialed is there, but the request cannot be written on it. -/
  | dropFirst {id : Uuid} {request : Request} {e : TransportError}
    (phase : c.phase = .dialing id request) (poisons : e.poisons = true) :
    Move c [.abandon c.streams, .finish id (.error e)]
      { c with stream := none, phase := .idle, streams := c.streams + 1 }
  /-- A request is written on the stream that was kept. -/
  | ask {id : Uuid} {request : Request} {rest : List Command} {s : Stream} {bytes : List UInt8}
    (phase : c.phase = .idle) (queue : c.queue = .call id request :: rest)
    (stream : c.stream = some s)
    (frame : requestFrame c.config.maxFrameBytes id request = .ok bytes) :
    Move c [.send s.number bytes] { c with phase := .waiting id, queue := rest }
  /-- A request cannot be written on the stream that was kept. -/
  | drop {id : Uuid} {request : Request} {rest : List Command} {s : Stream} {e : TransportError}
    (phase : c.phase = .idle) (queue : c.queue = .call id request :: rest)
    (stream : c.stream = some s) (poisons : e.poisons = true) :
    Move c [.abandon s.number, .finish id (.error e)] { c with stream := none, queue := rest }
  /-- The reply that was waited for is at the front of what the stream has received. -/
  | answer {id : Uuid} {s : Stream} {body left : List UInt8} {reply : Reply}
    (phase : c.phase = .waiting id) (stream : c.stream = some s)
    (front : Frame.front c.config.maxFrameBytes.toNat s.received = .frame body left)
    (accepted : checkReply id body = .ok reply) :
    Move c [.finish id (.ok reply)]
      { c with stream := some { s with received := left }, phase := .idle }
  /-- No reply that could be accepted comes any more. -/
  | lose {id : Uuid} {s : Stream} {e : TransportError} (phase : c.phase = .waiting id)
    (stream : c.stream = some s) (poisons : e.poisons = true) :
    Move c [.abandon s.number, .finish id (.error e)] { c with stream := none, phase := .idle }

/-- A number of moves, one after another. -/
inductive Moves : Connection → List ConnectionAction → Connection → Prop
  | nil (c : Connection) : Moves c [] c
  | cons {c mid c' : Connection} {first rest : List ConnectionAction} :
    Move c first mid → Moves mid rest c' → Moves c (first ++ rest) c'

theorem Move.moves {c c' : Connection} {actions : List ConnectionAction}
    (h : Move c actions c') : Moves c actions c' := by
  have h' := Moves.cons h (.nil c')
  rwa [List.append_nil] at h'

theorem Moves.append {c mid c' : Connection} {first rest : List ConnectionAction}
    (hfirst : Moves c first mid) (hrest : Moves mid rest c') : Moves c (first ++ rest) c' := by
  induction hfirst with
  | nil c => exact hrest
  | cons move _ ih =>
    rw [List.append_assoc]
    exact .cons move (ih hrest)

/-- What every move keeps, a number of moves keep. -/
theorem Moves.preserves {I : List ConnectionAction → Connection → Prop} {c c' : Connection}
    {before actions : List ConnectionAction} (h : Moves c actions c')
    (step : ∀ before new c c', I before c → Move c new c' → I (before ++ new) c')
    (hI : I before c) : I (before ++ actions) c' := by
  induction h generalizing before with
  | nil c => rwa [List.append_nil]
  | cons move _ ih =>
    rw [← List.append_assoc]
    exact ih (step _ _ _ _ hI move)

/-! ## A step in moves -/

/-- While a reply is waited for, looking for it is made of moves. -/
theorem moves_progress (c : Connection) (id : Uuid) (s : Stream) (rest : List Command) :
    Moves { c with stream := some s, phase := .waiting id, queue := rest } (c.progress id s).1
      { (c.progress id s).2 with queue := rest } := by
  have hread := s.read_spec c.config.maxFrameBytes id
  unfold progress
  generalize s.read c.config.maxFrameBytes id = reading at hread ⊢
  cases hread with
  | pending => exact .nil _
  | reply front accepted =>
    refine Move.moves ?_
    exact .answer rfl rfl front accepted
  | failed poisons =>
    refine Move.moves ?_
    exact .lose rfl rfl poisons

theorem with_queue_progress (c : Connection) (id : Uuid) (s : Stream) :
    { (c.progress id s).2 with queue := c.queue } = (c.progress id s).2 := by
  unfold progress
  split <;> rfl

/-- Where a request can be written or dropped, transmitting it is made of moves. -/
theorem moves_transmit {before c : Connection} {id : Uuid} {request : Request} {s : Stream}
    {rest : List Command}
    (hask : ∀ bytes, requestFrame c.config.maxFrameBytes id request = .ok bytes →
      Move before [.send s.number bytes]
        { c with stream := some s, phase := .waiting id, queue := rest })
    (hdrop : ∀ e : TransportError, e.poisons = true →
      Move before [.abandon s.number, .finish id (.error e)]
        { c with stream := none, phase := .idle, queue := rest }) :
    Moves before (c.transmit id request s).1
      { (c.transmit id request s).2 with queue := rest } := by
  unfold transmit
  split
  · rename_i e hframe
    exact (hdrop e (poisons_of_requestFrame hframe)).moves
  · rename_i bytes hframe
    split
    · exact (hdrop _ rfl).moves
    · exact .cons (hask bytes hframe) (moves_progress c id s rest)

theorem with_queue_transmit (c : Connection) (id : Uuid) (request : Request) (s : Stream) :
    { (c.transmit id request s).2 with queue := c.queue } = (c.transmit id request s).2 := by
  unfold transmit
  split
  · rfl
  · split
    · rfl
    · exact with_queue_progress c id s

theorem moves_takeUp {c : Connection} (hphase : c.phase = .idle) (command : Command)
    (rest : List Command) :
    Moves { c with queue := command :: rest } (c.takeUp command).1
      { (c.takeUp command).2 with queue := rest } := by
  obtain ⟨config, stream, phase, queue, streams⟩ := c
  obtain rfl : phase = .idle := hphase
  cases command with
  | disconnect =>
    cases stream with
    | none => exact (Move.pass rfl rfl rfl).moves
    | some s => exact (Move.hangUp rfl rfl rfl).moves
  | call id request =>
    cases stream with
    | none => exact (Move.dial rfl rfl rfl).moves
    | some s =>
      exact moves_transmit (fun bytes hframe => .ask rfl rfl rfl hframe)
        fun e poisons => .drop rfl rfl rfl poisons

theorem drain_cons (command : Command) (rest : List Command) (c : Connection) :
    drain (command :: rest) c =
      match (c.takeUp command).2.phase with
      | .idle =>
        ((c.takeUp command).1 ++ (drain rest (c.takeUp command).2).1,
          (drain rest (c.takeUp command).2).2)
      | _ => ((c.takeUp command).1, { (c.takeUp command).2 with queue := rest }) := rfl

theorem moves_drain {c : Connection} (hphase : c.phase = .idle) (commands : List Command) :
    Moves { c with queue := commands } (drain commands c).1 (drain commands c).2 := by
  induction commands generalizing c with
  | nil => exact .nil _
  | cons command rest ih =>
    have htake := moves_takeUp hphase command rest
    rw [drain_cons]
    split
    · rename_i hidle
      exact htake.append (ih hidle)
    · exact htake

theorem moves_resume {before : Connection} {result : List ConnectionAction × Connection}
    (h : Moves before result.1 result.2) : Moves before (resume result).1 (resume result).2 := by
  unfold resume
  split
  · rename_i hidle
    exact h.append (moves_drain hidle result.2.queue)
  · exact h

/-- What has happened is noted: a command joins the queue, and bytes and the end of
a stream join the stream, if it is the one that is kept. -/
def note (c : Connection) : ConnectionEvent → Connection
  | .issue command => { c with queue := c.queue ++ [command] }
  | .arrived number bytes =>
    { c with stream := c.stream.map fun s => if s.number = number then s.hear bytes else s }
  | .ended number how =>
    { c with stream := c.stream.map fun s =>
        if s.number = number then { s with ending := s.ending.or (some how) } else s }
  | _ => c

theorem moves_onStream (c : Connection) (number : Nat) (change : Stream → Stream) :
    Moves { c with stream := c.stream.map fun s => if s.number = number then change s else s }
      (c.onStream number change).1 (c.onStream number change).2 := by
  obtain ⟨config, stream, phase, queue, streams⟩ := c
  cases stream with
  | none => exact .nil _
  | some s =>
    by_cases hn : s.number = number
    · simp only [onStream, hn, if_true, Option.map_some]
      cases phase with
      | waiting id =>
        have hprogress := moves_progress ⟨config, some s, .waiting id, queue, streams⟩ id (change s)
          queue
        rw [with_queue_progress ⟨config, some s, .waiting id, queue, streams⟩] at hprogress
        exact moves_resume hprogress
      | _ => exact .nil _
    · simp only [onStream, hn, if_false, Option.map_some]
      exact .nil _

theorem moves_failDial (c : Connection) {e : TransportError} (he : e.poisons = true) :
    Moves c (c.failDial e).1 (c.failDial e).2 := by
  obtain ⟨config, stream, phase, queue, streams⟩ := c
  cases phase with
  | dialing id request => exact moves_resume (Move.refuse rfl he).moves
  | _ => exact .nil _

/-- What a connection does when something happens: it notes it, and then it moves. -/
theorem step_moves (c : Connection) (event : ConnectionEvent) :
    Moves (c.note event) (c.step event).1 (c.step event).2 := by
  cases event with
  | issue command =>
    obtain ⟨config, stream, phase, queue, streams⟩ := c
    cases phase with
    | idle => exact moves_drain rfl _
    | _ => exact .nil _
  | connected =>
    obtain ⟨config, stream, phase, queue, streams⟩ := c
    cases phase with
    | dialing id request =>
      have htransmit : Moves ⟨config, stream, .dialing id request, queue, streams⟩ _ _ :=
        moves_transmit (c := ⟨config, stream, .dialing id request, queue, streams + 1⟩)
          (s := ⟨streams, [], none⟩)
          (fun bytes hframe => .askFirst rfl hframe) fun e poisons => .dropFirst rfl poisons
      rw [with_queue_transmit ⟨config, stream, .dialing id request, queue, streams + 1⟩]
        at htransmit
      exact moves_resume htransmit
    | _ => exact .nil _
  | connectFailed source => exact moves_failDial c rfl
  | connectTimedOut => exact moves_failDial c rfl
  | arrived number bytes => exact moves_onStream c number fun s => s.hear bytes
  | ended number how => exact moves_onStream c number _
  | timedOut =>
    obtain ⟨config, stream, phase, queue, streams⟩ := c
    cases phase with
    | waiting id =>
      cases stream with
      | none => exact .nil _
      | some s => exact moves_resume (Move.lose rfl rfl rfl).moves
    | _ => exact .nil _

end Connection

end DeviceBroker
