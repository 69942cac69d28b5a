import DeviceBroker.Proofs.Table
import DeviceBroker.Proofs.Wire.Framing
import DeviceBroker.Server.Host

/-!
# Streams in pieces

A network may cut a stream anywhere. A session that receives bytes in two pieces
sends back the same bytes, is left in the same state and does the same to the
broker as one that receives them at once, and it ends in the same place if it
ends; by induction the same is true of any number of pieces. So it is enough to
know what a server does with a whole frame.
-/

namespace DeviceBroker

variable {cards : Nat}

namespace Session

section Answers

variable {maxBytes count : Nat} {b after : Broker cards} {body bytes : List UInt8}
  {bodies : List (List UInt8)}

theorem answerAll_cons_of_error {e : FrameError}
    (h : Frame.encode maxBytes (Wire.replyEnvelope.encode (b.answer body).1) = .error e)
    (bodies : List (List UInt8)) :
    answerAll maxBytes (body :: bodies) b = ([], 1, false, (b.answer body).2) := by
  simp only [answerAll, h]

theorem answerAll_cons_of_ok
    (h : Frame.encode maxBytes (Wire.replyEnvelope.encode (b.answer body).1) = .ok bytes)
    (bodies : List (List UInt8)) :
    answerAll maxBytes (body :: bodies) b =
      (bytes ++ (answerAll maxBytes bodies (b.answer body).2).1,
        (answerAll maxBytes bodies (b.answer body).2).2.1 + 1,
        (answerAll maxBytes bodies (b.answer body).2).2.2) := by
  simp only [answerAll, h]

/-- A reply that cannot be written is the last thing that happens. -/
theorem answerAll_append_of_unwritten
    (h : answerAll maxBytes bodies b = (bytes, count, false, after)) (more : List (List UInt8)) :
    answerAll maxBytes (bodies ++ more) b = (bytes, count, false, after) := by
  induction bodies generalizing b bytes count with
  | nil => cases h
  | cons body bodies ih =>
    rw [List.cons_append]
    cases hencode : Frame.encode maxBytes (Wire.replyEnvelope.encode (b.answer body).1) with
    | error e =>
      rw [answerAll_cons_of_error hencode] at h ⊢
      exact h
    | ok reply =>
      rw [answerAll_cons_of_ok hencode] at h ⊢
      rcases hrest : answerAll maxBytes bodies (b.answer body).2 with ⟨sent, n, written, last⟩
      rw [hrest] at h
      cases h
      rw [ih hrest]

theorem answerAll_append_of_written
    (h : answerAll maxBytes bodies b = (bytes, count, true, after)) (more : List (List UInt8)) :
    answerAll maxBytes (bodies ++ more) b =
      (bytes ++ (answerAll maxBytes more after).1, count + (answerAll maxBytes more after).2.1,
        (answerAll maxBytes more after).2.2) := by
  induction bodies generalizing b bytes count with
  | nil =>
    cases h
    simp
  | cons body bodies ih =>
    rw [List.cons_append]
    cases hencode : Frame.encode maxBytes (Wire.replyEnvelope.encode (b.answer body).1) with
    | error e =>
      rw [answerAll_cons_of_error hencode] at h
      cases h
    | ok reply =>
      rw [answerAll_cons_of_ok hencode] at h ⊢
      rcases hrest : answerAll maxBytes bodies (b.answer body).2 with ⟨sent, n, written, last⟩
      rw [hrest] at h
      cases h
      rw [ih hrest, List.append_assoc, Nat.add_right_comm]

end Answers

variable {s : Session} {chunk bytes : List UInt8} {bodies : List (List UInt8)} {count : Nat}
  {b after : Broker cards}

/-! ### What becomes of a session -/

theorem receive_of_ok {framer : Framer} (hfeed : s.framer.feed chunk = (bodies, .ok framer))
    (h : answerAll s.framer.maxBytes bodies b = (bytes, count, true, after)) :
    s.receive chunk b = (bytes, some ⟨framer, s.requests + count⟩, after) := by
  simp only [receive, hfeed, h]

theorem receive_of_error {e : FrameError} {written : Bool}
    (hfeed : s.framer.feed chunk = (bodies, .error e))
    (h : answerAll s.framer.maxBytes bodies b = (bytes, count, written, after)) :
    s.receive chunk b = (bytes, none, after) := by
  simp only [receive, hfeed, h]

theorem receive_of_unwritten {left : Except FrameError Framer}
    (hfeed : s.framer.feed chunk = (bodies, left))
    (h : answerAll s.framer.maxBytes bodies b = (bytes, count, false, after)) :
    s.receive chunk b = (bytes, none, after) := by
  cases left with
  | error e => exact receive_of_error hfeed h
  | ok framer => simp only [receive, hfeed, h]

theorem receive_nil (h : s.framer.Settled) (b : Broker cards) :
    s.receive [] b = ([], some s, b) :=
  receive_of_ok (Framer.feed_nil h) rfl

theorem settled_of_receive {s' : Session} (h : s.receive chunk b = (bytes, some s', after)) :
    s'.framer.Settled ∧ s'.framer.maxBytes = s.framer.maxBytes := by
  rcases hfeed : s.framer.feed chunk with ⟨bodies, _ | framer⟩
  · rw [receive_of_error hfeed rfl] at h
    cases h
  rcases hanswers : answerAll s.framer.maxBytes bodies b with ⟨bytes, count, _ | _, after⟩
  · rw [receive_of_unwritten hfeed hanswers] at h
    cases h
  · rw [receive_of_ok hfeed hanswers] at h
    cases h
    exact Framer.settled_of_feed (congrArg Prod.snd hfeed)

/-- A session that receives bytes in two pieces comes to the same as one that receives
them at once. -/
theorem receive_append (s : Session) (chunk more : List UInt8) (b : Broker cards) :
    s.receive (chunk ++ more) b =
      match s.receive chunk b with
      | (bytes, none, after) => (bytes, none, after)
      | (bytes, some s', after) =>
        (bytes ++ (s'.receive more after).1, (s'.receive more after).2) := by
  rcases hfeed : s.framer.feed chunk with ⟨bodies, _ | framer⟩
  · rcases h : answerAll s.framer.maxBytes bodies b with ⟨bytes, count, written, after⟩
    rw [receive_of_error hfeed h, receive_of_error (Framer.feed_append_of_error hfeed more) h]
  have happend := Framer.feed_append_of_ok hfeed more
  rcases h : answerAll s.framer.maxBytes bodies b with ⟨bytes, count, _ | _, after⟩
  · rw [receive_of_unwritten hfeed h]
    exact receive_of_unwritten happend (answerAll_append_of_unwritten h _)
  -- The session goes on after the first piece, and what becomes of it is what the
  -- second piece makes of it.
  rw [receive_of_ok hfeed h]
  have hmax := (Framer.settled_of_feed (congrArg Prod.snd hfeed)).2
  rcases hfeed' : framer.feed more with ⟨bodies', left⟩
  rcases h' : answerAll framer.maxBytes bodies' after with ⟨bytes', count', written, last⟩
  have hboth := answerAll_append_of_written h bodies'
  rw [hfeed'] at happend
  rw [← hmax, h', hmax] at hboth
  rcases left with e | framer'
  · simp only [receive_of_error happend hboth, receive_of_error (s := ⟨framer, _⟩) hfeed' h']
  rcases written with _ | _
  · simp only [receive_of_unwritten happend hboth,
      receive_of_unwritten (s := ⟨framer, _⟩) hfeed' h']
  · simp only [receive_of_ok happend hboth, receive_of_ok (s := ⟨framer, _⟩) hfeed' h',
      Nat.add_assoc]

theorem receive_append_of_some {s' : Session} (h : s.receive chunk b = (bytes, some s', after))
    (more : List UInt8) :
    s.receive (chunk ++ more) b =
      (bytes ++ (s'.receive more after).1, (s'.receive more after).2) := by
  rw [receive_append, h]

theorem receive_append_of_none (h : s.receive chunk b = (bytes, none, after))
    (more : List UInt8) : s.receive (chunk ++ more) b = (bytes, none, after) := by
  rw [receive_append, h]

end Session

namespace Server

variable {client : Nat}

theorem receive_of_some {s : Server cards} {session session' : Session} {chunk bytes : List UInt8}
    {after : Broker cards} (hs : s.sessions.find? client = some session)
    (h : session.receive chunk s.broker = (bytes, some session', after)) :
    s.receive client chunk = some (bytes, true,
      { s with broker := after, sessions := s.sessions.insert client session' }) := by
  simp only [receive, hs, Option.map_some, h]

theorem receive_of_none {s : Server cards} {session : Session} {chunk bytes : List UInt8}
    {after : Broker cards} (hs : s.sessions.find? client = some session)
    (h : session.receive chunk s.broker = (bytes, none, after)) :
    s.receive client chunk = some (bytes, false,
      { s with broker := after, sessions := s.sessions.erase client }) := by
  simp only [receive, hs, Option.map_some, h]

/-- Let the pieces of a stream reach the server one after another, as long as the session
lasts: the bytes that go back, and whether the session goes on. -/
def hear (client : Nat) : List (List UInt8) → Server cards → List UInt8 × Bool × Server cards
  | [], s => ([], true, s)
  | piece :: pieces, s =>
    match s.receive client piece with
    | none => ([], true, s)
    | some (bytes, false, s) => (bytes, false, s)
    | some (bytes, true, s) =>
      let (more, goesOn, s) := hear client pieces s
      (bytes ++ more, goesOn, s)

/-- The client has a session, and what it has sent so far is answered. -/
def Attends (s : Server cards) (client : Nat) : Prop :=
  ∃ session, s.sessions.find? client = some session ∧ session.framer.Settled

/-- However a stream is cut, the server does with it what it does with the whole. -/
theorem receive_flatten {s : Server cards} (h : s.Attends client) (pieces : List (List UInt8)) :
    s.receive client pieces.flatten = some (hear client pieces s) := by
  induction pieces generalizing s with
  | nil =>
    obtain ⟨session, hs, hsettled⟩ := h
    rw [List.flatten_nil, receive_of_some hs (Session.receive_nil hsettled s.broker),
      Table.insert_eq_self hs]
    rfl
  | cons piece pieces ih =>
    obtain ⟨session, hs, hsettled⟩ := h
    rw [List.flatten_cons, hear]
    rcases hpiece : session.receive piece s.broker with ⟨bytes, _ | session', after⟩
    · rw [receive_of_none hs hpiece,
        receive_of_none hs (Session.receive_append_of_none hpiece pieces.flatten)]
    · have hwhole := Session.receive_append_of_some hpiece pieces.flatten
      have hs' := Table.find?_insert_self s.sessions client session'
      have hrest := ih (s := ⟨s.config, after, s.sessions.insert client session'⟩)
        ⟨session', hs', (Session.settled_of_receive hpiece).1⟩
      rw [receive_of_some hs hpiece]
      rcases hmore : session'.receive pieces.flatten after with ⟨more, _ | session'', last⟩
      · rw [hmore] at hwhole
        rw [receive_of_none hs' hmore] at hrest
        rw [receive_of_none hs hwhole]
        simp only [← Option.some.inj hrest, Table.erase_insert_self]
      · rw [hmore] at hwhole
        rw [receive_of_some hs' hmore] at hrest
        rw [receive_of_some hs hwhole]
        simp only [← Option.some.inj hrest, Table.insert_insert]

end Server

end DeviceBroker
