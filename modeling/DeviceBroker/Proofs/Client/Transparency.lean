import DeviceBroker.Proofs.Broker.Answers
import DeviceBroker.Proofs.Broker.Portions
import DeviceBroker.Proofs.Broker.Sleeping
import DeviceBroker.Proofs.Client.Carriage
import DeviceBroker.Proofs.Client.Exchange

/-!
# Remote calls are transparent

A call goes a long way: the request is encoded and framed, cut and put together,
decoded, served, and its reply goes all the way back. If nothing is lost on the
way and both frames are within the limits of both ends, the client has in its
hands what the operation returns when it is executed on the broker directly, and
the broker is left as that execution leaves it. The link is ready for the next
call, so the same is true of every call that follows.

A client with a clock waits only so long. What has been said then needs the reply
to arrive in time, and this is all that it needs: a call whose reply is late ends
with an error of the transport, and it may be late although nothing is lost,
because the broker sleeps for as long as a poll asks.
-/

namespace DeviceBroker

open Service Connection

variable {cards : Nat}

/-! ### The server's end -/

theorem Broker.answer_requestBytes {maxBytes : Nat} {id : Uuid} {request : Request}
    (b : Broker cards) (h : (requestBytes id request).length ≤ Frame.effectiveMax maxBytes) :
    b.answer (requestBytes id request) =
      (.current id (b.handle request).1, (b.handle request).2) := by
  have hdecode : Wire.decodeFrame Wire.requestEnvelope (requestBytes id request) =
      .ok (.current id request) :=
    Wire.decodeFrame_encode_of_length Wire.request_exact Wire.request_bounds
      (Frame.length_lt_of_le h)
  rw [b.answer_eq_answerWith, answerWith_of_decodeFrame _ _ hdecode rfl]
  rfl

namespace Server

variable {s : Server cards} {client answered : Nat} {id : Uuid} {request : Request}

/-- The server after it has served a request of a client. -/
def afterServing (s : Server cards) (client answered : Nat) (request : Request) : Server cards :=
  { s with
    broker := (s.broker.handle request).2
    sessions := s.sessions.insert client ⟨.start s.config.maxFrameBytes.toNat, answered + 1⟩ }

/-- The frame of a request is answered with the frame of its reply, however it is cut. -/
theorem hear_requestBytes
    (hs : s.sessions.find? client = some ⟨.start s.config.maxFrameBytes.toNat, answered⟩)
    (hrequest : (requestBytes id request).length ≤
      Frame.effectiveMax s.config.maxFrameBytes.toNat)
    (hreply : (replyBytes id (s.broker.handle request).1).length ≤
      Frame.effectiveMax s.config.maxFrameBytes.toNat)
    {pieces : List (List UInt8)} (h : pieces.flatten = Frame.ofBody (requestBytes id request)) :
    s.hear client pieces =
      (Frame.ofBody (replyBytes id (s.broker.handle request).1), true,
        s.afterServing client answered request) := by
  have hanswer := s.broker.answer_requestBytes hrequest
  have hanswers : Session.answerAll s.config.maxFrameBytes.toNat [requestBytes id request]
      s.broker = (Frame.ofBody (replyBytes id (s.broker.handle request).1), 1, true,
        (s.broker.handle request).2) := by
    have hencode : Frame.encode s.config.maxFrameBytes.toNat (Wire.replyEnvelope.encode
        (s.broker.answer (requestBytes id request)).1) =
          .ok (Frame.ofBody (replyBytes id (s.broker.handle request).1)) := by
      rw [hanswer]
      exact Frame.encode_of_le hreply
    rw [Session.answerAll_cons_of_ok hencode, hanswer]
    simp
  have hreceive := receive_of_some hs
    (Session.receive_of_ok (Framer.feed_start_ofBody hrequest) hanswers)
  rw [← h, receive_flatten ⟨_, hs, Framer.settled_start _⟩] at hreceive
  exact Option.some.inj hreceive

end Server

namespace Link

/-- The largest frame body that both ends of the stream of a client take. -/
def frameLimit (l : Link cards) (client : Nat) : Nat :=
  min (Frame.effectiveMax (l.clients client).config.maxFrameBytes.toNat)
    (Frame.effectiveMax l.server.config.maxFrameBytes.toNat)

/-- The frames of a call are within the limits. -/
structure WithinLimits (l : Link cards) (client : Nat) (id : Uuid) (request : Request) : Prop where
  asking : (requestBytes id request).length ≤ l.frameLimit client
  answering : (replyBytes id (l.server.broker.handle request).1).length ≤ l.frameLimit client

/-- The reply to a request arrives before the time that a client gives the call is over. -/
def Punctual (l : Link cards) (carriage : Carriage) (client : Nat) (request : Request) : Prop :=
  carriage.delayMicros +
      (l.server.broker.handle request).2.sleptSince l.server.broker request.pauseMicros <
    (l.clients client).config.callTimeoutMs.toNat * 1000

instance (l : Link cards) (carriage : Carriage) (client : Nat) (request : Request) :
    Decidable (l.Punctual carriage client request) := Nat.decLt _ _

/-- Nothing stands in the way of the next call of a client: it has a stream on which
nothing is under way, at either end, or one can be dialed in time and there is room for it at
the server. -/
structure Ready (l : Link cards) (carriage : Carriage) (client : Nat) : Prop where
  reachable : l.network = .reachable
  rest : (l.clients client).AtRest
  joined :
    (∃ number answered, (l.clients client).stream = some (quiet number) ∧
      l.server.sessions.find? client =
        some ⟨.start l.server.config.maxFrameBytes.toNat, answered⟩) ∨
    ((l.clients client).stream = none ∧
      carriage.delayMicros < (l.clients client).config.connectTimeoutMs.toNat * 1000 ∧
      l.server.sessions.size < l.server.config.maxConnections.toNat)

/-- A server that has just been bound is ready for the first client. -/
theorem ready_of_bind {config : ServerConfig} {b : Broker cards} {server : Server cards}
    (h : Server.bind config b = .ok server) (settings : Nat → ConnectionConfig)
    {carriage : Carriage} {client : Nat}
    (hdial : carriage.delayMicros < (settings client).connectTimeoutMs.toNat * 1000) :
    Ready ⟨.reachable, server, fun number => .start (settings number)⟩ carriage client := by
  unfold Server.bind at h
  split at h
  · cases h
  · rename_i hvalid
    cases h
    obtain ⟨-, -, hpositive⟩ := (ServerConfig.validate_eq_ok_iff config).1 hvalid
    refine ⟨rfl, ⟨rfl, rfl⟩, .inr ⟨rfl, hdial, ?_⟩⟩
    rw [Table.size_empty]
    exact Nat.pos_of_ne_zero fun hzero => hpositive (UInt64.toNat_inj.1 hzero)

variable {l : Link cards} {carriage faster : Carriage} {client : Nat} {id : Uuid}
  {request : Request}

theorem Ready.of_le (h : l.Ready carriage client)
    (hle : faster.delayMicros ≤ carriage.delayMicros) : l.Ready faster client :=
  ⟨h.reachable, h.rest, h.joined.imp_right fun ⟨hstream, hdial, hroom⟩ =>
    ⟨hstream, Nat.lt_of_le_of_lt hle hdial, hroom⟩⟩

theorem Punctual.congr {l' : Link cards} (h : l.Punctual carriage client request)
    (hbroker : l'.server.broker = l.server.broker)
    (hclient : (l'.clients client).config = (l.clients client).config) :
    l'.Punctual carriage client request := by
  rw [Punctual, hbroker, hclient]
  exact h

theorem Punctual.of_le (h : l.Punctual carriage client request)
    (hle : faster.delayMicros ≤ carriage.delayMicros) : l.Punctual faster client request :=
  Nat.lt_of_le_of_lt (Nat.add_le_add_right hle _) h

/-- Only a poll sleeps, so for any other request a network that is fast enough will do. -/
theorem punctual_of_patience
    (h : carriage.delayMicros + request.patienceMicros <
      (l.clients client).config.callTimeoutMs.toNat * 1000) :
    l.Punctual carriage client request :=
  Nat.lt_of_le_of_lt (Nat.add_le_add_left (Broker.sleptSince_handle_le _ _) _) h

/-! ### The rounds of a call -/

/-- The link with the connection of one client changed. -/
def withClient (l : Link cards) (client : Nat) (c : Connection) : Link cards :=
  { l with clients := override l.clients client c }

@[simp] theorem clients_withClient (l : Link cards) (client : Nat) (c : Connection) :
    (l.withClient client c).clients client = c := override_self _ _ _

@[simp] theorem withClient_self (l : Link cards) (client : Nat) :
    l.withClient client (l.clients client) = l := by
  rw [withClient, override_eq_self]

theorem deliver_eq {events : List ConnectionEvent} {actions : List ConnectionAction}
    {c : Connection} (h : (l.clients client).run events = (actions, c)) :
    l.deliver client events = (actions, l.withClient client c) := by
  simp only [deliver, h, withClient]

theorem deliver_singleton {event : ConnectionEvent} {actions : List ConnectionAction}
    {c : Connection} (h : (l.clients client).step event = (actions, c)) :
    l.deliver client [event] = (actions, l.withClient client c) := by
  refine deliver_eq ?_
  simp only [run, h, List.append_nil]

variable (carriage) (pause : Nat)

/-- A round: what the client does, what the network makes of it, and the rounds after. -/
theorem roundsBy_succ {l₁ l₂ l₃ : Link cards} {count : Nat} {events events' : List ConnectionEvent}
    {actions more : List ConnectionAction} (hdeliver : l.deliver client events = (actions, l₁))
    (hreact : reactAllBy carriage client pause actions l₁ = (events', l₂))
    (hrest : roundsBy carriage client pause count events' l₂ = (more, l₃)) :
    roundsBy carriage client pause (count + 1) events l = (actions ++ more, l₃) := by
  rw [roundsBy]
  simp only [hdeliver, hreact, hrest]

theorem roundsBy_nil (l : Link cards) (client count : Nat) :
    roundsBy carriage client pause count [] l = ([], l) := by
  induction count with
  | zero => rfl
  | succ count ih =>
    have hdeliver := deliver_eq (run_nil (l.clients client))
    rw [withClient_self] at hdeliver
    exact roundsBy_succ carriage pause hdeliver rfl ih

theorem reactAllBy_dial {server : Server cards} (hnetwork : l.network = .reachable)
    (hdial : carriage.delayMicros < (l.clients client).config.connectTimeoutMs.toNat * 1000)
    (h : l.server.accept client = some server) :
    reactAllBy carriage client pause [.dial] l = ([.connected], { l with server }) := by
  simp only [reactAllBy, reactBy, dialed, hnetwork, if_neg (Nat.not_le.mpr hdial), h,
    Option.getD_some, List.append_nil]

theorem WithinLimits.of_eq {l' : Link cards} (h : l.WithinLimits client id request)
    (hclient : (l'.clients client).config = (l.clients client).config)
    (hserver : l'.server.config = l.server.config)
    (hbroker : l'.server.broker = l.server.broker) : l'.WithinLimits client id request := by
  have hlimit : l'.frameLimit client = l.frameLimit client := by
    rw [frameLimit, frameLimit, hclient, hserver]
  exact ⟨hlimit ▸ h.asking, by rw [hbroker, hlimit]; exact h.answering⟩

theorem WithinLimits.requestFrame_eq (h : l.WithinLimits client id request) :
    requestFrame (l.clients client).config.maxFrameBytes id request =
      .ok (Frame.ofBody (requestBytes id request)) :=
  requestFrame_of_le (Nat.le_trans h.asking (Nat.min_le_left _ _))

/-! ### Asking -/

/-- A request has just been written on a stream of which both ends know. -/
structure Asked (l : Link cards) (client : Nat) (id : Uuid) (request : Request)
    (number answered : Nat) : Prop where
  reachable : l.network = .reachable
  awaits : (l.clients client).Awaits id number []
  session : l.server.sessions.find? client =
    some ⟨.start l.server.config.maxFrameBytes.toNat, answered⟩
  limits : l.WithinLimits client id request

/-- On a stream that is there, a call is asked in one round. -/
theorem roundsBy_issue_of_stream {number answered : Nat} (hnetwork : l.network = .reachable)
    (hrest : (l.clients client).AtRest) (hstream : (l.clients client).stream = some (quiet number))
    (hs : l.server.sessions.find? client =
      some ⟨.start l.server.config.maxFrameBytes.toNat, answered⟩)
    (hlimits : l.WithinLimits client id request) :
    ∃ asked : Link cards,
      asked.Asked client id request number answered ∧ asked.server.broker = l.server.broker ∧
      (asked.clients client).config = (l.clients client).config ∧
      ∀ count events more served after,
        reactAllBy carriage client pause
          [.send number (Frame.ofBody (requestBytes id request))] asked = (events, served) →
        roundsBy carriage client pause count events served = (more, after) →
        roundsBy carriage client pause (count + 1) [.issue (.call id request)] l =
          ([.send number (Frame.ofBody (requestBytes id request))] ++ more, after) := by
  let asked := l.withClient client { l.clients client with phase := .waiting id }
  have hclient : asked.clients client = { l.clients client with phase := .waiting id } :=
    clients_withClient _ _ _
  have hissue : l.deliver client [.issue (.call id request)] = (_, asked) :=
    deliver_singleton (step_issue_of_stream hrest hstream hlimits.requestFrame_eq)
  have hasked : asked.Asked client id request number answered :=
    ⟨hnetwork, hclient ▸ ⟨hstream, rfl, hrest.2⟩, hs, hlimits.of_eq (by rw [hclient]) rfl rfl⟩
  refine ⟨asked, hasked, rfl, by rw [hclient], ?_⟩
  intro count events more served after hreact hmore
  exact roundsBy_succ carriage pause hissue hreact hmore

/-- Without a stream, a call is asked in two rounds, and one stream is dialed. -/
theorem roundsBy_issue_of_none (hnetwork : l.network = .reachable)
    (hrest : (l.clients client).AtRest) (hstream : (l.clients client).stream = none)
    (hdial : carriage.delayMicros < (l.clients client).config.connectTimeoutMs.toNat * 1000)
    (hroom : l.server.sessions.size < l.server.config.maxConnections.toNat)
    (hlimits : l.WithinLimits client id request) :
    ∃ (number : Nat) (asked : Link cards),
      asked.Asked client id request number 0 ∧ asked.server.broker = l.server.broker ∧
      (asked.clients client).config = (l.clients client).config ∧
      ∀ count events more served after,
        reactAllBy carriage client pause
          [.send number (Frame.ofBody (requestBytes id request))] asked = (events, served) →
        roundsBy carriage client pause count events served = (more, after) →
        roundsBy carriage client pause (count + 2) [.issue (.call id request)] l =
          (.dial :: .send number (Frame.ofBody (requestBytes id request)) :: more, after) := by
  let dialing : Connection := { l.clients client with phase := .dialing id request }
  let admitted : Link cards := { l.withClient client dialing with
    server := { l.server with
      sessions := l.server.sessions.insert client (.start l.server.config.maxFrameBytes) } }
  let asking : Connection := { dialing with
    stream := some (quiet dialing.streams)
    phase := .waiting id
    streams := dialing.streams + 1 }
  have hdialing : (l.withClient client dialing).clients client = dialing :=
    clients_withClient _ _ _
  have hissue : l.deliver client [.issue (.call id request)] =
      ([.dial], l.withClient client dialing) :=
    deliver_singleton (step_issue_of_none hrest hstream)
  have hadmit : reactAllBy carriage client pause [.dial] (l.withClient client dialing) =
      ([.connected], admitted) :=
    reactAllBy_dial carriage pause hnetwork (by rw [hdialing]; exact hdial) (if_pos hroom)
  have hstep : ((l.withClient client dialing).clients client).step .connected =
      ([.send dialing.streams (Frame.ofBody (requestBytes id request))], asking) := by
    rw [hdialing]
    exact step_connected rfl hlimits.requestFrame_eq
  have hconnected := deliver_singleton (l := admitted) hstep
  have hasking : (admitted.withClient client asking).clients client = asking :=
    clients_withClient _ _ _
  have hasked : (admitted.withClient client asking).Asked client id request dialing.streams 0 :=
    ⟨hnetwork, by rw [hasking]; exact ⟨rfl, rfl, hrest.2⟩,
      Table.find?_insert_self _ _ _, hlimits.of_eq (by rw [hasking]) rfl rfl⟩
  refine ⟨dialing.streams, _, hasked, rfl, by rw [hasking], ?_⟩
  intro count events more served after hreact hmore
  exact roundsBy_succ carriage pause hissue hadmit
    (roundsBy_succ carriage pause hconnected hreact hmore)

/-- A call that finds the link ready is asked in one round or two. What comes of it is left to
the rounds after. -/
theorem roundsBy_issue (hready : l.Ready carriage client)
    (hlimits : l.WithinLimits client id request) :
    ∃ (before : List ConnectionAction) (number answered count : Nat) (asked : Link cards),
      resultOf? id before = none ∧ asked.Asked client id request number answered ∧
      asked.server.broker = l.server.broker ∧
      (asked.clients client).config = (l.clients client).config ∧
      ∀ events more served after,
        reactAllBy carriage client pause
          [.send number (Frame.ofBody (requestBytes id request))] asked = (events, served) →
        roundsBy carriage client pause (count + 1) events served = (more, after) →
        roundsBy carriage client pause roundsPerCall [.issue (.call id request)] l =
          (before ++ ([.send number (Frame.ofBody (requestBytes id request))] ++ more), after) := by
  obtain ⟨number, answered, hstream, hs⟩ | ⟨hstream, hdial, hroom⟩ := hready.joined
  · obtain ⟨asked, hasked, hbroker, hconfig, hrounds⟩ :=
      roundsBy_issue_of_stream carriage pause hready.reachable hready.rest hstream hs hlimits
    exact ⟨[], number, answered, 1, asked, rfl, hasked, hbroker, hconfig, hrounds 2⟩
  · obtain ⟨number, asked, hasked, hbroker, hconfig, hrounds⟩ :=
      roundsBy_issue_of_none carriage pause hready.reachable hready.rest hstream hdial hroom hlimits
    exact ⟨[.dial], number, 0, 0, asked, rfl, hasked, hbroker, hconfig, hrounds 1⟩

/-! ### Hearing the reply -/

/-- The pieces in which the reply to a request arrives on a stream. -/
def replyPieces (l : Link cards) (carriage : Carriage) (id : Uuid) (number : Nat)
    (request : Request) : List ConnectionEvent :=
  (carriage.toClient.pieces
    (Frame.ofBody (replyBytes id (l.server.broker.handle request).1))).map (.arrived number)

/-- What a client hears after it has written a request on a stream. -/
def heard (l : Link cards) (carriage : Carriage) (client : Nat) (id : Uuid) (number : Nat)
    (request : Request) : List ConnectionEvent :=
  if carriage.clock then
    l.answered client
      (carriage.delayMicros +
        (l.server.broker.handle request).2.sleptSince l.server.broker request.pauseMicros)
      (l.replyPieces carriage id number request)
  else l.replyPieces carriage id number request

theorem heard_of_punctual (number : Nat)
    (h : carriage.clock = true → l.Punctual carriage client request) :
    l.heard carriage client id number request = l.replyPieces carriage id number request := by
  rw [heard]
  split
  · exact if_neg (Nat.not_le.mpr (h ‹_›))
  · rfl

theorem heard_of_not_punctual (number : Nat) (hclock : carriage.clock = true)
    (h : ¬ l.Punctual carriage client request) :
    l.heard carriage client id number request =
      .timedOut :: l.replyPieces carriage id number request := by
  rw [heard, if_pos hclock]
  exact if_pos (Nat.not_lt.mp h)

/-- The link once the server has answered the request of a client. -/
def afterServing (l : Link cards) (client answered : Nat) (request : Request) : Link cards :=
  { l with server := l.server.afterServing client answered request }

section Asked

variable {number answered : Nat} (h : l.Asked client id request number answered)

include h

theorem Asked.reactAllBy_send :
    reactAllBy carriage client request.pauseMicros
        [.send number (Frame.ofBody (requestBytes id request))] l =
      (l.heard carriage client id number request, l.afterServing client answered request) := by
  have hears := Server.hear_requestBytes h.session
    (Nat.le_trans h.limits.asking (Nat.min_le_right _ _))
    (Nat.le_trans h.limits.answering (Nat.min_le_right _ _))
    (carriage.toServer.flatten_pieces (Frame.ofBody (requestBytes id request)))
  simp only [reactAllBy, reactBy, (Table.contains_iff _ _).2 ⟨_, h.session⟩, if_true, hears,
    List.append_nil]
  rfl

/-- The frame of the reply ends the call, and the client is at rest. -/
theorem Asked.run_arrived {pieces : List (List UInt8)}
    (hpieces : pieces.flatten =
      Frame.ofBody (replyBytes id (l.server.broker.handle request).1)) :
    (l.clients client).run (pieces.map (.arrived number)) =
      ([.finish id (.ok (l.server.broker.handle request).1)],
        { l.clients client with stream := some (quiet number), phase := .idle }) := by
  have hlimit := Nat.le_trans h.limits.answering (Nat.min_le_left _ _)
  have hempty : ([] : List UInt8) ≠
      Frame.ofBody (replyBytes id (l.server.broker.handle request).1) := by
    intro hnil
    have hlength := congrArg List.length hnil
    rw [Frame.length_ofBody, List.length_nil] at hlength
    have : 0 < Frame.lengthBytes := by decide
    omega
  exact Connection.run_arrived h.awaits hlimit (checkReply_replyBytes hlimit)
    (by simpa using hpieces) hempty

end Asked

/-- A call that finds the link ready comes to its server, and ends as what the client then hears
makes it end. -/
theorem roundTripBy_of_asked (hready : l.Ready carriage client)
    (hlimits : l.WithinLimits client id request) :
    ∃ (number answered : Nat) (asked : Link cards),
      asked.Asked client id request number answered ∧
      asked.server.broker = l.server.broker ∧
      (asked.clients client).config = (l.clients client).config ∧
      ∀ actions c after result,
        (asked.clients client).run (asked.heard carriage client id number request) = (actions, c) →
        reactAllBy carriage client request.pauseMicros actions
          ((asked.afterServing client answered request).withClient client c) = ([], after) →
        resultOf? id actions = some result → (after.clients client).AtRest →
        roundTripBy carriage client id request l = (result, after) := by
  obtain ⟨before, number, answered, count, asked, hbefore, hasked, hbroker, hconfig, hrounds⟩ :=
    roundsBy_issue carriage request.pauseMicros hready hlimits
  refine ⟨number, answered, asked, hasked, hbroker, hconfig,
    fun actions c after result hrun hreact hresult hrest => ?_⟩
  have hended := hrounds _ _ _ _ (hasked.reactAllBy_send carriage)
    (roundsBy_succ carriage request.pauseMicros (deliver_eq hrun) hreact
      (roundsBy_nil carriage request.pauseMicros after client count))
  -- The time for a call that has ended does not run out.
  have hdeliver := deliver_singleton (step_timedOut_of_atRest hrest)
  rw [withClient_self] at hdeliver
  have hlate := roundsBy_succ carriage request.pauseMicros hdeliver rfl
    (roundsBy_nil carriage request.pauseMicros after client 0)
  have hfound : resultOf? id (before ++
      ([.send number (Frame.ofBody (requestBytes id request))] ++ actions)) = some result := by
    rw [resultOf?, List.findSome?_append, ← resultOf?, hbefore]
    exact hresult
  simp only [roundTripBy, hended, hlate, List.append_nil]
  rw [hfound]
  rfl

/-- A call whose reply arrives in time returns it, and the link is ready for the next one. -/
theorem roundTripBy_of_punctual (hready : l.Ready carriage client)
    (hlimits : l.WithinLimits client id request)
    (htime : carriage.clock = true → l.Punctual carriage client request) :
    ∃ after,
      roundTripBy carriage client id request l =
        (.ok (l.server.broker.handle request).1, after) ∧
      after.server.broker = (l.server.broker.handle request).2 ∧
      after.Ready carriage client := by
  obtain ⟨number, answered, asked, hasked, hbroker, hconfig, hends⟩ :=
    roundTripBy_of_asked carriage hready hlimits
  let c : Connection :=
    { asked.clients client with stream := some (quiet number), phase := .idle }
  let after := (asked.afterServing client answered request).withClient client c
  have hclient : after.clients client = c := clients_withClient _ _ _
  have hrun : (asked.clients client).run (asked.heard carriage client id number request) =
      ([.finish id (.ok (l.server.broker.handle request).1)], c) := by
    rw [heard_of_punctual carriage number fun h => (htime h).congr hbroker hconfig, ← hbroker]
    exact hasked.run_arrived (carriage.toClient.flatten_pieces _)
  have hrest : (after.clients client).AtRest := hclient ▸ ⟨rfl, hasked.awaits.queue⟩
  refine ⟨after, hends _ _ after _ hrun rfl (by simp [resultOf?]) hrest, ?_, hasked.reachable,
    hrest, .inl ⟨number, answered + 1, by rw [hclient], Table.find?_insert_self _ _ _⟩⟩
  exact congrArg (fun b => (b.handle request).2) hbroker

/-- A call whose reply is late fails, and its stream is given up. The broker has served the
request all the same. -/
theorem roundTripBy_of_not_punctual (hready : l.Ready carriage client)
    (hclock : carriage.clock = true)
    (hlimits : l.WithinLimits client id request) (htime : ¬ l.Punctual carriage client request) :
    ∃ after,
      roundTripBy carriage client id request l =
        (.error (.callTimeout (l.clients client).config.callTimeoutMs), after) ∧
      after.server.broker = (l.server.broker.handle request).2 ∧
      (after.clients client).AtRest ∧ (after.clients client).stream = none ∧
      after.server.sessions.find? client = none := by
  obtain ⟨number, answered, asked, hasked, hbroker, hconfig, hends⟩ :=
    roundTripBy_of_asked carriage hready hlimits
  let c : Connection := { asked.clients client with stream := none, phase := .idle }
  let served := asked.afterServing client answered request
  let after : Link cards :=
    { served.withClient client c with server := served.server.hangUp client }
  have hclient : after.clients client = c := clients_withClient _ _ _
  have hrun : (asked.clients client).run (asked.heard carriage client id number request) =
      ([.abandon number,
        .finish id (.error (.callTimeout (l.clients client).config.callTimeoutMs))], c) := by
    have hlate : ¬ asked.Punctual carriage client request :=
      fun h => htime (h.congr hbroker.symm hconfig.symm)
    rw [heard_of_not_punctual carriage number hclock hlate, ← hconfig]
    exact run_timedOut hasked.awaits _
  have hrest : (after.clients client).AtRest := hclient ▸ ⟨rfl, hasked.awaits.queue⟩
  refine ⟨after, hends _ _ after _ hrun rfl (by simp [resultOf?]) hrest, ?_, hrest,
    by rw [hclient], ?_⟩
  · exact congrArg (fun b => (b.handle request).2) hbroker
  · exact Table.find?_erase_self _ _

end Link

/-- The operation of a request, executed on the broker itself. -/
def Broker.execute (b : Broker cards) (request : Request) :
    Except Fault request.operation.Value × Broker cards :=
  exec (request.serve b.payloadLimit) b

/-- A transport makes a call on a link as if the operation were executed on the broker. -/
structure Transparent (t : Transport (Link cards)) (carriage : Carriage) (l : Link cards)
    (client : Nat) (call : ClientCall) : Prop where
  /-- A value is returned exactly when the operation returns it. -/
  ok_iff (value : call.Value) :
    (t.call call l).1 = .ok value ↔ (l.server.broker.execute call.request).1 = .ok value
  /-- A fault of the broker is reported exactly when the operation ends with it. -/
  remote_iff (fault : Fault) :
    (t.call call l).1 = .error (.remote fault) ↔
      (l.server.broker.execute call.request).1 = .error fault
  not_transport (e : TransportError) : (t.call call l).1 ≠ .error (.transport e)
  /-- The client would cut nothing off the value. -/
  uncut (value : call.Value) :
    (l.server.broker.execute call.request).1 = .ok value → call.request.clamp value = value
  broker : (t.call call l).2.server.broker = (l.server.broker.execute call.request).2
  ready : (t.call call l).2.Ready carriage client

theorem Request.clamp_of_execute {request : Request} {b : Broker cards}
    {value : request.operation.Value} (h : (b.execute request).1 = .ok value) :
    request.clamp value = value :=
  (request.yields_serve b.payloadLimit).of_exec (Prod.ext h rfl)

/-- What a client concludes from the reply to a request is what the operation returns. -/
theorem Request.conclude_handle (request : Request) (b : Broker cards) :
    request.conclude (.ok (b.handle request).1) = (b.execute request).1.mapError .remote := by
  have hreply : (b.handle request).1 = .ofResult request.operation (b.execute request).1 :=
    congrArg Prod.fst (b.handle_eq request)
  rw [hreply, conclude, Reply.resultOf_ofResult]
  cases h : (b.execute request).1 with
  | error fault => rfl
  | ok value => exact congrArg Except.ok (clamp_of_execute h)

theorem transparent_of_roundTrip {t : Transport (Link cards)} {carriage : Carriage}
    {l after : Link cards} {client : Nat} {call : ClientCall}
    (h : t.roundTrip call.request l = (.ok (l.server.broker.handle call.request).1, after))
    (hbroker : after.server.broker = (l.server.broker.handle call.request).2)
    (hafter : after.Ready carriage client) : Transparent t carriage l client call := by
  have hresult : (t.call call l).1 =
      (l.server.broker.execute call.request).1.mapError .remote := by
    rw [Transport.call, h, ← Request.conclude_handle]
  have hlink : (t.call call l).2 = after := by
    rw [Transport.call, h]
  refine ⟨fun value => ?_, fun fault => ?_, fun e => ?_, fun _ => Request.clamp_of_execute, ?_, ?_⟩
  · rw [hresult]
    cases (l.server.broker.execute call.request).1 <;> simp
  · rw [hresult]
    cases (l.server.broker.execute call.request).1 <;> simp
  · rw [hresult]
    cases (l.server.broker.execute call.request).1 <;> simp
  · rw [hlink, hbroker, Broker.handle_eq]
    rfl
  · rw [hlink]
    exact hafter

/-! ### Calls -/

/-- A server to which nobody is connected yet, over a broker with a handle and a zeroed buffer. -/
def newLink : Link 1 :=
  let b := [.enumerate [] 2, .openHandle ⟨7, 2⟩ 0, .prepareBuffer ⟨7, 3⟩ 8 none 0].foldl
    (fun b request => (b.handle request).2) (.start (.seeded 7) (.start 1 fun _ => none) 4096)
  ⟨.reachable, ⟨{}, b, .empty⟩,
    fun _ => .start ⟨"127.0.0.1:50051", 5000, 30000, defaultMaxFrameBytes⟩⟩

/-- Every byte is handed over by itself, and the way to the server and back takes a quarter of
a millisecond. -/
def bytewise : Carriage :=
  let cut : Cut := ⟨fun bytes => bytes.map fun byte => [byte], fun bytes =>
    List.flatMap_def.symm.trans (List.flatMap_singleton' bytes)⟩
  ⟨cut, cut, 250, true⟩

/-- A listing with room for one of the two tokens. -/
def firstToken : ClientCall := ⟨.enumerate [] 1, trivial⟩

/-- A poll that reads the first byte of the buffer twice and misses, with a pause between. -/
def missing (pauseMicros : UInt64) : ClientCall :=
  ⟨.bufferPoll ⟨7, 3⟩ ⟨7, 4⟩ 0 1 1 1 pauseMicros 2, trivial⟩

namespace Link

variable {l : Link cards} {carriage : Carriage} {client : Nat} {id : Uuid} {call : ClientCall}

/-- Over a network that loses nothing, in whatever pieces it hands over what it carries, every
call that finds the link ready is transparent, if its frames are within the limits and the
client waits for the reply. A client with a clock waits for a reply that arrives before the time
for the call is over. So it is, too, if everything is handed over whole and at once. -/
theorem transparent_of_ready (hready : l.Ready carriage client)
    (hlimits : l.WithinLimits client id call.request) :
    Transparent (transportBy carriage.withoutClock client id) carriage.withoutClock l client call ∧
      (l.Punctual carriage client call.request →
        Transparent (transportBy carriage client id) carriage l client call ∧
          Transparent (transport client id) .whole l client call) := by
  have hcut : ∀ carriage, l.Ready carriage client →
      (carriage.clock = true → l.Punctual carriage client call.request) →
      Transparent (transportBy carriage client id) carriage l client call := by
    intro carriage hready htime
    obtain ⟨after, hround, hbroker, hafter⟩ :=
      roundTripBy_of_punctual carriage hready hlimits htime
    exact transparent_of_roundTrip hround hbroker hafter
  have hfaster : Carriage.whole.delayMicros ≤ carriage.delayMicros := Nat.zero_le _
  refine ⟨hcut carriage.withoutClock (hready.of_le (Nat.le_refl _)) (fun h => nomatch h),
    fun htime => ⟨hcut carriage hready fun _ => htime, ?_⟩⟩
  exact transportBy_whole client id ▸
    hcut .whole (hready.of_le hfaster) fun _ => htime.of_le hfaster

/-- Three calls find the link ready. The broker sleeps for a millisecond during the second, and
during the third for longer than a client with a clock waits. -/
theorem transparent_of_ready_newLink :
    newLink.Ready bytewise 0 ∧
      (newLink.WithinLimits 0 .nil firstToken.request ∧
        newLink.Punctual bytewise 0 firstToken.request ∧
        Transparent (transportBy bytewise 0 .nil) bytewise newLink 0 firstToken) ∧
      (newLink.WithinLimits 0 .nil (missing 1000).request ∧
        newLink.Punctual bytewise 0 (missing 1000).request ∧
        ((transportBy bytewise 0 .nil).call (missing 1000) newLink).1 = .error (.remote .busy)) ∧
      newLink.WithinLimits 0 .nil (missing 31000000).request ∧
        ((transportBy bytewise.withoutClock 0 .nil).call (missing 31000000) newLink).1 =
          .error (.remote .busy) := by
  have hbind : Server.bind {} newLink.server.broker = .ok newLink.server := rfl
  have hready : newLink.Ready bytewise 0 := ready_of_bind hbind _ (by decide)
  have hlisting : newLink.WithinLimits 0 .nil firstToken.request :=
    ⟨by decide +kernel, by decide +kernel⟩
  have hpoll : newLink.WithinLimits 0 .nil (missing 1000).request :=
    ⟨by decide +kernel, by decide +kernel⟩
  have hlong : newLink.WithinLimits 0 .nil (missing 31000000).request :=
    ⟨by decide +kernel, by decide +kernel⟩
  have htime : newLink.Punctual bytewise 0 firstToken.request :=
    punctual_of_patience (by decide +kernel)
  have htime' : newLink.Punctual bytewise 0 (missing 1000).request :=
    punctual_of_patience (by decide +kernel)
  exact ⟨hready, ⟨hlisting, htime, ((transparent_of_ready hready hlisting).2 htime).1⟩,
    ⟨hpoll, htime', (((transparent_of_ready hready hpoll).2 htime').1.remote_iff .busy).mpr rfl⟩,
    hlong, ((transparent_of_ready hready hlong).1.remote_iff .busy).mpr rfl⟩

/-- The clock matters: a call whose reply is late ends with an error of the transport, although
the broker has executed the operation. Its stream is given up at both ends. -/
theorem callTimeout_of_not_punctual (hready : l.Ready carriage client)
    (hclock : carriage.clock = true)
    (hlimits : l.WithinLimits client id call.request)
    (htime : ¬ l.Punctual carriage client call.request) :
    ∃ after,
      (transportBy carriage client id).call call l =
        (.error (.transport (.callTimeout (l.clients client).config.callTimeoutMs)), after) ∧
      after.server.broker = (l.server.broker.execute call.request).2 ∧
      (after.clients client).AtRest ∧ (after.clients client).stream = none ∧
      after.server.sessions.find? client = none := by
  obtain ⟨after, hround, hbroker, hafter⟩ :=
    roundTripBy_of_not_punctual carriage hready hclock hlimits htime
  have hcall : (transportBy carriage client id).roundTrip call.request l = _ := hround
  refine ⟨after, ?_, ?_, hafter⟩
  · rw [Transport.call, hcall]
    rfl
  · rw [hbroker, Broker.handle_eq]
    rfl

/-- The third call again, with a clock. -/
example : ((transport 0 .nil).call (missing 31000000) newLink).1 =
    .error (.transport (.callTimeout 30000)) := by
  cbv

end Link

end DeviceBroker
