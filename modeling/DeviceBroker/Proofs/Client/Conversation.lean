import DeviceBroker.Proofs.Client.Course
import DeviceBroker.Proofs.Wire.Framing

/-!
# The conversation of a client

The peer of a client may delay, repeat, drop, corrupt or misaddress what it
sends, refuse a connection or close one. Whatever it does, the connection keeps
to the course of a client.

On every stream the requests and the frames that come back pair up in order: the
first request is answered by the first frame of what the stream has brought,
the second by the second, and only if the frame is an envelope of this version
of the protocol with the identifier of the call. A reply that comes late, twice
or to the wrong call therefore makes a call fail, and its stream is given up; it
never becomes the answer of another call.
-/

namespace DeviceBroker

namespace Connection

/-! ## Keeping to the course -/

/-- Where a connection stands. -/
def stand (c : Connection) : Stand :=
  match c.phase, c.stream with
  | .dialing id request, _ => .dialing c.streams id request
  | .idle, some s => .kept s.number
  | .waiting id, some s => .asking s.number id
  | _, none => .vacant c.streams

/-- The stream of a connection is the newest one; there is none while one is being
dialed, and there is one while a reply is waited for. -/
structure Sound (c : Connection) : Prop where
  newest : ∀ s, c.stream = some s → s.number + 1 = c.streams
  dialing : ∀ id request, c.phase = .dialing id request → c.stream = none
  waiting : ∀ id, c.phase = .waiting id → ∃ s, c.stream = some s

variable {c c' : Connection} {actions : List ConnectionAction}

theorem sound_of_idle (hphase : c.phase = .idle) (hstream : c.stream = none) : c.Sound := by
  refine ⟨fun s h => ?_, fun id request h => hstream, fun id h => ?_⟩
  · rw [hstream] at h
    cases h
  · rw [hphase] at h
    cases h

theorem Move.sound (h : Move c actions c') (hc : c.Sound) : c'.Sound := by
  obtain ⟨config, stream, phase, queue, streams⟩ := c
  obtain ⟨newest, dialing, waiting⟩ := hc
  cases h with
  | pass hp hq hs => exact ⟨newest, dialing, waiting⟩
  | hangUp hp | drop hp => exact sound_of_idle hp rfl
  | dial hp hq hs => exact ⟨newest, fun _ _ _ => hs, fun _ h => nomatch h⟩
  | refuse hp he => exact sound_of_idle rfl (dialing _ _ hp)
  | askFirst hp hf =>
    refine ⟨fun s hs => ?_, (fun _ _ h => nomatch h), fun _ _ => ⟨_, rfl⟩⟩
    cases hs
    rfl
  | ask hp hq hs hf => exact ⟨newest, (fun _ _ h => nomatch h), fun _ _ => ⟨_, hs⟩⟩
  | answer hp hs hf ha =>
    refine ⟨fun s' hs' => ?_, (fun _ _ h => nomatch h), fun _ h => nomatch h⟩
    cases hs'
    have hnumber := newest _ hs
    exact hnumber
  | dropFirst | lose => exact sound_of_idle rfl rfl

/-- Every move follows the course. -/
theorem Move.path (h : Move c actions c') (hc : c.Sound) :
    Stand.Path c.config.maxFrameBytes c.stand c.queue actions c'.stand c'.queue := by
  obtain ⟨config, stream, phase, queue, streams⟩ := c
  obtain ⟨newest, dialing, waiting⟩ := hc
  cases h with
  | pass hp hq hs =>
    cases hp; cases hq; cases hs
    exact .pass .nil
  | hangUp hp hq hs =>
    cases hp; cases hq; cases hs
    obtain rfl := newest _ rfl
    exact Stand.Next.hangUp.path
  | dial hp hq hs =>
    cases hp; cases hq; cases hs
    exact Stand.Next.dial.path
  | refuse hp he =>
    cases hp
    obtain rfl : stream = none := dialing _ _ rfl
    exact (Stand.Next.refuse he).path
  | askFirst hp hf =>
    cases hp
    exact (Stand.Next.askFirst hf).path
  | dropFirst hp he =>
    cases hp
    exact .cons .dropFirst (Stand.Next.fail he).path
  | ask hp hq hs hf =>
    cases hp; cases hq; cases hs
    exact (Stand.Next.ask hf).path
  | drop hp hq hs he =>
    cases hp; cases hq; cases hs
    obtain rfl := newest _ rfl
    exact .cons .drop (Stand.Next.fail he).path
  | answer hp hs hf ha =>
    cases hp; cases hs
    exact Stand.Next.answer.path
  | lose hp hs he =>
    cases hp; cases hs
    obtain rfl := newest _ rfl
    exact .cons .lose (Stand.Next.fail he).path

/-! ## What is read -/

/-- How many requests went out on a stream. -/
def asked (n : Nat) (actions : List ConnectionAction) : Nat :=
  actions.countP fun
    | .send number _ => number == n
    | _ => false

theorem asked_append (n : Nat) (first second : List ConnectionAction) :
    asked n (first ++ second) = asked n first + asked n second :=
  List.countP_append

theorem asked_concat_send (n number : Nat) (bytes : List UInt8) (before : List ConnectionAction) :
    asked n (before ++ [.send number bytes]) = asked n before + if number = n then 1 else 0 := by
  rw [asked_append]
  simp [asked, List.countP_cons]

theorem asked_append_of_finish (n : Nat) (before : List ConnectionAction) (id : Uuid)
    (result : Except TransportError Reply) :
    asked n (before ++ [.finish id result]) = asked n before := by
  rw [asked_append]
  rfl

/-- An action that neither asks nor answers. -/
def isAside : ConnectionAction → Bool
  | .send _ _ => false
  | .finish _ (.ok _) => false
  | _ => true

theorem asked_append_of_aside {new : List ConnectionAction} (hnew : ∀ a ∈ new, isAside a = true)
    (n : Nat) (before : List ConnectionAction) : asked n (before ++ new) = asked n before := by
  rw [asked_append, Nat.add_eq_left]
  refine List.countP_eq_zero.mpr fun action hmem => ?_
  have haside := hnew action hmem
  cases action <;> simp_all [isAside]

/-- Every request that was answered on a stream was answered by the frame in its
place among what the stream has brought, and the body of the frame is a reply to it. -/
def Answered (maxFrameBytes : UInt64) (heard : Nat → List UInt8)
    (actions : List ConnectionAction) : Prop :=
  ∀ earlier n bytes id reply later,
    actions = earlier ++ .send n bytes :: .finish id (.ok reply) :: later →
    ∃ (bodies : List (List UInt8)) (body : List UInt8), bodies.length = asked n earlier ∧
      (∀ b ∈ bodies ++ [body], b.length ≤ Frame.effectiveMax maxFrameBytes.toNat) ∧
      (bodies ++ [body]).flatMap Frame.ofBody <+: heard n ∧
      checkReply id body = .ok reply

variable {maxFrameBytes : UInt64} {heard heard' : Nat → List UInt8}
  {before : List ConnectionAction}

theorem Answered.mono (h : Answered maxFrameBytes heard actions)
    (hheard : ∀ n, heard n <+: heard' n) : Answered maxFrameBytes heard' actions := by
  intro earlier n bytes id reply later hactions
  obtain ⟨bodies, body, hcount, hsmall, hfront, hcheck⟩ :=
    h earlier n bytes id reply later hactions
  exact ⟨bodies, body, hcount, hsmall, hfront.trans (hheard n), hcheck⟩

/-- What was answered before another action, or by it. -/
theorem concat_eq_exchange {action : ConnectionAction} {earlier later : List ConnectionAction}
    {n : Nat} {bytes : List UInt8} {id : Uuid} {reply : Reply}
    (h : before ++ [action] = earlier ++ .send n bytes :: .finish id (.ok reply) :: later) :
    (∃ init, before = earlier ++ .send n bytes :: .finish id (.ok reply) :: init) ∨
    action = .finish id (.ok reply) ∧ before = earlier ++ [.send n bytes] := by
  rcases List.eq_nil_or_concat later with rfl | ⟨init, last, rfl⟩
  · have hsplit : before ++ [action] =
        (earlier ++ [.send n bytes]) ++ [.finish id (.ok reply)] := by
      simpa using h
    obtain ⟨hbefore, haction⟩ := List.append_inj' hsplit rfl
    exact .inr ⟨List.singleton_inj.mp haction, hbefore⟩
  · have hsplit : before ++ [action] =
        (earlier ++ .send n bytes :: .finish id (.ok reply) :: init) ++ [last] := by
      simpa using h
    exact .inl ⟨init, (List.append_inj' hsplit rfl).1⟩

theorem Answered.concat {action : ConnectionAction} (h : Answered maxFrameBytes heard before)
    (haside : ∀ id reply, action ≠ .finish id (.ok reply)) :
    Answered maxFrameBytes heard (before ++ [action]) := by
  intro earlier n bytes id reply later hactions
  rcases concat_eq_exchange hactions with ⟨init, hinit⟩ | ⟨haction, -⟩
  · exact h earlier n bytes id reply init hinit
  · exact absurd haction (haside id reply)

theorem Answered.append_of_aside {new : List ConnectionAction}
    (h : Answered maxFrameBytes heard before) (hnew : ∀ a ∈ new, isAside a = true) :
    Answered maxFrameBytes heard (before ++ new) := by
  induction new generalizing before with
  | nil => rwa [List.append_nil]
  | cons action new ih =>
    rw [List.append_cons]
    obtain ⟨haction, hnew⟩ := List.forall_mem_cons.mp hnew
    refine ih (h.concat fun id reply heq => ?_) hnew
    rw [heq] at haction
    cases haction

/-- The bytes that a stream has brought are the frames that were read, so many of
them, and what is not read yet. -/
def InOrder (maxFrameBytes : UInt64) (s : Stream) (count : Nat) (brought : List UInt8) : Prop :=
  ∃ bodies : List (List UInt8), bodies.length = count ∧
    (∀ b ∈ bodies, b.length ≤ Frame.effectiveMax maxFrameBytes.toNat) ∧
    bodies.flatMap Frame.ofBody ++ s.received = brought

theorem InOrder.hear {s s' : Stream} {count : Nat} {brought more : List UInt8}
    (h : InOrder maxFrameBytes s count brought) (hreceived : s'.received = s.received ++ more) :
    InOrder maxFrameBytes s' count (brought ++ more) := by
  obtain ⟨bodies, hcount, hsmall, rfl⟩ := h
  exact ⟨bodies, hcount, hsmall, by rw [hreceived, List.append_assoc]⟩

/-- What was read pairs up with what was asked, on the streams that were and on
the one that is. -/
structure Reads (heard : Nat → List UInt8) (actions : List ConnectionAction) (c : Connection) :
    Prop where
  unheard : ∀ n, c.streams ≤ n → heard n = [] ∧ asked n actions = 0
  idle : ∀ s, c.phase = .idle → c.stream = some s →
    InOrder c.config.maxFrameBytes s (asked s.number actions) (heard s.number)
  waiting : ∀ id s, c.phase = .waiting id → c.stream = some s →
    ∃ earlier bytes, actions = earlier ++ [.send s.number bytes] ∧
      InOrder c.config.maxFrameBytes s (asked s.number earlier) (heard s.number)
  answered : Answered c.config.maxFrameBytes heard actions

/-- Where no stream is left, nothing needs to be read in order. -/
theorem Reads.without {new : List ConnectionAction} (h : c.Reads heard before)
    (hnew : ∀ a ∈ new, isAside a = true) (hconfig : c'.config = c.config)
    (hstream : c'.stream = none) (hstreams : c.streams ≤ c'.streams) :
    c'.Reads heard (before ++ new) where
  unheard n hn := by
    rw [asked_append_of_aside hnew]
    exact h.unheard n (Nat.le_trans hstreams hn)
  idle s _ hs := by
    rw [hstream] at hs
    cases hs
  waiting id s _ hs := by
    rw [hstream] at hs
    cases hs
  answered := hconfig ▸ h.answered.append_of_aside hnew

theorem Move.reads (h : Move c actions c') (hsound : c.Sound) (hc : c.Reads heard before) :
    c'.Reads heard (before ++ actions) := by
  cases h with
  | pass hp hq hs => exact hc.without (by simp) rfl hs (Nat.le_refl _)
  | hangUp | drop | lose => exact hc.without (by simp [isAside]) rfl rfl (Nat.le_refl _)
  | dial hp hq hs => exact hc.without (by simp [isAside]) rfl hs (Nat.le_refl _)
  | refuse hp he =>
    exact hc.without (by simp [isAside]) rfl (hsound.dialing _ _ hp) (Nat.le_refl _)
  | dropFirst => exact hc.without (by simp [isAside]) rfl rfl (Nat.le_succ _)
  | askFirst hp hf =>
    refine ⟨fun n hn => ?_, (fun _ h => nomatch h), fun id s _ hs => ?_,
      hc.answered.concat fun _ _ => nofun⟩
    · have hne : c.streams ≠ n := Nat.ne_of_lt hn
      rw [asked_concat_send, if_neg hne]
      exact hc.unheard n (Nat.le_of_lt hn)
    · cases hs
      obtain ⟨hheard, hasked⟩ := hc.unheard c.streams (Nat.le_refl _)
      exact ⟨before, _, rfl, [], hasked.symm, by simp, hheard.symm⟩
  | ask hp hq hs hf =>
    have hnumber := hsound.newest _ hs
    refine ⟨fun n hn => ?_, (fun _ h => nomatch h), fun id s' _ hs' => ?_,
      hc.answered.concat fun _ _ => nofun⟩
    · rw [asked_concat_send, if_neg (by have : c.streams ≤ n := hn; omega)]
      exact hc.unheard n hn
    · obtain rfl := Option.some.inj (hs.symm.trans hs')
      exact ⟨before, _, rfl, hc.idle _ hp hs⟩
  | answer hp hs hf ha =>
    obtain ⟨earlier, bytes, rfl, bodies, hcount, hsmall, hbrought⟩ := hc.waiting _ _ hp hs
    obtain ⟨hreceived, hbody⟩ := Frame.eq_append_of_front hf
    rename_i id s body left reply
    have hsmall' : ∀ b ∈ bodies ++ [body],
        b.length ≤ Frame.effectiveMax c.config.maxFrameBytes.toNat :=
      List.forall_mem_append.mpr ⟨hsmall, List.forall_mem_singleton.mpr hbody⟩
    have hread : (bodies ++ [body]).flatMap Frame.ofBody ++ left = heard s.number := by
      rw [← hbrought, hreceived]
      simp [List.flatMap_append]
    have hfinish : asked s.number (earlier ++ [.send s.number bytes] ++ [.finish id (.ok reply)]) =
        (bodies ++ [body]).length := by
      rw [asked_append_of_finish, asked_concat_send, if_pos rfl, List.length_append, hcount]
      rfl
    refine ⟨fun n hn => ?_, fun s' _ hs' => ?_, (fun _ _ h => nomatch h), ?_⟩
    · rw [asked_append_of_finish]
      exact hc.unheard n hn
    · cases hs'
      exact ⟨bodies ++ [body], hfinish.symm, hsmall', hread⟩
    · intro earlier' n bytes' id' reply' later hactions
      rcases concat_eq_exchange hactions with ⟨init, hinit⟩ | ⟨haction, hbefore⟩
      · exact hc.answered earlier' n bytes' id' reply' init hinit
      · obtain ⟨rfl, hsend⟩ := List.append_inj' hbefore rfl
        cases haction
        cases hsend
        exact ⟨bodies, body, hcount, hsmall', ⟨left, hread⟩, ha⟩

/-! ## Whole runs -/

/-- The commands among some events. -/
def issued (events : List ConnectionEvent) : List Command :=
  events.filterMap fun
    | .issue command => some command
    | _ => none

/-- The bytes that an event brings on a stream, if that is the one that the
connection keeps and it has not ended. -/
def brings (c : Connection) (n : Nat) : ConnectionEvent → List UInt8
  | .arrived number bytes =>
    if number = n ∧ c.stream.any (fun s => s.number = n ∧ s.ending = none) then bytes else []
  | _ => []

theorem brings_of_ne {c : Connection} {n : Nat} (event : ConnectionEvent)
    (h : ∀ s, c.stream = some s → s.number ≠ n) : c.brings n event = [] := by
  cases event with
  | arrived number bytes =>
    refine if_neg fun ⟨_, hany⟩ => ?_
    cases hs : c.stream with
    | none =>
      rw [hs] at hany
      cases hany
    | some s =>
      rw [hs, Option.any_some, decide_eq_true_iff] at hany
      exact h s hs hany.1
  | _ => rfl

/-- The bytes that some events bring on a stream while it is kept. -/
def brought (n : Nat) : List ConnectionEvent → Connection → List UInt8
  | [], _ => []
  | event :: events, c => c.brings n event ++ brought n events (c.step event).2

/-- A connection with everything that it has been asked, has heard and has done. -/
structure Tracked (config : ConnectionConfig) (commands : List Command)
    (heard : Nat → List UInt8) (actions : List ConnectionAction) (c : Connection) : Prop where
  configured : c.config = config
  sound : c.Sound
  path : Stand.Path config.maxFrameBytes (.vacant 0) commands actions c.stand c.queue
  reads : c.Reads heard actions

theorem tracked_start (config : ConnectionConfig) :
    Tracked config [] (fun _ => []) [] (start config) where
  configured := rfl
  sound := sound_of_idle rfl rfl
  path := .nil
  reads := by
    refine ⟨fun _ _ => ⟨rfl, rfl⟩, (fun _ _ h => nomatch h), (fun _ _ h => nomatch h), ?_⟩
    intro earlier n bytes id reply later h
    simp at h

variable {config : ConnectionConfig} {commands : List Command}

theorem Move.tracked (h : Move c actions c') (hc : Tracked config commands heard before c) :
    Tracked config commands heard (before ++ actions) c' := by
  obtain ⟨rfl, hsound, hpath, hreads⟩ := hc
  have hconfig : c'.config = c.config := by cases h <;> rfl
  exact ⟨hconfig, h.sound hsound, hpath.append (h.path hsound), h.reads hsound hreads⟩

/-! ### Noting what happens -/

theorem note_stream {event : ConnectionEvent} {s' : Stream}
    (h : (c.note event).stream = some s') :
    ∃ s, c.stream = some s ∧ s'.number = s.number ∧
      s'.received = s.received ++ c.brings s.number event := by
  cases event with
  | arrived number bytes =>
    obtain ⟨s, hs, rfl⟩ := Option.map_eq_some_iff.mp h
    refine ⟨s, hs, ?_⟩
    simp only [brings, hs, Option.any_some]
    by_cases hn : s.number = number
    · cases he : s.ending <;> simp [Stream.hear, hn, he]
    · simp [hn, Ne.symm hn]
  | ended number how =>
    obtain ⟨s, hs, rfl⟩ := Option.map_eq_some_iff.mp h
    refine ⟨s, hs, ?_⟩
    by_cases hn : s.number = number <;> simp [brings, hn]
  | _ => exact ⟨s', h, rfl, (List.append_nil _).symm⟩

theorem note_number (c : Connection) (event : ConnectionEvent) :
    (c.note event).stream.map Stream.number = c.stream.map Stream.number := by
  cases event with
  | arrived number bytes =>
    refine (Option.map_map _ _ _).trans (congrArg (Option.map · c.stream) (funext fun s => ?_))
    by_cases hn : s.number = number
    · cases he : s.ending <;> simp [Stream.hear, hn, he]
    · simp [hn]
  | ended number how =>
    refine (Option.map_map _ _ _).trans (congrArg (Option.map · c.stream) (funext fun s => ?_))
    by_cases hn : s.number = number <;> simp [hn]
  | _ => rfl

theorem stand_congr (hphase : c'.phase = c.phase) (hstreams : c'.streams = c.streams)
    (hnumber : c'.stream.map Stream.number = c.stream.map Stream.number) : c'.stand = c.stand := by
  obtain ⟨config, stream, phase, queue, streams⟩ := c
  obtain ⟨config', stream', phase', queue', streams'⟩ := c'
  obtain rfl : phase' = phase := hphase
  obtain rfl : streams' = streams := hstreams
  cases stream with
  | none =>
    cases stream' with
    | none => cases phase' <;> rfl
    | some s' => cases hnumber
  | some s =>
    cases stream' with
    | none => cases hnumber
    | some s' =>
      have hs : s'.number = s.number := Option.some.inj hnumber
      cases phase' <;> simp [stand, hs]

theorem note_rest (c : Connection) (event : ConnectionEvent) :
    (c.note event).config = c.config ∧ (c.note event).phase = c.phase ∧
      (c.note event).streams = c.streams ∧ (c.note event).queue = c.queue ++ issued [event] := by
  cases event with
  | issue command => exact ⟨rfl, rfl, rfl, rfl⟩
  | _ => exact ⟨rfl, rfl, rfl, (List.append_nil _).symm⟩

theorem Sound.note (h : c.Sound) (event : ConnectionEvent) : (c.note event).Sound := by
  obtain ⟨hconfig, hphase, hstreams, hqueue⟩ := c.note_rest event
  refine ⟨fun s' hs' => ?_, fun id request hp => ?_, fun id hp => ?_⟩
  · obtain ⟨s, hs, hnumber, -⟩ := note_stream hs'
    rw [hnumber, hstreams]
    exact h.newest s hs
  · have hnumber := c.note_number event
    rw [h.dialing id request (hphase.symm.trans hp)] at hnumber
    exact Option.map_eq_none_iff.mp hnumber
  · obtain ⟨s, hs⟩ := h.waiting id (hphase.symm.trans hp)
    have hnumber := c.note_number event
    rw [hs] at hnumber
    obtain ⟨s', hs', -⟩ := Option.map_eq_some_iff.mp hnumber
    exact ⟨s', hs'⟩

theorem Reads.note (h : c.Reads heard actions) (hs : c.Sound) (event : ConnectionEvent) :
    (c.note event).Reads (fun n => heard n ++ c.brings n event) actions := by
  obtain ⟨hconfig, hphase, hstreams, hqueue⟩ := c.note_rest event
  refine ⟨fun n hn => ?_, fun s' hp hs' => ?_, fun id s' hp hs' => ?_, ?_⟩
  · rw [hstreams] at hn
    obtain ⟨hheard, hasked⟩ := h.unheard n hn
    have hbrings : c.brings n event = [] := brings_of_ne event fun s hstream => by
      have hnewest := hs.newest s hstream
      omega
    exact ⟨by rw [hheard, hbrings]; rfl, hasked⟩
  · obtain ⟨s, hstream, hnumber, hreceived⟩ := note_stream hs'
    rw [hconfig, hnumber]
    exact (h.idle s (hphase.symm.trans hp) hstream).hear hreceived
  · obtain ⟨s, hstream, hnumber, hreceived⟩ := note_stream hs'
    rw [hconfig, hnumber]
    obtain ⟨earlier, bytes, hactions, horder⟩ := h.waiting id s (hphase.symm.trans hp) hstream
    exact ⟨earlier, bytes, hactions, horder.hear hreceived⟩
  · rw [hconfig]
    exact h.answered.mono fun n => List.prefix_append _ _

theorem Tracked.note (h : Tracked config commands heard actions c) (event : ConnectionEvent) :
    Tracked config (commands ++ issued [event]) (fun n => heard n ++ c.brings n event) actions
      (c.note event) := by
  obtain ⟨hconfig, hphase, hstreams, hqueue⟩ := c.note_rest event
  refine ⟨hconfig.trans h.configured, h.sound.note event, ?_, h.reads.note h.sound event⟩
  rw [stand_congr hphase hstreams (c.note_number event), hqueue]
  exact h.path.later _

theorem Tracked.step (h : Tracked config commands heard actions c) (event : ConnectionEvent) :
    Tracked config (commands ++ issued [event]) (fun n => heard n ++ c.brings n event)
      (actions ++ (c.step event).1) (c.step event).2 :=
  (step_moves c event).preserves (fun _ _ _ _ hc hmove => hmove.tracked hc) (h.note event)

/-- What has been tracked is tracked through any further events. -/
theorem Tracked.run (h : Tracked config commands heard actions c) (events : List ConnectionEvent) :
    Tracked config (commands ++ issued events) (fun n => heard n ++ brought n events c)
      (actions ++ (c.run events).1) (c.run events).2 := by
  induction events generalizing c commands heard actions with
  | nil => simpa [issued, brought] using h
  | cons event events ih =>
    have hstep := ih (h.step event)
    have hissued : issued (event :: events) = issued [event] ++ issued events := by
      rw [← List.singleton_append, issued, List.filterMap_append]
      rfl
    simpa only [Connection.run, hissued, brought, List.append_assoc] using hstep

/-! ## The client -/

/-- How a client deals with whatever happens to it: its actions, and the connection
that is left. -/
structure InTurn (config : ConnectionConfig) (events : List ConnectionEvent)
    (actions : List ConnectionAction) (c : Connection) : Prop where
  /-- Every command takes its turn, in the order in which they were issued. -/
  course : Stand.Path config.maxFrameBytes (.vacant 0) (issued events) actions c.stand c.queue
  /-- The calls end in the order in which they were issued. -/
  order : Stand.ended actions ++ c.stand.busy ++ Stand.calls c.queue = Stand.calls (issued events)
  /-- Nothing waits while the client has nothing to do. -/
  eager : c.phase = .idle → c.queue = []
  /-- If their identifiers are distinct, every call ends once at most. -/
  once : (Stand.calls (issued events)).Nodup → (Stand.ended actions).Nodup
  /-- A call that succeeds was asked right before, and it returns what an envelope of
  version 1 with its own identifier carries: the body of the frame on its stream that
  comes after one frame for each of the requests that went out there earlier. -/
  ok : ∀ before id reply later, actions = before ++ .finish id (.ok reply) :: later →
    ∃ (earlier : List ConnectionAction) (n : Nat) (bytes : List UInt8)
      (bodies : List (List UInt8)) (body : List UInt8),
      before = earlier ++ [.send n bytes] ∧ bodies.length = asked n earlier ∧
      (bodies ++ [body]).flatMap Frame.ofBody <+: brought n events (start config) ∧
      Wire.decodeFrame Wire.replyEnvelope body = .ok ⟨1, id, reply⟩
  /-- After a call that succeeds its stream is kept: the next call is asked on it. -/
  kept : ∀ before n bytes id reply later,
    actions = before ++ .send n bytes :: .finish id (.ok reply) :: later →
    (later = [] → ∃ s, c.stream = some s ∧ s.number = n) ∧
    ∃ rest, rest <:+ issued events ∧
      Stand.calls (issued events) = Stand.ended before ++ id :: Stand.calls rest ∧
      ∀ next more, later = next :: more →
        (∃ id' request rest' bytes', rest = .call id' request :: rest' ∧
          next = .send n bytes') ∨
        (∃ rest', rest = .disconnect :: rest' ∧ next = .abandon n) ∨
        ∃ id' request rest', rest = .call id' request :: rest' ∧ next = .abandon n ∧
          ∀ last more', more = last :: more' → ∃ e, last = .finish id' (.error e)
  /-- After a call that fails no stream is kept, and the next action is to dial one. -/
  failed : ∀ before id e later, actions = before ++ .finish id (.error e) :: later →
    e.poisons = true ∧ (later = [] → c.stream = none ∧ c.phase = .idle) ∧
      ∀ next more, later = next :: more → next = .dial
  /-- A stream that was dialed is a new one. -/
  fresh : ∀ before n bytes later, actions = before ++ .dial :: .send n bytes :: later →
    ∀ action ∈ before, action.stream? ≠ some n
  /-- Nothing is asked on a stream that was abandoned, and what comes on it has no effect. -/
  abandoned : ∀ before n later, actions = before ++ .abandon n :: later →
    (∀ action ∈ later, action.stream? ≠ some n) ∧
    (∀ bytes, c.step (.arrived n bytes) = ([], c)) ∧ ∀ how, c.step (.ended n how) = ([], c)
  /-- Between two requests that go out a call ends. -/
  one : ∀ before n bytes between m bytes' later,
    actions = before ++ .send n bytes :: (between ++ .send m bytes' :: later) →
    ∃ id result, ConnectionAction.finish id result ∈ between

/-! ### Progress -/

/-- A client that is idle has taken up every command. -/
def Eager (c : Connection) : Prop := c.phase = .idle → c.queue = []

theorem eager_drain (commands : List Command) (c : Connection) : (drain commands c).2.Eager := by
  induction commands generalizing c with
  | nil => exact fun _ => rfl
  | cons command rest ih =>
    rw [drain_cons]
    split
    · exact ih _
    · rename_i hbusy
      exact fun hidle => absurd hidle hbusy

theorem eager_resume (result : List ConnectionAction × Connection) : (resume result).2.Eager := by
  unfold resume
  split
  · exact eager_drain _ _
  · rename_i hbusy
    exact fun hidle => absurd hidle hbusy

theorem Eager.failDial (h : c.Eager) (e : TransportError) : (c.failDial e).2.Eager := by
  unfold Connection.failDial
  split
  · exact eager_resume _
  · exact h

theorem Eager.onStream (h : c.Eager) (number : Nat) (change : Stream → Stream) :
    (c.onStream number change).2.Eager := by
  unfold Connection.onStream
  split
  · exact h
  · split
    · split
      · exact eager_resume _
      · exact h
    · exact h

/-- A call that ends hands over to the next command, so no step leaves one behind. -/
theorem Eager.step (h : c.Eager) (event : ConnectionEvent) : (c.step event).2.Eager := by
  unfold Connection.step
  cases event with
  | issue command =>
    dsimp only
    split
    · exact eager_drain _ _
    · rename_i hbusy
      exact fun hidle => absurd hidle hbusy
  | connected =>
    dsimp only
    split
    · exact eager_resume _
    · exact h
  | connectFailed source => exact h.failDial _
  | connectTimedOut => exact h.failDial _
  | arrived number bytes => exact h.onStream number _
  | ended number how => exact h.onStream number _
  | timedOut =>
    dsimp only
    split
    · exact eager_resume _
    · exact h

theorem Eager.run (h : c.Eager) (events : List ConnectionEvent) : (c.run events).2.Eager := by
  induction events generalizing c with
  | nil => exact h
  | cons event events ih => exact ih (h.step event)

theorem eager_start (config : ConnectionConfig) : (start config).Eager := fun _ => rfl

/-! ### Streams -/

/-- Events of a stream that is not kept have no effect. -/
theorem onStream_of_ne {c : Connection} {number : Nat} (change : Stream → Stream)
    (h : ∀ s, c.stream = some s → s.number ≠ number) : c.onStream number change = ([], c) := by
  unfold onStream
  split
  · rfl
  · rename_i s hs
    rw [if_neg (h s hs)]

theorem Sound.number_of_stand (h : c.Sound) {s : Stream} (hs : c.stream = some s) :
    c.stand.least = s.number := by
  obtain ⟨config, stream, phase, queue, streams⟩ := c
  cases hs
  cases phase with
  | dialing id request => cases h.dialing id request rfl
  | idle | waiting id => rfl

theorem Sound.idle_of_vacant (h : c.Sound) {k : Nat} (hs : c.stand = .vacant k) :
    c.stream = none ∧ c.phase = .idle := by
  obtain ⟨config, stream, phase, queue, streams⟩ := c
  cases phase with
  | dialing id request => cases hs
  | waiting id =>
    obtain ⟨s, hstream⟩ := h.waiting id rfl
    cases hstream
    cases hs
  | idle =>
    cases stream with
    | none => exact ⟨rfl, rfl⟩
    | some s => cases hs

theorem Sound.stream_of_kept (h : c.Sound) {n : Nat} (hs : c.stand = .kept n) :
    ∃ s, c.stream = some s ∧ s.number = n := by
  obtain ⟨config, stream, phase, queue, streams⟩ := c
  cases phase <;> cases stream <;> cases hs
  exact ⟨_, rfl, rfl⟩

/-- What was done so far can be cut between any two actions. -/
theorem Tracked.cut (h : Tracked config commands heard actions c)
    {before later : List ConnectionAction} (hactions : actions = before ++ later) :
    ∃ mid rest, Stand.Path config.maxFrameBytes (.vacant 0) commands before mid rest ∧
      Stand.Path config.maxFrameBytes mid rest later c.stand c.queue := by
  have hpath := h.path
  rw [hactions] at hpath
  exact hpath.split

/-- A request that is answered was written on the stream that the answer is read on. -/
theorem Tracked.exchange (h : Tracked config commands heard actions c)
    {before later : List ConnectionAction} {id : Uuid} {reply : Reply}
    (hactions : actions = before ++ .finish id (.ok reply) :: later) :
    ∃ earlier n bytes rest, before = earlier ++ [.send n bytes] ∧ rest <:+ commands ∧
      Stand.calls commands = Stand.ended before ++ id :: Stand.calls rest ∧
      Stand.Path config.maxFrameBytes (.kept n) rest later c.stand c.queue := by
  obtain ⟨mid, rest, hbefore, hanswer⟩ := h.cut hactions
  obtain ⟨n, rfl, hlater⟩ := hanswer.after_ok
  obtain ⟨earlier, bytes, rfl⟩ := hbefore.sent
  refine ⟨earlier, n, bytes, rest, rfl, hbefore.suffix, ?_, hlater⟩
  have hcalls := hbefore.ended_append
  simpa [Stand.busy] using hcalls.symm

/-- Whatever happens to a client, and in whatever order, it does everything in turn. -/
theorem inTurn (config : ConnectionConfig) (events : List ConnectionEvent) :
    InTurn config events ((start config).run events).1 ((start config).run events).2 := by
  have htracked := (tracked_start config).run events
  have heager := (eager_start config).run events
  simp only [List.nil_append] at htracked
  generalize ((start config).run events).1 = actions at htracked ⊢
  generalize ((start config).run events).2 = c at htracked heager ⊢
  have horder : Stand.ended actions ++ c.stand.busy ++ Stand.calls c.queue =
      Stand.calls (issued events) := htracked.path.ended_append
  refine ⟨htracked.path, horder, heager, fun hdistinct => ?_, ?_, ?_, ?_, ?_, ?_, ?_⟩
  · rw [← horder, List.append_assoc] at hdistinct
    exact hdistinct.sublist (List.sublist_append_left _ _)
  · intro before id reply later hactions
    obtain ⟨earlier, n, bytes, rest, rfl, -⟩ := htracked.exchange hactions
    have hexchange : actions = earlier ++ .send n bytes :: .finish id (.ok reply) :: later := by
      rw [hactions, List.append_assoc]
      rfl
    obtain ⟨bodies, body, hcount, -, hfront, hcheck⟩ :=
      htracked.reads.answered earlier n bytes id reply later hexchange
    exact ⟨earlier, n, bytes, bodies, body, rfl, hcount, hfront, checkReply_eq_ok_iff.mp hcheck⟩
  · intro before n bytes id reply later hactions
    have hregroup : actions = (before ++ [.send n bytes]) ++ .finish id (.ok reply) :: later := by
      rw [hactions, List.append_assoc]
      rfl
    obtain ⟨earlier, m, bytes', rest, hbefore, hsuffix, hcalls, hlater⟩ :=
      htracked.exchange hregroup
    obtain ⟨rfl, hsend⟩ := List.append_inj' hbefore rfl
    cases hsend
    refine ⟨fun hnil => ?_, rest, hsuffix, ?_, fun next more hmore => ?_⟩
    · subst hnil
      exact htracked.sound.stream_of_kept hlater.eq_of_nil
    · simpa [Stand.ended] using hcalls
    · subst hmore
      exact hlater.head_of_kept
  · intro before id e later hactions
    obtain ⟨mid, rest, -, hfinish⟩ := htracked.cut hactions
    obtain ⟨poisons, k, rest, hlater⟩ := hfinish.after_error
    refine ⟨poisons, fun hnil => ?_, fun next more hmore => ?_⟩
    · subst hnil
      exact htracked.sound.idle_of_vacant hlater.eq_of_nil
    · subst hmore
      exact hlater.head_of_vacant
  · intro before n bytes later hactions action hmem hs
    obtain ⟨mid, rest, hbefore, hdial⟩ := htracked.cut hactions
    obtain rfl := hdial.after_dial
    exact Nat.lt_irrefl n (hbefore.numbers.2.2 action hmem n hs).2
  · intro before n later hactions
    obtain ⟨mid, rest, -, habandon⟩ := htracked.cut hactions
    obtain ⟨hleast, hlater⟩ := habandon.after_abandon
    have hne (s : Stream) (hs : c.stream = some s) : s.number ≠ n := by
      rw [htracked.sound.number_of_stand hs] at hleast
      exact Nat.ne_of_gt hleast
    exact ⟨hlater, fun bytes => onStream_of_ne _ hne, fun how => onStream_of_ne _ hne⟩
  · intro before n bytes between m bytes' later hactions
    obtain ⟨mid, rest, -, hsend⟩ := htracked.cut hactions
    exact hsend.ended_between

/-- The first call runs out of time. The second one waits for its turn and is asked on a new
stream, and a byte that comes late on the first changes nothing. -/
example : ∃ bytes bytes', ((start ⟨"127.0.0.1:50051", 5000, 30000, 1024⟩).run
    [.issue (.call .nil (.enumerate [] 1)), .connected,
      .issue (.call ⟨.replicate 16 1⟩ (.enumerate [] 2)), .timedOut, .arrived 0 [7],
      .connected]).1 =
    [.dial, .send 0 bytes, .abandon 0, .finish .nil (.error (.callTimeout 30000)), .dial,
      .send 1 bytes'] :=
  ⟨_, _, rfl⟩

end Connection

end DeviceBroker
