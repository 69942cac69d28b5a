import DeviceBroker.Config.Settings
import DeviceBroker.Proofs.Broker.Answers
import DeviceBroker.Proofs.Broker.History
import DeviceBroker.Proofs.Server.Pieces
import DeviceBroker.Proofs.Simulator.Texts
import DeviceBroker.Proofs.Wire.Complaints

/-!
# Replies that fit their frame

The settings of a broker bound the body of a frame, and a reply above the bound is
not written: its session ends, though the request was carried out. Rejections and
the answers to all but four operations fit the smallest bound that the settings can
have. Tokens, samples and the bytes of a buffer are what a client can ask for any
number of: their answers grow with the number, and the payload limit, which the
settings do hold against the bound, leaves no room for what stands around the bytes.
-/

namespace DeviceBroker

open Wire (InterfaceBrief TextBrief ValueBrief valueWidth narrowWidth)

variable {α β : Type} {cards : Nat}

/-! ### Programs that hear little -/

/-- The answer of an action is brief if it is one of the driver. -/
def Action.Brief (cards : Nat) : (action : Action) → action.Answer → Prop
  | .call c, answer => ∀ value, answer = .ok value → c.Brief cards value
  | _, _ => True

/-- Whatever brief answers it gets, the program ends in a value with a property. -/
def Program.Says (cards : Nat) (P : α → Prop) : Program α → Prop
  | .done value => P value
  | .act action next => ∀ answer, action.Brief cards answer → (next answer).Says cards P

/-- What an action of a brief broker answers is brief, and the broker stays so. -/
theorem Broker.brief_perform {b : Broker cards} (hb : b.device.Brief) (action : Action) :
    action.Brief cards (b.perform action).1 ∧ (b.perform action).2.device.Brief := by
  cases action with
  | call c =>
    obtain ⟨hafter, hvalue⟩ := Simulator.says_call hb c
    exact ⟨hvalue, hafter⟩
  | _ => exact ⟨trivial, hb⟩

namespace Program

theorem says_of_forall {P : α → Prop} (h : ∀ value, P value) (p : Program α) : p.Says cards P := by
  induction p with
  | done value => exact h value
  | act action next ih => exact fun answer _ => ih answer

theorem Says.mono {P Q : α → Prop} {p : Program α} (h : p.Says cards P)
    (hPQ : ∀ value, P value → Q value) : p.Says cards Q := by
  induction p with
  | done value => exact hPQ value h
  | act action next ih => exact fun answer ha => ih answer (h answer ha)

theorem says_bind {P : β → Prop} {p : Program α} {next : α → Program β}
    (h : p.Says cards fun value => (next value).Says cards P) : (p >>= next).Says cards P := by
  induction p with
  | done value => exact h
  | act action rest ih => exact fun answer ha => ih answer (h answer ha)

theorem Says.step {P : α → Prop} {p : Program α} {b : Broker cards} (h : p.Says cards P)
    (hb : b.device.Brief) : (p.step b).1.Says cards P ∧ (p.step b).2.device.Brief := by
  cases p with
  | done value => exact ⟨h, hb⟩
  | act action next =>
    obtain ⟨hanswer, hafter⟩ := Broker.brief_perform hb action
    exact ⟨h _ hanswer, hafter⟩

theorem payloadLimit_step (p : Program α) (b : Broker cards) :
    (p.step b).2.payloadLimit = b.payloadLimit := by
  cases p with
  | done value => rfl
  | act action next => exact b.payloadLimit_perform action

theorem Says.run {P : α → Prop} {p : Program α} {b : Broker cards} (h : p.Says cards P)
    (hb : b.device.Brief) : P (p.run b).1 := by
  induction p generalizing b with
  | done value => exact h
  | act action next ih =>
    obtain ⟨hanswer, hafter⟩ := Broker.brief_perform hb action
    exact ih _ (h _ hanswer) hafter

end Program

namespace Service

/-- Whatever brief answers it gets, what the service returns has a property. -/
def Says (cards : Nat) (P : α → Prop) (s : Service α) : Prop :=
  s.run.Says cards fun result => ∀ value, result = .ok value → P value

theorem says_pure {P : α → Prop} {value : α} (h : P value) :
    (pure value : Service α).Says cards P := fun _ hf => Except.ok.inj hf ▸ h

theorem says_of_forall {P : α → Prop} (h : ∀ value, P value) (s : Service α) : s.Says cards P :=
  Program.says_of_forall (fun _ value _ => h value) s.run

theorem says_device (call : DeviceCall) : (device call).Says cards (call.Brief cards) :=
  fun _ hanswer => hanswer

theorem Says.mono {s : Service α} {P Q : α → Prop} (h : s.Says cards P)
    (hPQ : ∀ value, P value → Q value) : s.Says cards Q :=
  Program.Says.mono h fun _ hr value hv => hPQ value (hr value hv)

theorem Says.bind {s : Service α} {next : α → Service β} {P : α → Prop} {Q : β → Prop}
    (hs : s.Says cards P) (h : ∀ value, P value → (next value).Says cards Q) :
    (s >>= next).Says cards Q := by
  suffices hfirst : s.run.Says cards fun result =>
      Program.Says cards (fun result => ∀ value, result = .ok value → Q value)
        (ExceptT.bindCont next result) from Program.says_bind hfirst
  refine Program.Says.mono hs fun result hr => ?_
  cases result with
  | ok value => exact h value (hr value rfl)
  | error fault => exact nofun

/-- The last steps of a service decide what it returns. -/
theorem says_bind {s : Service α} {next : α → Service β} {Q : β → Prop}
    (h : ∀ value, (next value).Says cards Q) : (s >>= next).Says cards Q :=
  Says.bind (says_of_forall (P := fun _ => True) (fun _ => trivial) s) fun value _ => h value

theorem says_device_bind {call : DeviceCall} {next : call.Value → Service α} {P : α → Prop}
    (h : ∀ value, call.Brief cards value → (next value).Says cards P) :
    (device call >>= next).Says cards P := Says.bind (says_device call) h

theorem says_require_bind {condition : Bool} {fault : Fault} {next : Unit → Service α}
    {P : α → Prop} (h : condition = true → (next ()).Says cards P) :
    (require condition fault >>= next).Says cards P := by
  cases condition with
  | true => exact h rfl
  | false => exact nofun

theorem says_mapM {s : α → Service β} {P : β → Prop} {values : List α}
    (h : ∀ value ∈ values, (s value).Says cards P) :
    (values.mapM s).Says cards fun results =>
      results.length = values.length ∧ ∀ result ∈ results, P result := by
  induction values with
  | nil => exact says_pure ⟨rfl, List.forall_mem_nil _⟩
  | cons value values ih =>
    rw [List.forall_mem_cons] at h
    rw [List.mapM_cons]
    refine h.1.bind fun result hr => (ih h.2).bind fun results hrs => says_pure ⟨?_, ?_⟩
    · rw [List.length_cons, List.length_cons, hrs.1]
    · exact List.forall_mem_cons.mpr ⟨hr, hrs.2⟩

/-- A token goes out under the header that the driver gave it. -/
theorem says_exportToken (native : NativeHeader) :
    (exportToken native).Says cards fun token => token.header = native.header := by
  refine Program.says_bind (Program.says_of_forall (fun result => ?_) (intern native.token).run)
  cases result with
  | ok id => exact says_pure rfl
  | error fault => exact fun _ _ => nofun

theorem says_exportProperties (p : Properties NativeToken) :
    (exportProperties p).Says cards fun q => q.interface = p.interface := by
  unfold exportProperties Properties.mapParentM
  split
  · exact says_pure rfl
  · exact says_bind fun _ => says_pure rfl

end Service

open Service

/-! ### The width of an answer -/

/-- The requests whose answers can hold any number of tokens, samples or bytes. -/
def Request.bulky : Request → Bool
  | .enumerate _ _ => true
  | .getMetricsByIndex _ _ => true
  | .getMetricsByName _ _ => true
  | .bufferRead _ _ _ _ => true
  | _ => false

/-- The most bytes that the value for a request takes. There are two resources to a card, and a
token for each of them at most is listed. -/
def Request.longestValue (cards : Nat) (limit : UInt64) : Request → Nat
  | .enumerate _ maxTokens => 12 + 76 * min maxTokens.toNat (2 * cards)
  | .getMetricsByIndex _ numbers => 8 + 21 * numbers.length
  | .getMetricsByName _ names => 8 + 21 * names.length
  | .bufferRead _ _ _ count => 8 + min limit.toNat count.toNat
  | _ => narrowWidth

/-- The most bytes that the envelope of the answer to a request takes: a front, the tags of
the answer and of its value, and a status stand before the value. -/
def Request.longestReply (cards : Nat) (limit : UInt64) (request : Request) : Nat :=
  Wire.headerWidth + (9 + request.longestValue cards limit)

/-- The value for a request is brief, and no wider than it can be. -/
def Request.Modest (cards : Nat) (limit : UInt64) (request : Request)
    (value : request.operation.Value) : Prop :=
  ValueBrief request.operation value ∧
    valueWidth request.operation value ≤ request.longestValue cards limit

theorem Request.says_serve (limit : UInt64) (request : Request) :
    (request.serve limit).Says cards (request.Modest cards limit) := by
  cases request with
  | enumerate filters maxTokens =>
    refine says_bind fun natives => says_device_bind fun listing hlisting => ?_
    obtain ⟨hcount, hinterfaces⟩ := hlisting
    have htoken : ∀ native ∈ listing.tokens.take maxTokens.toNat,
        (exportToken native).Says cards fun token => InterfaceBrief token.header.interface :=
      fun native hm => (says_exportToken native).mono fun token ht => by
        rw [ht]
        exact hinterfaces native (List.mem_of_mem_take hm)
    refine (says_mapM htoken).bind fun tokens ht => says_pure ⟨ht.2, ?_⟩
    have hlength : tokens.length ≤ min maxTokens.toNat (2 * cards) := by
      rw [ht.1, List.length_take]
      omega
    exact Nat.add_le_add_left (Nat.mul_le_mul_left 76 hlength) 12
  | cloneToken sourceId =>
    refine says_bind fun source => says_device_bind fun clone hclone => ?_
    refine (says_exportToken clone).mono fun token ht => ⟨?_, Nat.le_refl _⟩
    show InterfaceBrief token.header.interface
    rw [ht]
    exact hclone
  | getProperties tokenId | updateProperties tokenId | getHandleProperties tokenId =>
    refine says_bind fun entry => says_device_bind fun p hp => ?_
    refine (says_exportProperties p).mono fun q hq => ⟨?_, Nat.le_refl _⟩
    show ∀ text ∈ q.interface, InterfaceBrief text
    rw [hq]
    exact hp
  | getErrorInfo tokenId number =>
    exact says_bind fun entry => (says_device _).mono fun info hi => ⟨hi, Nat.le_refl _⟩
  | objectGetName objectId =>
    exact says_bind fun entry => (says_device _).mono fun name hn => ⟨hn, Nat.le_refl _⟩
  | objectRead objectId offset length flags =>
    refine says_bind fun entry => says_bind fun _ => says_device_bind fun bytes hbytes =>
      says_pure ⟨Nat.le_trans ?_ hbytes, Nat.le_refl _⟩
    exact (List.take_sublist _ _).length_le
  | getMetricsInfo handleId count =>
    exact says_bind fun entry => says_device_bind fun infos hinfos =>
      says_pure ⟨(List.take_prefix _ _).trans hinfos, Nat.le_refl _⟩
  | getMetricThresholds handleId count =>
    exact says_bind fun entry => says_device_bind fun thresholds hthresholds =>
      says_pure ⟨(List.take_prefix _ _).trans hthresholds, Nat.le_refl _⟩
  | getMetricsByIndex handleId numbers =>
    refine says_bind fun entry => says_bind fun metrics => says_pure ⟨trivial, ?_⟩
    exact Nat.add_le_add_left (Nat.mul_le_mul_left 21 (List.length_take_le _ _)) 8
  | getMetricsByName handleId names =>
    refine says_bind fun entry => says_bind fun metrics => says_pure ⟨trivial, ?_⟩
    exact Nat.add_le_add_left (Nat.mul_le_mul_left 21 (List.length_take_le _ _)) 8
  | bufferRead handleId bufferId offset count =>
    refine says_require_bind fun hcount => says_bind fun found => says_bind fun data =>
      says_pure ⟨trivial, Nat.add_le_add_left (Nat.le_min.mpr ⟨?_, ?_⟩) 8⟩
    · exact Nat.le_trans (List.length_take_le _ _) (of_decide_eq_true hcount)
    · exact List.length_take_le _ _
  | _ => exact says_of_forall (fun _ => ⟨trivial, Nat.le_refl _⟩) _

/-- The bytes of the envelope of a reply. -/
def Reply.size (id : Uuid) (reply : Reply) : Nat :=
  (Wire.replyEnvelope.encode (.current id reply)).length

theorem Reply.size_eq (id : Uuid) (reply : Reply) :
    reply.size id = Wire.headerWidth + (Wire.reply.encode reply).length := by
  show (Wire.header.encode _ ++ Wire.reply.encode reply).length = _
  rw [List.length_append, Wire.length_encode_header]

/-- Whatever else happens between the actions of a request, its reply is no wider than it
can be. -/
theorem Request.says_program (limit : UInt64) (request : Request) :
    (request.program limit).Says cards fun reply =>
      ∀ id, reply.size id ≤ request.longestReply cards limit := by
  refine Program.says_bind (Program.Says.mono (request.says_serve limit) fun result hr id => ?_)
  rw [Reply.size_eq]
  refine Nat.add_le_add_left (Wire.length_encode_answer_le fun value hv => ?_) Wire.headerWidth
  cases result with
  | error fault => cases hv
  | ok found =>
    obtain rfl := Option.some.inj hv
    obtain ⟨hbrief, hwidth⟩ := hr found rfl
    exact Nat.le_trans (Wire.length_encode_value_le _ found hbrief) hwidth

/-- The least bound that the settings can put on frames. -/
theorem Request.longestReply_of_not_bulky {request : Request} (h : request.bulky = false)
    (cards : Nat) (limit : UInt64) : request.longestReply cards limit = 1024 := by
  cases request with
  | enumerate | getMetricsByIndex | getMetricsByName | bufferRead => cases h
  | _ => rfl

theorem Reply.size_rejected_le {reason : String} (h : reason.utf8ByteSize ≤ 512) (id : Uuid) :
    (Reply.rejected reason).size id ≤ 1024 := by
  have hreply := Wire.length_encode_rejected_le h
  rw [Reply.size_eq]
  show Wire.headerWidth + _ ≤ 1024
  have hwidth : Wire.headerWidth = 26 := rfl
  omega

/-! ### The answer to a frame body -/

/-- The request in a frame body, if the body decodes in the version of the protocol. -/
def requested? (body : List UInt8) : Option Request :=
  match Wire.decodeFrame Wire.requestEnvelope body with
  | .ok envelope => if envelope.version = protocolVersion then some envelope.payload else none
  | .error _ => none

theorem requested?_eq_some {body : List UInt8} {request : Request}
    (h : requested? body = some request) :
    ∃ envelope : Envelope Request, Wire.decodeFrame Wire.requestEnvelope body = .ok envelope ∧
      envelope.version = protocolVersion ∧ envelope.payload = request := by
  unfold requested? at h
  split at h
  · rename_i envelope hdecode
    split at h
    · rename_i hversion
      exact ⟨envelope, hdecode, hversion, Option.some.inj h⟩
    · cases h
  · cases h

namespace Broker

variable {b : Broker cards} {body : List UInt8}

/-- The bytes of the envelope that answers a frame body. -/
def replySize (b : Broker cards) (body : List UInt8) : Nat :=
  (Wire.replyEnvelope.encode (b.answer body).1).length

theorem replySize_of_requested {request : Request} (h : requested? body = some request) :
    ∃ id, b.replySize body = (b.handle request).1.size id := by
  obtain ⟨envelope, hdecode, hversion, rfl⟩ := requested?_eq_some h
  refine ⟨envelope.correlationId, ?_⟩
  unfold replySize
  rw [b.answer_eq_answerWith, answerWith_of_decodeFrame _ _ hdecode hversion]
  rfl

/-- A body that asks for nothing is rejected in few bytes. -/
theorem replySize_le_of_rejected (h : requested? body = none) : b.replySize body ≤ 1024 := by
  have hrejection (e : TransportError) (he : e.message.utf8ByteSize ≤ 512) (id : Uuid) :
      (Wire.replyEnvelope.encode (rejection id e)).length ≤ 1024 := Reply.size_rejected_le he id
  unfold replySize
  rw [b.answer_eq_answerWith]
  rcases readings body with ⟨e, hpeek⟩ | ⟨header, hpeek, hversion⟩ |
    ⟨header, e, hpeek, hversion, hdecode⟩ | ⟨envelope, hdecode, hversion⟩
  · rw [answerWith_of_unreadable _ _ hpeek]
    have he := Wire.terse_of_decodeFrame Wire.header_terse hpeek
    exact hrejection _ (TransportError.utf8ByteSize_ofDecodeError_le he) _
  · rw [answerWith_of_unsupported _ _ hpeek hversion]
    exact hrejection _ (TransportError.utf8ByteSize_unsupportedVersion_le _ _) _
  · rw [answerWith_of_undecodable _ _ hpeek hversion hdecode]
    have he := Wire.terse_of_decodeFrame Wire.requestEnvelope_terse hdecode
    exact hrejection _ (TransportError.utf8ByteSize_ofDecodeError_le he) _
  · rw [requested?, hdecode] at h
    cases (if_pos hversion).symm.trans h

end Broker

/-! ### Schedules -/

namespace Workload

variable {w : Workload cards} {limit : UInt64}

/-- The driver says little, and no request that is being served can end in a wider reply than
it is allowed. -/
structure Brief (w : Workload cards) (limit : UInt64) : Prop where
  device : w.broker.device.Brief
  limit_eq : w.broker.payloadLimit = limit
  tasks : ∀ task ∈ w.tasks, task.rest.Says cards fun reply =>
    ∀ id, reply.size id ≤ task.request.longestReply cards limit

theorem brief_start (source : IdSource) (cards : Nat) (images : String → Option (List UInt8))
    (limit : UInt64) : (start source (.start cards images) limit).Brief limit where
  device := Simulator.brief_start cards images
  limit_eq := rfl
  tasks _ hm := nomatch hm

theorem Brief.step (h : w.Brief limit) (event : Event) : (w.step event).Brief limit := by
  cases event with
  | accept request =>
    refine ⟨h.device, h.limit_eq, List.forall_mem_append.mpr ⟨h.tasks, ?_⟩⟩
    rw [h.limit_eq]
    exact List.forall_mem_singleton.mpr (request.says_program limit)
  | disturb d =>
    refine ⟨?_, h.limit_eq, h.tasks⟩
    cases d with
    | arm kind fault => exact h.device.of_eq rfl rfl
    | recycle => exact h.device.of_eq rfl rfl
    | raise token number bits => exact h.device.raiseError token number bits
  | advance place =>
    cases hplace : w.tasks[place]? with
    | none =>
      rw [step_advance_of_none hplace]
      exact h
    | some task =>
      rw [step_advance_of_some hplace]
      obtain ⟨hrest, hdevice⟩ := (h.tasks task (List.mem_of_getElem? hplace)).step h.device
      refine ⟨hdevice, ?_, fun other hm => ?_⟩
      · exact (task.rest.payloadLimit_step w.broker).trans h.limit_eq
      · rcases List.mem_or_eq_of_mem_set hm with hm | rfl
        · exact h.tasks other hm
        · exact hrest

theorem Brief.after (h : w.Brief limit) (events : List Event) : (w.after events).Brief limit := by
  induction events generalizing w with
  | nil => exact h
  | cons event rest ih => exact ih (h.step event)

end Workload

/-! ### Sessions -/

/-- The most bytes of a frame body that the settings allow. -/
def BrokerConfig.frameBytes (config : BrokerConfig) : Nat :=
  Frame.effectiveMax config.server.maxFrameBytes.toNat

theorem BrokerConfig.le_frameBytes {config : BrokerConfig} (h : config.validate = .ok ()) :
    1024 ≤ config.frameBytes := by
  have hserver := ((BrokerConfig.validate_eq_ok_iff config).mp h).1
  have hleast := ((ServerConfig.validate_eq_ok_iff config.server).mp hserver).2.1
  exact Nat.le_min.mpr ⟨hleast, by decide⟩

/-- How replies and frames go together at a server with the given settings. -/
structure Workload.Replies (w : Workload cards) (config : BrokerConfig) : Prop where
  /-- Whatever requests were served between its actions, a request that has come to its end
  has a reply that is no wider than such a reply can be. -/
  finished (task : Task) (reply : Reply) (id : Uuid) : task ∈ w.tasks → task.rest = .done reply →
    reply.size id ≤ task.request.longestReply cards config.dispatcher.maxPayloadBytes
  answered (body : List UInt8) (request : Request) : requested? body = some request →
    w.broker.replySize body ≤ request.longestReply cards config.dispatcher.maxPayloadBytes
  /-- A rejection fits, and so does every answer but one to a bulky request that asks for more
  than a frame can hold. -/
  fits (body : List UInt8) :
    (∀ request, requested? body = some request → request.bulky = true →
      request.longestReply cards config.dispatcher.maxPayloadBytes ≤ config.frameBytes) →
    w.broker.replySize body ≤ config.frameBytes
  /-- A reply that fits is sent in one frame, and the session goes on. -/
  sent (body chunk : List UInt8) (session : Session) (framer : Framer) :
    session.framer.maxBytes = config.server.maxFrameBytes.toNat →
    session.framer.feed chunk = ([body], .ok framer) →
    w.broker.replySize body ≤ config.frameBytes →
    session.receive chunk w.broker =
      (Frame.ofBody (Wire.replyEnvelope.encode (w.broker.answer body).1),
        some ⟨framer, session.requests + 1⟩, (w.broker.answer body).2)
  /-- A reply that does not fit is not sent: what was asked is done, and the session ends. -/
  lost (body chunk : List UInt8) (session : Session) (framer : Framer) :
    session.framer.maxBytes = config.server.maxFrameBytes.toNat →
    session.framer.feed chunk = ([body], .ok framer) →
    config.frameBytes < w.broker.replySize body →
    session.receive chunk w.broker = ([], none, (w.broker.answer body).2)

namespace Workload

/-- Below settings that pass their checks, whatever a broker has come to, every reply fits its
frame unless a bulky request asks for more than a frame can hold, and a reply is sent exactly
if it fits. -/
theorem replies_of_validate {config : BrokerConfig} (h : config.validate = .ok ())
    (source : IdSource) (cards : Nat) (images : String → Option (List UInt8))
    (events : List Event) :
    ((start source (.start cards images) config.dispatcher.maxPayloadBytes).after events).Replies
      config := by
  obtain ⟨hdevice, hlimit, htasks⟩ :=
    (brief_start source cards images config.dispatcher.maxPayloadBytes).after events
  generalize hw : (start source (.start cards images) config.dispatcher.maxPayloadBytes).after
    events = w at hdevice hlimit htasks ⊢
  have hanswered (body : List UInt8) (request : Request)
      (hrequest : requested? body = some request) :
      w.broker.replySize body ≤ request.longestReply cards config.dispatcher.maxPayloadBytes := by
    obtain ⟨id, hsize⟩ := Broker.replySize_of_requested (b := w.broker) hrequest
    rw [hsize, ← hlimit]
    exact (request.says_program w.broker.payloadLimit).run hdevice id
  have hleast := BrokerConfig.le_frameBytes h
  refine ⟨fun task reply id hm hdone => ?_, hanswered, fun body hroom => ?_, ?_, ?_⟩
  · have hreply := htasks task hm
    rw [hdone] at hreply
    exact hreply id
  · cases hrequest : requested? body with
    | none => exact Nat.le_trans (Broker.replySize_le_of_rejected hrequest) hleast
    | some request =>
      have hle := hanswered body request hrequest
      cases hbulky : request.bulky with
      | true => exact Nat.le_trans hle (hroom request hrequest hbulky)
      | false =>
        rw [Request.longestReply_of_not_bulky hbulky] at hle
        exact Nat.le_trans hle hleast
  · intro body chunk session framer hmax hfeed hsize
    have hencode : Frame.encode session.framer.maxBytes
        (Wire.replyEnvelope.encode (w.broker.answer body).1) = .ok _ :=
      Frame.encode_of_le (hmax ▸ hsize)
    have hanswers := Session.answerAll_cons_of_ok hencode []
    rw [Session.answerAll_nil, List.append_nil] at hanswers
    exact Session.receive_of_ok hfeed hanswers
  · intro body chunk session framer hmax hfeed hsize
    have hencode : Frame.encode session.framer.maxBytes
        (Wire.replyEnvelope.encode (w.broker.answer body).1) = .error .tooBig :=
      if_neg (hmax ▸ Nat.not_le_of_lt hsize)
    exact Session.receive_of_unwritten hfeed (Session.answerAll_cons_of_error hencode [])

/-- Below the default settings, while a listing is on its way. -/
theorem replies_of_validate_default :
    ({} : BrokerConfig).validate = .ok () ∧
      ((start (.seeded 7) (.start 1 fun _ => none)
        ({} : BrokerConfig).dispatcher.maxPayloadBytes).after
          [.accept (.enumerate [] 2), .advance 0]).Replies {} :=
  ⟨by decide, replies_of_validate (by decide) _ _ _ _⟩

/-- Settings whose payload limit lies just below the least bound of a frame. -/
def brimful : BrokerConfig :=
  { server := { maxFrameBytes := 1024 }, dispatcher := { maxPayloadBytes := 1023 } }

/-- A client opens the accelerator of a card and sets up a buffer of 1023 bytes. -/
def filled : List Broker.Event :=
  [.serve (.enumerate [] 2), .serve (.openHandle ⟨7, 2⟩ 0),
    .serve (.prepareBuffer ⟨7, 3⟩ 1023 none 0)]

/-- A broker with such settings that has served the client. -/
def brimfulBroker : Broker 1 :=
  (Broker.start (.seeded 7) (.start 1 fun _ => none) brimful.dispatcher.maxPayloadBytes).after
    filled

/-- A frame body that asks for the whole of the buffer. -/
def fullRead : List UInt8 :=
  Wire.requestEnvelope.encode (.current .nil (.bufferRead ⟨7, 3⟩ ⟨7, 4⟩ 0 1023))

/-- The answer to a read of as many bytes as the settings allow takes more than a frame that
they allow: the read is carried out, nothing is sent, and the session ends. -/
theorem unsent_of_fullRead :
    brimful.validate = .ok () ∧ fullRead.length ≤ 1024 ∧
      (brimfulBroker.answer fullRead).1.payload.status? = some .success ∧
      brimfulBroker.replySize fullRead = 1066 ∧
      (Session.start brimful.server.maxFrameBytes).receive (Frame.ofBody fullRead) brimfulBroker =
        ([], none, (brimfulBroker.answer fullRead).2) := by
  have hsize : brimfulBroker.replySize fullRead = 1066 := by decide +kernel
  refine ⟨by decide, by decide, by decide +kernel, hsize, ?_⟩
  have hencode : Frame.encode 1024
      (Wire.replyEnvelope.encode (brimfulBroker.answer fullRead).1) = .error .tooBig :=
    if_neg fun h => absurd (hsize ▸ h : 1066 ≤ Frame.effectiveMax 1024) (by decide)
  exact Session.receive_of_unwritten (Framer.feed_start_ofBody (by decide))
    (Session.answerAll_cons_of_error hencode [])

end Workload

end DeviceBroker
