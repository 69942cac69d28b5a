import DeviceBroker.Proofs.Broker.Deeds
import DeviceBroker.Proofs.Broker.Vetting

/-!
# The repertoire of a request

Whatever the answers are, a request performs no actions but those of its
operation: it registers entries of one class at most, claims nothing but what
it is to destroy, and calls the driver with one kind of call, or with the one
that undoes it. So what none of these actions changes no request of the
operation changes, and that is shown by looking at the actions.
-/

namespace DeviceBroker

variable {α β : Type}

/-- The class of what an operation creates through the registry. -/
def Operation.creates? : Operation → Option ResourceClass
  | .openHandle => some .handle
  | .mapMmio => some .mapping
  | .prepareBuffer => some .buffer
  | .tokenGetObject | .handleGetObject | .objectGetObject | .objectGetObjectAt => some .object
  | _ => none

/-- The kind of call with which an operation undoes what cannot be registered. -/
def Operation.undoes? : Operation → Option CallKind
  | .openHandle => some .closeHandle
  | .mapMmio => some .unmapMmio
  | .prepareBuffer => some .releaseBuffer
  | .tokenGetObject | .handleGetObject | .objectGetObject | .objectGetObjectAt =>
    some .destroyObject
  | .enumerate | .cloneToken => some .destroyToken
  | _ => none

/-- What a request may do at all. -/
inductive Request.MayPerform (request : Request) : Action → Prop
  | find (cls : ResourceClass) (id : RemoteId) : MayPerform request (.find cls id)
  | claim {cls : ResourceClass} {id : RemoteId} (h : request.target? = some (cls, id)) :
      MayPerform request (.claim cls id)
  | settle {cls : ResourceClass} {id : RemoteId} (h : request.target? = some (cls, id))
      (how : Settlement) : MayPerform request (.settle cls id how)
  | register {cls : ResourceClass} (h : request.operation.creates? = some cls)
      (entry : cls.Entry) : MayPerform request (.register cls entry)
  | intern (token : NativeToken) : MayPerform request (.intern token)
  | removeOwned {owner : RemoteId} (h : request = .closeHandle owner) (cls : ResourceClass) :
      MayPerform request (.removeOwned cls owner)
  | call {c : DeviceCall}
      (h : c.kind = request.operation.firstCall ∨ request.operation.undoes? = some c.kind) :
      MayPerform request (.call c)

/-- Whatever the answers, a program performs only actions of a kind. -/
def Program.Performs (P : Action → Prop) (p : Program α) : Prop :=
  ∀ past, p.Obeys (fun _ action => P action) (fun _ _ => True) past

/-- What no action of a kind changes, a program of such actions keeps. -/
theorem Program.Performs.run_preserves {cards : Nat} {P : Action → Prop} {p : Program α}
    (h : p.Performs P) {I : Broker cards → Prop} (step : ∀ b a, P a → I b → I (b.perform a).2)
    {b : Broker cards} (hb : I b) : I (p.run b).2 :=
  (h []).run_preserves (fun _ b a => step b a) hb

namespace Service

/-- Whatever the answers, a service performs only actions of a kind. -/
def Performs (P : Action → Prop) (s : Service α) : Prop := s.run.Performs P

section

variable {P : Action → Prop}

theorem performs_pure (value : α) : Performs P (pure value : Service α) := fun _ => trivial

theorem performs_throw (fault : Fault) : Performs P (throw fault : Service α) := fun _ => trivial

theorem performs_require (condition : Bool) (fault : Fault) :
    Performs P (require condition fault) := fun _ => trivial

theorem Performs.bind {s : Service α} {next : α → Service β} (hs : Performs P s)
    (hn : ∀ value, Performs P (next value)) : Performs P (s >>= next) := by
  refine fun past => obeys_bind ((hs past).mono fun past' result _ => ?_)
  cases result with
  | ok value => exact hn value past'
  | error fault => trivial

theorem performs_device {call : DeviceCall} (h : P (.call call)) : Performs P (device call) :=
  fun _ => obeys_device h fun _ => trivial

theorem performs_lookup {cls : ResourceClass} {id : RemoteId} (h : P (.find cls id)) :
    Performs P (lookup cls id) := by
  refine fun past => ⟨h, fun answer => ?_⟩
  cases answer <;> trivial

theorem performs_lookupOwned {cls : ResourceClass} {id owner : RemoteId} (h : P (.find cls id)) :
    Performs P (lookupOwned cls id owner) :=
  (performs_lookup h).bind fun _ => (performs_require _ _).bind fun _ => performs_pure _

theorem performs_bufferRange {handleId bufferId : RemoteId} {offset count : UInt64}
    (h : ∀ cls id, P (.find cls id)) : Performs P (bufferRange handleId bufferId offset count) :=
  (performs_lookup (h _ _)).bind fun _ => (performs_lookupOwned (h _ _)).bind fun _ =>
    (performs_require _ _).bind fun _ => performs_pure _

theorem performs_teardown {cls : ResourceClass} {id : RemoteId} {destroy : cls.Entry → Service Unit}
    (hclaim : P (.claim cls id)) (hsettle : ∀ how, P (.settle cls id how))
    (hd : ∀ entry, Performs P (destroy entry)) : Performs P (teardown cls id destroy) := by
  refine fun past => obeys_teardown hclaim trivial trivial fun entry => ?_
  exact (hd entry _).mono fun _ _ _ => ⟨hsettle _, fun _ => trivial⟩

theorem performs_registerOrUndo {cls : ResourceClass} {entry : cls.Entry} {undo : DeviceCall}
    (h : P (.register cls entry)) (hundo : P (.call undo)) :
    Performs P (registerOrUndo cls entry undo) :=
  fun _ => obeys_registerOrUndo h (fun _ => trivial) hundo fun _ => trivial

theorem performs_intern {token : NativeToken} (h : P (.intern token)) :
    Performs P (intern token) := by
  refine fun past => ⟨h, fun answer => ?_⟩
  cases answer <;> trivial

theorem performs_exportToken {native : NativeHeader} (h : P (.intern native.token))
    (hundo : P (.call (.destroyToken native.token))) : Performs P (exportToken native) := by
  refine fun past => ⟨h, fun answer => ?_⟩
  cases answer with
  | some registration => trivial
  | none => exact ⟨hundo, fun _ => trivial⟩

theorem performs_mapParentM {ρ σ : Type} {f : ρ → Service σ} (hf : ∀ parent, Performs P (f parent))
    (properties : Properties ρ) : Performs P (properties.mapParentM f) := by
  unfold Properties.mapParentM
  split
  · exact performs_pure _
  · exact (hf _).bind fun _ => performs_pure _

theorem Performs.mapM {s : α → Service β} (h : ∀ value, Performs P (s value)) (values : List α) :
    Performs P (values.mapM s) := by
  induction values with
  | nil => exact performs_pure _
  | cons value rest ih =>
    rw [List.mapM_cons]
    exact (h value).bind fun _ => ih.bind fun _ => performs_pure _

theorem performs_poll {handle : NativeHandle} {workspace : Nat} {offset : UInt64} {width : UInt32}
    (h : P (.call (.bufferRead handle workspace offset width.toUInt64))) (mask expected : UInt64)
    (attempts : Nat) : Performs P (poll handle workspace offset width mask expected attempts) := by
  induction attempts with
  | zero => exact performs_throw _
  | succ attempts ih =>
    refine (performs_device h).bind fun data => ?_
    split
    · exact performs_pure _
    · exact ih

end

end Service

open Service Request.MayPerform

/-- Serving a request performs what its operation performs, and nothing else. -/
theorem Request.performs_serve (request : Request) (limit : UInt64) :
    Performs request.MayPerform (request.serve limit) := by
  cases request with
  | enumerate filters maxTokens =>
    refine (Performs.mapM (performs_mapParentM fun id => ?_) filters).bind fun natives => ?_
    · exact (performs_lookup (find _ _)).bind fun _ => performs_pure _
    refine (performs_device (call (.inl rfl))).bind fun listing => ?_
    exact (Performs.mapM (fun _ => performs_exportToken (intern _) (call (.inr rfl))) _).bind
      fun _ => performs_pure _
  | destroyToken | destroyObject =>
    exact performs_teardown (claim rfl) (settle rfl) fun _ => performs_device (call (.inl rfl))
  | closeHandle =>
    refine (performs_teardown (claim rfl) (settle rfl) fun _ =>
      performs_device (call (.inl rfl))).bind fun _ => ?_
    exact fun past => ⟨removeOwned rfl _, fun _ => ⟨removeOwned rfl _, fun _ => trivial⟩⟩
  | unmapMmio =>
    refine (performs_lookup (find _ _)).bind fun _ =>
      performs_teardown (claim rfl) (settle rfl) fun _ => ?_
    exact (performs_require _ _).bind fun _ => (performs_require _ _).bind fun _ =>
      performs_device (call (.inl rfl))
  | releaseBuffer =>
    refine (performs_lookup (find _ _)).bind fun _ =>
      performs_teardown (claim rfl) (settle rfl) fun _ => ?_
    exact (performs_require _ _).bind fun _ => performs_device (call (.inl rfl))
  | cloneToken =>
    exact (performs_lookup (find _ _)).bind fun _ => (performs_device (call (.inl rfl))).bind
      fun _ => performs_exportToken (intern _) (call (.inr rfl))
  | getProperties | updateProperties | getHandleProperties =>
    exact (performs_lookup (find _ _)).bind fun _ => (performs_device (call (.inl rfl))).bind
      fun properties => performs_mapParentM (fun _ => performs_intern (intern _)) properties
  | openHandle =>
    refine (performs_lookup (find _ _)).bind fun _ => (performs_device (call (.inl rfl))).bind
      fun _ => ?_
    exact (performs_registerOrUndo (register rfl _) (call (.inr rfl))).bind
      fun _ => performs_pure _
  | mapMmio | prepareBuffer | tokenGetObject | handleGetObject | objectGetObject
  | objectGetObjectAt =>
    exact (performs_lookup (find _ _)).bind fun _ => (performs_device (call (.inl rfl))).bind
      fun _ => performs_registerOrUndo (register rfl _) (call (.inr rfl))
  | writeMmio512 =>
    refine (performs_lookup (find _ _)).bind fun _ => (performs_require _ _).bind fun _ => ?_
    split
    · exact performs_throw _
    · exact performs_device (call (.inl rfl))
  | objectRead =>
    exact (performs_lookup (find _ _)).bind fun _ => (performs_require _ _).bind fun _ =>
      (performs_device (call (.inl rfl))).bind fun _ => performs_pure _
  | getMetricsInfo | getMetricsByIndex | getMetricsByName | getMetricThresholds =>
    exact (performs_lookup (find _ _)).bind fun _ => (performs_device (call (.inl rfl))).bind
      fun _ => performs_pure _
  | getIoAddress =>
    exact (performs_lookup (find _ _)).bind fun _ => (performs_lookupOwned (find _ _)).bind
      fun _ => performs_device (call (.inl rfl))
  | bufferFill =>
    exact (performs_bufferRange find).bind fun _ => performs_device (call (.inl rfl))
  | bufferWrite =>
    exact (performs_require _ _).bind fun _ => (performs_require _ _).bind fun _ =>
      (performs_bufferRange find).bind fun _ => performs_device (call (.inl rfl))
  | bufferRead =>
    exact (performs_require _ _).bind fun _ => (performs_bufferRange find).bind fun _ =>
      (performs_device (call (.inl rfl))).bind fun _ => performs_pure _
  | bufferPoll =>
    exact (performs_require _ _).bind fun _ => (performs_bufferRange find).bind fun _ =>
      performs_poll (call (.inl rfl)) _ _ _
  | bufferCompare =>
    exact (performs_bufferRange find).bind fun _ => (performs_bufferRange find).bind fun _ =>
      (performs_device (call (.inl rfl))).bind fun _ =>
        (performs_device (call (.inl rfl))).bind fun _ => performs_pure _
  | bufferPattern =>
    refine (performs_lookup (find _ _)).bind fun _ => (performs_lookupOwned (find _ _)).bind
      fun _ => ?_
    split
    · exact performs_throw _
    · exact performs_device (call (.inl rfl))
  | _ => exact (performs_lookup (find _ _)).bind fun _ => performs_device (call (.inl rfl))

/-- What no action of a request changes, serving the request keeps. -/
theorem Broker.handle_preserves {cards : Nat} {request : Request} {I : Broker cards → Prop}
    (step : ∀ b a, request.MayPerform a → I b → I (b.perform a).2) {b : Broker cards} (hb : I b) :
    I (b.handle request).2 := by
  rw [handle_eq]
  exact (request.performs_serve b.payloadLimit).run_preserves step hb

end DeviceBroker
