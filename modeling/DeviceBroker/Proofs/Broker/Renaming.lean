import DeviceBroker.Proofs.Broker.Execution
import DeviceBroker.Proofs.Identity.Renaming
import DeviceBroker.Proofs.Simulator.Renaming

/-!
# Brokers with other values for the handles of the driver

The broker passes the handles of the driver on and never looks at them. So a
broker whose handles have other values, in the driver and in the registry
alike, serves every request in the same way, with the same reply, and ends
with handles that differ in their values alone. Only opening a handle makes
the renaming another one: it has to match the two values that were chosen.
-/

namespace DeviceBroker

variable {α β : Type} {cards : Nat}

/-- The broker with other values for the handles of the driver. -/
def Broker.recast (b : Broker cards) (c : Recasting) : Broker cards :=
  { b with registry := b.registry.rename c.names, device := b.device.recast c }

/-- The call with its handle renamed, as a service with the value of the call. -/
def DeviceCall.mirror (names : NativeHandle ≃ NativeHandle) (call : DeviceCall) :
    Service call.Value :=
  cast (by rw [DeviceCall.Value, DeviceCall.Value, kind_rename])
    (Service.device (call.rename names))

namespace Broker

variable (b : Broker cards) (c : Recasting)

theorem map_recast (cls : ResourceClass) :
    (b.recast c).registry.map cls = (b.registry.map cls).rename c.names :=
  b.registry.map_rename c.names cls

theorem recast_withMap (cls : ResourceClass) (m : IdentityMap cls) :
    { b with registry := b.registry.withMap cls m }.recast c =
      { b.recast c with registry := (b.recast c).registry.withMap cls (m.rename c.names) } :=
  congrArg (Broker.mk · _ _) (b.registry.rename_withMap c.names cls m)

end Broker

/-- A program does on recast brokers what another does on the brokers
themselves, with a result that is changed in one way. -/
def Program.Mirrors (c : Recasting) (change : α → β) (p : Program α) (mirror : Program β) : Prop :=
  ∀ (cards : Nat) (b : Broker cards),
    mirror.run (b.recast c) = (change (p.run b).1, (p.run b).2.recast c)

theorem Program.Mirrors.bind {γ δ : Type} {c : Recasting} {change : α → β} {p : Program α}
    {mirror : Program β} (h : p.Mirrors c change mirror) {further : γ → δ}
    {next : α → Program γ} {nextMirror : β → Program δ}
    (hn : ∀ value, (next value).Mirrors c further (nextMirror (change value))) :
    (p >>= next).Mirrors c further (mirror >>= nextMirror) := by
  intro cards b
  rw [Program.run_bind, Program.run_bind, h cards b]
  exact hn _ cards _

section

variable (c : Recasting) (cls : ResourceClass)

theorem mirrors_claim (id : RemoteId) :
    (Program.perform (.claim cls id)).Mirrors c (Except.map (cls.rename c.names))
      (.perform (.claim cls id)) := by
  intro cards b
  change (b.recast c).perform (.claim cls id) =
    (Except.map _ (b.perform (.claim cls id)).1, (b.perform (.claim cls id)).2.recast c)
  simp only [Broker.perform, Registry.update, Broker.map_recast, IdentityMap.claim_rename,
    Broker.recast_withMap]

theorem mirrors_settle (id : RemoteId) (how : Settlement) :
    (Program.perform (.settle cls id how)).Mirrors c (fun settled => settled)
      (.perform (.settle cls id how)) := by
  intro cards b
  change (b.recast c).perform (.settle cls id how) =
    ((b.perform (.settle cls id how)).1, (b.perform (.settle cls id how)).2.recast c)
  simp only [Broker.perform, Registry.update, Broker.map_recast, IdentityMap.settle_rename,
    Broker.recast_withMap]

theorem mirrors_register (entry : cls.Entry) :
    (Program.perform (.register cls entry)).Mirrors c (fun answer => answer)
      (.perform (.register cls (cls.rename c.names entry))) :=
  fun _ b => congrArg (fun outcome => (outcome.1, { b.recast c with registry := outcome.2 }))
    (b.registry.register_rename c.names cls entry)

theorem mirrors_intern (token : NativeToken) :
    (Program.perform (.intern token)).Mirrors c (fun answer => answer)
      (.perform (.intern token)) :=
  fun _ _ => rfl

variable {cls}

theorem mirrors_removeOwned (h : cls ≠ .handle) (owner : RemoteId) :
    (Program.perform (.removeOwned cls owner)).Mirrors c (fun gone => gone)
      (.perform (.removeOwned cls owner)) := by
  intro cards b
  have hsame : ∀ m : IdentityMap cls, m.rename c.names = m :=
    fun m => m.rename_of_eq (ResourceClass.rename_of_ne c.names h)
  change (b.recast c).perform (.removeOwned cls owner) =
    ((b.perform (.removeOwned cls owner)).1, (b.perform (.removeOwned cls owner)).2.recast c)
  simp only [Broker.perform, Registry.update, Broker.map_recast, hsame, Broker.recast_withMap]

theorem mirrors_call (call : DeviceCall) (h : call.kind ≠ .openHandle) :
    (Program.perform (.call call)).Mirrors c (call.answer c.names)
      (.perform (.call (call.rename c.names))) :=
  fun _ b => congrArg (fun outcome => (outcome.1, { b.recast c with device := outcome.2 }))
    (b.device.call_recast c h)

end

namespace Service

/-- A service does on recast brokers what another does on the brokers themselves. -/
def Mirrored (c : Recasting) (s mirror : Service α) : Prop := s.run.Mirrors c id mirror.run

section

variable (c : Recasting)

theorem mirrored_pure (value : α) : Mirrored c (pure value) (pure value) := fun _ _ => rfl

theorem mirrored_throw (fault : Fault) :
    Mirrored c (throw fault : Service α) (throw fault : Service α) := fun _ _ => rfl

theorem mirrored_require (condition : Bool) (fault : Fault) :
    Mirrored c (require condition fault) (require condition fault) := fun _ _ => rfl

variable {c}

theorem Mirrored.bind {s mirror : Service α} {next nextMirror : α → Service β}
    (h : Mirrored c s mirror) (hn : ∀ value, Mirrored c (next value) (nextMirror value)) :
    Mirrored c (s >>= next) (mirror >>= nextMirror) := by
  refine Program.Mirrors.bind h fun result => ?_
  cases result with
  | ok value => exact hn value
  | error fault => exact fun _ _ => rfl

theorem mirrored_lookup_bind {cls : ResourceClass} {id : RemoteId}
    {next nextMirror : cls.Entry → Service α}
    (h : ∀ entry, Mirrored c (next entry) (nextMirror (cls.rename c.names entry))) :
    Mirrored c (lookup cls id >>= next) (lookup cls id >>= nextMirror) := by
  intro cards b
  change exec _ _ = ((exec _ _).1, (exec _ _).2.recast c)
  rw [exec_bind, exec_bind, exec_lookup, exec_lookup, Broker.map_recast, IdentityMap.find?_rename]
  cases (b.registry.map cls).find? id with
  | none => rfl
  | some entry => exact h entry cards b

theorem mirrored_lookupOwned_bind {cls : ResourceClass} {id owner : RemoteId}
    {next nextMirror : cls.Entry → Service α}
    (h : ∀ entry, Mirrored c (next entry) (nextMirror (cls.rename c.names entry))) :
    Mirrored c (lookupOwned cls id owner >>= next) (lookupOwned cls id owner >>= nextMirror) := by
  unfold lookupOwned
  simp only [bind_assoc, pure_bind]
  refine mirrored_lookup_bind fun entry => ?_
  rw [ResourceClass.owner?_rename]
  exact (mirrored_require c _ _).bind fun _ => h entry

theorem mirrored_bufferRange_bind {handleId bufferId : RemoteId} {offset count : UInt64}
    {next nextMirror : HandleEntry × BufferEntry → Service α}
    (h : ∀ handle buffer, Mirrored c (next (handle, buffer))
      (nextMirror ({ handle with handle := c.names handle.handle }, buffer))) :
    Mirrored c (bufferRange handleId bufferId offset count >>= next)
      (bufferRange handleId bufferId offset count >>= nextMirror) := by
  unfold bufferRange
  simp only [bind_assoc, pure_bind]
  refine mirrored_lookup_bind fun handle => mirrored_lookupOwned_bind fun buffer => ?_
  exact (mirrored_require c _ _).bind fun _ => h handle buffer

theorem mirrored_device {call : DeviceCall} (h : call.kind ≠ .openHandle) :
    Mirrored c (device call) (call.mirror c.names) := by
  intro cards b
  have hcall := b.device.call_recast c h
  cases call with
  | openHandle => exact absurd rfl h
  | _ =>
    exact congrArg (fun outcome => (outcome.1, { b.recast c with device := outcome.2 })) hcall

theorem mirrored_teardown {cls : ResourceClass} {id : RemoteId}
    {destroy destroyMirror : cls.Entry → Service Unit}
    (h : ∀ entry, Mirrored c (destroy entry) (destroyMirror (cls.rename c.names entry))) :
    Mirrored c (teardown cls id destroy) (teardown cls id destroyMirror) := by
  refine Program.Mirrors.bind (mirrors_claim c cls id) fun answer => ?_
  cases answer with
  | error refusal => cases refusal <;> exact fun _ _ => rfl
  | ok entry =>
    refine Program.Mirrors.bind (h entry) fun result => ?_
    cases result with
    | ok _ => exact Program.Mirrors.bind (mirrors_settle c cls id .commit) fun _ _ _ => rfl
    | error fault => exact Program.Mirrors.bind (mirrors_settle c cls id .release) fun _ _ _ => rfl

theorem mirrored_registerOrUndo (cls : ResourceClass) (entry : cls.Entry) {undo : DeviceCall}
    (h : undo.kind ≠ .openHandle) :
    Mirrored c (registerOrUndo cls entry undo)
      (registerOrUndo cls (cls.rename c.names entry) (undo.rename c.names)) := by
  refine Program.Mirrors.bind (mirrors_register c cls entry) fun answer => ?_
  cases answer with
  | some id => exact fun _ _ => rfl
  | none => exact Program.Mirrors.bind (mirrors_call c undo h) fun _ _ _ => rfl

theorem mirrored_registerObject (object : NativeObject) :
    Mirrored c (registerObject object) (registerObject object) :=
  mirrored_registerOrUndo .object ⟨object⟩ (by nofun)

theorem mirrored_intern (token : NativeToken) : Mirrored c (intern token) (intern token) := by
  refine Program.Mirrors.bind (mirrors_intern c token) fun answer => ?_
  cases answer <;> exact fun _ _ => rfl

theorem mirrored_exportToken (native : NativeHeader) :
    Mirrored c (exportToken native) (exportToken native) := by
  refine Program.Mirrors.bind (mirrored_intern native.token) fun result => ?_
  cases result with
  | ok id => exact fun _ _ => rfl
  | error fault =>
    exact Program.Mirrors.bind (mirrors_call c (.destroyToken native.token) (by nofun))
      fun _ _ _ => rfl

theorem mirrored_mapParentM {ρ σ : Type} {f : ρ → Service σ}
    (h : ∀ parent, Mirrored c (f parent) (f parent))
    (properties : Properties ρ) :
    Mirrored c (properties.mapParentM f) (properties.mapParentM f) := by
  unfold Properties.mapParentM
  split
  · exact mirrored_pure c _
  · exact (h _).bind fun _ => mirrored_pure c _

theorem mirrored_exportProperties (properties : Properties NativeToken) :
    Mirrored c (exportProperties properties) (exportProperties properties) :=
  mirrored_mapParentM mirrored_intern properties

theorem mirrored_mapM {f : α → Service β} (h : ∀ value, Mirrored c (f value) (f value))
    (values : List α) : Mirrored c (values.mapM f) (values.mapM f) := by
  induction values with
  | nil => exact mirrored_pure c _
  | cons value rest ih =>
    rw [List.mapM_cons]
    exact (h value).bind fun _ => ih.bind fun _ => mirrored_pure c _

theorem mirrored_lift {p mirror : Program α} (h : p.Mirrors c (fun value => value) mirror) :
    Mirrored c (liftM p) (liftM mirror) :=
  Program.Mirrors.bind h fun _ _ _ => rfl

theorem mirrored_poll (handle : NativeHandle) (workspace : Nat) (offset : UInt64) (width : UInt32)
    (mask expected : UInt64) (attempts : Nat) :
    Mirrored c (poll handle workspace offset width mask expected attempts)
      (poll (c.names handle) workspace offset width mask expected attempts) := by
  induction attempts with
  | zero => exact mirrored_throw c _
  | succ attempts ih =>
    refine (mirrored_device (by nofun)).bind fun data => ?_
    split
    · exact mirrored_pure c _
    · exact ih

end

end Service

open Service

/-- Every request but those that open handles is served alike by recast brokers. -/
theorem Request.mirrored_serve (c : Recasting) {request : Request}
    (h : request.operation ≠ .openHandle) (limit : UInt64) :
    Mirrored c (request.serve limit) (request.serve limit) := by
  cases request with
  | openHandle => exact absurd rfl h
  | enumerate filters maxTokens =>
    refine (mirrored_mapM (mirrored_mapParentM fun id => ?_) filters).bind fun natives => ?_
    · exact mirrored_lookup_bind fun entry => mirrored_pure c _
    refine (mirrored_device (by nofun)).bind fun listing => ?_
    exact (mirrored_mapM mirrored_exportToken _).bind fun _ => mirrored_pure c _
  | destroyToken | destroyObject =>
    exact mirrored_teardown fun entry => mirrored_device (by nofun)
  | closeHandle handleId =>
    refine (mirrored_teardown fun entry => mirrored_device (by nofun)).bind fun _ => ?_
    refine (mirrored_lift (mirrors_removeOwned c (by nofun) handleId)).bind fun _ => ?_
    exact (mirrored_lift (mirrors_removeOwned c (by nofun) handleId)).bind fun _ =>
      mirrored_pure c _
  | unmapMmio =>
    refine mirrored_lookup_bind fun handle => mirrored_teardown fun mapping => ?_
    exact (mirrored_require c _ _).bind fun _ => (mirrored_require c _ _).bind fun _ =>
      mirrored_device (by nofun)
  | releaseBuffer =>
    refine mirrored_lookup_bind fun handle => mirrored_teardown fun mapping => ?_
    exact (mirrored_require c _ _).bind fun _ => mirrored_device (by nofun)
  | cloneToken =>
    exact mirrored_lookup_bind fun _ => (mirrored_device (by nofun)).bind mirrored_exportToken
  | getProperties | updateProperties | getHandleProperties =>
    exact mirrored_lookup_bind fun _ => (mirrored_device (by nofun)).bind mirrored_exportProperties
  | mapMmio handleId region =>
    refine mirrored_lookup_bind fun handle => (mirrored_device (by nofun)).bind fun base => ?_
    exact mirrored_registerOrUndo .mapping ⟨handleId, region, base⟩ (by nofun)
  | prepareBuffer handleId length address flags =>
    refine mirrored_lookup_bind fun handle => (mirrored_device (by nofun)).bind fun prepared => ?_
    exact mirrored_registerOrUndo .buffer
      ⟨handleId, length, flags, prepared.workspace, prepared.address⟩ (by nofun)
  | tokenGetObject | handleGetObject | objectGetObject | objectGetObjectAt =>
    exact mirrored_lookup_bind fun _ => (mirrored_device (by nofun)).bind mirrored_registerObject
  | writeMmio512 =>
    refine mirrored_lookup_bind fun _ => (mirrored_require c _ _).bind fun _ => ?_
    split
    · exact mirrored_throw c _
    · exact mirrored_device (by nofun)
  | objectRead =>
    exact mirrored_lookup_bind fun _ => (mirrored_require c _ _).bind fun _ =>
      (mirrored_device (by nofun)).bind fun _ => mirrored_pure c _
  | getMetricsInfo | getMetricsByIndex | getMetricsByName | getMetricThresholds =>
    exact mirrored_lookup_bind fun _ => (mirrored_device (by nofun)).bind fun _ => mirrored_pure c _
  | getIoAddress =>
    exact mirrored_lookup_bind fun _ => mirrored_lookupOwned_bind fun _ =>
      mirrored_device (by nofun)
  | bufferFill =>
    exact mirrored_bufferRange_bind fun _ _ => mirrored_device (by nofun)
  | bufferWrite =>
    exact (mirrored_require c _ _).bind fun _ => (mirrored_require c _ _).bind fun _ =>
      mirrored_bufferRange_bind fun _ _ => mirrored_device (by nofun)
  | bufferRead =>
    exact (mirrored_require c _ _).bind fun _ => mirrored_bufferRange_bind fun _ _ =>
      (mirrored_device (by nofun)).bind fun _ => mirrored_pure c _
  | bufferPoll =>
    exact (mirrored_require c _ _).bind fun _ => mirrored_bufferRange_bind fun _ _ =>
      mirrored_poll _ _ _ _ _ _ _
  | bufferCompare =>
    exact mirrored_bufferRange_bind fun _ _ => mirrored_bufferRange_bind fun _ _ =>
      (mirrored_device (by nofun)).bind fun _ =>
        (mirrored_device (by nofun)).bind fun _ => mirrored_pure c _
  | bufferPattern =>
    refine mirrored_lookup_bind fun _ => mirrored_lookupOwned_bind fun _ => ?_
    split
    · exact mirrored_throw c _
    · exact mirrored_device (by nofun)
  | _ => exact mirrored_lookup_bind fun _ => mirrored_device (by nofun)

end DeviceBroker
