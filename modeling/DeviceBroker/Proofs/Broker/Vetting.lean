import DeviceBroker.Proofs.Broker.Dangling
import DeviceBroker.Proofs.Broker.Exchanges

/-!
# Vetting of requests

Before a request calls the driver the broker makes checks of its own: the
references have to resolve, a handle has to own what is named through it, no
other claim may be held on what is to be destroyed, and sizes and widths have
to be in their bounds. `Broker.vet` makes these checks on the registry alone,
in the order in which serving makes them. A request that it refuses is
answered with that fault, and nothing has changed. A request that passes goes
on to the driver: if a failure is armed for its first call, the request ends
there with that failure, and nothing has changed but the driver's count of
calls and the failure, which is consumed.
-/

namespace DeviceBroker

variable {cards : Nat} {α β : Type}

/-- Whether a claim is held on an identifier. -/
def IdentityMap.claimed {cls : ResourceClass} (m : IdentityMap cls) (id : RemoteId) : Bool :=
  (m.slots.find? id).any Slot.claimed

namespace Broker

variable (b : Broker cards)

/-- The entry that a reference resolves to. -/
def resolve (cls : ResourceClass) (id : RemoteId) : Except Fault cls.Entry :=
  match (b.registry.map cls).find? id with
  | some entry => .ok entry
  | none => .error .invalidParam

def resolveAll : List (ResourceClass × RemoteId) → Except Fault Unit
  | [] => .ok ()
  | (cls, id) :: rest => b.resolve cls id >>= fun _ => resolveAll rest

/-- Pass if a condition holds. -/
def ensure (condition : Bool) (fault : Fault) : Except Fault Unit :=
  if condition then .ok () else .error fault

def resolveOwned (cls : ResourceClass) (id owner : RemoteId) : Except Fault cls.Entry := do
  let entry ← b.resolve cls id
  ensure (cls.owner? entry == some owner) .notFound
  return entry

/-- The entry of what is to be destroyed. -/
def resolveUnclaimed (cls : ResourceClass) (id : RemoteId) : Except Fault cls.Entry := do
  let entry ← b.resolve cls id
  ensure (!(b.registry.map cls).claimed id) .busy
  return entry

def vetRange (handleId bufferId : RemoteId) (offset count : UInt64) : Except Fault Unit := do
  let _ ← b.resolve .handle handleId
  let buffer ← b.resolveOwned .buffer bufferId handleId
  ensure (buffer.covers offset count) .invalidParam

/-- The checks that are made on a request before it calls the driver. -/
def vet : Request → Except Fault Unit
  | .destroyToken tokenId => do
    let _ ← b.resolveUnclaimed .token tokenId
    return ()
  | .closeHandle handleId => do
    let _ ← b.resolveUnclaimed .handle handleId
    return ()
  | .destroyObject objectId => do
    let _ ← b.resolveUnclaimed .object objectId
    return ()
  | .unmapMmio handleId mappingId region => do
    let _ ← b.resolve .handle handleId
    let mapping ← b.resolveUnclaimed .mapping mappingId
    ensure (mapping.owner == handleId) .notFound
    ensure (mapping.region == region) .invalidParam
  | .releaseBuffer handleId bufferId => do
    let _ ← b.resolve .handle handleId
    let buffer ← b.resolveUnclaimed .buffer bufferId
    ensure (buffer.owner == handleId) .notFound
  | .getIoAddress handleId bufferId => do
    let _ ← b.resolve .handle handleId
    let _ ← b.resolveOwned .buffer bufferId handleId
    return ()
  | .writeMmio512 handleId _ _ values => do
    let _ ← b.resolve .handle handleId
    ensure (values.length ≤ b.payloadLimit.toNat) .invalidParam
    ensure (Word512.ofList? values).isSome .invalidParam
  | .objectRead objectId _ length _ => do
    let _ ← b.resolve .object objectId
    ensure (length ≤ b.payloadLimit) .invalidParam
  | .bufferFill handleId bufferId offset _ count => b.vetRange handleId bufferId offset count
  | .bufferWrite handleId bufferId offset source count => do
    ensure (count ≤ b.payloadLimit) .invalidParam
    ensure (count.toNat ≤ source.length) .invalidParam
    b.vetRange handleId bufferId offset count
  | .bufferRead handleId bufferId offset count => do
    ensure (count ≤ b.payloadLimit) .invalidParam
    b.vetRange handleId bufferId offset count
  | .bufferPoll handleId bufferId offset width _ _ _ _ => do
    ensure (Service.pollWidths.contains width) .invalidParam
    b.vetRange handleId bufferId offset width.toUInt64
  | .bufferCompare handleId firstId firstOffset secondId secondOffset count => do
    b.vetRange handleId firstId firstOffset count
    b.vetRange handleId secondId secondOffset count
  | .bufferPattern handleId bufferId pattern => do
    let _ ← b.resolve .handle handleId
    let _ ← b.resolveOwned .buffer bufferId handleId
    ensure (FillPattern.ofName? pattern).isSome .invalidParam
  | request => b.resolveAll request.references

section

variable {b : Broker cards} {cls : ResourceClass} {id handleId : RemoteId}

theorem ensure_bind (condition : Bool) (fault : Fault) (next : Unit → Except Fault α) :
    (ensure condition fault >>= next) = if condition then next () else .error fault := by
  cases condition <;> rfl

theorem resolve_bind_of_none (h : (b.registry.map cls).find? id = none)
    (next : cls.Entry → Except Fault α) : (b.resolve cls id >>= next) = .error .invalidParam := by
  rw [resolve, h]
  rfl

theorem resolve_bind_of_some {entry : cls.Entry} (h : (b.registry.map cls).find? id = some entry)
    (next : cls.Entry → Except Fault α) : (b.resolve cls id >>= next) = next entry := by
  rw [resolve, h]
  rfl

theorem resolveUnclaimed_bind_of_some {entry : cls.Entry}
    (h : (b.registry.map cls).find? id = some entry) (next : cls.Entry → Except Fault α) :
    (b.resolveUnclaimed cls id >>= next) =
      if (b.registry.map cls).claimed id then .error .busy else next entry := by
  rw [resolveUnclaimed, bind_assoc, resolve_bind_of_some h, bind_assoc, ensure_bind]
  cases (b.registry.map cls).claimed id <;> rfl

theorem resolveOwned_bind_of_some {entry : cls.Entry}
    (h : (b.registry.map cls).find? id = some entry) (owner : RemoteId)
    (next : cls.Entry → Except Fault α) :
    (b.resolveOwned cls id owner >>= next) =
      if cls.owner? entry = some owner then next entry else .error .notFound := by
  rw [resolveOwned, bind_assoc, resolve_bind_of_some h, bind_assoc, ensure_bind]
  simp only [beq_iff_eq, pure_bind]

theorem vetRange_of_none {handle : HandleEntry} {bufferId : RemoteId}
    (hh : (b.registry.map .handle).find? handleId = some handle)
    (hf : (b.registry.map .buffer).find? bufferId = none) (offset count : UInt64) :
    b.vetRange handleId bufferId offset count = .error .invalidParam := by
  rw [vetRange, resolve_bind_of_some hh, resolveOwned, bind_assoc, resolve_bind_of_none hf]

theorem vetRange_of_some {handle : HandleEntry} {bufferId : RemoteId} {buffer : BufferEntry}
    (hh : (b.registry.map .handle).find? handleId = some handle)
    (hf : (b.registry.map .buffer).find? bufferId = some buffer) (offset count : UInt64) :
    b.vetRange handleId bufferId offset count =
      if buffer.owner = handleId then ensure (buffer.covers offset count) .invalidParam
      else .error .notFound := by
  rw [vetRange, resolve_bind_of_some hh, resolveOwned_bind_of_some hf]
  exact if_congr Option.some_inj rfl rfl

end

/-- The broker without a failure armed for the calls of a kind. -/
def disarm (kind : CallKind) : Broker cards :=
  { b with device := b.device.rig b.device.calls (override b.device.armed kind none) }

end Broker

/-- The kind of the first call that an operation makes of the driver. -/
def Operation.firstCall : Operation → CallKind
  | .enumerate => .enumerate
  | .destroyToken => .destroyToken
  | .cloneToken => .cloneToken
  | .getProperties => .getProperties
  | .updateProperties => .updateProperties
  | .openHandle => .openHandle
  | .closeHandle => .closeHandle
  | .resetHandle => .resetHandle
  | .getHandleProperties => .getHandleProperties
  | .mapMmio => .mapMmio
  | .unmapMmio => .unmapMmio
  | .readMmio32 => .readMmio32
  | .writeMmio32 => .writeMmio32
  | .readMmio64 => .readMmio64
  | .writeMmio64 => .writeMmio64
  | .readMmio512 => .readMmio512
  | .writeMmio512 => .writeMmio512
  | .prepareBuffer => .prepareBuffer
  | .releaseBuffer => .releaseBuffer
  | .getIoAddress => .getIoAddress
  | .readError => .readError
  | .getErrorInfo => .getErrorInfo
  | .clearError => .clearError
  | .clearAllErrors => .clearAllErrors
  | .tokenGetObject => .tokenGetObject
  | .handleGetObject => .handleGetObject
  | .destroyObject => .destroyObject
  | .objectGetType => .objectGetType
  | .objectGetName => .objectGetName
  | .objectGetSize => .objectGetSize
  | .objectRead => .objectRead
  | .objectRead64 => .objectRead64
  | .objectWrite64 => .objectWrite64
  | .objectGetObject => .objectGetObject
  | .objectGetObjectAt => .objectGetObjectAt
  | .setUserClock => .setUserClock
  | .getUserClock => .getUserClock
  | .getNumMetrics => .getNumMetrics
  | .getMetricsInfo => .getMetricsInfo
  | .getMetricsByIndex => .getMetricsByIndex
  | .getMetricsByName => .getMetricsByName
  | .getMetricThresholds => .getMetricThresholds
  | .reconfigureSlot => .reconfigureSlot
  | .bufferFill => .bufferWrite
  | .bufferWrite => .bufferWrite
  | .bufferRead => .bufferRead
  | .bufferPoll => .bufferRead
  | .bufferCompare => .bufferRead
  | .bufferPattern => .bufferWrite

namespace Service

/-- A service that ends with the failure that is armed for its first call. -/
def FailsAt (s : Service α) (b : Broker cards) (kind : CallKind) : Prop :=
  ∀ fault, b.device.armed kind = some fault →
    exec s b = (.error fault, (b.disarm kind).recount (b.device.calls + 1))

/-- A service that does as its vetting says: it is refused, or its first call
is of the given kind. -/
structure Vetted (s : Service α) (b : Broker cards) (kind : CallKind)
    (verdict : Except Fault Unit) : Prop where
  refused : ∀ fault, verdict = .error fault → Refuses s b fault
  passed : verdict = .ok () → FailsAt s b kind

variable {b : Broker cards} {kind : CallKind} {verdict : Except Fault Unit}

theorem vetted_device (call : DeviceCall) : Vetted (device call) b call.kind (.ok ()) where
  refused fault h := by cases h
  passed _ fault h := by
    rw [exec_device, Simulator.call_of_armed h]
    rfl

theorem Vetted.bind {s : Service α} (h : Vetted s b kind verdict) (next : α → Service β) :
    Vetted (s >>= next) b kind verdict where
  refused fault hv := (h.refused fault hv).bind next
  passed hv fault harmed := exec_bind_of_error next (h.passed hv fault harmed)

/-- A check that is the last one is followed by passing. -/
theorem Vetted.last {s : Service α} (h : Vetted s b kind (verdict >>= fun _ => .ok ())) :
    Vetted s b kind verdict := by
  cases verdict <;> exact h

/-- After a service that answers and changes nothing, what follows is vetted. -/
theorem Vetted.after {s : Service α} {value : α} {next : α → Service β}
    (hs : exec s b = (.ok value, b)) (h : Vetted (next value) b kind verdict) :
    Vetted (s >>= next) b kind verdict where
  refused fault hv := (exec_bind_of_ok next hs).trans (h.refused fault hv)
  passed hv fault harmed := (exec_bind_of_ok next hs).trans (h.passed hv fault harmed)

theorem vetted_refuses {s : Service α} {fault : Fault} (h : Refuses s b fault) :
    Vetted s b kind (.error fault) where
  refused fault' hv := by
    obtain rfl := Except.error.inj hv
    exact h
  passed hv := by cases hv

theorem vetted_lookup_bind {cls : ResourceClass} {id : RemoteId} {next : cls.Entry → Service α}
    {verdict : cls.Entry → Except Fault Unit}
    (h : ∀ entry, (b.registry.map cls).find? id = some entry →
      Vetted (next entry) b kind (verdict entry)) :
    Vetted (lookup cls id >>= next) b kind (b.resolve cls id >>= verdict) := by
  cases hf : (b.registry.map cls).find? id with
  | none =>
    rw [Broker.resolve_bind_of_none hf]
    exact vetted_refuses ((refuses_lookup hf).bind next)
  | some entry =>
    rw [Broker.resolve_bind_of_some hf]
    exact .after (exec_lookup_of_some hf) (h entry hf)

theorem vetted_require_bind {condition : Bool} {fault : Fault} {next : Unit → Service α}
    (h : condition = true → Vetted (next ()) b kind verdict) :
    Vetted (require condition fault >>= next) b kind
      (Broker.ensure condition fault >>= fun _ => verdict) := by
  cases condition with
  | false => exact vetted_refuses (exec_require_bind false fault next b)
  | true => exact .after (exec_require true fault b) (h rfl)

theorem vetted_lookupOwned_bind {cls : ResourceClass} {id owner : RemoteId}
    {next : cls.Entry → Service α} {verdict : cls.Entry → Except Fault Unit}
    (h : ∀ entry, Vetted (next entry) b kind (verdict entry)) :
    Vetted (lookupOwned cls id owner >>= next) b kind
      (b.resolveOwned cls id owner >>= verdict) := by
  unfold lookupOwned Broker.resolveOwned
  rw [bind_assoc, bind_assoc]
  refine vetted_lookup_bind fun entry _ => ?_
  rw [bind_assoc, bind_assoc]
  exact vetted_require_bind fun _ => h entry

theorem vetted_bufferRange_bind {handleId bufferId : RemoteId} {offset count : UInt64}
    {next : HandleEntry × BufferEntry → Service α}
    (h : ∀ handle buffer, Vetted (next (handle, buffer)) b kind verdict) :
    Vetted (bufferRange handleId bufferId offset count >>= next) b kind
      (b.vetRange handleId bufferId offset count >>= fun _ => verdict) := by
  unfold bufferRange Broker.vetRange
  rw [bind_assoc, bind_assoc]
  refine vetted_lookup_bind fun handle _ => ?_
  rw [bind_assoc, bind_assoc]
  refine vetted_lookupOwned_bind fun buffer => ?_
  rw [bind_assoc]
  exact vetted_require_bind fun _ => h handle buffer

theorem vetted_importFilter_bind {next : Properties NativeToken → Service α}
    (filter : Properties RemoteId) (h : ∀ native, Vetted (next native) b kind verdict) :
    Vetted (importFilter filter >>= next) b kind
      (match filter.parent with
        | none => verdict
        | some parent => b.resolve .token parent >>= fun _ => verdict) := by
  unfold importFilter Properties.mapParentM
  cases filter.parent with
  | none => exact h _
  | some parent =>
    simp only [bind_assoc, pure_bind]
    exact vetted_lookup_bind fun entry _ => h _

theorem vetted_importFilters_bind {next : List (Properties NativeToken) → Service α}
    (filters : List (Properties RemoteId)) (h : ∀ natives, Vetted (next natives) b kind (.ok ())) :
    Vetted (filters.mapM importFilter >>= next) b kind
      (b.resolveAll (filters.filterMap fun filter => filter.parent.map (Prod.mk .token))) := by
  induction filters generalizing next with
  | nil => exact h []
  | cons filter rest ih =>
    rw [List.mapM_cons, bind_assoc]
    have hfirst := vetted_importFilter_bind filter fun native =>
      ih fun natives => h (native :: natives)
    simp only [bind_assoc, pure_bind, List.filterMap_cons]
    cases hp : filter.parent with
    | none =>
      rw [hp] at hfirst
      exact hfirst
    | some parent =>
      rw [hp] at hfirst
      exact hfirst

theorem vetted_teardown {cls : ResourceClass} {id : RemoteId} {destroy : cls.Entry → Service Unit}
    {verdict : cls.Entry → Except Fault Unit} (hd : ∀ entry, DeviceOnly (destroy entry))
    (h : ∀ entry, Vetted (destroy entry) b kind (verdict entry)) :
    Vetted (teardown cls id destroy) b kind (b.resolveUnclaimed cls id >>= verdict) := by
  cases hf : (b.registry.map cls).find? id with
  | none =>
    rw [Broker.resolveUnclaimed, bind_assoc, Broker.resolve_bind_of_none hf]
    exact vetted_refuses (refuses_teardown destroy hf)
  | some entry =>
    obtain ⟨hv, ⟨_, claimed⟩, hs, rfl⟩ := IdentityMap.slots_of_find? hf
    have hclaimed : (b.registry.map cls).claimed id = claimed := by
      rw [IdentityMap.claimed, hs]
      rfl
    rw [Broker.resolveUnclaimed_bind_of_some hf, hclaimed]
    cases claimed with
    | true => exact vetted_refuses (exec_teardown_of_claimed destroy hv hs)
    | false =>
      have hexec := exec_teardown_of_unclaimed (hd _) hv hs
      refine ⟨fun fault hverdict => ?_, fun hverdict fault harmed => ?_⟩
      · have hrefused : exec _ b = _ := (h _).refused fault hverdict
        rw [hrefused] at hexec
        exact hexec
      · rw [(h _).passed hverdict fault harmed] at hexec
        exact hexec

end Service

open Service

/-- Serving a request does as the vetting of the request says. -/
theorem Request.vetted_serve (b : Broker cards) (request : Request) :
    Vetted (request.serve b.payloadLimit) b request.operation.firstCall (b.vet request) := by
  cases request with
  | enumerate filters maxTokens =>
    exact vetted_importFilters_bind filters fun natives => (vetted_device _).bind _
  | destroyToken tokenId =>
    exact vetted_teardown (fun _ => deviceOnly_device _) fun entry => vetted_device _
  | closeHandle handleId =>
    exact (vetted_teardown (fun _ => deviceOnly_device _) fun entry => vetted_device _).bind _
  | destroyObject objectId =>
    exact vetted_teardown (fun _ => deviceOnly_device _) fun entry => vetted_device _
  | unmapMmio handleId mappingId region =>
    refine vetted_lookup_bind fun handle _ => vetted_teardown (fun mapping => ?_) fun mapping => ?_
    · exact deviceOnly_require_bind (deviceOnly_require_bind (deviceOnly_device _))
    · exact vetted_require_bind fun _ => (vetted_require_bind fun _ => vetted_device _).last
  | releaseBuffer handleId bufferId =>
    refine vetted_lookup_bind fun handle _ => vetted_teardown (fun buffer => ?_) fun buffer => ?_
    · exact deviceOnly_require_bind (deviceOnly_device _)
    · exact (vetted_require_bind fun _ => vetted_device _).last
  | getIoAddress handleId bufferId =>
    exact vetted_lookup_bind fun handle _ => vetted_lookupOwned_bind fun buffer => vetted_device _
  | writeMmio512 handleId region offset values =>
    refine vetted_lookup_bind fun handle _ => vetted_require_bind fun _ => ?_
    cases Word512.ofList? values with
    | none => exact vetted_refuses rfl
    | some word => exact vetted_device _
  | objectRead objectId offset length flags =>
    exact vetted_lookup_bind fun object _ =>
      (vetted_require_bind fun _ => (vetted_device _).bind _).last
  | bufferFill handleId bufferId offset byte count =>
    exact (vetted_bufferRange_bind fun _ _ => vetted_device _).last
  | bufferWrite handleId bufferId offset source count =>
    exact vetted_require_bind fun _ => vetted_require_bind fun _ =>
      (vetted_bufferRange_bind fun _ _ => vetted_device _).last
  | bufferRead handleId bufferId offset count =>
    exact vetted_require_bind fun _ =>
      (vetted_bufferRange_bind fun _ _ => (vetted_device _).bind _).last
  | bufferPoll handleId bufferId offset width mask expected sleepMicros attempts =>
    -- At least one attempt is made, and an attempt starts with reading.
    have hattempts : max attempts.toNat 1 = max attempts.toNat 1 - 1 + 1 := by omega
    refine vetted_require_bind fun _ => (vetted_bufferRange_bind fun handle buffer => ?_).last
    dsimp only
    rw [hattempts]
    exact (vetted_device _).bind _
  | bufferCompare handleId firstId firstOffset secondId secondOffset count =>
    exact vetted_bufferRange_bind fun _ _ =>
      (vetted_bufferRange_bind fun _ _ => (vetted_device _).bind _).last
  | bufferPattern handleId bufferId pattern =>
    refine vetted_lookup_bind fun handle _ => vetted_lookupOwned_bind fun buffer => ?_
    cases FillPattern.ofName? pattern with
    | none => exact vetted_refuses rfl
    | some pattern => exact vetted_device _
  | readMmio32 | writeMmio32 | readMmio64 | writeMmio64 | readMmio512 | resetHandle | readError
  | getErrorInfo | clearError | clearAllErrors | objectGetType | objectGetName | objectGetSize
  | objectRead64 | objectWrite64 | setUserClock | getUserClock | getNumMetrics
  | reconfigureSlot => exact vetted_lookup_bind fun entry _ => vetted_device _
  | _ => exact vetted_lookup_bind fun entry _ => (vetted_device _).bind _

/-- A request that the broker refuses is answered with the fault and leaves the
broker as it was; the driver is not called. -/
theorem Broker.handle_of_vet_error {b : Broker cards} {request : Request} {fault : Fault}
    (h : b.vet request = .error fault) :
    b.handle request = (.answer request.operation (.error fault), b) ∧
      (request.program b.payloadLimit).calls b = [] := by
  have hexec : exec (request.serve b.payloadLimit) b = (.error fault, b) :=
    (request.vetted_serve b).refused fault h
  have hhandle : b.handle request = (.answer request.operation (.error fault), b) := by
    rw [handle_eq, hexec]
    rfl
  exact ⟨hhandle, Program.calls_eq_nil (congrArg Prod.snd hhandle)⟩

end DeviceBroker
