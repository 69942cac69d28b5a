import DeviceBroker.Proofs.Broker.Deeds

/-!
# The conduct of requests

Every request obeys a rule of its own. A teardown calls the driver at most
once, and only while it holds a claim. A handle is named to the driver by the
native value that its identifier resolved to, and it is closed only by the
teardown of it, or by the request that has opened it in vain. A handle is
registered once by whoever has opened it, and a child for an owner that was
looked up.
-/

namespace DeviceBroker

variable {α β : Type}

/-! ## The rule of a request -/

/-- The native handle that a call names. -/
def DeviceCall.handle? : DeviceCall → Option NativeHandle
  | .closeHandle handle => some handle
  | .resetHandle handle => some handle
  | .getHandleProperties handle => some handle
  | .mapMmio handle _ => some handle
  | .unmapMmio handle _ => some handle
  | .readMmio32 handle _ _ => some handle
  | .writeMmio32 handle _ _ _ => some handle
  | .readMmio64 handle _ _ => some handle
  | .writeMmio64 handle _ _ _ => some handle
  | .readMmio512 handle _ _ => some handle
  | .writeMmio512 handle _ _ _ => some handle
  | .prepareBuffer handle _ _ _ => some handle
  | .releaseBuffer handle _ => some handle
  | .getIoAddress handle _ => some handle
  | .bufferRead handle _ _ _ => some handle
  | .bufferWrite handle _ _ _ => some handle
  | .handleGetObject handle _ _ => some handle
  | .setUserClock handle _ _ _ => some handle
  | .getUserClock handle _ => some handle
  | .getNumMetrics handle => some handle
  | .getMetricsInfo handle _ => some handle
  | .getMetricsByIndex handle _ => some handle
  | .getMetricsByName handle _ => some handle
  | .getMetricThresholds handle _ => some handle
  | .reconfigureSlot handle _ _ _ => some handle
  | _ => none

/-- A call destroys what an entry stands for. -/
def DeviceCall.Destroys (call : DeviceCall) : (cls : ResourceClass) → cls.Entry → Prop
  | .token, entry => call = .destroyToken entry.token
  | .handle, entry => call = .closeHandle entry.handle
  | .mapping, entry => ∃ handle, call = .unmapMmio handle entry.region
  | .buffer, entry => ∃ handle, call = .releaseBuffer handle entry.workspace
  | .object, entry => call = .destroyObject entry.object

section Past

variable (past : List Deed)

/-- A claim was granted, and was not settled since. -/
structure Holding (cls : ResourceClass) (id : RemoteId) (entry : cls.Entry) : Prop where
  granted : ⟨.claim cls id, .ok entry⟩ ∈ past
  unsettled : ∀ how settled, ⟨.settle cls id how, settled⟩ ∉ past

/-- The driver was not called. -/
def Idle : Prop := ∀ call answer, ⟨.call call, answer⟩ ∉ past

/-- A call of the driver has succeeded. -/
def Succeeded : Prop := ∃ call value, ⟨.call call, .ok value⟩ ∈ past

/-- An identifier has resolved to the entry of a handle, looked up or claimed. -/
def Resolved (id : RemoteId) (entry : HandleEntry) : Prop :=
  ⟨.find .handle id, some entry⟩ ∈ past ∨ ⟨.claim .handle id, .ok entry⟩ ∈ past

/-- A native handle was opened. -/
def Opened (native : NativeHandle) : Prop :=
  ∃ token flags, ⟨.call (.openHandle token flags), .ok native⟩ ∈ past

/-- What is registered rests on what was done: a handle was opened, and none was
registered yet; the owner of a child was looked up. -/
def Founded : (cls : ResourceClass) → cls.Entry → Prop
  | .token, _ => True
  | .handle, entry =>
    Opened past entry.handle ∧ ∀ entry' answer, ⟨.register .handle entry', answer⟩ ∉ past
  | .mapping, entry => ∃ handle, ⟨.find .handle entry.owner, some handle⟩ ∈ past
  | .buffer, entry => ∃ handle, ⟨.find .handle entry.owner, some handle⟩ ∈ past
  | .object, _ => True

/-- The handle that a request names was looked up, and this is its native value. -/
def Request.Names (request : Request) (native : NativeHandle) : Prop :=
  ∃ id entry, request.handle? = some id ∧ ⟨.find .handle id, some entry⟩ ∈ past ∧
    entry.handle = native

/-- The native handle is the one that the named identifier has resolved to; a
request that names no handle can only have opened it. -/
def Request.Reaches (request : Request) (native : NativeHandle) : Prop :=
  match request.handle? with
  | some id => ∃ entry, Resolved past id entry ∧ entry.handle = native
  | none => Opened past native

/-- What only some requests may call: a handle is opened before anything else is
called; a handle is closed and a region unmapped by the request for that, or by
the request that has opened or mapped it, because no identifier could be had. -/
def Request.Issues (request : Request) : DeviceCall → Prop
  | .openHandle _ _ => Idle past
  | .closeHandle native =>
    (∃ id, request = .closeHandle id) ∨
      ∃ tokenId flags, request = .openHandle tokenId flags ∧
        ⟨.register .handle ⟨native, tokenId⟩, none⟩ ∈ past
  | .mapMmio _ region => ∃ owner, request = .mapMmio owner region
  | .unmapMmio _ region =>
    (∃ owner id, request = .unmapMmio owner id region) ∨
      ∃ owner base, request = .mapMmio owner region ∧
        ⟨.register .mapping ⟨owner, region, base⟩, none⟩ ∈ past
  | _ => True

/-- What a request may do next. -/
def Request.Permits (request : Request) : Action → Prop
  | .find _ _ => True
  | .intern _ => True
  | .claim cls id =>
    request.target? = some (cls, id) ∧ ∀ how settled, ⟨.settle cls id how, settled⟩ ∉ past
  | .settle cls id how =>
    request.target? = some (cls, id) ∧ (∃ entry, Holding past cls id entry) ∧
      (how = .commit ↔ Succeeded past)
  | .register cls entry => Founded past cls entry
  | .removeOwned _ owner =>
    request.target? = some (.handle, owner) ∧
      ∃ settled, ⟨.settle .handle owner .commit, settled⟩ ∈ past
  | .call call =>
    request.Issues past call ∧
      (∀ native, call.handle? = some native → request.Reaches past native) ∧
      ∀ cls id, request.target? = some (cls, id) →
        Idle past ∧ ∃ entry, Holding past cls id entry ∧ call.Destroys cls entry

/-- Why a teardown that has not called the driver is refused. -/
inductive Request.Refusal (request : Request) (cls : ResourceClass) (id : RemoteId) : Fault → Prop
  /-- The handle that it names is not live. -/
  | ownerless (owner : RemoteId) (hh : request.handle? = some owner)
      (h : ⟨.find .handle owner, none⟩ ∈ past) : Refusal request cls id .invalidParam
  /-- What is to be destroyed is not live. -/
  | absent (h : ⟨.claim cls id, .error .absent⟩ ∈ past) : Refusal request cls id .invalidParam
  /-- Another claim is held on it. -/
  | busy (h : ⟨.claim cls id, .error .busy⟩ ∈ past) : Refusal request cls id .busy
  /-- The handle that it names is not the owner; the claim is given back. -/
  | foreign (entry : cls.Entry) (owner : RemoteId) (hh : request.handle? = some owner)
      (h : ⟨.claim cls id, .ok entry⟩ ∈ past) (ho : cls.owner? entry ≠ some owner)
      (settled : Bool) (hs : ⟨.settle cls id .release, settled⟩ ∈ past) :
      Refusal request cls id .notFound
  /-- It names a region that is not the one mapped; the claim is given back. -/
  | misnamed (entry : MappingEntry) (h : ⟨.claim .mapping id, .ok entry⟩ ∈ past)
      (owner : RemoteId) (region : UInt32) (hr : request = .unmapMmio owner id region)
      (hne : entry.region ≠ region)
      (settled : Bool) (hs : ⟨.settle .mapping id .release, settled⟩ ∈ past) :
      Refusal request cls id .invalidParam

/-- How a teardown may end. -/
structure Request.Ends (request : Request) (cls : ResourceClass) (id : RemoteId) (reply : Reply) :
    Prop where
  /-- A claim that was granted is settled by what came of the call of the driver. -/
  settled : ∀ entry, ⟨.claim cls id, .ok entry⟩ ∈ past →
    ∃ how settled, ⟨.settle cls id how, settled⟩ ∈ past ∧ (how = .commit ↔ Succeeded past)
  /-- Success is reported exactly if the call of the driver has succeeded. -/
  status : reply.status? = some .success ↔ Succeeded past
  /-- Without a call of the driver there is a reason. -/
  refused : Idle past → ∃ fault, reply = .ofResult request.operation (.error fault) ∧
    request.Refusal past cls id fault
  /-- A handle that is removed takes along what it owns. -/
  cascaded : ∀ settled, ⟨.settle .handle id .commit, settled⟩ ∈ past →
    (∃ gone, ⟨.removeOwned .mapping id, gone⟩ ∈ past) ∧
      ∃ gone, ⟨.removeOwned .buffer id, gone⟩ ∈ past

/-- How a request may end. -/
def Request.Accepts (request : Request) (reply : Reply) : Prop :=
  ∀ cls id, request.target? = some (cls, id) → request.Ends past cls id reply

end Past

theorem Opened.append {past : List Deed} {native : NativeHandle} (h : Opened past native)
    (more : List Deed) : Opened (past ++ more) native := by
  obtain ⟨token, flags, hm⟩ := h
  exact ⟨token, flags, List.mem_append_left _ hm⟩

theorem Resolved.append {past : List Deed} {id : RemoteId} {entry : HandleEntry}
    (h : Resolved past id entry) (more : List Deed) : Resolved (past ++ more) id entry :=
  h.imp (List.mem_append_left _) (List.mem_append_left _)

theorem Request.Names.append {past : List Deed} {request : Request} {native : NativeHandle}
    (h : request.Names past native) (more : List Deed) : request.Names (past ++ more) native := by
  obtain ⟨id, entry, hh, hm, hn⟩ := h
  exact ⟨id, entry, hh, List.mem_append_left _ hm, hn⟩

theorem Request.Names.reaches {past : List Deed} {request : Request} {native : NativeHandle}
    (h : request.Names past native) : request.Reaches past native := by
  obtain ⟨id, entry, hh, hm, hn⟩ := h
  unfold Request.Reaches
  rw [hh]
  exact ⟨entry, .inl hm, hn⟩

/-! ## Requests that destroy nothing -/

namespace Service

/-- A service of a request that is no teardown. It names at most one native
handle, which the request has looked up before. -/
def Modest (request : Request) (native? : Option NativeHandle) (s : Service α) : Prop :=
  ∀ past, (∀ native, native? = some native → request.Names past native) →
    s.Obeys request.Permits (fun past' _ => ∃ more, past' = past ++ more) past

section

variable {request : Request} {native? : Option NativeHandle}

theorem modest_pure (value : α) : Modest request native? (pure value : Service α) :=
  fun past _ => ⟨[], (List.append_nil past).symm⟩

theorem modest_throw (fault : Fault) : Modest request native? (throw fault : Service α) :=
  fun past _ => ⟨[], (List.append_nil past).symm⟩

theorem modest_require (condition : Bool) (fault : Fault) :
    Modest request native? (require condition fault) :=
  fun past _ => ⟨[], (List.append_nil past).symm⟩

theorem Modest.bind {s : Service α} {next : α → Service β} (hs : Modest request native? s)
    (hn : ∀ value, Modest request native? (next value)) :
    Modest request native? (s >>= next) := by
  intro past hp
  refine obeys_bind ((hs past hp).mono fun past' result hmore => ?_)
  obtain ⟨more, rfl⟩ := hmore
  cases result with
  | error fault => exact ⟨more, rfl⟩
  | ok value =>
    refine (hn value (past ++ more) fun native he => (hp native he).append more).mono ?_
    rintro past'' - ⟨rest, rfl⟩
    exact ⟨more ++ rest, List.append_assoc _ _ _⟩

theorem modest_lookup (cls : ResourceClass) (id : RemoteId) :
    Modest request native? (lookup cls id) := by
  refine fun past _ => ⟨trivial, fun answer => ?_⟩
  cases answer with
  | none => exact ⟨_, rfl⟩
  | some entry => exact ⟨_, rfl⟩

/-- From the look-up of the handle that a request names it may name its native value. -/
theorem modest_lookup_bind {id : RemoteId} {next : HandleEntry → Service α}
    (hh : request.handle? = some id)
    (hn : ∀ entry, Modest request (some entry.handle) (next entry)) :
    Modest request native? (lookup .handle id >>= next) := by
  intro past _
  refine obeys_lookup_bind trivial ⟨_, rfl⟩ fun entry => ?_
  refine (hn entry (past ++ [⟨.find .handle id, some entry⟩]) ?_).mono ?_
  · intro native he
    cases he
    exact ⟨id, entry, hh, List.mem_append_right _ (List.mem_singleton_self _), rfl⟩
  · rintro past' - ⟨more, rfl⟩
    exact ⟨_ :: more, List.append_assoc _ _ _⟩

theorem permits_call {past : List Deed} {call : DeviceCall} (ht : request.target? = none)
    (hi : request.Issues past call)
    (hc : ∀ native, call.handle? = some native → request.Names past native) :
    request.Permits past (.call call) := by
  refine ⟨hi, fun native h => (hc native h).reaches, fun cls id h => ?_⟩
  rw [ht] at h
  cases h

theorem modest_call {call : DeviceCall} (ht : request.target? = none) (hc : call.handle? = none)
    (hi : ∀ past, request.Issues past call) : Modest request native? (device call) := by
  refine fun past _ => ⟨permits_call ht (hi past) fun native h => ?_, fun answer => ⟨_, rfl⟩⟩
  rw [hc] at h
  cases h

theorem modest_call_through {call : DeviceCall} {native : NativeHandle}
    (ht : request.target? = none) (hc : call.handle? = some native)
    (hi : ∀ past, request.Issues past call) : Modest request (some native) (device call) := by
  refine fun past hp => ⟨permits_call ht (hi past) fun other h => ?_, fun answer => ⟨_, rfl⟩⟩
  exact hp other (hc.symm.trans h)

theorem modest_call_bind {call : DeviceCall} {next : call.Value → Service α}
    (ht : request.target? = none) (hc : call.handle? = none)
    (hi : ∀ past, request.Issues past call) (hn : ∀ value, Modest request native? (next value)) :
    Modest request native? (device call >>= next) :=
  (modest_call ht hc hi).bind hn

theorem modest_call_through_bind {call : DeviceCall} {native : NativeHandle}
    {next : call.Value → Service α} (ht : request.target? = none)
    (hc : call.handle? = some native) (hi : ∀ past, request.Issues past call)
    (hn : ∀ value, Modest request (some native) (next value)) :
    Modest request (some native) (device call >>= next) :=
  (modest_call_through ht hc hi).bind hn

theorem modest_lookupOwned (cls : ResourceClass) (id owner : RemoteId) :
    Modest request native? (lookupOwned cls id owner) :=
  (modest_lookup cls id).bind fun _ => (modest_require _ _).bind fun _ => modest_pure _

theorem modest_bufferRange (handleId bufferId : RemoteId) (offset count : UInt64) :
    Modest request native? (bufferRange handleId bufferId offset count) :=
  (modest_lookup _ _).bind fun _ => (modest_lookupOwned _ _ _).bind fun _ =>
    (modest_require _ _).bind fun _ => modest_pure _

theorem modest_bufferRange_bind {handleId bufferId : RemoteId} {offset count : UInt64}
    {next : HandleEntry × BufferEntry → Service α} (hh : request.handle? = some handleId)
    (hn : ∀ found, Modest request (some found.1.handle) (next found)) :
    Modest request native? (bufferRange handleId bufferId offset count >>= next) := by
  unfold bufferRange
  rw [bind_assoc]
  refine modest_lookup_bind hh fun handle => ?_
  rw [bind_assoc]
  refine (modest_lookupOwned _ _ _).bind fun buffer => ?_
  rw [bind_assoc]
  exact (modest_require _ _).bind fun _ => hn (handle, buffer)

theorem modest_poll {native : NativeHandle} (ht : request.target? = none) (workspace : Nat)
    (offset : UInt64) (width : UInt32) (mask expected : UInt64) (attempts : Nat) :
    Modest request (some native) (poll native workspace offset width mask expected attempts) := by
  induction attempts with
  | zero => exact modest_throw _
  | succ attempts ih =>
    refine modest_call_through_bind ht rfl (fun _ => trivial) fun data => ?_
    split
    · exact modest_pure _
    · exact ih

theorem modest_intern (token : NativeToken) : Modest request native? (intern token) := by
  refine fun past _ => ⟨trivial, fun answer => ?_⟩
  cases answer with
  | none => exact ⟨_, rfl⟩
  | some registration => exact ⟨_, rfl⟩

theorem modest_exportToken (ht : request.target? = none) (native : NativeHeader) :
    Modest request native? (exportToken native) := by
  refine fun past hp => ⟨trivial, fun answer => ?_⟩
  cases answer with
  | some registration => exact ⟨_, rfl⟩
  | none =>
    exact ⟨permits_call ht trivial nofun, fun answer => ⟨_, List.append_assoc _ _ _⟩⟩

theorem modest_mapParentM {ρ σ : Type} {f : ρ → Service σ}
    (hf : ∀ parent, Modest request native? (f parent)) (properties : Properties ρ) :
    Modest request native? (properties.mapParentM f) := by
  unfold Properties.mapParentM
  split
  · exact modest_pure _
  · exact (hf _).bind fun _ => modest_pure _

theorem Modest.mapM {s : α → Service β} (h : ∀ value, Modest request native? (s value))
    (values : List α) : Modest request native? (values.mapM s) := by
  induction values with
  | nil => exact modest_pure _
  | cons value rest ih =>
    rw [List.mapM_cons]
    exact (h value).bind fun _ => ih.bind fun _ => modest_pure _

theorem modest_registerObject (ht : request.target? = none) (object : NativeObject) :
    Modest request native? (registerObject object) := by
  intro past hp
  exact obeys_registerOrUndo trivial (fun id => ⟨_, rfl⟩) (permits_call ht trivial nofun)
    fun answer => ⟨_, List.append_assoc _ _ _⟩

/-- A child is registered for the handle that the request has looked up. -/
theorem modest_registerChild {cls : ResourceClass} {entry : cls.Entry} {undo : DeviceCall}
    {native : NativeHandle} (ht : request.target? = none) (hu : undo.handle? = some native)
    (hi : ∀ past, request.Issues (past ++ [⟨.register cls entry, none⟩]) undo)
    (hf : ∀ past, request.Names past native → Founded past cls entry) :
    Modest request (some native) (registerOrUndo cls entry undo) := by
  intro past hp
  refine obeys_registerOrUndo (hf past (hp native rfl)) (fun id => ⟨_, rfl⟩)
    (permits_call ht (hi past) fun other h => ?_) fun answer => ⟨_, List.append_assoc _ _ _⟩
  exact (hp other (hu.symm.trans h)).append _

end

end Service

open Service

/-- A request that is no teardown and opens no handle may do all that it does. -/
theorem Request.modest_serve {request : Request} (ht : request.target? = none)
    (ho : ∀ tokenId flags, request ≠ .openHandle tokenId flags) (limit : UInt64) :
    Modest request none (request.serve limit) := by
  cases request with
  | destroyToken | closeHandle | unmapMmio | releaseBuffer | destroyObject => cases ht
  | enumerate filters maxTokens =>
    refine (Modest.mapM (modest_mapParentM fun id => ?_) filters).bind fun natives => ?_
    · exact (modest_lookup _ _).bind fun _ => modest_pure _
    · refine modest_call_bind rfl rfl (fun _ => trivial) fun listing => ?_
      exact (Modest.mapM (modest_exportToken rfl) _).bind fun _ => modest_pure _
  | cloneToken =>
    exact (modest_lookup _ _).bind fun _ => modest_call_bind rfl rfl (fun _ => trivial) fun _ =>
      modest_exportToken rfl _
  | getProperties | updateProperties =>
    exact (modest_lookup _ _).bind fun _ =>
      modest_call_bind rfl rfl (fun _ => trivial) fun properties =>
        modest_mapParentM modest_intern properties
  | getHandleProperties =>
    exact modest_lookup_bind rfl fun entry => modest_call_through_bind rfl rfl (fun _ => trivial)
      fun properties => modest_mapParentM modest_intern properties
  | openHandle tokenId flags => exact absurd rfl (ho tokenId flags)
  | mapMmio handleId region =>
    refine modest_lookup_bind rfl fun entry =>
      modest_call_through_bind rfl rfl (fun _ => ⟨handleId, rfl⟩) fun base => ?_
    refine modest_registerChild rfl rfl (fun past => .inr ⟨handleId, base, rfl, by simp⟩)
      fun past hn => ?_
    obtain ⟨id, handle, hh, hm, -⟩ := hn
    cases hh
    exact ⟨handle, hm⟩
  | prepareBuffer handleId length address flags =>
    refine modest_lookup_bind rfl fun entry =>
      modest_call_through_bind rfl rfl (fun _ => trivial) fun prepared => ?_
    refine modest_registerChild rfl rfl (fun _ => trivial) fun past hn => ?_
    obtain ⟨id, handle, hh, hm, -⟩ := hn
    cases hh
    exact ⟨handle, hm⟩
  | writeMmio512 handleId region offset values =>
    refine modest_lookup_bind rfl fun entry => (modest_require _ _).bind fun _ => ?_
    split
    · exact modest_throw _
    · exact modest_call_through rfl rfl fun _ => trivial
  | getIoAddress =>
    exact modest_lookup_bind rfl fun entry => (modest_lookupOwned _ _ _).bind fun _ =>
      modest_call_through rfl rfl fun _ => trivial
  | tokenGetObject | objectGetObject | objectGetObjectAt =>
    exact (modest_lookup _ _).bind fun _ =>
      modest_call_bind rfl rfl (fun _ => trivial) fun object => modest_registerObject rfl object
  | handleGetObject =>
    exact modest_lookup_bind rfl fun entry => modest_call_through_bind rfl rfl (fun _ => trivial)
      fun object => modest_registerObject rfl object
  | objectRead =>
    exact (modest_lookup _ _).bind fun _ => (modest_require _ _).bind fun _ =>
      modest_call_bind rfl rfl (fun _ => trivial) fun _ => modest_pure _
  | getMetricsInfo | getMetricsByIndex | getMetricsByName | getMetricThresholds =>
    exact modest_lookup_bind rfl fun entry => modest_call_through_bind rfl rfl (fun _ => trivial)
      fun _ => modest_pure _
  | bufferFill =>
    exact modest_bufferRange_bind rfl fun ⟨handle, buffer⟩ =>
      modest_call_through rfl rfl fun _ => trivial
  | bufferWrite =>
    exact (modest_require _ _).bind fun _ => (modest_require _ _).bind fun _ =>
      modest_bufferRange_bind rfl fun ⟨handle, buffer⟩ =>
        modest_call_through rfl rfl fun _ => trivial
  | bufferRead =>
    exact (modest_require _ _).bind fun _ => modest_bufferRange_bind rfl fun ⟨handle, buffer⟩ =>
      modest_call_through_bind rfl rfl (fun _ => trivial) fun _ => modest_pure _
  | bufferPoll =>
    exact (modest_require _ _).bind fun _ => modest_bufferRange_bind rfl fun ⟨handle, buffer⟩ =>
      modest_poll rfl _ _ _ _ _ _
  | bufferCompare =>
    exact modest_bufferRange_bind rfl fun ⟨handle, buffer⟩ =>
      (modest_bufferRange _ _ _ _).bind fun _ =>
        modest_call_through_bind rfl rfl (fun _ => trivial) fun _ =>
          modest_call_through_bind rfl rfl (fun _ => trivial) fun _ => modest_pure _
  | bufferPattern =>
    refine modest_lookup_bind rfl fun entry => (modest_lookupOwned _ _ _).bind fun buffer => ?_
    split
    · exact modest_throw _
    · exact modest_call_through rfl rfl fun _ => trivial
  | resetHandle | readMmio32 | writeMmio32 | readMmio64 | writeMmio64 | readMmio512 | setUserClock
  | getUserClock | getNumMetrics | reconfigureSlot =>
    exact modest_lookup_bind rfl fun entry => modest_call_through rfl rfl fun _ => trivial
  | readError | getErrorInfo | clearError | clearAllErrors | objectGetType | objectGetName
  | objectGetSize | objectRead64 | objectWrite64 =>
    exact (modest_lookup _ _).bind fun _ => modest_call rfl rfl fun _ => trivial

/-! ## Teardowns -/

theorem Reply.status?_ofResult_eq_success_iff {op : Operation} {result : Except Fault op.Value} :
    (Reply.ofResult op result).status? = some .success ↔ result.isOk = true := by
  cases result with
  | ok value => exact ⟨fun _ => rfl, fun _ => rfl⟩
  | error fault => exact ⟨nofun, nofun⟩

/-- Nothing but look-ups was done. -/
def Lookups (past : List Deed) : Prop :=
  ∀ deed ∈ past, ∃ cls id answer, deed = ⟨.find cls id, answer⟩

section Teardown

variable {request : Request} {cls : ResourceClass} {id : RemoteId} {before : List Deed}
  {entry : cls.Entry} {call : DeviceCall} {answer : Except Fault call.Value}

theorem Lookups.not_mem_call (hb : Lookups before) : ⟨.call call, answer⟩ ∉ before := by
  intro hm
  obtain ⟨_, _, _, h⟩ := hb _ hm
  cases h

theorem Lookups.not_mem_settle (hb : Lookups before) (cls : ResourceClass) (id : RemoteId)
    (how : Settlement) (settled : Bool) : ⟨.settle cls id how, settled⟩ ∉ before := by
  intro hm
  obtain ⟨_, _, _, h⟩ := hb _ hm
  cases h

theorem Lookups.unsettled (hb : Lookups before) (cls' : ResourceClass) (id' : RemoteId)
    (how : Settlement) (settled : Bool) :
    ⟨.settle cls' id' how, settled⟩ ∉ before ++ [⟨.claim cls id, .ok entry⟩] := by
  intro hm
  rcases List.mem_append.mp hm with hm | hm
  · exact hb.not_mem_settle cls' id' how settled hm
  · cases List.mem_singleton.mp hm

theorem Lookups.holding (hb : Lookups before) :
    Holding (before ++ [⟨.claim cls id, .ok entry⟩]) cls id entry :=
  ⟨List.mem_append_right _ (List.mem_singleton_self _), hb.unsettled cls id⟩

theorem Lookups.idle (hb : Lookups before) : Idle (before ++ [⟨.claim cls id, .ok entry⟩]) := by
  intro call answer hm
  rcases List.mem_append.mp hm with hm | hm
  · exact hb.not_mem_call hm
  · cases List.mem_singleton.mp hm

theorem Holding.append_one {past : List Deed} (h : Holding past cls id entry) {deed : Deed}
    (hd : ∀ how settled, deed ≠ ⟨.settle cls id how, settled⟩) :
    Holding (past ++ [deed]) cls id entry where
  granted := List.mem_append_left _ h.granted
  unsettled how settled hm := by
    rcases List.mem_append.mp hm with hm | hm
    · exact h.unsettled how settled hm
    · exact hd how settled (List.mem_singleton.mp hm).symm

theorem Idle.not_succeeded {past : List Deed} (h : Idle past) : ¬ Succeeded past :=
  fun ⟨call, value, hm⟩ => h call (.ok value) hm

theorem Idle.succeeded_append_iff {past : List Deed} (h : Idle past) :
    Succeeded (past ++ [⟨.call call, answer⟩]) ↔ answer.isOk = true := by
  constructor
  · rintro ⟨other, value, hm⟩
    rcases List.mem_append.mp hm with hm | hm
    · exact absurd hm (h other _)
    · cases List.mem_singleton.mp hm
      rfl
  · intro hok
    cases answer with
    | ok value => exact ⟨call, value, List.mem_append_right _ (List.mem_singleton_self _)⟩
    | error fault => cases hok

theorem succeeded_append {past more : List Deed} (h : ∀ call answer, ⟨.call call, answer⟩ ∉ more) :
    Succeeded (past ++ more) ↔ Succeeded past := by
  constructor
  · rintro ⟨call, value, hm⟩
    rcases List.mem_append.mp hm with hm | hm
    · exact ⟨call, value, hm⟩
    · exact absurd hm (h call _)
  · rintro ⟨call, value, hm⟩
    exact ⟨call, value, List.mem_append_left _ hm⟩

/-- A teardown is refused before it has called the driver. -/
theorem Request.accepts_of_refused {past : List Deed} {fault : Fault}
    (ht : request.target? = some (cls, id)) (hi : Idle past)
    (hs : ∀ entry, ⟨.claim cls id, .ok entry⟩ ∈ past →
      ∃ settled, ⟨.settle cls id .release, settled⟩ ∈ past)
    (hc : ∀ settled, ⟨.settle .handle id .commit, settled⟩ ∉ past)
    (hf : request.Refusal past cls id fault) :
    request.Accepts past (.ofResult request.operation (.error fault)) := by
  intro cls' id' ht'
  rw [ht] at ht'
  cases ht'
  refine ⟨fun entry hm => ?_, ?_, fun _ => ⟨fault, rfl, hf⟩,
    fun settled hm => absurd hm (hc settled)⟩
  · obtain ⟨settled, hm⟩ := hs entry hm
    exact ⟨.release, settled, hm, nofun, fun h => absurd h hi.not_succeeded⟩
  · rw [Reply.status?_ofResult_eq_success_iff]
    exact ⟨nofun, fun h => absurd h hi.not_succeeded⟩

/-- A teardown has called the driver, settled its claim, and done some more. -/
theorem Request.accepts_of_called {past more : List Deed} {how : Settlement} {settled : Bool}
    {result : Except Fault request.operation.Value} (ht : request.target? = some (cls, id))
    (hi : Idle past) (hr : result.isOk = answer.isOk) (hw : how = .commit ↔ answer.isOk = true)
    (hm : ∀ call answer, ⟨.call call, answer⟩ ∉ more)
    (hc : ∀ settled', ⟨.settle .handle id .commit, settled'⟩ ∈
        past ++ [⟨.call call, answer⟩] ++ ⟨.settle cls id how, settled⟩ :: more →
      (∃ gone, ⟨.removeOwned .mapping id, gone⟩ ∈ more) ∧
        ∃ gone, ⟨.removeOwned .buffer id, gone⟩ ∈ more) :
    request.Accepts (past ++ [⟨.call call, answer⟩] ++ ⟨.settle cls id how, settled⟩ :: more)
      (.ofResult request.operation result) := by
  have hcalled : ⟨.call call, answer⟩ ∈
      past ++ [⟨.call call, answer⟩] ++ ⟨.settle cls id how, settled⟩ :: more :=
    List.mem_append_left _ (List.mem_append_right _ (List.mem_singleton_self _))
  have hlater : ∀ {deed : Deed}, deed ∈ more →
      deed ∈ past ++ [⟨.call call, answer⟩] ++ ⟨.settle cls id how, settled⟩ :: more :=
    fun h => List.mem_append_right _ (List.mem_cons_of_mem _ h)
  have hsucceeded : Succeeded (past ++ [⟨.call call, answer⟩] ++
      ⟨.settle cls id how, settled⟩ :: more) ↔ answer.isOk = true := by
    rw [succeeded_append, hi.succeeded_append_iff]
    intro other value h
    rcases List.mem_cons.mp h with h | h
    · cases h
    · exact hm other value h
  intro cls' id' ht'
  rw [ht] at ht'
  cases ht'
  refine ⟨fun entry _ => ?_, ?_, fun h => absurd hcalled (h call answer), fun settled' h => ?_⟩
  · exact ⟨how, settled, List.mem_append_right _ List.mem_cons_self, hw.trans hsucceeded.symm⟩
  · rw [Reply.status?_ofResult_eq_success_iff, hr, hsucceeded]
  · obtain ⟨⟨gone, hg⟩, ⟨gone', hg'⟩⟩ := hc settled' h
    exact ⟨⟨gone, hlater hg⟩, ⟨gone', hlater hg'⟩⟩

theorem Request.permits_release {past : List Deed} (ht : request.target? = some (cls, id))
    (hi : Idle past) (hh : Holding past cls id entry) :
    request.Permits past (.settle cls id .release) :=
  ⟨ht, ⟨entry, hh⟩, nofun, fun h => absurd h hi.not_succeeded⟩

/-- A claim that was refused ends a teardown. -/
theorem Request.accepts_of_claim {refusal : ClaimRefusal} {fault : Fault}
    (ht : request.target? = some (cls, id)) (hb : Lookups before)
    (hf : request.Refusal (before ++ [⟨.claim cls id, .error refusal⟩]) cls id fault) :
    request.Accepts (before ++ [⟨.claim cls id, .error refusal⟩])
      (.ofResult request.operation (.error fault)) := by
  refine accepts_of_refused ht (fun call answer hm => ?_) (fun entry hm => ?_)
    (fun settled hm => ?_) hf
  · rcases List.mem_append.mp hm with hm | hm
    · exact hb.not_mem_call hm
    · cases List.mem_singleton.mp hm
  · rcases List.mem_append.mp hm with hm | hm
    · obtain ⟨_, _, _, h⟩ := hb _ hm
      cases h
    · cases List.mem_singleton.mp hm
  · rcases List.mem_append.mp hm with hm | hm
    · exact hb.not_mem_settle _ _ _ _ hm
    · cases List.mem_singleton.mp hm

/-- A claim that was given back before the driver was called ends a teardown. -/
theorem Request.accepts_of_release {fault : Fault} {settled : Bool}
    (ht : request.target? = some (cls, id)) (hb : Lookups before)
    (hf : request.Refusal
      (before ++ [⟨.claim cls id, .ok entry⟩] ++ [⟨.settle cls id .release, settled⟩])
      cls id fault) :
    request.Accepts
      (before ++ [⟨.claim cls id, .ok entry⟩] ++ [⟨.settle cls id .release, settled⟩])
      (.ofResult request.operation (.error fault)) := by
  refine accepts_of_refused ht (fun call answer hm => ?_) (fun entry hm => ?_)
    (fun settled hm => ?_) hf
  · rcases List.mem_append.mp hm with hm | hm
    · exact hb.idle call answer hm
    · cases List.mem_singleton.mp hm
  · exact ⟨settled, List.mem_append_right _ (List.mem_singleton_self _)⟩
  · rcases List.mem_append.mp hm with hm | hm
    · exact hb.unsettled _ _ _ _ hm
    · cases List.mem_singleton.mp hm

/-- A teardown that has settled its claim after the call of the driver has ended,
unless it is to close a handle. -/
theorem Request.accepts_of_settled {how : Settlement} {settled : Bool}
    {result : Except Fault request.operation.Value} (ht : request.target? = some (cls, id))
    (hcls : cls ≠ .handle) (hb : Lookups before) (hr : result.isOk = answer.isOk)
    (hw : how = .commit ↔ answer.isOk = true) :
    request.Accepts (before ++ [⟨.claim cls id, .ok entry⟩] ++ [⟨.call call, answer⟩] ++
      [⟨.settle cls id how, settled⟩]) (.ofResult request.operation result) := by
  refine accepts_of_called ht hb.idle hr hw (fun _ _ => List.not_mem_nil) fun settled' h => ?_
  rcases List.mem_append.mp h with h | h
  · rcases List.mem_append.mp h with h | h
    · exact absurd h (hb.unsettled _ _ _ _)
    · cases List.mem_singleton.mp h
  · cases List.mem_singleton.mp h
    exact absurd rfl hcls

namespace Service

/-- What a teardown obeys when it has been granted the claim: the driver is
called, if at all, before the claim is settled by what came of it. -/
def Destroying (request : Request) (cls : ResourceClass) (id : RemoteId)
    (accepts : List Deed → Except Fault α → Prop) (past : List Deed) (s : Service α) : Prop :=
  s.Obeys request.Permits (fun past result =>
    request.Permits past (.settle cls id (if result.isOk then .commit else .release)) ∧
      ∀ settled, accepts
        (past ++ [⟨.settle cls id (if result.isOk then .commit else .release), settled⟩]) result)
    past

theorem obeys_teardown_of_lookups {destroy : cls.Entry → Service Unit}
    {accepts : List Deed → Except Fault Unit → Prop} (ht : request.target? = some (cls, id))
    (hb : Lookups before)
    (herror : ∀ past fault, request.Accepts past (.ofResult request.operation (.error fault)) →
      accepts past (.error fault))
    (hgranted : ∀ entry, (destroy entry).Destroying request cls id accepts
      (before ++ [⟨.claim cls id, .ok entry⟩])) :
    (teardown cls id destroy).Obeys request.Permits accepts before := by
  have hlast : ∀ {deed : Deed}, deed ∈ before ++ [deed] :=
    List.mem_append_right _ (List.mem_singleton_self _)
  exact obeys_teardown ⟨ht, hb.not_mem_settle cls id⟩
    (herror _ _ (Request.accepts_of_claim ht hb (.absent hlast)))
    (herror _ _ (Request.accepts_of_claim ht hb (.busy hlast))) hgranted

theorem destroying_device (call : DeviceCall) {past : List Deed}
    {accepts : List Deed → Except Fault call.Value → Prop}
    (ht : request.target? = some (cls, id)) (hi : Idle past) (hh : Holding past cls id entry)
    (hd : call.Destroys cls entry) (hc : request.Issues past call)
    (hr : ∀ native, call.handle? = some native → request.Reaches past native)
    (ha : ∀ answer how settled, (how = .commit ↔ answer.isOk = true) →
      accepts (past ++ [⟨.call call, answer⟩] ++ [⟨.settle cls id how, settled⟩]) answer) :
    (device call).Destroying request cls id accepts past := by
  refine obeys_device ⟨hc, hr, fun cls' id' h => ?_⟩ fun answer => ?_
  · rw [ht] at h
    cases h
    exact ⟨hi, entry, hh, hd⟩
  · have hhow : (if answer.isOk = true then Settlement.commit else .release) = .commit ↔
        answer.isOk = true := by
      cases answer with
      | ok value => exact ⟨fun _ => rfl, fun _ => rfl⟩
      | error fault => exact ⟨nofun, nofun⟩
    refine ⟨⟨ht, ⟨entry, hh.append_one nofun⟩, ?_⟩, fun settled => ha answer _ settled hhow⟩
    exact hhow.trans hi.succeeded_append_iff.symm

/-- A check that fails gives the claim back. -/
theorem destroying_require_bind {condition : Bool} {fault : Fault} {next : Unit → Service Unit}
    {accepts : List Deed → Except Fault Unit → Prop} (ht : request.target? = some (cls, id))
    (hb : Lookups before)
    (hfalse : condition = false → ∀ settled, accepts
      (before ++ [⟨.claim cls id, .ok entry⟩] ++ [⟨.settle cls id .release, settled⟩])
      (.error fault))
    (htrue : condition = true →
      (next ()).Destroying request cls id accepts (before ++ [⟨.claim cls id, .ok entry⟩])) :
    (require condition fault >>= next).Destroying request cls id accepts
      (before ++ [⟨.claim cls id, .ok entry⟩]) :=
  obeys_require_bind (fun hc => ⟨Request.permits_release ht hb.idle hb.holding, hfalse hc⟩) htrue

end Service

end Teardown

theorem lookups_nil : Lookups [] := fun _ h => absurd h List.not_mem_nil

theorem lookups_find (cls : ResourceClass) (id : RemoteId) (answer : Option cls.Entry) :
    Lookups ([] ++ [⟨.find cls id, answer⟩]) :=
  fun _ h => ⟨cls, id, answer, List.mem_singleton.mp h⟩

namespace Service

variable {request : Request} {accepts : List Deed → Except Fault Unit → Prop}

/-- A teardown through a handle is refused if the handle is not live. -/
theorem obeys_owner_bind {owner : RemoteId} {cls : ResourceClass} {id : RemoteId}
    {next : HandleEntry → Service Unit} (ht : request.target? = some (cls, id))
    (hh : request.handle? = some owner)
    (herror : ∀ past fault, request.Accepts past (.ofResult request.operation (.error fault)) →
      accepts past (.error fault))
    (hn : ∀ handle, (next handle).Obeys request.Permits accepts
      ([] ++ [⟨.find .handle owner, some handle⟩])) :
    (lookup .handle owner >>= next).Obeys request.Permits accepts [] := by
  have hl : Lookups ([] ++ [⟨.find .handle owner, none⟩]) := lookups_find .handle owner none
  refine obeys_lookup_bind trivial (herror _ _ ?_) hn
  refine Request.accepts_of_refused ht (fun _ _ => hl.not_mem_call) (fun entry hm => ?_)
    (fun settled => hl.not_mem_settle _ _ _ settled) (.ownerless owner hh ?_)
  · obtain ⟨_, _, _, h⟩ := hl _ hm
    cases h
  · exact List.mem_append_right _ (List.mem_singleton_self _)

end Service

/-- Closing a handle ends with the removal of what it owns. -/
theorem Request.obeys_close (handleId : RemoteId) (limit : UInt64) :
    (Request.serve limit (.closeHandle handleId)).Obeys (Request.closeHandle handleId).Permits
      (fun past result => (Request.closeHandle handleId).Accepts past
        (.ofResult (Request.closeHandle handleId).operation result)) [] := by
  refine obeys_bind (obeys_teardown_of_lookups rfl lookups_nil (fun _ _ h => h) fun entry => ?_)
  refine destroying_device (.closeHandle entry.handle) rfl lookups_nil.idle lookups_nil.holding
    rfl (.inl ⟨handleId, rfl⟩) ?_ ?_
  · intro native hn
    cases hn
    exact ⟨entry, .inr (by simp), rfl⟩
  intro answer how settled hhow
  cases answer with
  | error fault =>
    refine accepts_of_called rfl lookups_nil.idle rfl hhow (fun _ _ => List.not_mem_nil) ?_
    intro settled' h
    cases how with
    | commit => cases hhow.mp rfl
    | release => simp at h
  | ok value =>
    obtain rfl := hhow.mpr rfl
    refine ⟨⟨rfl, settled, by simp⟩, fun mappings => ⟨⟨rfl, settled, by simp⟩, fun buffers => ?_⟩⟩
    rw [List.append_assoc, List.append_assoc _ _ (_ ++ _)]
    refine accepts_of_called rfl lookups_nil.idle rfl hhow (by simp) fun _ _ => ?_
    exact ⟨⟨mappings, by simp⟩, ⟨buffers, by simp⟩⟩

/-- Opening a handle names no handle before it is open, and closes only its own. -/
theorem Request.obeys_open (tokenId : RemoteId) (flags : UInt32) (limit : UInt64) :
    (Request.serve limit (.openHandle tokenId flags)).Obeys
      (Request.openHandle tokenId flags).Permits (fun _ _ => True) [] := by
  refine obeys_lookup_bind trivial trivial fun entry => ?_
  have hl := lookups_find .token tokenId (some entry)
  refine obeys_device_bind ⟨fun _ _ => hl.not_mem_call, nofun, nofun⟩ (fun _ => trivial)
    fun native => ?_
  have hopened : Opened ([] ++ [⟨.find .token tokenId, some entry⟩] ++
      [⟨.call (.openHandle entry.token flags), .ok native⟩]) native :=
    ⟨entry.token, flags, List.mem_append_right _ (List.mem_singleton_self _)⟩
  refine obeys_bind (obeys_registerOrUndo ⟨hopened, by simp⟩ (fun _ => trivial)
    ⟨.inr ⟨tokenId, flags, rfl, by simp⟩, fun other he => ?_, nofun⟩ fun _ => trivial)
  cases he
  exact hopened.append _

/-- Every request keeps to its rule. -/
theorem Request.obeys_serve (request : Request) (limit : UInt64) :
    (request.serve limit).Obeys request.Permits
      (fun past result => request.Accepts past (.ofResult request.operation result)) [] := by
  cases hk : request.target? with
  | none =>
    have haccepts : ∀ past reply, request.Accepts past reply := by
      intro past reply cls id h
      rw [hk] at h
      cases h
    by_cases ho : ∃ tokenId flags, request = .openHandle tokenId flags
    · obtain ⟨tokenId, flags, rfl⟩ := ho
      exact (obeys_open tokenId flags limit).mono fun past result _ => haccepts past _
    · refine (modest_serve hk (fun tokenId flags h => ho ⟨tokenId, flags, h⟩)
        limit [] nofun).mono ?_
      exact fun past result _ => haccepts past _
  | some target =>
    cases request with
    | destroyToken tokenId =>
      refine obeys_teardown_of_lookups rfl lookups_nil (fun _ _ h => h) fun entry => ?_
      exact destroying_device (.destroyToken entry.token) rfl lookups_nil.idle lookups_nil.holding
        rfl trivial nofun fun _ _ _ hw => accepts_of_settled rfl (by decide) lookups_nil rfl hw
    | destroyObject objectId =>
      refine obeys_teardown_of_lookups rfl lookups_nil (fun _ _ h => h) fun entry => ?_
      exact destroying_device (.destroyObject entry.object) rfl lookups_nil.idle lookups_nil.holding
        rfl trivial nofun fun _ _ _ hw => accepts_of_settled rfl (by decide) lookups_nil rfl hw
    | closeHandle handleId => exact obeys_close handleId limit
    | unmapMmio handleId mappingId region =>
      refine obeys_owner_bind rfl rfl (fun _ _ h => h) fun handle => ?_
      have hl := lookups_find .handle handleId (some handle)
      refine obeys_teardown_of_lookups rfl hl (fun _ _ h => h) fun mapping => ?_
      refine destroying_require_bind rfl hl (fun hne settled => ?_) fun _ => ?_
      · refine accepts_of_release rfl hl
          (.foreign mapping handleId rfl (by simp) ?_ settled (by simp))
        simpa [ResourceClass.owner?] using hne
      refine destroying_require_bind rfl hl (fun hne settled => ?_) fun hregion => ?_
      · refine accepts_of_release rfl hl
          (.misnamed mapping (by simp) handleId region rfl ?_ settled (by simp))
        simpa using hne
      refine destroying_device (.unmapMmio handle.handle region) rfl hl.idle hl.holding ?_
        (.inl ⟨handleId, mappingId, rfl⟩) ?_
        fun _ _ _ hw => accepts_of_settled rfl (by decide) hl rfl hw
      · exact ⟨handle.handle, by rw [eq_of_beq hregion]⟩
      · intro native hn
        cases hn
        exact Names.reaches ⟨handleId, handle, rfl, by simp, rfl⟩
    | releaseBuffer handleId bufferId =>
      refine obeys_owner_bind rfl rfl (fun _ _ h => h) fun handle => ?_
      have hl := lookups_find .handle handleId (some handle)
      refine obeys_teardown_of_lookups rfl hl (fun _ _ h => h) fun buffer => ?_
      refine destroying_require_bind rfl hl (fun hne settled => ?_) fun _ => ?_
      · refine accepts_of_release rfl hl
          (.foreign buffer handleId rfl (by simp) ?_ settled (by simp))
        simpa [ResourceClass.owner?] using hne
      refine destroying_device (.releaseBuffer handle.handle buffer.workspace) rfl hl.idle
        hl.holding ⟨handle.handle, rfl⟩ trivial ?_
        fun _ _ _ hw => accepts_of_settled rfl (by decide) hl rfl hw
      intro native hn
      cases hn
      exact Names.reaches ⟨handleId, handle, rfl, by simp, rfl⟩
    | _ => cases hk

/-- Every request keeps to its rule until it has answered. -/
theorem Request.obeys_program (request : Request) (limit : UInt64) :
    (request.program limit).Obeys request.Permits request.Accepts [] :=
  (Program.obeys_bind (request.serve limit).run _).mpr (request.obeys_serve limit)

end DeviceBroker
