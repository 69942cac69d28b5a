import DeviceBroker.Proofs.Broker.History
import DeviceBroker.Proofs.Broker.Ownership

/-!
# Steady requests

Who owns what is read off the registry, and which handles are open off the
driver. Only four operations change it other than by ending children: opening
and closing a handle, mapping a region and preparing a buffer. All others are
`Steady`: they name to the driver only children that the registry records under
the handle that the request names, they close no handle, and afterwards nobody
owns more than before.
-/

namespace DeviceBroker

variable {cards : Nat} {α β : Type}

namespace Broker

/-- Who owns what, as the registry and the driver have it. -/
def ownership (b : Broker cards) : Ownership where
  handle id := ((b.registry.map .handle).find? id).map HandleEntry.handle
  child cls id := ((b.registry.map cls).find? id).bind cls.child?
  isOpen := b.device.holdings.handle

theorem child_eq_none {cls : ResourceClass} (barren : ∀ entry, cls.child? entry = none)
    (found : Option cls.Entry) : found.bind cls.child? = none := by
  cases found with
  | none => rfl
  | some entry => exact barren entry

/-- What resolves to something else only among tokens or objects does not
matter for who owns what. -/
theorem ownership_congr {b b' : Broker cards} (cls : ResourceClass) (hne : .handle ≠ cls)
    (barren : ∀ entry, cls.child? entry = none)
    (rest : ∀ other, other ≠ cls → b'.registry.map other = b.registry.map other)
    (hd : b'.device.holdings.handle = b.device.holdings.handle) : b'.ownership = b.ownership := by
  unfold ownership
  rw [rest .handle hne, hd]
  congr 1
  funext other id
  by_cases ho : other = cls
  · subst ho
    rw [child_eq_none barren, child_eq_none barren]
  · rw [rest other ho]

end Broker

namespace Registry

theorem map_register_of_ne (r : Registry) {cls other : ResourceClass} (entry : cls.Entry)
    (h : other ≠ cls) : (r.register cls entry).2.map other = r.map other := by
  rw [register_eq, map_withSource, map_withMap_of_ne _ _ h]

theorem map_intern_of_ne (r : Registry) {cls other : ResourceClass} (entry : cls.Entry)
    (h : other ≠ cls) : (r.intern cls entry).2.map other = r.map other := by
  unfold intern
  dsimp only
  rw [map_withSource, map_withMap_of_ne _ _ h]

/-- A registration adds the entry under an identifier that was not live, or it
leaves what resolves as it was. -/
theorem find?_register (r : Registry) (cls : ResourceClass) (entry : cls.Entry) :
    (∃ id, (r.register cls entry).1 = some id ∧ (r.map cls).find? id = none ∧
      ((r.register cls entry).2.map cls).find? = override (r.map cls).find? id (some entry)) ∨
    (r.register cls entry).1 = none ∧
      ((r.register cls entry).2.map cls).find? = (r.map cls).find? := by
  have hmap : (r.register cls entry).2.map cls = ((r.map cls).add r.source.next.1 entry).2 := by
    rw [register_eq]
    exact (map_withSource _ _ _).trans (map_withMap_self _ _ _)
  rw [hmap, register_eq, IdentityMap.add]
  by_cases ha : (r.map cls).admits r.source.next.1 entry = true
  · obtain ⟨hv, hnew, -⟩ := (IdentityMap.admits_iff _ _ _).mp ha
    rw [if_pos ha]
    exact .inl ⟨_, rfl, IdentityMap.find?_eq_none_of_slots hnew, IdentityMap.find?_put _ hv entry⟩
  · rw [if_neg ha]
    exact .inr ⟨rfl, rfl⟩

end Registry

/-- A call names no child, or one that is recorded under the handle that the request names. -/
def Vouched (o : Ownership) (request : Request) (call : DeviceCall) : Prop :=
  ∀ native child, call.child? = some (native, child) →
    ∃ id, request.handle? = some id ∧ o.handle id = some native ∧
      ∃ cls entryId, o.child cls entryId = some (id, child)

theorem vouched_of_none {o : Ownership} {request : Request} {call : DeviceCall}
    (h : call.child? = none) : Vouched o request call := by
  intro native child hc
  rw [h] at hc
  cases hc

theorem vouched_of_entry {b : Broker cards} {request : Request} {call : DeviceCall}
    {handleId id : RemoteId} {handle : HandleEntry} {cls : ResourceClass} {entry : cls.Entry}
    {child : Child} (hr : request.handle? = some handleId)
    (hh : (b.registry.map .handle).find? handleId = some handle)
    (hf : (b.registry.map cls).find? id = some entry)
    (ho : cls.child? entry = some (handleId, child))
    (hc : call.child? = some (handle.handle, child)) : Vouched b.ownership request call := by
  intro native child' hchild
  obtain ⟨rfl, rfl⟩ := Prod.mk.inj (Option.some.inj (hc.symm.trans hchild))
  refine ⟨handleId, hr, ?_, cls, id, ?_⟩
  · exact congrArg (Option.map HandleEntry.handle) hh
  · exact (congrArg (Option.bind · cls.child?) hf).trans ho

theorem vouched_of_buffer {b : Broker cards} {request : Request} {call : DeviceCall}
    {handleId bufferId : RemoteId} {handle : HandleEntry} {buffer : BufferEntry}
    (hr : request.handle? = some handleId)
    (hh : (b.registry.map .handle).find? handleId = some handle)
    (hf : (b.registry.map .buffer).find? bufferId = some buffer) (ho : buffer.owner = handleId)
    (hc : call.child? = some (handle.handle, .buffer buffer.workspace)) :
    Vouched b.ownership request call :=
  vouched_of_entry hr hh hf (by rw [← ho]; rfl) hc

namespace Service

/-- A service that makes only calls of a kind and closes no handle, and after
which nobody owns more than before. -/
structure Steady (s : Service α) (b : Broker cards) (P : DeviceCall → Prop) : Prop where
  within : (exec s b).2.ownership.Within b.ownership
  calls : ∀ x ∈ exchanges s b, x.closes? = none ∧ P x.call

variable {b : Broker cards} {P : DeviceCall → Prop}

theorem steady_pure (value : α) : Steady (pure value) b P := ⟨.refl _, by simp⟩

theorem steady_throw (fault : Fault) : Steady (throw fault : Service α) b P := ⟨.refl _, by simp⟩

theorem Steady.bind {s : Service α} {next : α → Service β} (hs : Steady s b P)
    (hn : ∀ value b', exec s b = (.ok value, b') → Steady (next value) b' P) :
    Steady (s >>= next) b P := by
  obtain ⟨hwithin, hcalls⟩ := hs
  cases he : exec s b with
  | mk result b' =>
    rw [he] at hwithin
    cases result with
    | error fault =>
      refine ⟨?_, fun x hx => hcalls x ?_⟩
      · rw [exec_bind_of_error next he]
        exact hwithin
      · simpa [exchanges_bind, he] using hx
    | ok value =>
      obtain ⟨hwithin', hcalls'⟩ := hn value b' he
      refine ⟨?_, fun x hx => ?_⟩
      · rw [exec_bind_of_ok next he]
        exact hwithin'.trans hwithin
      · rw [exchanges_bind, he] at hx
        rcases List.mem_append.mp hx with hx | hx
        · exact hcalls x hx
        · exact hcalls' x hx

theorem Steady.bind_pure {s : Service α} (h : Steady s b P) (f : α → β) :
    Steady (s >>= fun value => pure (f value)) b P :=
  h.bind fun _ _ _ => steady_pure _

theorem steady_lookup_bind {cls : ResourceClass} {id : RemoteId} {next : cls.Entry → Service α}
    (hn : ∀ entry, (b.registry.map cls).find? id = some entry → Steady (next entry) b P) :
    Steady (lookup cls id >>= next) b P := by
  have hlookup : Steady (lookup cls id) b P := by
    refine ⟨?_, by simp⟩
    rw [exec_lookup]
    split <;> exact .refl _
  refine hlookup.bind fun entry b' he => ?_
  rw [exec_lookup] at he
  split at he
  · rename_i found hf
    cases he
    exact hn _ hf
  · cases he

theorem steady_require_bind {condition : Bool} {fault : Fault} {next : Unit → Service α}
    (hn : condition = true → Steady (next ()) b P) :
    Steady (require condition fault >>= next) b P := by
  have hrequire : Steady (require condition fault) b P := ⟨.refl _, by simp⟩
  refine hrequire.bind fun value b' he => ?_
  rw [exec_require] at he
  split at he
  · rename_i hc
    cases he
    exact hn hc
  · cases he

theorem steady_lookupOwned_bind {cls : ResourceClass} {id owner : RemoteId}
    {next : cls.Entry → Service α}
    (hn : ∀ entry, (b.registry.map cls).find? id = some entry → cls.owner? entry = some owner →
      Steady (next entry) b P) :
    Steady (lookupOwned cls id owner >>= next) b P := by
  unfold lookupOwned
  rw [bind_assoc]
  refine steady_lookup_bind fun entry hf => ?_
  rw [bind_assoc]
  refine steady_require_bind fun ho => ?_
  rw [pure_bind]
  exact hn entry hf (beq_iff_eq.mp ho)

theorem steady_bufferRange_bind {handleId bufferId : RemoteId} {offset count : UInt64}
    {next : HandleEntry × BufferEntry → Service α}
    (hn : ∀ handle buffer, (b.registry.map .handle).find? handleId = some handle →
      (b.registry.map .buffer).find? bufferId = some buffer → buffer.owner = handleId →
      Steady (next (handle, buffer)) b P) :
    Steady (bufferRange handleId bufferId offset count >>= next) b P := by
  unfold bufferRange
  rw [bind_assoc]
  refine steady_lookup_bind fun handle hh => ?_
  rw [bind_assoc]
  refine steady_lookupOwned_bind fun buffer hf ho => ?_
  rw [bind_assoc]
  refine steady_require_bind fun _ => ?_
  rw [pure_bind]
  exact hn handle buffer hh hf (Option.some.inj ho)

theorem ownership_of_error {call : DeviceCall} {b' : Broker cards} {fault : Fault}
    (he : exec (device call) b = (.error fault, b')) : b'.ownership = b.ownership := by
  obtain ⟨hr, hd⟩ := holdings_of_exec_error he
  unfold Broker.ownership
  rw [hr, hd]

theorem ownership_of_ok {call : DeviceCall} {b' : Broker cards} {value : call.Value}
    (he : exec (device call) b = (.ok value, b')) :
    b'.ownership =
      { b.ownership with isOpen := (b.device.holdings.after call value).handle } := by
  obtain ⟨hr, -, hd⟩ := holdings_of_exec_ok he
  unfold Broker.ownership
  rw [hr, hd]

/-- A call that neither opens nor closes a handle. -/
theorem ownership_device (call : DeviceCall)
    (ha : ∀ held value, (Holdings.after held call value).handle = held.handle)
    (b : Broker cards) : (exec (device call) b).2.ownership = b.ownership := by
  cases he : exec (device call) b with
  | mk result b' =>
    cases result with
    | error fault => exact ownership_of_error he
    | ok value => rw [ownership_of_ok he, ha]; rfl

theorem steady_device {call : DeviceCall} (hp : P call)
    (hc : ∀ answer, Exchange.closes? ⟨call, answer⟩ = none)
    (ha : ∀ held value, (Holdings.after held call value).handle = held.handle) :
    Steady (device call) b P := by
  refine ⟨?_, fun x hx => ?_⟩
  · rw [ownership_device call ha]
    exact .refl _
  · rw [exchanges_device] at hx
    obtain rfl := List.mem_singleton.mp hx
    exact ⟨hc _, hp⟩

theorem steady_poll {handle : NativeHandle} {workspace : Nat} {offset : UInt64} {width : UInt32}
    (hp : P (.bufferRead handle workspace offset width.toUInt64)) (mask expected : UInt64)
    (attempts : Nat) (b : Broker cards) :
    Steady (poll handle workspace offset width mask expected attempts) b P := by
  induction attempts generalizing b with
  | zero => exact steady_throw _
  | succ attempts ih =>
    refine (steady_device hp (fun _ => rfl) fun _ _ => rfl).bind fun data b' _ => ?_
    split
    · exact steady_pure _
    · exact ih b'

theorem Steady.mapM {s : α → Service β}
    (h : ∀ value (b' : Broker cards), Steady (s value) b' P) (values : List α) (b : Broker cards) :
    Steady (values.mapM s) b P := by
  induction values generalizing b with
  | nil => exact steady_pure _
  | cons value rest ih =>
    rw [List.mapM_cons]
    exact (h value b).bind fun _ b' _ => (ih b').bind_pure _

theorem steady_importFilter (filter : Properties RemoteId) (b : Broker cards) :
    Steady (importFilter filter) b P := by
  unfold importFilter Properties.mapParentM
  split
  · exact steady_pure _
  · exact (steady_lookup_bind fun _ _ => steady_pure _).bind_pure _

theorem steady_intern (token : NativeToken) (b : Broker cards) : Steady (intern token) b P := by
  refine ⟨?_, by simp [exchanges_intern]⟩
  have hsame : (exec (intern token) b).2.ownership = b.ownership := by
    rw [exec_intern]
    exact Broker.ownership_congr .token (by decide) (fun _ => rfl)
      (fun other ho => b.registry.map_intern_of_ne _ ho) rfl
  rw [hsame]
  exact .refl _

theorem steady_exportToken (hp : ∀ token, P (.destroyToken token)) (native : NativeHeader)
    (b : Broker cards) : Steady (exportToken native) b P := by
  refine ⟨?_, fun x hx => ?_⟩
  · have hsame : (exec (exportToken native) b).2.ownership = b.ownership := by
      rw [exec_exportToken]
      split
      · exact Broker.ownership_congr .token (by decide) (fun _ => rfl)
          (fun other ho => b.registry.map_intern_of_ne _ ho) rfl
      · refine (ownership_device (.destroyToken native.token) (fun _ _ => rfl)
          { b with registry := (b.registry.intern .token ⟨native.token⟩).2 }).trans ?_
        exact Broker.ownership_congr .token (by decide) (fun _ => rfl)
          (fun other ho => b.registry.map_intern_of_ne _ ho) rfl
    rw [hsame]
    exact .refl _
  · rw [exchanges_exportToken] at hx
    split at hx
    · cases hx
    · obtain rfl := List.mem_singleton.mp hx
      exact ⟨rfl, hp _⟩

theorem steady_exportProperties (properties : Properties NativeToken) (b : Broker cards) :
    Steady (exportProperties properties) b P := by
  unfold exportProperties Properties.mapParentM
  split
  · exact steady_pure _
  · exact (steady_intern _ b).bind_pure _

theorem steady_registerObject {object : NativeObject} (hp : P (.destroyObject object))
    (b : Broker cards) : Steady (registerObject object) b P := by
  refine ⟨?_, fun x hx => ?_⟩
  · have hsame : (exec (registerObject object) b).2.ownership = b.ownership := by
      unfold registerObject
      rw [exec_registerOrUndo]
      split
      · exact Broker.ownership_congr .object (by decide) (fun _ => rfl)
          (fun other ho => b.registry.map_register_of_ne _ ho) rfl
      · refine (ownership_device (.destroyObject object) (fun _ _ => rfl)
          { b with registry := (b.registry.register .object ⟨object⟩).2 }).trans ?_
        exact Broker.ownership_congr .object (by decide) (fun _ => rfl)
          (fun other ho => b.registry.map_register_of_ne _ ho) rfl
    rw [hsame]
    exact .refl _
  · unfold registerObject at hx
    rw [exchanges_registerOrUndo] at hx
    split at hx
    · cases hx
    · obtain rfl := List.mem_singleton.mp hx
      exact ⟨rfl, hp⟩

/-- Removing what is not a handle leaves fewer children. -/
theorem within_remove {cls : ResourceClass} (hcls : cls ≠ .handle) (id : RemoteId)
    (b : Broker cards) :
    Broker.ownership { b with
      registry := b.registry.withMap cls ((b.registry.map cls).remove id).2 } |>.Within
        b.ownership := by
  have hdrops := b.registry.drops_remove cls id
  refine ⟨?_, fun other id' owned ho => ?_, rfl⟩
  · unfold Broker.ownership
    dsimp only
    rw [hdrops.rest .handle hcls.symm]
  · unfold Broker.ownership at ho ⊢
    dsimp only at ho ⊢
    by_cases hother : other = cls
    · subst hother
      rw [hdrops.same] at ho
      by_cases hid : id' = id
      · rw [hid, override_self] at ho
        cases ho
      · rwa [override_of_ne _ _ hid] at ho
    · rwa [hdrops.rest other hother] at ho

theorem steady_teardown {cls : ResourceClass} {id : RemoteId} {destroy : cls.Entry → Service Unit}
    (hcls : cls ≠ .handle) (hd : ∀ entry, DeviceOnly (destroy entry))
    (hx : ∀ entry, RegistryFree (destroy entry))
    (h : ∀ entry, (b.registry.map cls).find? id = some entry → Steady (destroy entry) b P) :
    Steady (teardown cls id destroy) b P := by
  rcases exchanges_teardown hx with ⟨hnone, fault, he⟩ | ⟨entry, hs, hv, hsome⟩
  · refine ⟨?_, fun x hmem => ?_⟩
    · rw [he]
      exact .refl _
    · rw [hnone] at hmem
      cases hmem
  · obtain ⟨hwithin, hcalls⟩ := h entry (IdentityMap.find?_of_slots hv hs)
    have hsame := (hd entry).registry_eq b
    refine ⟨?_, by rwa [hsome]⟩
    rw [exec_teardown_of_unclaimed (hd entry) hv hs]
    generalize exec (destroy entry) b = outcome at hwithin hsame
    obtain ⟨result, b'⟩ := outcome
    cases result with
    | error fault => exact hwithin
    | ok value =>
      dsimp only at hsame ⊢
      rw [← hsame]
      exact (within_remove hcls id b').trans hwithin

end Service

open Service

/-- Whether an operation opens or closes a handle, or creates a child of one. -/
def Operation.changesOwnership : Operation → Bool
  | .openHandle | .closeHandle | .mapMmio | .prepareBuffer => true
  | _ => false

/-- What other operations do is steady, and the children that they name are
recorded under the handle that the request names. -/
theorem Request.steady_serve {request : Request}
    (h : request.operation.changesOwnership = false) (limit : UInt64) (b : Broker cards) :
    Steady (request.serve limit) b (Vouched b.ownership request) := by
  cases request with
  | openHandle | closeHandle | mapMmio | prepareBuffer => cases h
  | enumerate filters maxTokens =>
    refine (Steady.mapM (fun filter b' => steady_importFilter filter b') filters b).bind
      fun natives b' _ => ?_
    refine (steady_device (vouched_of_none rfl) (fun _ => rfl) fun held listing => ?_).bind
      fun listing b'' _ => ?_
    · exact Holdings.handle_foldl_track _ held
    · exact (Steady.mapM (fun native b' =>
        steady_exportToken (fun token => vouched_of_none rfl) native b') _ b'').bind_pure _
  | destroyToken tokenId =>
    refine steady_teardown (by decide) (fun _ => deviceOnly_device _)
      (fun _ => registryFree_device _) fun entry _ => ?_
    exact steady_device (vouched_of_none rfl) (fun _ => rfl) fun _ _ => rfl
  | destroyObject objectId =>
    refine steady_teardown (by decide) (fun _ => deviceOnly_device _)
      (fun _ => registryFree_device _) fun entry _ => ?_
    exact steady_device (vouched_of_none rfl) (fun _ => rfl) fun _ _ => rfl
  | cloneToken sourceId =>
    refine steady_lookup_bind fun entry _ => ?_
    exact (steady_device (vouched_of_none rfl) (fun _ => rfl) fun _ _ => rfl).bind
      fun clone b' _ => steady_exportToken (fun token => vouched_of_none rfl) clone b'
  | getProperties id | updateProperties id | getHandleProperties id =>
    refine steady_lookup_bind fun entry _ => ?_
    refine (steady_device (vouched_of_none rfl) (fun _ => rfl) fun held properties => ?_).bind
      fun properties b' _ => steady_exportProperties properties b'
    cases hp : properties.parent <;> simp [Holdings.after, hp, Holdings.track]
  | tokenGetObject id name flags | handleGetObject id name flags | objectGetObject id name flags =>
    refine steady_lookup_bind fun entry _ => ?_
    exact (steady_device (vouched_of_none rfl) (fun _ => rfl) fun _ _ => rfl).bind
      fun object b' _ => steady_registerObject (vouched_of_none rfl) b'
  | objectGetObjectAt objectId index =>
    refine steady_lookup_bind fun entry _ => ?_
    exact (steady_device (vouched_of_none rfl) (fun _ => rfl) fun _ _ => rfl).bind
      fun object b' _ => steady_registerObject (vouched_of_none rfl) b'
  | writeMmio512 handleId region offset values =>
    refine steady_lookup_bind fun entry _ => steady_require_bind fun _ => ?_
    split
    · exact steady_throw _
    · exact steady_device (vouched_of_none rfl) (fun _ => rfl) fun _ _ => rfl
  | objectRead objectId offset length flags =>
    refine steady_lookup_bind fun entry _ => steady_require_bind fun _ => ?_
    exact (steady_device (vouched_of_none rfl) (fun _ => rfl) fun _ _ => rfl).bind_pure _
  | getMetricsInfo | getMetricsByIndex | getMetricsByName | getMetricThresholds =>
    refine steady_lookup_bind fun entry _ => ?_
    exact (steady_device (vouched_of_none rfl) (fun _ => rfl) fun _ _ => rfl).bind_pure _
  | unmapMmio handleId mappingId region =>
    refine steady_lookup_bind fun handle hh => ?_
    refine steady_teardown (by decide)
      (fun _ => deviceOnly_require_bind (deviceOnly_require_bind (deviceOnly_device _)))
      (fun _ => registryFree_require_bind (registryFree_require_bind (registryFree_device _)))
      fun mapping hf => steady_require_bind fun ho => steady_require_bind fun hregion => ?_
    refine steady_device (vouched_of_entry rfl hh hf ?_ rfl) (fun _ => rfl) fun _ _ => rfl
    rw [← beq_iff_eq.mp ho, ← beq_iff_eq.mp hregion]
    rfl
  | releaseBuffer handleId bufferId =>
    refine steady_lookup_bind fun handle hh => ?_
    refine steady_teardown (by decide) (fun _ => deviceOnly_require_bind (deviceOnly_device _))
      (fun _ => registryFree_require_bind (registryFree_device _)) fun buffer hf => ?_
    refine steady_require_bind fun ho => ?_
    exact steady_device (vouched_of_buffer rfl hh hf (beq_iff_eq.mp ho) rfl) (fun _ => rfl)
      fun _ _ => rfl
  | getIoAddress handleId bufferId =>
    refine steady_lookup_bind fun handle hh => steady_lookupOwned_bind fun buffer hf ho => ?_
    exact steady_device (vouched_of_buffer rfl hh hf (Option.some.inj ho) rfl) (fun _ => rfl)
      fun _ _ => rfl
  | bufferFill handleId bufferId offset byte count =>
    refine steady_bufferRange_bind fun handle buffer hh hf ho => ?_
    exact steady_device (vouched_of_buffer rfl hh hf ho rfl) (fun _ => rfl) fun _ _ => rfl
  | bufferWrite handleId bufferId offset source count =>
    refine steady_require_bind fun _ => steady_require_bind fun _ => ?_
    refine steady_bufferRange_bind fun handle buffer hh hf ho => ?_
    exact steady_device (vouched_of_buffer rfl hh hf ho rfl) (fun _ => rfl) fun _ _ => rfl
  | bufferRead handleId bufferId offset count =>
    refine steady_require_bind fun _ => ?_
    refine steady_bufferRange_bind fun handle buffer hh hf ho => ?_
    exact (steady_device (vouched_of_buffer rfl hh hf ho rfl) (fun _ => rfl)
      fun _ _ => rfl).bind_pure _
  | bufferPoll handleId bufferId offset width mask expected sleepMicros attempts =>
    refine steady_require_bind fun _ => ?_
    refine steady_bufferRange_bind fun handle buffer hh hf ho => ?_
    exact steady_poll (vouched_of_buffer rfl hh hf ho rfl) mask expected _ b
  | bufferCompare handleId firstId firstOffset secondId secondOffset count =>
    refine steady_bufferRange_bind fun handle first hh hf ho => ?_
    refine steady_bufferRange_bind fun handle' second _ hf' ho' => ?_
    refine (steady_device (vouched_of_buffer rfl hh hf ho rfl) (fun _ => rfl)
      fun _ _ => rfl).bind fun left b' _ => ?_
    exact (steady_device (vouched_of_buffer rfl hh hf' ho' rfl) (fun _ => rfl)
      fun _ _ => rfl).bind_pure _
  | bufferPattern handleId bufferId pattern =>
    refine steady_lookup_bind fun handle hh => steady_lookupOwned_bind fun buffer hf ho => ?_
    split
    · exact steady_throw _
    · exact steady_device (vouched_of_buffer rfl hh hf (Option.some.inj ho) rfl) (fun _ => rfl)
        fun _ _ => rfl
  | _ =>
    exact steady_lookup_bind fun entry _ =>
      steady_device (vouched_of_none rfl) (fun _ => rfl) fun _ _ => rfl

end DeviceBroker
