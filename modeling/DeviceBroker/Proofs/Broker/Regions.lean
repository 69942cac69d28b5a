import DeviceBroker.Proofs.Broker.Conduct
import DeviceBroker.Proofs.Broker.Trace

/-!
# What requests do to mapped regions

The driver has a set of regions mapped for every open handle, and the registry
has a mapping for every request that has mapped a region. Only three requests
that are served can change any of this, and `Remapping` says how: mapping a
region through a handle, unmapping it, and closing the handle.
-/

namespace DeviceBroker

variable {cards : Nat}

/-! ## Calls -/

/-- Whether a call maps or unmaps a region if it succeeds. -/
def DeviceCall.remaps : DeviceCall → Bool
  | .closeHandle _ | .mapMmio _ _ | .unmapMmio _ _ => true
  | _ => false

theorem Openings.mapped_after (o : Openings) {call : DeviceCall} (h : call.remaps = false)
    (value : call.Value) : (o.after call value).mapped = o.mapped := by
  cases call with
  | closeHandle | mapMmio | unmapMmio => cases h
  | _ => rfl

theorem Simulator.mapped_call (s : Simulator cards) {call : DeviceCall}
    (h : call.remaps = false) : (s.call call).2.openings.mapped = s.openings.mapped := by
  have htends := s.openings_call call
  generalize s.call call = outcome at htends ⊢
  obtain ⟨_ | value, t⟩ := outcome
  · exact congrArg Openings.mapped htends
  · exact (congrArg Openings.mapped htends.2).trans (s.openings.mapped_after h value)

/-- Whether a request of an operation can make a call that maps or unmaps. -/
def Operation.remaps : Operation → Bool
  | .openHandle | .closeHandle | .mapMmio | .unmapMmio => true
  | _ => false

theorem Request.Issues.remaps {past : List Deed} {request : Request} {call : DeviceCall}
    (h : request.Issues past call) (hc : call.remaps = true) :
    request.operation.remaps = true := by
  cases call with
  | closeHandle native =>
    obtain ⟨id, rfl⟩ | ⟨tokenId, flags, rfl, -⟩ := h
    · rfl
    · rfl
  | mapMmio native region =>
    obtain ⟨owner, rfl⟩ := h
    rfl
  | unmapMmio native region =>
    obtain ⟨owner, id, rfl⟩ | ⟨owner, base, rfl, -⟩ := h
    · rfl
    · rfl
  | _ => cases hc

namespace Broker

/-- The regions that the driver has mapped for its open handles. -/
def mapped (b : Broker cards) : NativeHandle → UInt32 → Bool := b.device.openings.mapped

/-- Any other request leaves the regions of all handles as they are. -/
theorem mapped_handle (b : Broker cards) {request : Request}
    (h : request.operation.remaps = false) : (b.handle request).2.mapped = b.mapped := by
  refine (request.obeys_program b.payloadLimit).run_preserves
    (I := fun b' => b'.mapped = b.mapped) (fun past b' a hpermits hb => ?_) rfl
  cases a with
  | call call =>
    have hcall : call.remaps = false := by
      by_contra hc
      rw [hpermits.1.remaps (Bool.not_eq_false _ ▸ hc)] at h
      cases h
    exact (b'.device.mapped_call hcall).trans hb
  | _ => exact hb

/-- The owner and the region of a live mapping. -/
def region? (b : Broker cards) (id : RemoteId) : Option (RemoteId × UInt32) :=
  ((b.registry.map .mapping).find? id).map fun entry => (entry.owner, entry.region)

/-- The native value of a live handle. -/
def native? (b : Broker cards) (id : RemoteId) : Option NativeHandle :=
  ((b.registry.map .handle).find? id).map HandleEntry.handle

theorem region?_eq_some_iff {b : Broker cards} {id owner : RemoteId} {region : UInt32} :
    b.region? id = some (owner, region) ↔
      b.ownership.child .mapping id = some (owner, .region region) := by
  unfold region? ownership
  dsimp only
  cases (b.registry.map .mapping).find? id with
  | none => exact ⟨nofun, nofun⟩
  | some entry => simp [ResourceClass.child?]

theorem region?_congr {b b' : Broker cards}
    (h : (b'.registry.map .mapping).find? = (b.registry.map .mapping).find?) :
    b'.region? = b.region? := by
  funext id
  unfold region?
  rw [h]

/-- A request is served with success. -/
def Grants (b : Broker cards) (request : Request) : Prop :=
  (b.handle request).1.status? = some .success

end Broker

/-- What serving a request does to the regions of open handles and to the live mappings. -/
inductive Remapping (b : Broker cards) : Request → Broker cards → Prop
  | kept {request : Request} {b' : Broker cards} (mapped : b'.mapped = b.mapped)
      (regions : ∀ id owned, b'.region? id = some owned → b.region? id = some owned)
      (failed : request.operation = .mapMmio ∨ request.operation = .unmapMmio →
        ¬ b.Grants request) :
      Remapping b request b'
  | closed {handleId : RemoteId} {native : NativeHandle} {b' : Broker cards}
      (live : b.native? handleId = some native)
      (mapped : b'.mapped = override b.mapped native fun _ => false)
      (regions : ∀ id owned, b'.region? id = some owned →
        b.region? id = some owned ∧ owned.1 ≠ handleId) :
      Remapping b (.closeHandle handleId) b'
  | mapped {handleId : RemoteId} {region : UInt32} {native : NativeHandle} {b' : Broker cards}
      (live : b.native? handleId = some native) (granted : b.Grants (.mapMmio handleId region))
      (mapped : b'.mapped = override b.mapped native (override (b.mapped native) region true))
      (regions : ∀ id owned, b'.region? id = some owned →
        b.region? id = some owned ∨ owned = (handleId, region)) :
      Remapping b (.mapMmio handleId region) b'
  | unmapped {handleId mappingId : RemoteId} {region : UInt32} {native : NativeHandle}
      {b' : Broker cards} (live : b.native? handleId = some native)
      (granted : b.Grants (.unmapMmio handleId mappingId region))
      (mapped : b'.mapped = override b.mapped native (override (b.mapped native) region false))
      (regions : ∀ id owned, b'.region? id = some owned →
        b.region? id = some owned ∧ id ≠ mappingId) :
      Remapping b (.unmapMmio handleId mappingId region) b'

/-! ## Requests -/

open Service

section

variable {salt : UInt64} {b b' : Broker cards} {request : Request} {call : DeviceCall}
  {fault : Fault}

theorem Broker.grants_of_exec_ok {value : request.operation.Value}
    (h : exec (request.serve b.payloadLimit) b = (.ok value, b')) : b.Grants request := by
  unfold Grants
  rw [handle_eq, h, Reply.status?_ofResult_eq_success_iff]
  rfl

theorem Broker.not_grants_of_exec_error
    (h : exec (request.serve b.payloadLimit) b = (.error fault, b')) : ¬ b.Grants request := by
  unfold Grants
  rw [handle_eq, h, Reply.status?_ofResult_eq_success_iff]
  exact nofun

theorem openings_of_exec_error (h : exec (device call) b = (.error fault, b')) :
    b'.registry = b.registry ∧ b'.device.openings = b.device.openings := by
  have htends := b.device.openings_call call
  rw [exec_device] at h
  obtain ⟨hr, rfl⟩ := Prod.mk.inj h
  refine ⟨rfl, ?_⟩
  generalize b.device.call call = outcome at hr htends ⊢
  obtain ⟨result, d⟩ := outcome
  subst hr
  exact htends

theorem openings_of_exec_ok {value : call.Value} (h : exec (device call) b = (.ok value, b')) :
    b'.registry = b.registry ∧ b'.device.openings = b.device.openings.after call value := by
  have htends := b.device.openings_call call
  rw [exec_device] at h
  obtain ⟨hr, rfl⟩ := Prod.mk.inj h
  refine ⟨rfl, ?_⟩
  generalize b.device.call call = outcome at hr htends ⊢
  obtain ⟨result, d⟩ := outcome
  subst hr
  exact htends.2

/-- A request that ends in a failure of the driver, or before, has no effect. -/
theorem remapping_of_error (h : exec (request.serve b.payloadLimit) b = (.error fault, b'))
    (hr : b'.registry = b.registry) (hd : b'.device.openings = b.device.openings) :
    Remapping b request (b.handle request).2 := by
  have hfailed := Broker.not_grants_of_exec_error h
  rw [Broker.handle_eq, h]
  refine .kept (congrArg Openings.mapped hd) (fun id owned hid => ?_) fun _ => hfailed
  rwa [Broker.region?_congr (b := b) (by rw [hr])] at hid

/-- An identifier for a new handle, or for a new child, can always be had. -/
theorem exec_registerOrUndo_of_sound (hsound : b.registry.Sound salt) {cls : ResourceClass}
    {entry : cls.Entry} {undo : DeviceCall} (hk : cls.nativeKey? entry = none)
    (hb : (exec (registerOrUndo cls entry undo) b).2.registry.drawn < 2 ^ 64) :
    ∃ id, exec (registerOrUndo cls entry undo) b =
        (.ok id, { b with registry := (b.registry.register cls entry).2 }) ∧
      b.registry.Puts (b.registry.register cls entry).2 cls id entry := by
  have hlt : (b.registry.register cls entry).2.drawn < 2 ^ 64 := by
    rw [exec_registerOrUndo] at hb
    split at hb
    · exact hb
    · exact hb
  obtain ⟨id, hid, hputs⟩ := hsound.register hk hlt
  exact ⟨id, by rw [exec_registerOrUndo, hid], hputs⟩

/-- A request that resolves an identifier and calls the driver has no effect if
either fails. -/
theorem remapping_of_call {cls : ResourceClass} {id : RemoteId} {call : cls.Entry → DeviceCall}
    {next : (entry : cls.Entry) → (call entry).Value → Service request.operation.Value}
    (hserve : request.serve b.payloadLimit =
      lookup cls id >>= fun entry => device (call entry) >>= next entry)
    (hn : ∀ entry value b', (b.registry.map cls).find? id = some entry →
      exec (device (call entry)) b = (.ok value, b') →
      exec (request.serve b.payloadLimit) b = exec (next entry value) b' →
      Remapping b request (b.handle request).2) :
    Remapping b request (b.handle request).2 := by
  cases hf : (b.registry.map cls).find? id with
  | none =>
    have hlookup : exec (request.serve b.payloadLimit) b = (.error .invalidParam, b) := by
      rw [hserve]
      exact exec_bind_of_error _ (exec_lookup_of_none hf)
    exact remapping_of_error hlookup rfl rfl
  | some entry =>
    have hlookup : exec (request.serve b.payloadLimit) b =
        exec (device (call entry) >>= next entry) b := by
      rw [hserve]
      exact exec_bind_of_ok _ (exec_lookup_of_some hf)
    cases he : exec (device (call entry)) b with
    | mk result b' =>
      cases result with
      | error fault =>
        obtain ⟨hr, hd⟩ := openings_of_exec_error he
        exact remapping_of_error (hlookup.trans (exec_bind_of_error _ he)) hr hd
      | ok value =>
        exact hn entry value b' hf he (hlookup.trans (exec_bind_of_ok _ he))

/-- What is registered under another class is no mapping. -/
theorem remapping_of_register {cls : ResourceClass} {entry : cls.Entry} {undo : DeviceCall}
    (hsound : b.registry.Sound salt) (hcls : .mapping ≠ cls) (hk : cls.nativeKey? entry = none)
    (hr : b'.registry = b.registry) (hm : b'.mapped = b.mapped)
    (hb : (exec (registerOrUndo cls entry undo) b').2.registry.drawn < 2 ^ 64)
    (ho : ¬ (request.operation = .mapMmio ∨ request.operation = .unmapMmio)) :
    Remapping b request (exec (registerOrUndo cls entry undo) b').2 := by
  obtain ⟨id, hregister, hputs⟩ := exec_registerOrUndo_of_sound (hr ▸ hsound) hk hb
  rw [hregister]
  refine .kept hm (fun id owned hid => ?_) fun h => absurd h ho
  rwa [Broker.region?_congr (b := b) ((hputs.rest .mapping hcls).trans (by rw [hr]))] at hid

theorem remapping_openHandle {tokenId : RemoteId} {flags : UInt32} (hsound : b.registry.Sound salt)
    (hb : (b.handle (.openHandle tokenId flags)).2.registry.drawn < 2 ^ 64) :
    Remapping b (.openHandle tokenId flags) (b.handle (.openHandle tokenId flags)).2 := by
  refine remapping_of_call rfl fun entry native b' hf he hexec => ?_
  obtain ⟨hr, hd⟩ := openings_of_exec_ok he
  rw [Broker.handle_eq, hexec, exec_bind_pure_snd] at hb ⊢
  refine remapping_of_register hsound nofun rfl hr ?_ hb (by simp [Request.operation])
  exact (congrArg Openings.mapped hd).trans (Openings.mapped_after _ rfl _)

theorem remapping_prepareBuffer {handleId : RemoteId} {length : UInt64} {address : Option UInt64}
    {flags : UInt32} (hsound : b.registry.Sound salt)
    (hb : (b.handle (.prepareBuffer handleId length address flags)).2.registry.drawn < 2 ^ 64) :
    Remapping b (.prepareBuffer handleId length address flags)
      (b.handle (.prepareBuffer handleId length address flags)).2 := by
  refine remapping_of_call rfl fun entry prepared b' hf he hexec => ?_
  obtain ⟨hr, hd⟩ := openings_of_exec_ok he
  rw [Broker.handle_eq, hexec] at hb ⊢
  refine remapping_of_register hsound nofun rfl hr ?_ hb (by simp [Request.operation])
  exact (congrArg Openings.mapped hd).trans (Openings.mapped_after _ rfl _)

theorem remapping_mapMmio {handleId : RemoteId} {region : UInt32} (hsound : b.registry.Sound salt)
    (hb : (b.handle (.mapMmio handleId region)).2.registry.drawn < 2 ^ 64) :
    Remapping b (.mapMmio handleId region) (b.handle (.mapMmio handleId region)).2 := by
  refine remapping_of_call rfl fun entry base b' hf he hexec => ?_
  obtain ⟨hr, hd⟩ := openings_of_exec_ok he
  rw [Broker.handle_eq, hexec] at hb ⊢
  obtain ⟨id, hregister, hputs⟩ := exec_registerOrUndo_of_sound (hr ▸ hsound) rfl hb
  have hgranted := Broker.grants_of_exec_ok (hexec.trans hregister)
  rw [hregister]
  refine .mapped (congrArg (Option.map HandleEntry.handle) hf) hgranted
    (congrArg Openings.mapped hd) fun other owned hother => ?_
  unfold Broker.region? at hother ⊢
  dsimp only at hother
  rw [hputs.same, hr] at hother
  by_cases hi : other = id
  · rw [hi, override_self] at hother
    exact .inr (Option.some.inj hother).symm
  · rw [override_of_ne _ _ hi] at hother
    exact .inl hother

/-- A request that tears something down has no effect if it is refused or the
driver fails. -/
theorem remapping_of_teardown {cls : ResourceClass} {id : RemoteId}
    {destroy : cls.Entry → Service Unit} {next : Unit → Service request.operation.Value}
    (hserve : exec (request.serve b.payloadLimit) b = exec (teardown cls id destroy >>= next) b)
    (hd : ∀ entry, DeviceOnly (destroy entry))
    (herror : ∀ entry fault b', exec (destroy entry) b = (.error fault, b') →
      b'.registry = b.registry ∧ b'.device.openings = b.device.openings)
    (hok : ∀ entry b', (b.registry.map cls).find? id = some entry →
      exec (destroy entry) b = (.ok (), b') →
      exec (request.serve b.payloadLimit) b = exec (next ()) { b' with
        registry := b.registry.withMap cls ((b.registry.map cls).remove id).2 } →
      Remapping b request (b.handle request).2) :
    Remapping b request (b.handle request).2 := by
  cases hf : (b.registry.map cls).find? id with
  | none =>
    have hnone := exec_bind_of_error next (exec_teardown_of_none destroy hf)
    exact remapping_of_error (hserve.trans hnone) rfl rfl
  | some entry =>
    rcases exec_teardown_of_some (hd entry) hf with hbusy | hexec
    · exact remapping_of_error (hserve.trans (exec_bind_of_error next hbusy)) rfl rfl
    split at hexec
    · rename_i b' he
      exact hok entry b' hf he (hserve.trans (exec_bind_of_ok next hexec))
    · rename_i fault b' he
      obtain ⟨hr, hdevice⟩ := herror entry fault b' he
      exact remapping_of_error (hserve.trans (exec_bind_of_error next hexec)) hr hdevice

theorem remapping_unmapMmio (b : Broker cards) (handleId mappingId : RemoteId) (region : UInt32) :
    Remapping b (.unmapMmio handleId mappingId region)
      (b.handle (.unmapMmio handleId mappingId region)).2 := by
  cases hf : (b.registry.map .handle).find? handleId with
  | none => exact remapping_of_error (exec_bind_of_error _ (exec_lookup_of_none hf)) rfl rfl
  | some handle =>
  have hlookup : exec (Request.serve b.payloadLimit (.unmapMmio handleId mappingId region)) b = _ :=
    exec_bind_of_ok _ (exec_lookup_of_some hf)
  refine remapping_of_teardown (hlookup.trans (congrArg (exec · b) (bind_pure _).symm))
    (fun _ => deviceOnly_require_bind (deviceOnly_require_bind (deviceOnly_device _)))
    (fun mapping fault b' he => ?_) fun mapping b' hm he hexec => ?_
  · rcases exec_require_bind_error he with rfl | he
    · exact ⟨rfl, rfl⟩
    rcases exec_require_bind_error he with rfl | he
    · exact ⟨rfl, rfl⟩
    exact openings_of_exec_error he
  · obtain ⟨-, he⟩ := exec_require_bind_ok he
    obtain ⟨-, he⟩ := exec_require_bind_ok he
    obtain ⟨-, hd⟩ := openings_of_exec_ok he
    have hgranted := Broker.grants_of_exec_ok hexec
    rw [Broker.handle_eq, hexec]
    refine .unmapped (congrArg (Option.map HandleEntry.handle) hf) hgranted
      (congrArg Openings.mapped hd) fun other owned hother => ?_
    unfold Broker.region? at hother ⊢
    simp only [exec_pure, Registry.map_withMap_self, IdentityMap.find?_remove] at hother
    by_cases hi : other = mappingId
    · rw [hi, override_self] at hother
      cases hother
    · rw [override_of_ne _ _ hi] at hother
      exact ⟨hother, hi⟩

theorem remapping_closeHandle (b : Broker cards) (handleId : RemoteId) :
    Remapping b (.closeHandle handleId) (b.handle (.closeHandle handleId)).2 := by
  refine remapping_of_teardown rfl (fun _ => deviceOnly_device _)
    (fun entry fault b' he => openings_of_exec_error he) fun entry b' hf he hexec => ?_
  obtain ⟨-, hd⟩ := openings_of_exec_ok he
  -- The three removals together are the registry without the handle and what it owns.
  have hclosed : (b.handle (.closeHandle handleId)).2 =
      { b' with registry := b.registry.closed handleId } := by
    rw [Broker.handle_eq]
    exact congrArg Prod.snd hexec
  rw [hclosed]
  refine .closed (congrArg (Option.map HandleEntry.handle) hf) (congrArg Openings.mapped hd)
    fun other owned hother => ?_
  have hfilter := IdentityMap.find?_removeOwnedBy b.registry.mappings handleId other
  obtain ⟨mapping, hm, rfl⟩ := Option.map_eq_some_iff.mp hother
  obtain ⟨hlive, hkept⟩ := Option.filter_eq_some_iff.mp (hfilter.symm.trans hm)
  refine ⟨?_, by simpa [ResourceClass.owner?] using hkept⟩
  unfold Broker.region?
  exact congrArg (Option.map _) hlive

/-- Serving a request remaps no more than the request asks for. -/
theorem Request.remapping (request : Request) (hsound : b.registry.Sound salt)
    (hb : (b.handle request).2.registry.drawn < 2 ^ 64) :
    Remapping b request (b.handle request).2 := by
  by_cases hs : request.operation.changesOwnership = false
  · by_cases hm : request.operation = .unmapMmio
    · cases request with
      | unmapMmio handleId mappingId region => exact remapping_unmapMmio b handleId mappingId region
      | _ => cases hm
    have hremaps : request.operation.remaps = false := by
      cases request with
      | openHandle | closeHandle | mapMmio => cases hs
      | unmapMmio => exact absurd rfl hm
      | _ => rfl
    have hwithin := (request.steady_serve hs b.payloadLimit b).within.child .mapping
    refine .kept (b.mapped_handle hremaps) (fun id owned hid => ?_) ?_
    · obtain ⟨owner, region⟩ := owned
      rw [Broker.region?_eq_some_iff] at hid ⊢
      rw [Broker.handle_eq] at hid
      exact hwithin id _ hid
    · rintro (ho | ho)
      · rw [ho] at hremaps
        cases hremaps
      · exact absurd ho hm
  cases request with
  | openHandle => exact remapping_openHandle hsound hb
  | closeHandle handleId => exact remapping_closeHandle b handleId
  | mapMmio => exact remapping_mapMmio hsound hb
  | prepareBuffer => exact remapping_prepareBuffer hsound hb
  | _ => exact absurd rfl hs

end

end DeviceBroker
