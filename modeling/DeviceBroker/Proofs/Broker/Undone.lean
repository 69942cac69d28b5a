import DeviceBroker.Proofs.Broker.History
import DeviceBroker.Proofs.Simulator.Rollback

/-!
# Creations that cannot be registered

What the driver creates for a request has to be registered under a new
identifier. If the identifier that is drawn is not admitted, because it is the
sentinel or is live already, the request destroys at once what it has created
and answers with an exception. Nothing remains of it: the maps are as before,
the entry under a colliding identifier included, and so are the cards, but for
the counters of calls and of values given out.
-/

namespace DeviceBroker

variable {cards : Nat}

namespace Registry

variable {r : Registry} {cls : ResourceClass} {entry : cls.Entry}

/-- An identifier is drawn for an entry, and the map of its class does not admit it. -/
structure Rejects (r : Registry) (cls : ResourceClass) (entry : cls.Entry) : Prop where
  untracked : (r.map cls).tracked? entry = none
  refused : (r.map cls).admits r.source.next.1 entry = false

/-- The registry after an identifier was drawn in vain. -/
def rejecting (r : Registry) (cls : ResourceClass) : Registry :=
  { r.withMap cls { r.map cls with rejectedAdds := (r.map cls).rejectedAdds + 1 } with
    source := r.source.next.2 }

theorem slots_rejecting (r : Registry) (cls other : ResourceClass) :
    ((r.rejecting cls).map other).slots = (r.map other).slots := by
  rw [rejecting, map_withSource]
  by_cases ho : other = cls
  · subst ho
    rw [map_withMap_self]
  · rw [map_withMap_of_ne _ _ ho]

theorem natives_rejecting (r : Registry) (cls other : ResourceClass) :
    ((r.rejecting cls).map other).natives = (r.map other).natives := by
  rw [rejecting, map_withSource]
  by_cases ho : other = cls
  · subst ho
    rw [map_withMap_self]
  · rw [map_withMap_of_ne _ _ ho]

theorem Rejects.add (h : r.Rejects cls entry) :
    (r.map cls).add r.source.next.1 entry =
      (false, { r.map cls with rejectedAdds := (r.map cls).rejectedAdds + 1 }) := by
  rw [IdentityMap.add, h.refused]
  rfl

theorem Rejects.register (h : r.Rejects cls entry) :
    r.register cls entry = (none, r.rejecting cls) := by
  rw [register_eq, h.add]
  rfl

/-- What has no native value to be tracked by is rejected by its identifier alone. -/
theorem rejects_of_register (hk : cls.nativeKey? entry = none)
    (h : (r.register cls entry).1 = none) : r.Rejects cls entry := by
  refine ⟨by rw [IdentityMap.tracked?, hk]; rfl, Bool.eq_false_iff.mpr fun ha => ?_⟩
  rw [register_eq, IdentityMap.add, if_pos ha] at h
  cases h

theorem Rejects.intern (h : r.Rejects cls entry) :
    r.intern cls entry = (none, r.rejecting cls) := by
  rw [intern_of_untracked h.untracked, h.add]
  rfl

end Registry

namespace Service

variable {b : Broker cards}

theorem exec_registerOrUndo_of_rejects {cls : ResourceClass} {entry : cls.Entry}
    (h : b.registry.Rejects cls entry) (undo : DeviceCall) :
    exec (registerOrUndo cls entry undo) b =
      (.error .exception,
        { b with
          registry := b.registry.rejecting cls
          device := (b.device.call undo).2 }) := by
  rw [exec_registerOrUndo, h.register]

theorem exec_exportToken_of_rejects {native : NativeHeader}
    (h : b.registry.Rejects .token ⟨native.token⟩) :
    exec (exportToken native) b =
      (.error .exception,
        { b with
          registry := b.registry.rejecting .token
          device := (b.device.call (.destroyToken native.token)).2 }) := by
  rw [exec_exportToken, h.intern]

end Service

open Service

namespace Broker

/-- What a request is to create: the call that creates it with the value that this
returns, the entry that is to be registered for it, and the call that destroys it. -/
inductive Creates (b : Broker cards) :
    Request → (create : DeviceCall) → create.Value → (cls : ResourceClass) → cls.Entry →
      DeviceCall → Prop
  | cloneToken {sourceId : RemoteId} {source : TokenEntry} {clone : NativeHeader}
      (live : (b.registry.map .token).find? sourceId = some source) :
      Creates b (.cloneToken sourceId) (.cloneToken source.token) clone .token ⟨clone.token⟩
        (.destroyToken clone.token)
  | openHandle {tokenId : RemoteId} {flags : UInt32} {token : TokenEntry} {handle : NativeHandle}
      (live : (b.registry.map .token).find? tokenId = some token) :
      Creates b (.openHandle tokenId flags) (.openHandle token.token flags) handle .handle
        ⟨handle, tokenId⟩ (.closeHandle handle)
  | prepareBuffer {handleId : RemoteId} {length : UInt64} {address : Option UInt64}
      {flags : UInt32} {handle : HandleEntry} {prepared : PreparedBuffer}
      (live : (b.registry.map .handle).find? handleId = some handle) :
      Creates b (.prepareBuffer handleId length address flags)
        (.prepareBuffer handle.handle length address flags) prepared .buffer
        ⟨handleId, length, flags, prepared.workspace, prepared.address⟩
        (.releaseBuffer handle.handle prepared.workspace)
  | tokenGetObject {tokenId : RemoteId} {name : String} {flags : UInt32} {token : TokenEntry}
      {object : NativeObject} (live : (b.registry.map .token).find? tokenId = some token) :
      Creates b (.tokenGetObject tokenId name flags) (.tokenGetObject token.token name flags)
        object .object ⟨object⟩ (.destroyObject object)
  | handleGetObject {handleId : RemoteId} {name : String} {flags : UInt32} {handle : HandleEntry}
      {object : NativeObject} (live : (b.registry.map .handle).find? handleId = some handle) :
      Creates b (.handleGetObject handleId name flags) (.handleGetObject handle.handle name flags)
        object .object ⟨object⟩ (.destroyObject object)
  | objectGetObject {parentId : RemoteId} {name : String} {flags : UInt32} {parent : ObjectEntry}
      {object : NativeObject} (live : (b.registry.map .object).find? parentId = some parent) :
      Creates b (.objectGetObject parentId name flags) (.objectGetObject parent.object name flags)
        object .object ⟨object⟩ (.destroyObject object)
  | objectGetObjectAt {parentId : RemoteId} {index : UInt64} {parent : ObjectEntry}
      {object : NativeObject} (live : (b.registry.map .object).find? parentId = some parent) :
      Creates b (.objectGetObjectAt parentId index) (.objectGetObjectAt parent.object index)
        object .object ⟨object⟩ (.destroyObject object)

section

variable {b : Broker cards} {request : Request} {create : DeviceCall} {value : create.Value}
  {cls : ResourceClass} {entry : cls.Entry} {undo : DeviceCall}

theorem Creates.undoes (h : b.Creates request create value cls entry undo) :
    create.Undoes value undo := by
  cases h with
  | cloneToken => exact .token
  | openHandle => exact .handle
  | prepareBuffer => exact .buffer
  | tokenGetObject => exact .tokenObject
  | handleGetObject => exact .handleObject
  | objectGetObject => exact .childObject
  | objectGetObjectAt => exact .childObjectAt

theorem exec_device_of_ok (h : (b.device.call create).1 = .ok value) :
    exec (Service.device create) b =
      (.ok value, { b with device := (b.device.call create).2 }) := by
  rw [exec_device, h]

/-- The request creates, draws in vain, and destroys. -/
theorem Creates.exec_of_rejects (h : b.Creates request create value cls entry undo)
    (created : (b.device.call create).1 = .ok value) (rejects : b.registry.Rejects cls entry)
    (limit : UInt64) :
    exec (request.serve limit) b =
      (.error .exception,
        { b with
          registry := b.registry.rejecting cls
          device := ((b.device.call create).2.call undo).2 }) := by
  have hcreated := exec_device_of_ok created
  -- The driver was called, and the registry is still the one that rejects.
  have hrejects : ({ b with device := (b.device.call create).2 } : Broker cards).registry.Rejects
    cls entry := rejects
  cases h with
  | cloneToken live =>
    exact (exec_bind_of_ok _ (exec_lookup_of_some live)).trans
      ((exec_bind_of_ok _ hcreated).trans (exec_exportToken_of_rejects hrejects))
  | openHandle live =>
    exact (exec_bind_of_ok _ (exec_lookup_of_some live)).trans
      ((exec_bind_of_ok _ hcreated).trans
        (exec_bind_of_error _ (exec_registerOrUndo_of_rejects hrejects _)))
  | prepareBuffer live | tokenGetObject live | handleGetObject live | objectGetObject live
  | objectGetObjectAt live =>
    exact (exec_bind_of_ok _ (exec_lookup_of_some live)).trans
      ((exec_bind_of_ok _ hcreated).trans (exec_registerOrUndo_of_rejects hrejects _))

end

/-! ## Histories -/

/-- What every call keeps about the cards, a request keeps. -/
theorem device_handle_preserves {I : Simulator cards → Prop}
    (hI : ∀ (s : Simulator cards) call, I s → I (s.call call).2) {b : Broker cards}
    (h : I b.device) (request : Request) : I (b.handle request).2.device := by
  refine (request.program b.payloadLimit).run_preserves (I := fun b' => I b'.device)
    (fun b' a hb => ?_) h
  cases a with
  | call call => exact hI b'.device call hb
  | _ => exact hb

theorem allocated_handle {b : Broker cards} (h : b.device.Allocated)
    (hcards : cards ≤ Simulator.maxCards) (request : Request) :
    (b.handle request).2.device.Allocated :=
  device_handle_preserves (fun _ call hs => hs.call hcards call) h request

theorem allocated_disturb {s : Simulator cards} (h : s.Allocated) (d : Disturbance) :
    (s.disturb d).Allocated := by
  cases d with
  | arm kind fault => exact ⟨h.tokens, h.holdings⟩
  | recycle => exact ⟨h.tokens, h.holdings⟩
  | raise token number bits =>
    have hraised := s.retouches_raiseError token number bits
    refine ⟨h.tokens.of_minting hraised.minting_eq, ?_⟩
    have hheld : (s.disturb (.raise token number bits)).holdings = s.holdings := hraised.holdings_eq
    rw [hheld]
    exact h.holdings

theorem allocated_after {b : Broker cards} (h : b.device.Allocated)
    (hcards : cards ≤ Simulator.maxCards) (events : List Event) :
    (b.after events).device.Allocated := by
  induction events generalizing b with
  | nil => exact h
  | cons event rest ih =>
    cases event with
    | serve request => exact ih (allocated_handle h hcards request)
    | disturb d => exact ih (b := b.disturb d) (allocated_disturb h d)

/-- What is left of a request whose creation was undone. -/
structure Undone (b : Broker cards) (request : Request) : Prop where
  reply : (b.handle request).1 = .answer request.operation (.error .exception)
  /-- Every map has the same entries under the same identifiers, claimed or not. -/
  slots : ∀ cls, ((b.handle request).2.registry.map cls).slots = (b.registry.map cls).slots
  natives : ∀ cls, ((b.handle request).2.registry.map cls).natives = (b.registry.map cls).natives
  /-- The cards are the same but for their counters, which have moved on. -/
  device : ∃ c, (b.handle request).2.device = b.device.withCounters c ∧ b.device.counters ≤ c ∧
    c.calls = b.device.calls + 2

theorem undone_of_allocated {b : Broker cards} (alloc : b.device.Allocated) {request : Request}
    {create : DeviceCall} {value : create.Value} {cls : ResourceClass} {entry : cls.Entry}
    {undo : DeviceCall} (creates : b.Creates request create value cls entry undo)
    (created : (b.device.call create).1 = .ok value) (rejects : b.registry.Rejects cls entry)
    (unarmed : b.device.armed undo.kind = none) : b.Undone request := by
  have hexec := creates.exec_of_rejects created rejects b.payloadLimit
  have hhandle := b.handle_eq request
  rw [hexec] at hhandle
  constructor
  · rw [hhandle]
    rfl
  · intro other
    rw [hhandle]
    exact b.registry.slots_rejecting cls other
  · intro other
    rw [hhandle]
    exact b.registry.natives_rejecting cls other
  · rw [hhandle]
    exact Simulator.call_undo alloc creates.undoes (Prod.ext created rfl) unarmed

/-- At any point of a history, whatever identifiers are drawn from: a creation of
the driver that is not admitted into the registry is undone without a trace. -/
theorem undone_of_rejects {source : IdSource} {limit : UInt64}
    {images : String → Option (List UInt8)} {device : Simulator cards}
    (boot : Simulator.boot? cards images = some device) {events : List Event} {request : Request}
    {create : DeviceCall} {value : create.Value} {cls : ResourceClass} {entry : cls.Entry}
    {undo : DeviceCall}
    (creates : ((start source device limit).after events).Creates request create value cls entry
      undo)
    (created : (((start source device limit).after events).device.call create).1 = .ok value)
    (rejects : ((start source device limit).after events).registry.Rejects cls entry)
    (unarmed : ((start source device limit).after events).device.armed undo.kind = none) :
    ((start source device limit).after events).Undone request := by
  unfold Simulator.boot? at boot
  split at boot
  · rename_i hcards
    cases boot
    exact undone_of_allocated
      (allocated_after (Simulator.allocated_start cards images) hcards events)
      creates created rejects unarmed
  · cases boot

/-- A resource is open through two shared handles, of which one has a buffer, and
the identifier of the other is the next to be drawn. -/
def collision : Broker 1 :=
  (start (.script [⟨7, 1⟩, ⟨7, 2⟩, ⟨7, 3⟩, ⟨7, 4⟩, ⟨7, 5⟩, ⟨7, 3⟩])
    (.start 1 fun _ => none) 4096).after
    [.serve (.enumerate [] 2), .serve (.openHandle ⟨7, 2⟩ Flags.openShared),
      .serve (.openHandle ⟨7, 2⟩ Flags.openShared), .serve (.prepareBuffer ⟨7, 4⟩ 64 none 0)]

theorem undone_of_rejects_collision :
    Simulator.boot? 1 (fun _ => none) = some (.start 1 fun _ => none) ∧
    collision.Creates (.openHandle ⟨7, 2⟩ Flags.openShared)
      (.openHandle ⟨0x1001⟩ Flags.openShared) (⟨0x20000002⟩ : NativeHandle) .handle
      ⟨⟨0x20000002⟩, ⟨7, 2⟩⟩ (.closeHandle ⟨0x20000002⟩) ∧
    (collision.device.call (.openHandle ⟨0x1001⟩ Flags.openShared)).1 = .ok ⟨0x20000002⟩ ∧
    collision.registry.Rejects .handle ⟨⟨0x20000002⟩, ⟨7, 2⟩⟩ ∧
    collision.device.armed .closeHandle = none ∧
    collision.Undone (.openHandle ⟨7, 2⟩ Flags.openShared) :=
  have creates : collision.Creates (.openHandle ⟨7, 2⟩ Flags.openShared)
      (.openHandle ⟨0x1001⟩ Flags.openShared) (⟨0x20000002⟩ : NativeHandle) .handle
      ⟨⟨0x20000002⟩, ⟨7, 2⟩⟩ (.closeHandle ⟨0x20000002⟩) :=
    .openHandle rfl
  have rejects : collision.registry.Rejects .handle ⟨⟨0x20000002⟩, ⟨7, 2⟩⟩ := ⟨rfl, rfl⟩
  ⟨rfl, creates, rfl, rejects, rfl, undone_of_rejects rfl creates rfl rejects rfl⟩

end Broker

end DeviceBroker
