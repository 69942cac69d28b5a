import DeviceBroker.Proofs.Broker.Dangling
import DeviceBroker.Proofs.Broker.Failure
import DeviceBroker.Proofs.Broker.Mappings

/-!
# What a teardown removes

A teardown that succeeds has made one call, which destroys what was recorded
under the named identifier, and it has removed that identifier; closing a
handle removes the handle's mappings and buffers with it. All other
identifiers keep their entries and claims. What was removed is removed for
good, so every later request that names one of these identifiers, in whatever
role, is refused before the driver is called.
-/

namespace DeviceBroker

variable {cards : Nat} {α : Type}

/-! ## Registries without an identifier -/

theorem IdentityMap.slots_remove {cls : ResourceClass} (m : IdentityMap cls) (id other : RemoteId) :
    (m.remove id).2.slots.find? other = if other = id then none else m.slots.find? other := by
  unfold remove
  split
  · exact m.slots_find?_drop id other
  · rename_i hc
    have hn : m.slots.find? id = none := by simpa [Table.contains_eq] using hc
    split
    · rename_i ho
      rw [ho, hn]
    · rfl

namespace Registry

/-- The registry after a teardown: without the identifier, and without what a handle owns. -/
def without (r : Registry) (cls : ResourceClass) (id : RemoteId) : Registry :=
  if cls = .handle then r.closed id else r.withMap cls ((r.map cls).remove id).2

/-- An identifier that leaves together with a removed one: itself, or a child of a handle. -/
def Takes (r : Registry) (cls : ResourceClass) (id : RemoteId) (other : ResourceClass)
    (id' : RemoteId) : Prop :=
  (other = cls ∧ id' = id) ∨
    cls = .handle ∧ ∃ slot, (r.map other).slots.find? id' = some slot ∧
      other.owner? slot.entry = some id

/-- What has no owner is nobody's. -/
theorem filter_owner_none {β : Type} (o : Option β) (id : RemoteId) :
    (o.filter fun _ => (none : Option RemoteId) != some id) = o := by
  cases o with
  | none => rfl
  | some value => rfl

theorem slots_closed (r : Registry) (id : RemoteId) (other : ResourceClass) (id' : RemoteId) :
    ((r.closed id).map other).slots.find? id' =
      if other = .handle ∧ id' = id then none
      else ((r.map other).slots.find? id').filter fun slot =>
        other.owner? slot.entry != some id := by
  cases other with
  | token => exact (filter_owner_none _ id).symm
  | object => exact (filter_owner_none _ id).symm
  | handle => simp [closed, map, ResourceClass.owner?, filter_owner_none, IdentityMap.slots_remove]
  | mapping | buffer => simp [closed, map, IdentityMap.slots_find?_removeOwnedBy]

variable {r : Registry} {cls other : ResourceClass} {id id' : RemoteId}

theorem slots_without_of_takes (h : r.Takes cls id other id') :
    ((r.without cls id).map other).slots.find? id' = none := by
  unfold without
  rcases h with ⟨rfl, rfl⟩ | ⟨rfl, slot, hs, ho⟩
  · split
    · rename_i hcls
      rw [slots_closed, if_pos ⟨hcls, rfl⟩]
    · rw [map_withMap_self, IdentityMap.slots_remove, if_pos rfl]
  · rw [if_pos rfl, slots_closed, hs]
    simp [ho]

theorem slots_without_of_not_takes (h : ¬ r.Takes cls id other id') :
    ((r.without cls id).map other).slots.find? id' = (r.map other).slots.find? id' := by
  have hself : ¬ (other = cls ∧ id' = id) := fun hsame => h (.inl hsame)
  unfold without
  split
  · rename_i hcls
    subst hcls
    rw [slots_closed, if_neg hself]
    cases hs : (r.map other).slots.find? id' with
    | none => rfl
    | some slot =>
      have ho : other.owner? slot.entry ≠ some id := fun ho => h (.inr ⟨rfl, slot, hs, ho⟩)
      simp [Option.filter_some, ho]
  · by_cases ho : other = cls
    · subst ho
      rw [map_withMap_self, IdentityMap.slots_remove, if_neg fun hid => hself ⟨rfl, hid⟩]
    · rw [map_withMap_of_ne _ _ ho]

end Registry

/-! ## Teardowns that succeed -/

namespace Service

variable {b b' : Broker cards} {cls : ResourceClass} {id : RemoteId}

theorem exchanges_bind_of_ok {β : Type} {s : Service α} {value : α} {next : α → Service β}
    (h : exec s b = (.ok value, b')) :
    exchanges (s >>= next) b = exchanges s b ++ exchanges (next value) b' := by
  rw [exchanges_bind, h]

/-- A teardown that succeeds has found an entry that was not claimed, has destroyed
what is behind it, and has removed the identifier. -/
theorem exec_teardown_ok {destroy : cls.Entry → Service Unit}
    (hd : ∀ entry, DeviceOnly (destroy entry))
    (h : exec (teardown cls id destroy) b = (.ok (), b')) :
    ∃ entry mid, id ≠ .sentinel ∧ (b.registry.map cls).slots.find? id = some ⟨entry, false⟩ ∧
      exec (destroy entry) b = (.ok (), mid) ∧
      b' = { mid with registry := b.registry.withMap cls ((b.registry.map cls).remove id).2 } := by
  cases hf : (b.registry.map cls).find? id with
  | none =>
    rw [exec_teardown_of_none destroy hf] at h
    cases h
  | some entry =>
    obtain ⟨hv, ⟨entry, claimed⟩, hs, rfl⟩ := IdentityMap.slots_of_find? hf
    cases claimed with
    | true =>
      rw [exec_teardown_of_claimed destroy hv hs] at h
      cases h
    | false =>
      rw [exec_teardown_of_unclaimed (hd entry) hv hs] at h
      split at h
      · rename_i mid he
        cases h
        exact ⟨entry, mid, hv, hs, he, rfl⟩
      · cases h

end Service

open Service

namespace Broker

/-- The call that destroys what an entry records. A child is destroyed through the
native handle of its owner. -/
def destruction? (b : Broker cards) : (cls : ResourceClass) → cls.Entry → Option DeviceCall
  | .token, entry => some (.destroyToken entry.token)
  | .handle, entry => some (.closeHandle entry.handle)
  | .mapping, entry => (b.native? entry.owner).map fun native => .unmapMmio native entry.region
  | .buffer, entry =>
    (b.native? entry.owner).map fun native => .releaseBuffer native entry.workspace
  | .object, entry => some (.destroyObject entry.object)

/-- A request destroys what is recorded under an identifier, by one call. -/
structure Destroys (b : Broker cards) (request : Request) (cls : ResourceClass) (id : RemoteId)
    (entry : cls.Entry) (call : DeviceCall) : Prop where
  valid : id ≠ .sentinel
  slot : (b.registry.map cls).slots.find? id = some ⟨entry, false⟩
  destruction : b.destruction? cls entry = some call
  calls : (request.program b.payloadLimit).calls b = [call]
  after : (b.handle request).2 =
    { b with registry := b.registry.without cls id, device := (b.device.call call).2 }

end Broker

section

variable {b : Broker cards} {request : Request} {cls : ResourceClass} {id : RemoteId}

theorem Broker.exec_ok_of_grants (h : b.Grants request) :
    ∃ value b', exec (request.serve b.payloadLimit) b = (.ok value, b') := by
  cases hexec : exec (request.serve b.payloadLimit) b with
  | mk result b' =>
    cases result with
    | ok value => exact ⟨value, b', rfl⟩
    | error fault => exact absurd h (not_grants_of_exec_error hexec)

theorem Broker.calls_eq (b : Broker cards) (request : Request) :
    (request.program b.payloadLimit).calls b =
      (exchanges (request.serve b.payloadLimit) b).map Exchange.call := by
  rw [← Program.map_call_exchanges, Request.exchanges_program]

/-- A service that ends well by one call, which has the given effect on the driver. -/
def Spends (s : Service Unit) (b : Broker cards) (call : DeviceCall) : Prop :=
  (exec s b).2 = { b with device := (b.device.call call).2 } ∧
    (exchanges s b).map Exchange.call = [call]

theorem spends_device {s : Service Unit} {call : DeviceCall}
    (hexec : (exec s b).2 = (exec (device call) b).2)
    (hexchanges : exchanges s b = exchanges (device call) b) : Spends s b call := by
  refine ⟨hexec.trans rfl, ?_⟩
  rw [hexchanges, exchanges_device]
  rfl

theorem Spends.require_bind {condition : Bool} {fault : Fault} {next : Unit → Service Unit}
    {call : DeviceCall} (h : Spends (next ()) b call) (hc : condition = true) :
    Spends (require condition fault >>= next) b call := by
  subst hc
  have hx : exchanges (require true fault >>= next) b = exchanges (next ()) b := by
    rw [exchanges_bind, exec_require]
    rfl
  unfold Spends
  rw [hx, exec_require_bind]
  exact h

/-- A request that tears something down, and then calls the driver no more. -/
theorem destroys_of_teardown {destroy : cls.Entry → Service Unit}
    (next : Unit → Service request.operation.Value)
    (hserve : exec (request.serve b.payloadLimit) b = exec (teardown cls id destroy >>= next) b)
    (hcalls : exchanges (request.serve b.payloadLimit) b =
      exchanges (teardown cls id destroy >>= next) b)
    (hd : ∀ entry, DeviceOnly (destroy entry)) (hfree : ∀ entry, RegistryFree (destroy entry))
    (hdestroy : ∀ entry mid, exec (destroy entry) b = (.ok (), mid) →
      ∃ call, b.destruction? cls entry = some call ∧ Spends (destroy entry) b call)
    (hnext : ∀ mid : Broker cards, exchanges (next ()) mid = [] ∧
      (exec (next ()) { mid with
        registry := b.registry.withMap cls ((b.registry.map cls).remove id).2 }).2 =
        { mid with registry := b.registry.without cls id })
    (h : b.Grants request) : ∃ entry call, b.Destroys request cls id entry call := by
  obtain ⟨value, b', hok⟩ := Broker.exec_ok_of_grants h
  rw [hok] at hserve
  cases hteardown : exec (teardown cls id destroy) b with
  | mk result torn =>
  cases result with
  | error fault =>
    rw [exec_bind_of_error next hteardown] at hserve
    cases hserve
  | ok _ =>
  obtain ⟨entry, mid, hv, hs, he, rfl⟩ := exec_teardown_ok hd hteardown
  obtain ⟨call, hcall, hmid, hspent⟩ := hdestroy entry mid he
  rw [he] at hmid
  obtain rfl : mid = _ := hmid
  rw [exec_bind_of_ok next hteardown] at hserve
  have hafter := (congrArg Prod.snd hserve).trans (hnext _).2
  refine ⟨entry, call, hv, hs, hcall, ?_, ?_⟩
  · rw [b.calls_eq, hcalls, exchanges_bind_of_ok hteardown, (hnext _).1, List.append_nil]
    rcases exchanges_teardown hfree with ⟨-, fault, herror⟩ | ⟨found, hfound, -, hx⟩
    · rw [hteardown] at herror
      cases herror
    · rw [hs] at hfound
      cases hfound
      rw [hx, hspent]
  · rw [Broker.handle_eq, hok]
    exact hafter

theorem destroys_destroyToken {tokenId : RemoteId} (h : b.Grants (.destroyToken tokenId)) :
    ∃ entry call, b.Destroys (.destroyToken tokenId) .token tokenId entry call := by
  refine destroys_of_teardown pure (congrArg (exec · b) (bind_pure _).symm)
    (congrArg (exchanges · b) (bind_pure _).symm) (fun _ => deviceOnly_device _)
    (fun _ => registryFree_device _) (fun entry mid _ => ?_) (fun mid => ⟨rfl, rfl⟩) h
  exact ⟨_, rfl, spends_device rfl rfl⟩

theorem destroys_destroyObject {objectId : RemoteId} (h : b.Grants (.destroyObject objectId)) :
    ∃ entry call, b.Destroys (.destroyObject objectId) .object objectId entry call := by
  refine destroys_of_teardown pure (congrArg (exec · b) (bind_pure _).symm)
    (congrArg (exchanges · b) (bind_pure _).symm) (fun _ => deviceOnly_device _)
    (fun _ => registryFree_device _) (fun entry mid _ => ?_) (fun mid => ⟨rfl, rfl⟩) h
  exact ⟨_, rfl, spends_device rfl rfl⟩

theorem destroys_closeHandle {handleId : RemoteId} (h : b.Grants (.closeHandle handleId)) :
    ∃ entry call, b.Destroys (.closeHandle handleId) .handle handleId entry call := by
  refine destroys_of_teardown _ rfl rfl (fun _ => deviceOnly_device _)
    (fun _ => registryFree_device _) (fun entry mid _ => ?_) (fun mid => ⟨rfl, rfl⟩) h
  exact ⟨_, rfl, spends_device rfl rfl⟩

theorem exchanges_lookup_bind_of_some {entry : cls.Entry} (next : cls.Entry → Service α)
    (h : (b.registry.map cls).find? id = some entry) :
    exchanges (lookup cls id >>= next) b = exchanges (next entry) b := by
  rw [exchanges_bind_of_ok (exec_lookup_of_some h), exchanges_lookup, List.nil_append]

/-- A request that tears a child down through a handle. -/
theorem destroys_of_lookup {destroy : HandleEntry → cls.Entry → Service Unit}
    (handleId : RemoteId) (next : Unit → Service request.operation.Value)
    (hserve : request.serve b.payloadLimit =
      lookup .handle handleId >>= fun handle => teardown cls id (destroy handle) >>= next)
    (hd : ∀ handle entry, DeviceOnly (destroy handle entry))
    (hfree : ∀ handle entry, RegistryFree (destroy handle entry))
    (hdestroy : ∀ handle entry mid, b.native? handleId = some handle.handle →
      exec (destroy handle entry) b = (.ok (), mid) →
      ∃ call, b.destruction? cls entry = some call ∧ Spends (destroy handle entry) b call)
    (hnext : ∀ mid : Broker cards, exchanges (next ()) mid = [] ∧
      (exec (next ()) { mid with
        registry := b.registry.withMap cls ((b.registry.map cls).remove id).2 }).2 =
        { mid with registry := b.registry.without cls id })
    (h : b.Grants request) : ∃ entry call, b.Destroys request cls id entry call := by
  cases hf : (b.registry.map .handle).find? handleId with
  | none =>
    have hfailed := exec_bind_of_error (fun handle => teardown cls id (destroy handle) >>= next)
      (exec_lookup_of_none hf)
    rw [← hserve] at hfailed
    exact absurd h (Broker.not_grants_of_exec_error hfailed)
  | some handle =>
    have hnative : b.native? handleId = some handle.handle := congrArg (Option.map _) hf
    exact destroys_of_teardown next
      (by rw [hserve]; exact exec_bind_of_ok _ (exec_lookup_of_some hf))
      (by rw [hserve]; exact exchanges_lookup_bind_of_some _ hf)
      (hd handle) (hfree handle) (fun entry mid => hdestroy handle entry mid hnative) hnext h

theorem destroys_unmapMmio {handleId mappingId : RemoteId} {region : UInt32}
    (h : b.Grants (.unmapMmio handleId mappingId region)) :
    ∃ entry call, b.Destroys (.unmapMmio handleId mappingId region) .mapping mappingId entry
      call := by
  refine destroys_of_lookup handleId pure
    (congrArg (lookup .handle handleId >>= ·) (funext fun _ => (bind_pure _).symm))
    (fun _ _ => deviceOnly_require_bind (deviceOnly_require_bind (deviceOnly_device _)))
    (fun _ _ => registryFree_require_bind (registryFree_require_bind (registryFree_device _)))
    (fun handle mapping mid hnative he => ?_) (fun mid => ⟨rfl, rfl⟩) h
  obtain ⟨howner, he⟩ := exec_require_bind_ok he
  obtain ⟨hregion, -⟩ := exec_require_bind_ok he
  refine ⟨.unmapMmio handle.handle region, ?_,
    ((spends_device rfl rfl).require_bind hregion).require_bind howner⟩
  rw [Broker.destruction?, beq_iff_eq.mp howner, beq_iff_eq.mp hregion, hnative]
  rfl

theorem destroys_releaseBuffer {handleId bufferId : RemoteId}
    (h : b.Grants (.releaseBuffer handleId bufferId)) :
    ∃ entry call, b.Destroys (.releaseBuffer handleId bufferId) .buffer bufferId entry call := by
  refine destroys_of_lookup handleId pure
    (congrArg (lookup .handle handleId >>= ·) (funext fun _ => (bind_pure _).symm))
    (fun _ _ => deviceOnly_require_bind (deviceOnly_device _))
    (fun _ _ => registryFree_require_bind (registryFree_device _))
    (fun handle buffer mid hnative he => ?_) (fun mid => ⟨rfl, rfl⟩) h
  obtain ⟨howner, -⟩ := exec_require_bind_ok he
  refine ⟨.releaseBuffer handle.handle buffer.workspace, ?_,
    (spends_device rfl rfl).require_bind howner⟩
  rw [Broker.destruction?, beq_iff_eq.mp howner, hnative]
  rfl

/-- Whatever is to be torn down, success means that it was destroyed by one call. -/
theorem Request.destroys (target : request.target? = some (cls, id)) (h : b.Grants request) :
    ∃ entry call, b.Destroys request cls id entry call := by
  cases request with
  | destroyToken => cases target; exact destroys_destroyToken h
  | closeHandle => cases target; exact destroys_closeHandle h
  | unmapMmio => cases target; exact destroys_unmapMmio h
  | releaseBuffer => cases target; exact destroys_releaseBuffer h
  | destroyObject => cases target; exact destroys_destroyObject h
  | _ => cases target

end

/-! ## For the rest of a history -/

/-- The identifiers that a program issues when it runs. -/
def Program.issued : Program α → Broker cards → List RemoteId
  | .done _, _ => []
  | .act action next, b =>
    (action.issued? (b.perform action).1).toList ++
      (next (b.perform action).1).issued (b.perform action).2

/-- What is live when a program has run was live before it or was issued by it. -/
theorem Program.live_or_issued (p : Program α) {b : Broker cards} {cls : ResourceClass}
    {id : RemoteId} {slot : Slot cls}
    (hs : ((p.run b).2.registry.map cls).slots.find? id = some slot) :
    (∃ old, (b.registry.map cls).slots.find? id = some old) ∨ id ∈ p.issued b := by
  induction p generalizing b with
  | done value => exact .inl ⟨slot, hs⟩
  | act action next ih =>
    rw [issued, List.mem_append]
    rw [run_act] at hs
    rcases ih _ hs with ⟨old, hold⟩ | hrest
    · rcases (b.step_perform action).slots hold with hbefore | hissued
      · exact .inl hbefore
      · exact .inr (.inl (by rw [hissued]; exact List.mem_singleton_self id))
    · exact .inr (.inr hrest)

namespace Broker

variable {salt : UInt64} {b : Broker cards}

/-- The identifiers that a history issues. -/
def issued (b : Broker cards) : List Event → List RemoteId
  | [] => []
  | .serve request :: rest =>
    (request.program b.payloadLimit).issued b ++ (b.handle request).2.issued rest
  | .disturb d :: rest => (b.disturb d).issued rest

theorem live_or_issued (events : List Event) {cls : ResourceClass} {id : RemoteId}
    {slot : Slot cls} (hs : ((b.after events).registry.map cls).slots.find? id = some slot) :
    (∃ old, (b.registry.map cls).slots.find? id = some old) ∨ id ∈ b.issued events := by
  induction events generalizing b with
  | nil => exact .inl ⟨slot, hs⟩
  | cons event rest ih =>
    cases event with
    | disturb d => exact ih (b := b.disturb d) hs
    | serve request =>
      rw [issued, List.mem_append]
      rcases ih (b := (b.handle request).2) hs with ⟨old, hold⟩ | hrest
      · rcases (request.program b.payloadLimit).live_or_issued hold with hbefore | hissued
        · exact .inl hbefore
        · exact .inr (.inl hissued)
      · exact .inr (.inr hrest)

theorem extends_after {events : List Event} (h : b.registry.Sound salt)
    (hb : (b.after events).registry.drawn < 2 ^ 64) :
    (b.after events).registry.Extends b.registry := by
  induction events generalizing b with
  | nil => exact .refl _
  | cons event rest ih =>
    have hmid := Nat.lt_of_le_of_lt ((b.step event).drawn_le_after rest) hb
    exact (ih (sound_step event h hmid) hb).trans (extends_step h hmid)

/-- A request is answered with an error, nothing is changed, and the driver is not called. -/
def TurnsDown (b : Broker cards) (request : Request) : Prop :=
  b.handle request = (.answer request.operation (.error (b.refusal request)), b) ∧
    (request.program b.payloadLimit).calls b = []

theorem turnsDown_of_unresolved {request : Request} {cls : ResourceClass} {id : RemoteId}
    (mem : (cls, id) ∈ request.references) (h : (b.registry.map cls).find? id = none) :
    b.TurnsDown request := by
  have hexec : exec (request.serve b.payloadLimit) b = (.error (b.refusal request), b) :=
    request.refuses_serve b.payloadLimit mem h
  have hhandle : b.handle request =
      (.answer request.operation (.error (b.refusal request)), b) := by
    rw [handle_eq, hexec]
    rfl
  exact ⟨hhandle, Program.calls_eq_nil (congrArg Prod.snd hhandle)⟩

/-- What has happened when a request has torn down what is recorded under an identifier. -/
structure TornDown (b : Broker cards) (request : Request) (cls : ResourceClass) (id : RemoteId) :
    Prop where
  /-- The driver was called once, to destroy what was recorded. -/
  called : ∃ entry call, (b.registry.map cls).slots.find? id = some ⟨entry, false⟩ ∧
    b.destruction? cls entry = some call ∧ (request.program b.payloadLimit).calls b = [call] ∧
    (b.handle request).2.device = (b.device.call call).2
  /-- The identifier is removed, and what a handle owns with it. -/
  removed : ∀ other id', b.registry.Takes cls id other id' →
    (∃ slot, (b.registry.map other).slots.find? id' = some slot) ∧
      ((b.handle request).2.registry.map other).slots.find? id' = none
  /-- Every other identifier keeps its entry and its claim. -/
  kept : ∀ other id', ¬ b.registry.Takes cls id other id' →
    ((b.handle request).2.registry.map other).slots.find? id' =
      (b.registry.map other).slots.find? id'
  /-- However long the history is, a request that names a removed identifier is turned
  down, unless the identifier is issued anew. -/
  refused : ∀ (later : List Event) (other : ResourceClass) (id' : RemoteId),
    b.registry.Takes cls id other id' → id' ∉ (b.handle request).2.issued later →
    ∀ naming : Request, (other, id') ∈ naming.references →
      ((b.handle request).2.after later).TurnsDown naming
  /-- It is not issued anew while the sequence lasts, and it cannot be named in another
  class either. -/
  gone : ∀ later : List Event, ((b.handle request).2.after later).registry.drawn < 2 ^ 64 →
    ∀ (other : ResourceClass) (id' : RemoteId), b.registry.Takes cls id other id' →
    ∀ (naming : Request) (role : ResourceClass), (role, id') ∈ naming.references →
      ((b.handle request).2.after later).TurnsDown naming

theorem Destroys.slot_of_takes {request : Request} {cls other : ResourceClass} {id id' : RemoteId}
    {entry : cls.Entry} {call : DeviceCall} (h : b.Destroys request cls id entry call)
    (ht : b.registry.Takes cls id other id') :
    ∃ slot, (b.registry.map other).slots.find? id' = some slot := by
  rcases ht with ⟨rfl, rfl⟩ | ⟨-, slot, hs, -⟩
  · exact ⟨_, h.slot⟩
  · exact ⟨slot, hs⟩

/-- A removed identifier stays away from its class until it is issued anew. -/
theorem Destroys.slots_of_not_issued {request : Request} {cls other : ResourceClass}
    {id id' : RemoteId} {entry : cls.Entry} {call : DeviceCall}
    (h : b.Destroys request cls id entry call) (ht : b.registry.Takes cls id other id')
    {later : List Event} (hissued : id' ∉ (b.handle request).2.issued later) :
    (((b.handle request).2.after later).registry.map other).slots.find? id' = none := by
  cases hs : (((b.handle request).2.after later).registry.map other).slots.find? id' with
  | none => rfl
  | some slot =>
    rcases live_or_issued later hs with ⟨old, hold⟩ | hagain
    · rw [h.after, Registry.slots_without_of_takes ht] at hold
      cases hold
    · exact absurd hagain hissued

/-- Between the removal and any later moment the registry has only been extended, so a
removed identifier resolves in no class. -/
theorem Destroys.find?_eq_none {request : Request} {cls other : ResourceClass} {id id' : RemoteId}
    {entry : cls.Entry} {call : DeviceCall} (h : b.Destroys request cls id entry call)
    (hsound : b.registry.Sound salt) (ht : b.registry.Takes cls id other id') {later : List Event}
    (hb : ((b.handle request).2.after later).registry.drawn < 2 ^ 64) (role : ResourceClass) :
    (((b.handle request).2.after later).registry.map role).find? id' = none := by
  have hmid := Nat.lt_of_le_of_lt ((b.handle request).2.drawn_le_after later) hb
  have hfirst : (b.handle request).2.registry.Extends b.registry :=
    show (b.step (.serve request)).registry.Extends b.registry from extends_step hsound hmid
  have hlater := extends_after (sound_step (.serve request) hsound hmid) hb
  obtain ⟨slot, hs⟩ := h.slot_of_takes ht
  have hlive : (b.registry.map other).find? id' = some slot.entry := by
    rw [(hsound.wellFormed other).find?_eq, hs]
    rfl
  refine hfirst.find?_eq_none_of_gone hsound hlater hlive (IdentityMap.find?_eq_none_of_slots ?_)
  rw [h.after]
  exact Registry.slots_without_of_takes ht

theorem sound_start (salt : UInt64) (device : Simulator cards) (limit : UInt64) :
    (start (.seeded salt) device limit).registry.Sound (IdSource.effectiveSalt salt) :=
  Registry.sound_empty (IdSource.effectiveSalt_ne_zero salt)

/-- A teardown that succeeds, at any point of a history, removes exactly what it
destroys, and removes it for good. -/
theorem tornDown_of_grants {salt limit : UInt64} {device : Simulator cards} {events : List Event}
    {request : Request} {cls : ResourceClass} {id : RemoteId}
    (target : request.target? = some (cls, id))
    (granted : ((start (.seeded salt) device limit).after events).Grants request) :
    ((start (.seeded salt) device limit).after events).TornDown request cls id := by
  obtain ⟨entry, call, h⟩ := Request.destroys target granted
  constructor
  · refine ⟨entry, call, h.slot, h.destruction, h.calls, ?_⟩
    rw [h.after]
  · intro other id' ht
    refine ⟨h.slot_of_takes ht, ?_⟩
    rw [h.after]
    exact Registry.slots_without_of_takes ht
  · intro other id' ht
    rw [h.after]
    exact Registry.slots_without_of_not_takes ht
  · intro later other id' ht hissued naming mem
    refine turnsDown_of_unresolved mem (IdentityMap.find?_eq_none_of_slots ?_)
    exact h.slots_of_not_issued ht hissued
  · intro later drawn other id' ht naming role mem
    have hbefore := Nat.lt_of_le_of_lt
      (Nat.le_trans (drawn_le_step _ (.serve request)) (drawn_le_after _ later)) drawn
    have hsound := sound_after (sound_start salt device limit) hbefore
    exact turnsDown_of_unresolved mem (h.find?_eq_none hsound ht drawn role)

/-- Two handles with a mapping and a buffer each, and one of the handles is closed. -/
theorem tornDown_of_grants_closeHandle :
    (Request.closeHandle ⟨7, 3⟩).target? = some (.handle, ⟨7, 3⟩) ∧
    ((start (.seeded 7) (.start 1 fun _ => none) 4096).after
      [.serve (.enumerate [] 2), .serve (.openHandle ⟨7, 2⟩ 0), .serve (.openHandle ⟨7, 2⟩ 0),
        .serve (.mapMmio ⟨7, 3⟩ 0), .serve (.mapMmio ⟨7, 4⟩ 0),
        .serve (.prepareBuffer ⟨7, 3⟩ 64 none 0),
        .serve (.prepareBuffer ⟨7, 4⟩ 64 none 0)]).Grants (.closeHandle ⟨7, 3⟩) ∧
    ((start (.seeded 7) (.start 1 fun _ => none) 4096).after
      [.serve (.enumerate [] 2), .serve (.openHandle ⟨7, 2⟩ 0), .serve (.openHandle ⟨7, 2⟩ 0),
        .serve (.mapMmio ⟨7, 3⟩ 0), .serve (.mapMmio ⟨7, 4⟩ 0),
        .serve (.prepareBuffer ⟨7, 3⟩ 64 none 0),
        .serve (.prepareBuffer ⟨7, 4⟩ 64 none 0)]).TornDown (.closeHandle ⟨7, 3⟩) .handle ⟨7, 3⟩ :=
  ⟨rfl, rfl, tornDown_of_grants rfl rfl⟩

end Broker

end DeviceBroker
