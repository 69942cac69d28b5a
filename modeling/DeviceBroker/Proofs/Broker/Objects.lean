import DeviceBroker.Proofs.Broker.Arrays
import DeviceBroker.Proofs.Broker.Registers
import DeviceBroker.Proofs.Simulator.Shown

/-!
# Objects along a history

A live object of a client names a place in the tree of a resource, and goes on
naming it until it is destroyed. Several objects may name one place. What is
written through one of them is read through all of them, and through no object
that names another place; and nothing that can be asked for takes a place away,
or turns a text into a container or the other way round, or changes the names
of children. This holds for any source of identifiers.
-/

namespace DeviceBroker

variable {cards : Nat}

/-! ## Requests that open and destroy no objects -/

/-- Whether an operation can open or destroy objects. -/
def Operation.rehangs : Operation → Bool
  | .tokenGetObject | .handleGetObject | .objectGetObject | .objectGetObjectAt
  | .destroyObject => true
  | _ => false

/-- Whether a call of a kind opens or destroys an object, if it succeeds. -/
def CallKind.rehangs : CallKind → Bool
  | .tokenGetObject | .handleGetObject | .objectGetObject | .objectGetObjectAt
  | .destroyObject => true
  | _ => false

theorem Simulator.objects_call_eq (s : Simulator cards) {call : DeviceCall}
    (h : call.kind.rehangs = false) : (s.call call).2.objects = s.objects := by
  have hcall := s.rehangs_call call
  generalize s.call call = outcome at hcall ⊢
  obtain ⟨result, t⟩ := outcome
  cases call with
  | tokenGetObject | handleGetObject | objectGetObject | objectGetObjectAt | destroyObject =>
    cases h
  | _ => exact hcall

section

variable {request : Request} {cls : ResourceClass}

theorem Request.target_of_not_rehangs (h : request.operation.rehangs = false) {id : RemoteId}
    (ht : request.target? = some (cls, id)) : cls ≠ .object := by
  cases request with
  | destroyObject => cases h
  | destroyToken | closeHandle | unmapMmio | releaseBuffer =>
    cases ht
    exact nofun
  | _ => cases ht

theorem Operation.creates_of_not_rehangs {op : Operation} (h : op.rehangs = false)
    (hc : op.creates? = some cls) : cls ≠ .object := by
  cases op with
  | tokenGetObject | handleGetObject | objectGetObject | objectGetObjectAt => cases h
  | openHandle | mapMmio | prepareBuffer =>
    cases hc
    exact nofun
  | _ => cases hc

theorem Operation.call_of_not_rehangs {op : Operation} (h : op.rehangs = false)
    {kind : CallKind} (hk : kind = op.firstCall ∨ op.undoes? = some kind) :
    kind.rehangs = false := by
  cases op with
  | tokenGetObject | handleGetObject | objectGetObject | objectGetObjectAt | destroyObject =>
    cases h
  | _ =>
    obtain rfl | hk := hk
    · rfl
    · cases hk
      try rfl

end

namespace Broker

/-- The place that a live object names: a resource and a path in its tree. -/
def object? (b : Broker cards) (id : RemoteId) : Option (OpenObject cards) :=
  ((b.registry.map .object).find? id).bind fun entry => b.device.objects.find? entry.object

/-- The same identifiers name the same objects, and these are where they were. -/
structure SameWall (b' b : Broker cards) : Prop where
  found : (b'.registry.map .object).find? = (b.registry.map .object).find?
  kept : ∀ object state, b.device.objects.find? object = some state →
    b'.device.objects.find? object = some state

theorem sameWall_of_objects {b' b : Broker cards}
    (found : (b'.registry.map .object).find? = (b.registry.map .object).find?)
    (objects : b'.device.objects = b.device.objects) : SameWall b' b :=
  ⟨found, fun _ _ hf => objects ▸ hf⟩

theorem SameWall.trans {b'' b' b : Broker cards} (h' : SameWall b'' b') (h : SameWall b' b) :
    SameWall b'' b :=
  ⟨h'.found.trans h.found, fun object state hf => h'.kept object state (h.kept object state hf)⟩

theorem sameWall_withMap {b : Broker cards} {cls : ResourceClass} (h : cls ≠ .object)
    (m : IdentityMap cls) : SameWall { b with registry := b.registry.withMap cls m } b :=
  sameWall_of_objects (congrArg IdentityMap.find? (b.registry.map_withMap_of_ne m h.symm)) rfl

theorem sameWall_perform {b : Broker cards} {request : Request}
    (h : request.operation.rehangs = false) {a : Action} (ha : request.MayPerform a) :
    SameWall (b.perform a).2 b := by
  cases ha with
  | find cls id => exact sameWall_of_objects rfl rfl
  | claim ht => exact sameWall_withMap (request.target_of_not_rehangs h ht) _
  | settle ht how => exact sameWall_withMap (request.target_of_not_rehangs h ht) _
  | register hc entry =>
    have hobject := Operation.creates_of_not_rehangs h hc
    exact sameWall_of_objects
      (congrArg IdentityMap.find? (b.registry.map_register_of_ne entry hobject.symm)) rfl
  | intern token =>
    exact sameWall_of_objects (congrArg IdentityMap.find? (b.registry.map_intern_of_ne _ nofun)) rfl
  | @removeOwned owner hr cls =>
    by_cases hc : cls = .object
    · -- No object has an owner.
      subst hc
      refine sameWall_of_objects (funext fun id => ?_) rfl
      have hfilter := IdentityMap.find?_removeOwnedBy (b.registry.map .object) owner id
      refine (congrArg (fun m : IdentityMap .object => m.find? id)
        (Registry.map_withMap_self _ _ _)).trans (hfilter.trans ?_)
      cases (b.registry.map .object).find? id <;> rfl
    · exact sameWall_withMap hc _
  | call hk =>
    exact sameWall_of_objects rfl
      (b.device.objects_call_eq (Operation.call_of_not_rehangs h hk))

theorem sameWall_handle (b : Broker cards) {request : Request}
    (h : request.operation.rehangs = false) : SameWall (b.handle request).2 b :=
  handle_preserves (I := fun b' => SameWall b' b)
    (fun _ _ ha hb => (sameWall_perform h ha).trans hb) (sameWall_of_objects rfl rfl)

theorem sameWall_disturb (b : Broker cards) (d : Disturbance) : SameWall (b.disturb d) b := by
  refine sameWall_of_objects rfl ?_
  cases d with
  | arm | recycle => rfl
  | raise token number bits =>
    exact congrArg Gallery.objects (b.device.gallery_raiseError token number bits)

/-! ## Requests that open or destroy an object -/

/-- What a request does to the live objects: nothing, or it opens an object for which
there is a new identifier, or it destroys one and takes its identifier away. -/
inductive Rewalls (b b' : Broker cards) : Prop
  | same (h : SameWall b' b)
  | hung {id : RemoteId} {object : NativeObject} {state : OpenObject cards}
      (new : (b.registry.map .object).find? id = none)
      (free : b.device.objects.find? object = none)
      (found : (b'.registry.map .object).find? =
        override (b.registry.map .object).find? id (some ⟨object⟩))
      (objects : b'.device.objects = b.device.objects.insert object state)
  | taken {id : RemoteId} {entry : ObjectEntry}
      (live : (b.registry.map .object).find? id = some entry)
      (found : (b'.registry.map .object).find? = override (b.registry.map .object).find? id none)
      (objects : b'.device.objects = b.device.objects.erase entry.object)

end Broker

section

variable {b : Broker cards}

open Service Broker

/-- The value of the next object is not in use. -/
theorem Simulator.find?_next_object {s : Simulator cards} (h : s.holdings.Bounded) :
    s.objects.find? ⟨Simulator.firstObject + s.nextObject⟩ = none := by
  refine Option.eq_none_iff_forall_ne_some.mpr fun state hf => ?_
  have hlive : s.holdings.object ⟨Simulator.firstObject + s.nextObject⟩ = true := by
    change s.objects.contains _ = true
    rw [Table.contains_eq, hf]
    rfl
  exact Nat.lt_irrefl _ (h.object _ hlive)

/-- To register an object that was just opened. It is destroyed again if there is no
identifier for it, and stays behind if that fails. -/
theorem rewalls_registerObject {t : Simulator cards} {object : NativeObject}
    (hb : b.device.holdings.Bounded) (ht : b.device.Hangs t object) :
    Rewalls b (exec (registerObject object) { b with device := t }).2 := by
  obtain ⟨state, -, hobject, hobjects⟩ := ht
  have free : b.device.objects.find? object = none :=
    hobject ▸ Simulator.find?_next_object hb
  unfold registerObject
  rw [exec_registerOrUndo]
  rcases b.registry.find?_register .object ⟨object⟩ with ⟨id, hr, new, found⟩ | ⟨hr, found⟩
  · simp only [hr]
    exact .hung new free found hobjects
  · simp only [hr]
    refine .same ⟨found, fun other placed hf => ?_⟩
    have hne : other ≠ object := fun heq => by
      rw [heq, free] at hf
      cases hf
    have hundone := t.rehangs_call (.destroyObject object)
    generalize t.call (.destroyObject object) = outcome at hundone ⊢
    have hopened : t.objects.find? other = some placed := by
      rw [hobjects, Table.find?_insert, if_neg hne, hf]
    obtain ⟨_ | value, u⟩ := outcome
    · exact hundone ▸ hopened
    · change u.objects = t.objects.erase object at hundone
      rw [hundone, Table.find?_erase, if_neg hne, hopened]

/-- What is called to open an object has opened one, or has left the objects as they are. -/
def OpensObject (b : Broker cards) : Except Fault NativeObject × Broker cards → Prop
  | (.ok object, b') => ∃ t, b' = { b with device := t } ∧ b.device.Hangs t object
  | (.error _, b') => SameWall b' b

theorem opens_of_call {outcome : Except Fault NativeObject × Simulator cards}
    (h : b.device.Opens outcome) : OpensObject b (outcome.1, { b with device := outcome.2 }) := by
  obtain ⟨fault | object, t⟩ := outcome
  · exact sameWall_of_objects rfl h
  · exact ⟨t, rfl, h⟩

theorem rewalls_creation (hb : b.device.holdings.Bounded) {cls : ResourceClass} {id : RemoteId}
    {create : cls.Entry → Service NativeObject}
    (h : ∀ entry, OpensObject b (exec (create entry) b)) :
    Rewalls b (exec (lookup cls id >>= fun entry => create entry >>= registerObject) b).2 := by
  cases hf : (b.registry.map cls).find? id with
  | none =>
    rw [exec_bind_of_error _ (exec_lookup_of_none hf)]
    exact .same (sameWall_of_objects rfl rfl)
  | some entry =>
    have hentry := h entry
    rw [exec_bind_of_ok _ (exec_lookup_of_some hf), exec_bind]
    generalize exec (create entry) b = outcome at hentry ⊢
    obtain ⟨fault | object, b'⟩ := outcome
    · exact .same hentry
    · obtain ⟨t, rfl, ht⟩ := hentry
      exact rewalls_registerObject hb ht

theorem rewalls_teardown {id : RemoteId} {destroy : ObjectEntry → Service Unit}
    (hd : ∀ entry, DeviceOnly (destroy entry))
    (h : ∀ entry, ∃ outcome, b.device.Destroys entry.object outcome ∧
      exec (destroy entry) b = (outcome.1, { b with device := outcome.2 })) :
    Rewalls b (exec (teardown .object id destroy) b).2 := by
  cases hf : (b.registry.map .object).find? id with
  | none =>
    rw [exec_teardown_of_none destroy hf]
    exact .same (sameWall_of_objects rfl rfl)
  | some entry =>
    rcases exec_teardown_of_some (hd entry) hf with hbusy | hrun
    · rw [hbusy]
      exact .same (sameWall_of_objects rfl rfl)
    · obtain ⟨⟨fault | value, t⟩, hobjects, hexec⟩ := h entry
      · rw [hrun, hexec]
        exact .same (sameWall_of_objects rfl hobjects)
      · rw [hrun, hexec]
        have hmap := b.registry.map_withMap_self .object ((b.registry.map .object).remove id).2
        refine .taken hf ?_ hobjects
        exact (congrArg IdentityMap.find? hmap).trans (IdentityMap.find?_remove _ id)

/-- What a request does to the live objects. -/
theorem Broker.rewalls_handle (hb : b.device.holdings.Bounded) (request : Request) :
    Rewalls b (b.handle request).2 := by
  cases hr : request.operation.rehangs with
  | false => exact .same (b.sameWall_handle hr)
  | true =>
    rw [handle_eq]
    cases request with
    | tokenGetObject id name flags =>
      exact rewalls_creation hb fun entry =>
        opens_of_call (b.device.rehangs_call (.tokenGetObject entry.token name flags))
    | handleGetObject id name flags =>
      exact rewalls_creation hb fun entry =>
        opens_of_call (b.device.rehangs_call (.handleGetObject entry.handle name flags))
    | objectGetObject id name flags =>
      exact rewalls_creation hb fun entry =>
        opens_of_call (b.device.rehangs_call (.objectGetObject entry.object name flags))
    | objectGetObjectAt id index =>
      exact rewalls_creation hb fun entry =>
        opens_of_call (b.device.rehangs_call (.objectGetObjectAt entry.object index))
    | destroyObject id =>
      exact rewalls_teardown (fun entry => deviceOnly_device (.destroyObject entry.object))
        fun entry => ⟨_, b.device.rehangs_call (.destroyObject entry.object), rfl⟩
    | _ => cases hr

end

theorem Simulator.Brief.disturb {s : Simulator cards} (h : s.Brief) (d : Disturbance) :
    (s.disturb d).Brief := by
  cases d with
  | arm | recycle => exact h.of_eq rfl rfl
  | raise token number bits =>
    unfold Simulator.disturb Simulator.raiseError
    dsimp only
    split
    · exact h
    · rename_i site _ _
      exact h.changeError site number fun value => value ||| bits

namespace Broker

variable {b b' : Broker cards}

/-! ## Histories -/

theorem object?_of_found {id : RemoteId} {entry : ObjectEntry}
    (hf : (b.registry.map .object).find? id = some entry) :
    b.object? id = b.device.objects.find? entry.object := by
  rw [object?, hf]
  rfl

theorem found_of_object? {id : RemoteId} {state : OpenObject cards}
    (h : b.object? id = some state) :
    ∃ entry, (b.registry.map .object).find? id = some entry ∧
      b.device.objects.find? entry.object = some state :=
  Option.bind_eq_some_iff.mp h

/-- Every live object is one of the driver, and it is no other live object. -/
structure Hung (b : Broker cards) : Prop where
  backed : ∀ id entry, (b.registry.map .object).find? id = some entry →
    ∃ state, b.device.objects.find? entry.object = some state
  distinct : ∀ id id' entry entry', (b.registry.map .object).find? id = some entry →
    (b.registry.map .object).find? id' = some entry' → entry.object = entry'.object → id = id'

/-- What a request does to one live object: the object stays where it is, or loses its
identifier. -/
theorem Hung.kept (h : b.Hung) (hr : Rewalls b b') {id : RemoteId} {entry : ObjectEntry}
    (hf : (b.registry.map .object).find? id = some entry) :
    (b'.registry.map .object).find? id = none ∨
    (b'.registry.map .object).find? id = some entry ∧
      b'.device.objects.find? entry.object = b.device.objects.find? entry.object := by
  obtain ⟨state, hs⟩ := h.backed id entry hf
  cases hr with
  | same hsame => exact .inr ⟨hsame.found ▸ hf, (hsame.kept _ _ hs).trans hs.symm⟩
  | @hung new object placed hnew free found objects =>
    have hid : id ≠ new := fun heq => by cases (heq ▸ hf).symm.trans hnew
    have hne : entry.object ≠ object := fun heq => by cases (heq ▸ hs).symm.trans free
    refine .inr ⟨found ▸ (override_of_ne _ _ hid).trans hf, ?_⟩
    rw [objects, Table.find?_insert, if_neg hne]
  | @taken gone removed live found objects =>
    by_cases hid : id = gone
    · exact .inl (found ▸ hid ▸ override_self _ _ _)
    · have hne : entry.object ≠ removed.object :=
        fun heq => hid (h.distinct id gone entry removed hf live heq)
      refine .inr ⟨found ▸ (override_of_ne _ _ hid).trans hf, ?_⟩
      rw [objects, Table.find?_erase, if_neg hne]

/-- What is live after a request was live before it, or has just been opened. -/
theorem Rewalls.origin (hr : Rewalls b b') {id : RemoteId} {entry : ObjectEntry}
    (hf : (b'.registry.map .object).find? id = some entry) :
    (b.registry.map .object).find? id = some entry ∨
    (b.registry.map .object).find? id = none ∧ b.device.objects.find? entry.object = none ∧
      (b'.registry.map .object).find? = override (b.registry.map .object).find? id (some entry) ∧
      ∃ state, b'.device.objects.find? entry.object = some state := by
  cases hr with
  | same hsame => exact .inl (hsame.found ▸ hf)
  | @hung new object placed hnew free found objects =>
    rw [found] at hf
    by_cases hid : id = new
    · subst hid
      rw [override_self] at hf
      obtain rfl := Option.some.inj hf
      exact .inr ⟨hnew, free, found, placed, by rw [objects, Table.find?_insert, if_pos rfl]⟩
    · exact .inl ((override_of_ne _ _ hid).symm.trans hf)
  | @taken gone removed live found objects =>
    rw [found] at hf
    by_cases hid : id = gone
    · rw [hid, override_self] at hf
      cases hf
    · exact .inl ((override_of_ne _ _ hid).symm.trans hf)

theorem Hung.rewalls (h : b.Hung) (hr : Rewalls b b') : b'.Hung := by
  constructor
  case backed =>
    intro id entry hf
    rcases hr.origin hf with hold | ⟨-, -, -, hs⟩
    · rcases h.kept hr hold with hgone | ⟨-, hs⟩
      · cases hgone.symm.trans hf
      · rw [hs]
        exact h.backed id entry hold
    · exact hs
  case distinct =>
    intro id id' entry entry' hf hf' heq
    have apart : ∀ {old : RemoteId} {other fresh : ObjectEntry},
        (b.registry.map .object).find? old = some other →
        b.device.objects.find? fresh.object = none → other.object ≠ fresh.object := by
      intro old other fresh hold hfree heq
      obtain ⟨state, hs⟩ := h.backed old other hold
      cases (heq ▸ hs).symm.trans hfree
    rcases hr.origin hf with hold | ⟨-, hfree, hfound, -⟩
    · rcases hr.origin hf' with hold' | ⟨-, hfree, -, -⟩
      · exact h.distinct id id' entry entry' hold hold' heq
      · exact absurd heq (apart hold hfree)
    · rw [hfound] at hf'
      by_cases hid : id' = id
      · exact hid.symm
      · exact absurd heq.symm (apart ((override_of_ne _ _ hid).symm.trans hf') hfree)

/-- What holds along every history of the live objects and of what they show. -/
structure Walled (b : Broker cards) : Prop where
  formed : b.device.Formed
  brief : b.device.Brief
  bounded : b.device.holdings.Bounded
  hung : b.Hung

theorem walled_start (cards : Nat) (source : IdSource) (images : String → Option (List UInt8))
    (limit : UInt64) : (start source (.start cards images) limit).Walled where
  formed := Simulator.formed_start cards images
  brief := Simulator.brief_start cards images
  bounded := (Simulator.allocated_start cards images).holdings
  hung := by
    constructor
    case backed =>
      intro id entry hf
      cases (IdentityMap.find?_empty id).symm.trans hf
    case distinct =>
      intro id id' entry entry' hf
      cases (IdentityMap.find?_empty id).symm.trans hf

theorem Walled.handle (h : b.Walled) (request : Request) : (b.handle request).2.Walled where
  formed := by
    refine handle_preserves (I := fun b => b.device.Formed) (fun b' a _ hb => ?_) h.formed
    cases a with
    | call c => exact hb.call c
    | _ => exact hb
  brief := by
    refine handle_preserves (I := fun b => b.device.Brief) (fun b' a _ hb => ?_) h.brief
    cases a with
    | call c => exact (Simulator.says_call hb c).1
    | _ => exact hb
  bounded := bounded_handle h.bounded request
  hung := h.hung.rewalls (rewalls_handle h.bounded request)

theorem Walled.disturb (h : b.Walled) (d : Disturbance) : (b.disturb d).Walled where
  formed := h.formed.disturb d
  brief := h.brief.disturb d
  bounded := by
    change (b.device.disturb d).holdings.Bounded
    rw [b.device.holdings_disturb d]
    exact h.bounded
  hung := h.hung.rewalls (.same (b.sameWall_disturb d))

theorem Walled.after (h : b.Walled) (events : List Event) : (b.after events).Walled := by
  induction events generalizing b with
  | nil => exact h
  | cons event rest ih =>
    cases event with
    | serve request => exact ih (h.handle request)
    | disturb d => exact ih (h.disturb d)

/-! ## Answers -/

open Service

/-- What a live object answers when it shows a face and nothing is armed. -/
structure ReadsAs (b : Broker cards) (id : RemoteId) (face : Face) : Prop where
  type : (b.handle (.objectGetType id)).1 = .ofResult .objectGetType (.ok face.kind)
  size : ∀ flags, (b.handle (.objectGetSize id flags)).1 =
    .ofResult .objectGetSize (.ok (.ofNat face.size))
  read64 : ∀ flags, (b.handle (.objectRead64 id flags)).1 = .ofResult .objectRead64 face.read64
  read : ∀ offset length flags, (b.handle (.objectRead id offset length flags)).1 =
    .ofResult .objectRead
      (if length ≤ b.payloadLimit then face.read offset length else .error .invalidParam)

theorem exec_require_bind_of_not {condition : Prop} [Decidable condition] {α : Type}
    (h : ¬ condition) (fault : Fault) (next : Unit → Service α) :
    exec (require (decide condition) fault >>= next) b = (.error fault, b) := by
  rw [exec_require_bind, decide_eq_false h]
  rfl

theorem handle_fst {request : Request} {result : Except Fault request.operation.Value}
    {b' : Broker cards} (h : exec (request.serve b.payloadLimit) b = (result, b')) :
    (b.handle request).1 = .ofResult request.operation result := by
  rw [handle_eq, h]

theorem Walled.reads (h : b.Walled) (unarmed : ∀ kind, b.device.armed kind = none) {id : RemoteId}
    {state : OpenObject cards} {face : Face} (hs : b.object? id = some state)
    (hface : b.device.faceAt state = some face) : b.ReadsAs id face := by
  obtain ⟨entry, hf, hplaced⟩ := found_of_object? hs
  have answered {α : Type} (next : ObjectEntry → Service α) :
      exec (lookup .object id >>= next) b = exec (next entry) b :=
    exec_bind_of_ok next (exec_lookup_of_some hf)
  constructor
  case type =>
    rw [← Simulator.objectType_eq hplaced hface]
    exact handle_fst ((answered _).trans (exec_device_of_unarmed (unarmed _)))
  case size =>
    intro flags
    rw [← Simulator.objectSize_eq hplaced hface (h.formed.size_lt h.brief hface)]
    exact handle_fst ((answered _).trans (exec_device_of_unarmed (unarmed _)))
  case read64 =>
    intro flags
    rw [← Simulator.readObject64_eq hplaced hface]
    exact handle_fst ((answered _).trans (exec_device_of_unarmed (unarmed _)))
  case read =>
    intro offset length flags
    have hcall : exec (Service.device (.objectRead entry.object offset length flags)) b = _ :=
      exec_device_of_unarmed (unarmed _)
    have hread := Simulator.readObject_eq hplaced hface offset length
    by_cases hlength : length ≤ b.payloadLimit
    · rw [if_pos hlength]
      have hexec : exec (Request.serve b.payloadLimit (.objectRead id offset length flags)) b = _ :=
        (answered _).trans (exec_require_bind_of hlength _ _)
      cases hbytes : face.read offset length with
      | error fault =>
        exact handle_fst (hexec.trans (exec_bind_of_error _
          (hcall.trans (congrArg (Prod.mk · _) (hread.trans hbytes)))))
      | ok bytes =>
        have hbound := exec_bind_of_ok (fun bytes : List UInt8 =>
            (pure (bytes.take length.toNat) : Service (List UInt8)))
          (hcall.trans (congrArg (Prod.mk · _) (hread.trans hbytes)))
        rw [exec_pure, Face.take_read hbytes] at hbound
        exact handle_fst (hexec.trans hbound)
    · rw [if_neg hlength]
      exact handle_fst ((answered _).trans (exec_require_bind_of_not hlength _ _))

theorem handle_objectWrite64_of_container (unarmed : ∀ kind, b.device.armed kind = none)
    {id : RemoteId} {state : OpenObject cards} (hs : b.object? id = some state)
    {names : List String} (hnames : b.device.faceAt state = some (.container names))
    (value : UInt64) (flags : UInt32) :
    b.handle (.objectWrite64 id value flags) =
      (.ofResult .objectWrite64 (.error .invalidParam), b.recount (b.device.calls + 1)) := by
  obtain ⟨entry, hf, hplaced⟩ := found_of_object? hs
  have hserve : b.device.serve (.objectWrite64 entry.object value flags) =
      (.error .invalidParam, b.device) :=
    congrArg b.device.commit (Simulator.writeObject64_of_container hplaced hnames value)
  have hexec : exec (Request.serve b.payloadLimit (.objectWrite64 id value flags)) b = _ :=
    (exec_bind_of_ok _ (exec_lookup_of_some hf)).trans (exec_device_of_unarmed (unarmed _))
  rw [handle_eq, hexec, Simulator.call_of_unarmed (unarmed _), hserve]
  rfl

/-- A number that was written at a place is read through all live objects that name the
place, and what the others show is as it was. -/
structure Wrote (b b' : Broker cards) (state : OpenObject cards) (value : UInt64) : Prop where
  objects : b'.object? = b.object?
  shown : ∀ id, b.object? id = some state → b'.ReadsAs id (.attribute (attributeText value))
  /-- The text is a prefix and the lower-case digits of the number, without a leading zero. -/
  text : ∃ digits, Hex.IsNumeral digits value.toNat ∧
    attributeText value = String.ofList ('0' :: 'x' :: digits)
  number : ∀ id flags, b.object? id = some state →
    (b'.handle (.objectRead64 id flags)).1 = .ofResult .objectRead64 (.ok value)
  others : ∀ id other, b.object? id = some other → other ≠ state →
    ∃ face, b.ReadsAs id face ∧ b'.ReadsAs id face

theorem Walled.wrote (h : b.Walled) (unarmed : ∀ kind, b.device.armed kind = none) {id : RemoteId}
    {state : OpenObject cards} (hs : b.object? id = some state) {old : String}
    (hold : b.device.faceAt state = some (.attribute old)) (value : UInt64) (flags : UInt32) :
    (b.handle (.objectWrite64 id value flags)).1 = .ofResult .objectWrite64 (.ok ()) ∧
      b.Wrote (b.handle (.objectWrite64 id value flags)).2 state value := by
  obtain ⟨entry, hf, hplaced⟩ := found_of_object? hs
  obtain ⟨t, hwrite⟩ := Simulator.writeObject64_isOk hplaced hold value
  have hcall : b.device.call (.objectWrite64 entry.object value flags) =
      (.ok (), t.rig (b.device.calls + 1) b.device.armed) := by
    rw [Simulator.call_of_unarmed (unarmed _)]
    have hserve : b.device.serve (.objectWrite64 entry.object value flags) = (.ok (), t) :=
      congrArg b.device.commit hwrite
    rw [hserve]
  have hhandle : b.handle (.objectWrite64 id value flags) =
      (.ofResult .objectWrite64 (.ok ()),
        { b with device := t.rig (b.device.calls + 1) b.device.armed }) := by
    have hexec : exec (Request.serve b.payloadLimit (.objectWrite64 id value flags)) b =
        (.ok (), { b with device := t.rig (b.device.calls + 1) b.device.armed }) :=
      (exec_bind_of_ok _ (exec_lookup_of_some hf)).trans
        (congrArg (fun outcome : Except Fault Unit × Simulator cards =>
          (outcome.1, { b with device := outcome.2 })) hcall)
    rw [handle_eq, hexec]
  have hnext := h.handle (.objectWrite64 id value flags)
  obtain ⟨state', old', hfind, -, hobjects, -, hfaces⟩ :=
    Simulator.gallery_of_writeObject64 hwrite
  obtain rfl : state' = state := Option.some.inj (hfind.symm.trans hplaced)
  rw [hhandle] at hnext ⊢
  have hplaces : Broker.object? { b with
      device := t.rig (b.device.calls + 1) b.device.armed } = b.object? :=
    funext fun other => congrArg (fun objects : Table NativeObject (OpenObject cards) =>
      ((b.registry.map .object).find? other).bind fun entry => objects.find? entry.object) hobjects
  have hface : ∀ place, (t.rig (b.device.calls + 1) b.device.armed).faceAt place =
      override b.device.faceAt state' (some (.attribute (attributeText value))) place :=
    congrFun hfaces
  refine ⟨rfl, hplaces, fun other ho => ?shown,
    ⟨_, Hex.isNumeral_minimal value.toNat, rfl⟩, fun other flags ho => ?number,
    fun other place ho hne => ?others⟩
  case shown =>
    exact hnext.reads unarmed ((congrFun hplaces other).trans ho) ((hface _).trans
      (override_self _ _ _))
  case number =>
    have hread := hnext.reads unarmed ((congrFun hplaces other).trans ho) ((hface _).trans
      (override_self _ _ _))
    rw [hread.read64, Face.read64_attributeText]
  case others =>
    obtain ⟨_, -, hlive⟩ := found_of_object? ho
    obtain ⟨face, hf⟩ := h.formed.exists_face hlive
    refine ⟨face, h.reads unarmed ho hf, ?_⟩
    exact hnext.reads unarmed ((congrFun hplaces other).trans ho) ((hface _).trans
      ((override_of_ne _ _ hne).trans hf))

/-- What the live objects of a broker give access to. -/
structure ServesObjects (b : Broker cards) : Prop where
  /-- A live object names a place where there is a node. Whether this is a container,
  and the names of its children, are as they were at the start. -/
  resolved : ∀ id entry, (b.registry.map .object).find? id = some entry →
    ∃ state face, b.object? id = some state ∧ b.device.faceAt state = some face ∧
      (Resource.initial state.site.kind).tree.outline? state.path = some face.outline
  steady : ∀ event id state, b.object? id = some state →
    (b.step event).object? id = some state ∨ ((b.step event).registry.map .object).find? id = none
  answered : (∀ kind, b.device.armed kind = none) → ∀ id state face,
    b.object? id = some state → b.device.faceAt state = some face → b.ReadsAs id face
  written : (∀ kind, b.device.armed kind = none) → ∀ id state text value flags,
    b.object? id = some state → b.device.faceAt state = some (.attribute text) →
    (b.handle (.objectWrite64 id value flags)).1 = .ofResult .objectWrite64 (.ok ()) ∧
      b.Wrote (b.handle (.objectWrite64 id value flags)).2 state value
  refused : (∀ kind, b.device.armed kind = none) → ∀ id state names value flags,
    b.object? id = some state → b.device.faceAt state = some (.container names) →
    b.handle (.objectWrite64 id value flags) =
      (.ofResult .objectWrite64 (.error .invalidParam), b.recount (b.device.calls + 1))

theorem Walled.resolved (h : b.Walled) {id : RemoteId} {entry : ObjectEntry}
    (hf : (b.registry.map .object).find? id = some entry) :
    ∃ state face, b.object? id = some state ∧ b.device.faceAt state = some face ∧
      (Resource.initial state.site.kind).tree.outline? state.path = some face.outline := by
  obtain ⟨state, hs⟩ := h.hung.backed id entry hf
  obtain ⟨face, hface⟩ := h.formed.exists_face hs
  refine ⟨state, face, (object?_of_found hf).trans hs, hface, ?_⟩
  rw [← h.formed.outlines state.site, b.device.outlines_eq_map, hface]
  rfl

theorem Walled.steady (h : b.Walled) (event : Event) {id : RemoteId} {state : OpenObject cards}
    (hs : b.object? id = some state) :
    (b.step event).object? id = some state ∨
      ((b.step event).registry.map .object).find? id = none := by
  obtain ⟨entry, hf, hplaced⟩ := found_of_object? hs
  have hwalls : Rewalls b (b.step event) := by
    cases event with
    | serve request => exact rewalls_handle h.bounded request
    | disturb d => exact .same (b.sameWall_disturb d)
  rcases h.hung.kept hwalls hf with hgone | ⟨hlive, hsame⟩
  · exact .inr hgone
  · exact .inl ((object?_of_found hlive).trans (hsame.trans hplaced))

/-- Along every history each live object shows the node at the place that it names, which is
of the same kind and has children of the same names throughout. While no failure is armed,
what is written through one object is read through all that name the place, and through no
others. -/
theorem servesObjects_after (source : IdSource) (images : String → Option (List UInt8))
    (limit : UInt64) (events : List Event) :
    ((start source (.start cards images) limit).after events).ServesObjects := by
  have h := (walled_start cards source images limit).after events
  constructor
  case resolved => exact fun id entry hf => h.resolved hf
  case steady => exact fun event id state hs => h.steady event hs
  case answered => exact fun unarmed id state face hs hface => h.reads unarmed hs hface
  case written =>
    exact fun unarmed id state text value flags hs hface => h.wrote unarmed hs hface value flags
  case refused =>
    exact fun unarmed id state names value flags hs hface =>
      handle_objectWrite64_of_container unarmed hs hface value flags

/-- An attribute is opened twice, the second time from the container that it is in. -/
def reopened : Broker 1 :=
  (start (.seeded 7) (.start 1 fun _ => none) 4096).after
    [.serve (.enumerate [] 2), .serve (.tokenGetObject ⟨7, 2⟩ "errors" 0),
      .serve (.tokenGetObject ⟨7, 2⟩ "/errors//first_error" 0),
      .serve (.objectGetObject ⟨7, 3⟩ "first_error/" 0)]

/-- What is written through the first object is read through the second. -/
theorem servesObjects_reopened :
    reopened.object? ⟨7, 5⟩ = some ⟨⟨0, .accelerator⟩, ["errors", "first_error"]⟩ ∧
    ((reopened.handle (.objectWrite64 ⟨7, 4⟩ 0xbeef 0)).2.handle (.objectRead64 ⟨7, 5⟩ 0)).1 =
      .ofResult .objectRead64 (.ok 0xbeef) := by
  have hserved : reopened.ServesObjects := servesObjects_after _ _ _ _
  have hwrote := hserved.written (fun _ => rfl) ⟨7, 4⟩
    ⟨⟨0, .accelerator⟩, ["errors", "first_error"]⟩ "0x0" 0xbeef 0 (by decide) (by decide)
  exact ⟨by decide, hwrote.2.number ⟨7, 5⟩ 0 (by decide)⟩

end Broker

end DeviceBroker
