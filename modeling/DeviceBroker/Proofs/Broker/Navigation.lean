import DeviceBroker.Proofs.Broker.Mappings
import DeviceBroker.Proofs.Broker.Objects
import DeviceBroker.Proofs.Broker.Undone
import DeviceBroker.Proofs.Simulator.Paths

/-!
# Navigation along a history

An object is opened from a token, from a handle or from another object, by a
path as seen from there. To go along a path in two steps comes to the same as
to go along it in one: both reach an object or neither does, and the objects
that they reach cannot be told apart.
-/

namespace DeviceBroker

variable {cards : Nat}

open Service

theorem Reply.ofResult_injective (op : Operation) : Function.Injective (Reply.ofResult op) := by
  intro result result' h
  have houtcome : some (Outcome.ofResult result) = some (Outcome.ofResult result') := by
    simpa [Reply.ofResult] using congrArg (fun reply => Reply.outcome? reply op) h
  simpa using congrArg (fun outcome? => outcome?.bind Outcome.result?) houtcome

/-- Where a path starts. -/
inductive Origin where
  | token (id : RemoteId)
  | handle (id : RemoteId)
  | object (id : RemoteId)

namespace Origin

/-- The request for the object that a path leads to. -/
def request (origin : Origin) (name : String) (flags : UInt32) : Request :=
  match origin with
  | .token id => .tokenGetObject id name flags
  | .handle id => .handleGetObject id name flags
  | .object id => .objectGetObject id name flags

def reply (origin : Origin) (result : Except Fault RemoteId) : Reply :=
  match origin with
  | .token _ => .ofResult .tokenGetObject result
  | .handle _ => .ofResult .handleGetObject result
  | .object _ => .ofResult .objectGetObject result

/-- The place that an origin stands for, while it is live. -/
def place? (b : Broker cards) : Origin → Option (OpenObject cards)
  | .token id =>
    ((b.registry.map .token).find? id).bind fun entry =>
      (b.device.tokens.find? entry.token).map fun site => ⟨site, []⟩
  | .handle id =>
    ((b.registry.map .handle).find? id).bind fun entry =>
      (b.device.handles.find? entry.handle).map fun state => ⟨state.site, []⟩
  | .object id => b.object? id

theorem reply_injective (origin : Origin) : Function.Injective origin.reply := by
  cases origin with
  | token => exact Reply.ofResult_injective .tokenGetObject
  | handle => exact Reply.ofResult_injective .handleGetObject
  | object => exact Reply.ofResult_injective .objectGetObject

/-- The program behind the request of an origin. -/
def serve (limit : UInt64) (origin : Origin) (name : String) (flags : UInt32) :
    Service RemoteId :=
  match origin with
  | .token id => (Request.tokenGetObject id name flags).serve limit
  | .handle id => (Request.handleGetObject id name flags).serve limit
  | .object id => (Request.objectGetObject id name flags).serve limit

theorem handle_request (b : Broker cards) (origin : Origin) (name : String) (flags : UInt32) :
    b.handle (origin.request name flags) =
      (origin.reply (exec (origin.serve b.payloadLimit name flags) b).1,
        (exec (origin.serve b.payloadLimit name flags) b).2) := by
  cases origin <;> exact b.handle_eq _

end Origin

/-! ## Identifiers -/

namespace Registry

variable {r : Registry} {salt : UInt64}

/-- The identifier that is drawn next can name an object. Objects are not tracked by
native values, so it does not matter which one. -/
structure Offers (r : Registry) : Prop where
  valid : r.source.next.1 ≠ .sentinel
  free : (r.map .object).slots.find? r.source.next.1 = none

theorem Sound.offers (h : r.Sound salt) (drawn : r.drawn + 1 < 2 ^ 64) : r.Offers :=
  ⟨h.next_ne_sentinel, h.slots_next drawn .object⟩

theorem offers_iff (entry : ObjectEntry) :
    r.Offers ↔ (r.map .object).admits r.source.next.1 entry = true := by
  rw [IdentityMap.admits_iff]
  constructor
  · rintro ⟨hvalid, hfree⟩
    exact ⟨hvalid, hfree, fun key hkey => by cases hkey⟩
  · rintro ⟨hvalid, hfree, -⟩
    exact ⟨hvalid, hfree⟩

theorem rejects_of_not_offers (h : ¬ r.Offers) (entry : ObjectEntry) : r.Rejects .object entry :=
  ⟨rfl, Bool.eq_false_iff.mpr (h ∘ (offers_iff entry).mpr)⟩

theorem Offers.register (h : r.Offers) (entry : ObjectEntry) :
    (r.register .object entry).1 = some r.source.next.1 ∧
    ((r.register .object entry).2.map .object).find? r.source.next.1 = some entry ∧
    (r.register .object entry).2.source = r.source.next.2 := by
  rw [register_eq, IdentityMap.add, if_pos ((offers_iff entry).mp h)]
  have hput := IdentityMap.find?_put (r.map .object) h.valid entry
  refine ⟨rfl, ?_, rfl⟩
  rw [map_withSource, map_withMap_self]
  exact (congrFun hput _).trans (override_self _ _ _)

end Registry

/-! ## One step -/

namespace Broker

variable {b b' : Broker cards} {salt : UInt64}

/-- A broker with one more object, at a place. -/
structure Opened (b b' : Broker cards) (id : RemoteId) (place : OpenObject cards) : Prop where
  placed : b'.object? id = some place
  faces : b'.device.faceAt = b.device.faceAt
  armed : b'.device.armed = b.device.armed
  source : b'.registry.source = b.registry.source.next.2
  payloadLimit : b'.payloadLimit = b.payloadLimit

/-- What is opened is registered if there is an identifier for it. -/
theorem opened_of_offers (offered : b.registry.Offers) (calls : Nat) (place : OpenObject cards) :
    ∃ id b', exec (registerObject ⟨Simulator.firstObject + b.device.nextObject⟩)
        { b with device := (b.device.hang place).rig calls b.device.armed } = (.ok id, b') ∧
      Opened b b' id place := by
  let object : NativeObject := ⟨Simulator.firstObject + b.device.nextObject⟩
  obtain ⟨hid, hfound, hsource⟩ := offered.register ⟨object⟩
  have hexec := exec_registerOrUndo .object ⟨object⟩ (.destroyObject object)
    { b with device := (b.device.hang place).rig calls b.device.armed }
  simp only [hid] at hexec
  refine ⟨_, _, hexec, ?_, rfl, rfl, hsource, rfl⟩
  rw [object?_of_found hfound]
  exact b.device.find?_objects_hang place

theorem refused_of_not_offers (refused : ¬ b.registry.Offers) (calls : Nat)
    (place : OpenObject cards) :
    (exec (registerObject ⟨Simulator.firstObject + b.device.nextObject⟩)
      { b with device := (b.device.hang place).rig calls b.device.armed }).1 =
      .error .exception := by
  have rejects := Registry.rejects_of_not_offers refused
    ⟨⟨Simulator.firstObject + b.device.nextObject⟩⟩
  exact congrArg Prod.fst (exec_registerOrUndo_of_rejects (by exact rejects) _)

/-- A call that is to open an object at a place, when nothing is armed. -/
theorem exec_open_of_call {cls : ResourceClass} {id : RemoteId} {entry : cls.Entry}
    {create : cls.Entry → Service NativeObject} {place : OpenObject cards}
    {outcome : Except Fault NativeObject × Simulator cards}
    (hf : (b.registry.map cls).find? id = some entry)
    (hserve : outcome = b.device.commit (b.device.openObject place.site place.path))
    (hcreate : exec (create entry) b =
      (outcome.1,
        { b with device := outcome.2.rig (b.device.calls + 1) b.device.armed })) :
    exec (lookup cls id >>= fun entry => create entry >>= registerObject) b =
      match b.device.faceAt place with
      | some _ => exec (registerObject ⟨Simulator.firstObject + b.device.nextObject⟩)
          { b with device := (b.device.hang place).rig (b.device.calls + 1) b.device.armed }
      | none => (.error .notFound, b.recount (b.device.calls + 1)) := by
  rw [exec_bind_of_ok _ (exec_lookup_of_some hf)]
  cases hface : b.device.faceAt place with
  | none =>
    rw [hserve, Simulator.openObject_of_none hface] at hcreate
    exact exec_bind_of_error _ hcreate
  | some face =>
    rw [hserve, Simulator.openObject_of_face hface] at hcreate
    exact exec_bind_of_ok _ hcreate

theorem exec_device_rig {call : DeviceCall} (unarmed : b.device.armed call.kind = none) :
    exec (Service.device call) b =
      ((b.device.serve call).1,
        { b with
          device := (b.device.serve call).2.rig (b.device.calls + 1) b.device.armed }) := by
  rw [exec_device, Simulator.call_of_unarmed unarmed]

/-- What a live origin answers when nothing is armed. -/
theorem exec_serve_of_place (unarmed : ∀ kind, b.device.armed kind = none) {origin : Origin}
    {place : OpenObject cards} (ho : origin.place? b = some place) (limit : UInt64) (name : String)
    (flags : UInt32) :
    exec (origin.serve limit name flags) b =
      match b.device.faceAt (place.child name) with
      | some _ => exec (registerObject ⟨Simulator.firstObject + b.device.nextObject⟩)
          { b with
            device := (b.device.hang (place.child name)).rig (b.device.calls + 1)
              b.device.armed }
      | none => (.error .notFound, b.recount (b.device.calls + 1)) := by
  cases origin with
  | token id =>
    obtain ⟨entry, hf, hsite⟩ := Option.bind_eq_some_iff.mp ho
    obtain ⟨site, hs, rfl⟩ := Option.map_eq_some_iff.mp hsite
    refine exec_open_of_call hf ?_ (exec_device_rig (unarmed _))
    change b.device.commit (b.device.tokenObject entry.token name) = _
    simp only [Simulator.tokenObject, Simulator.siteOf, hs, OpenObject.child, List.nil_append]
  | handle id =>
    obtain ⟨entry, hf, hsite⟩ := Option.bind_eq_some_iff.mp ho
    obtain ⟨state, hs, rfl⟩ := Option.map_eq_some_iff.mp hsite
    refine exec_open_of_call hf ?_ (exec_device_rig (unarmed _))
    change b.device.commit (b.device.handleObject entry.handle name) = _
    simp only [Simulator.handleObject, Simulator.handleOf, hs, OpenObject.child, List.nil_append]
  | object id =>
    obtain ⟨entry, hf, hs⟩ := found_of_object? ho
    refine exec_open_of_call hf ?_ (exec_device_rig (unarmed _))
    change b.device.commit (b.device.childObject entry.object name) = _
    simp only [Simulator.childObject, Simulator.objectOf, hs, OpenObject.child]

/-- What stands for no place opens nothing. -/
theorem exec_serve_of_no_place (unarmed : ∀ kind, b.device.armed kind = none) {origin : Origin}
    (ho : origin.place? b = none) (limit : UInt64) (name : String) (flags : UInt32) :
    (exec (origin.serve limit name flags) b).1 = .error .invalidParam := by
  have refused : ∀ {cls : ResourceClass} {id : RemoteId}
      {create : cls.Entry → Service NativeObject},
      (∀ entry, (b.registry.map cls).find? id = some entry →
        (exec (create entry) b).1 = .error .invalidParam) →
      (exec (lookup cls id >>= fun entry => create entry >>= registerObject) b).1 =
        .error .invalidParam := by
    intro cls id create h
    cases hf : (b.registry.map cls).find? id with
    | none => rw [exec_bind_of_error _ (exec_lookup_of_none hf)]
    | some entry =>
      have hfault := h entry hf
      rw [exec_bind_of_ok _ (exec_lookup_of_some hf), exec_bind]
      generalize exec (create entry) b = outcome at hfault ⊢
      obtain ⟨result, b'⟩ := outcome
      rw [show result = .error .invalidParam from hfault]
  cases origin with
  | token id =>
    refine refused fun entry hf => ?_
    have hs : b.device.tokens.find? entry.token = none := by
      simpa [Origin.place?, hf] using ho
    refine (congrArg Prod.fst (exec_device_rig (unarmed _))).trans ?_
    change (b.device.commit (b.device.tokenObject entry.token name)).1 = _
    simp only [Simulator.tokenObject, Simulator.siteOf, hs, Simulator.commit]
  | handle id =>
    refine refused fun entry hf => ?_
    have hs : b.device.handles.find? entry.handle = none := by
      simpa [Origin.place?, hf] using ho
    refine (congrArg Prod.fst (exec_device_rig (unarmed _))).trans ?_
    change (b.device.commit (b.device.handleObject entry.handle name)).1 = _
    simp only [Simulator.handleObject, Simulator.handleOf, hs, Simulator.commit]
  | object id =>
    refine refused fun entry hf => ?_
    have hs : b.device.objects.find? entry.object = none := (object?_of_found hf).symm.trans ho
    refine (congrArg Prod.fst (exec_device_rig (unarmed _))).trans ?_
    change (b.device.commit (b.device.childObject entry.object name)).1 = _
    simp only [Simulator.childObject, Simulator.objectOf, hs, Simulator.commit]

/-- A path leads from an origin to an object, for which there is an identifier then. -/
def Gets (b : Broker cards) (origin : Origin) (name : String) (flags : UInt32) (id : RemoteId)
    (b' : Broker cards) : Prop :=
  b.handle (origin.request name flags) = (origin.reply (.ok id), b')

theorem Gets.opened (unarmed : ∀ kind, b.device.armed kind = none) {origin : Origin}
    {name : String} {flags : UInt32} {id : RemoteId} (h : b.Gets origin name flags id b') :
    b.registry.Offers ∧ ∃ place, origin.place? b = some place ∧
      ∃ face, b.device.faceAt (place.child name) = some face ∧
        Opened b b' id (place.child name) := by
  obtain ⟨hreply, hnext⟩ := Prod.mk.inj ((origin.handle_request b name flags).symm.trans h)
  have hok := origin.reply_injective hreply
  cases ho : origin.place? b with
  | none =>
    rw [exec_serve_of_no_place unarmed ho] at hok
    cases hok
  | some place =>
    have hserve := exec_serve_of_place unarmed ho b.payloadLimit name flags
    cases hface : b.device.faceAt (place.child name) with
    | none =>
      rw [hserve, hface] at hok
      cases hok
    | some face =>
      rw [hface] at hserve
      by_cases offered : b.registry.Offers
      · obtain ⟨id', b'', hexec, hopened⟩ := opened_of_offers offered (b.device.calls + 1)
          (place.child name)
        rw [hserve, hexec] at hok hnext
        obtain rfl := Except.ok.inj hok
        exact ⟨offered, place, rfl, face, hface, hnext ▸ hopened⟩
      · rw [hserve] at hok
        cases (refused_of_not_offers offered _ _).symm.trans hok

/-- An object is reached exactly if there is an identifier for it and a path leads from a
place to a node. -/
theorem exists_gets_iff (unarmed : ∀ kind, b.device.armed kind = none) {origin : Origin}
    {name : String} {flags : UInt32} :
    (∃ id b', b.Gets origin name flags id b') ↔ b.registry.Offers ∧
      ∃ place, origin.place? b = some place ∧
        (b.device.faceAt (place.child name)).isSome = true := by
  constructor
  · rintro ⟨id, b', hgets⟩
    obtain ⟨offered, place, ho, face, hface, -⟩ := hgets.opened unarmed
    exact ⟨offered, place, ho, by rw [hface]; rfl⟩
  · rintro ⟨offered, place, ho, hnode⟩
    obtain ⟨face, hface⟩ := Option.isSome_iff_exists.mp hnode
    obtain ⟨id, b', hexec, -⟩ := opened_of_offers offered (b.device.calls + 1)
      (place.child name)
    refine ⟨id, b', (origin.handle_request b name flags).trans ?_⟩
    have hserve := exec_serve_of_place unarmed ho b.payloadLimit name flags
    rw [hface] at hserve
    rw [hserve, hexec]

/-! ## Two steps -/

theorem handle_objectGetName (unarmed : ∀ kind, b.device.armed kind = none) {id : RemoteId}
    {state : OpenObject cards} (hs : b.object? id = some state) :
    (b.handle (.objectGetName id)).1 = .ofResult .objectGetName (.ok (state.path.getLastD "")) := by
  obtain ⟨entry, hf, hplaced⟩ := found_of_object? hs
  rw [← Simulator.objectName_eq hplaced]
  exact handle_fst ((exec_bind_of_ok _ (exec_lookup_of_some hf)).trans
    (exec_device_of_unarmed (unarmed _)))

/-- Two objects that cannot be told apart: they have one name, and show the same. -/
structure Alike (b : Broker cards) (id : RemoteId) (b' : Broker cards) (id' : RemoteId) : Prop where
  named : ∃ name, (b.handle (.objectGetName id)).1 = .ofResult .objectGetName (.ok name) ∧
    (b'.handle (.objectGetName id')).1 = .ofResult .objectGetName (.ok name)
  shown : ∃ face, b.ReadsAs id face ∧ b'.ReadsAs id' face
  payloadLimit : b.payloadLimit = b'.payloadLimit

/-- To go along a path in one step comes to the same as to go along it in two. -/
structure Navigates (b : Broker cards) (origin : Origin) : Prop where
  /-- What is reached in one step is reached in two, which take one identifier more. -/
  stepwise : ∀ front back flags flags₁ flags₂ id b',
    b.Gets origin (front ++ "/" ++ back) flags id b' →
      ∃ mid b₁, b.Gets origin front flags₁ mid b₁ ∧
        (b.registry.drawn + 2 < 2 ^ 64 → ∃ id' b₂, b₁.Gets (.object mid) back flags₂ id' b₂)
  direct : ∀ front back flags flags₁ flags₂ mid b₁ id' b₂,
    b.Gets origin front flags₁ mid b₁ → b₁.Gets (.object mid) back flags₂ id' b₂ →
      ∃ id b', b.Gets origin (front ++ "/" ++ back) flags id b'
  alike : ∀ front back flags flags₁ flags₂ id b' mid b₁ id' b₂,
    b.Gets origin (front ++ "/" ++ back) flags id b' → b.Gets origin front flags₁ mid b₁ →
    b₁.Gets (.object mid) back flags₂ id' b₂ → Alike b' id b₂ id'

theorem Gets.walled {origin : Origin} {name : String} {flags : UInt32} {id : RemoteId}
    (h : b.Gets origin name flags id b') (hw : b.Walled) : b'.Walled := by
  have hnext := hw.handle (origin.request name flags)
  rwa [h] at hnext

theorem Gets.sound {origin : Origin} {name : String} {flags : UInt32} {id : RemoteId}
    (h : b.Gets origin name flags id b') (hsound : b.registry.Sound salt)
    (drawn : b'.registry.drawn < 2 ^ 64) : b'.registry.Sound salt := by
  have hnext := sound_step (.serve (origin.request name flags)) hsound
  rw [show b.step (.serve (origin.request name flags)) = b' from congrArg Prod.snd h] at hnext
  exact hnext drawn

/-- There is an identifier for a second object, as long as two are left. -/
theorem Gets.offers {origin : Origin} {name : String} {flags : UInt32} {id : RemoteId}
    (h : b.Gets origin name flags id b') (unarmed : ∀ kind, b.device.armed kind = none)
    (hsound : b.registry.Sound salt) (drawn : b.registry.drawn + 2 < 2 ^ 64) :
    b'.registry.Offers := by
  obtain ⟨-, place, -, face, -, hopened⟩ := h.opened unarmed
  have hdrawn : b'.registry.drawn = b.registry.drawn + 1 := by
    rw [Registry.drawn, hopened.source, hsound.next_eq]
    rfl
  exact (h.sound hsound (by omega)).offers (by omega)

theorem alike_of_placed (hw : b.Walled) (hw' : b'.Walled)
    (unarmed : ∀ kind, b.device.armed kind = none) (armed : b'.device.armed = b.device.armed)
    (faces : b'.device.faceAt = b.device.faceAt) (limit : b.payloadLimit = b'.payloadLimit)
    {id id' : RemoteId} {place : OpenObject cards} {face : Face} (hs : b.object? id = some place)
    (hs' : b'.object? id' = some place) (hface : b.device.faceAt place = some face) :
    Alike b id b' id' where
  named := ⟨_, handle_objectGetName unarmed hs, handle_objectGetName (armed ▸ unarmed) hs'⟩
  shown := ⟨face, hw.reads unarmed hs hface, hw'.reads (armed ▸ unarmed) hs' (faces ▸ hface)⟩
  payloadLimit := limit

theorem Walled.navigates (h : b.Walled) (unarmed : ∀ kind, b.device.armed kind = none)
    (hsound : b.registry.drawn < 2 ^ 64 → b.registry.Sound salt) (origin : Origin) :
    b.Navigates origin := by
  -- What holds after the first of two steps.
  have midway : ∀ {front : String} {flags : UInt32} {mid : RemoteId} {b₁ : Broker cards},
      b.Gets origin front flags mid b₁ → b.registry.Offers ∧ ∃ place,
        origin.place? b = some place ∧ Opened b b₁ mid (place.child front) ∧
        ∀ kind, b₁.device.armed kind = none := by
    intro front flags mid b₁ hgets
    obtain ⟨offered, place, ho, -, -, hopened⟩ := hgets.opened unarmed
    exact ⟨offered, place, ho, hopened, hopened.armed ▸ unarmed⟩
  constructor
  case stepwise =>
    intro front back flags flags₁ flags₂ id b' hdirect
    obtain ⟨offered, place, ho, hnode⟩ := (exists_gets_iff unarmed).mp ⟨id, b', hdirect⟩
    rw [place.child_append_slash] at hnode
    obtain ⟨mid, b₁, hgets⟩ : ∃ mid b₁, b.Gets origin front flags₁ mid b₁ :=
      (exists_gets_iff unarmed).mpr ⟨offered, place, ho, Simulator.isSome_faceAt_of_child hnode⟩
    obtain ⟨-, place', ho', hopened, unarmed₁⟩ := midway hgets
    obtain rfl := Option.some.inj (ho.symm.trans ho')
    refine ⟨mid, b₁, hgets, fun drawn => (exists_gets_iff unarmed₁).mpr ⟨?_, ?_⟩⟩
    · exact hgets.offers unarmed (hsound (by omega)) drawn
    · exact ⟨place.child front, hopened.placed, hopened.faces ▸ hnode⟩
  case direct =>
    intro front back flags flags₁ flags₂ mid b₁ id' b₂ hgets hsecond
    obtain ⟨offered, place, ho, hopened, unarmed₁⟩ := midway hgets
    obtain ⟨-, placed, hplaced, hnode⟩ := (exists_gets_iff unarmed₁).mp ⟨id', b₂, hsecond⟩
    obtain rfl := Option.some.inj (hplaced.symm.trans hopened.placed)
    refine (exists_gets_iff unarmed).mpr ⟨offered, place, ho, ?_⟩
    rw [place.child_append_slash]
    exact hopened.faces ▸ hnode
  case alike =>
    intro front back flags flags₁ flags₂ id b' mid b₁ id' b₂ hdirect hgets hsecond
    obtain ⟨-, place, ho, face, hface, hopened⟩ := hdirect.opened unarmed
    obtain ⟨-, place', ho', hopened₁, unarmed₁⟩ := midway hgets
    obtain rfl := Option.some.inj (ho.symm.trans ho')
    obtain ⟨-, placed, hplaced, -, -, hopened₂⟩ := hsecond.opened unarmed₁
    obtain rfl := Option.some.inj (hplaced.symm.trans hopened₁.placed)
    refine alike_of_placed (hdirect.walled h) (hsecond.walled (hgets.walled h))
      (hopened.armed ▸ unarmed) ?_ ?_ ?_ hopened.placed ?_ (hopened.faces ▸ hface)
    · rw [hopened₂.armed, hopened₁.armed, hopened.armed]
    · rw [hopened₂.faces, hopened₁.faces, hopened.faces]
    · rw [hopened₂.payloadLimit, hopened₁.payloadLimit, hopened.payloadLimit]
    · rw [place.child_append_slash]
      exact hopened₂.placed

/-- Along every history, while no failure is armed: from a token, a handle or an object a path
with a slash in it leads to an object in one step exactly if it does in two, whatever texts
stand on both sides of the slash, and to objects that are alike. Only where the identifiers
have run out there may be one for the first of two steps and none for the second. -/
theorem navigates_after {images : String → Option (List UInt8)} {salt limit : UInt64}
    {events : List Event}
    (unarmed : ∀ kind,
      ((start (.seeded salt) (.start cards images) limit).after events).device.armed kind = none)
    (origin : Origin) :
    ((start (.seeded salt) (.start cards images) limit).after events).Navigates origin := by
  have hw := (walled_start cards (.seeded salt) images limit).after events
  have hempty := Registry.sound_empty (IdSource.effectiveSalt_ne_zero salt)
  exact hw.navigates unarmed (sound_after hempty) origin

/-- An accelerator of one card that can be named. -/
def listedOnce : Broker 1 :=
  (start (.seeded 7) (.start 1 fun _ => none) 4096).after [.serve (.enumerate [] 2)]

/-- Slashes on all sides do not matter. -/
theorem navigates_after_listedOnce :
    (∀ kind, listedOnce.device.armed kind = none) ∧
    ∃ id b', listedOnce.Gets (.token ⟨7, 2⟩) ("/errors/" ++ "/" ++ "//first_error/") 0 id b' := by
  have h : listedOnce.Navigates (.token ⟨7, 2⟩) := navigates_after (fun _ => rfl) _
  exact ⟨fun _ => rfl, h.direct "/errors/" "//first_error/" 0 0 0 ⟨7, 3⟩ _ ⟨7, 4⟩ _ rfl rfl⟩

end Broker

end DeviceBroker
