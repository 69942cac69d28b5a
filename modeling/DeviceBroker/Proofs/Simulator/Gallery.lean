import DeviceBroker.Proofs.Broker.Workload
import DeviceBroker.Proofs.Simulator.Cores
import DeviceBroker.Proofs.Simulator.Faces

/-!
# What objects show

An object shows what stands at its path in the tree of its resource when it is
looked at. The trees and the live objects are the gallery of a driver. Few calls
change it: five open or destroy objects and leave the trees alone, and writing
an attribute, resetting and loading another function put one text over another.
None of them changes an outline. So `Formed` holds along every run: the trees
have the outlines that they started with, and every live object has a node.
-/

namespace DeviceBroker

variable {cards : Nat} {α : Type}

/-- The attribute trees of the resources and the live objects. -/
@[ext] structure Gallery (cards : Nat) where
  tree : Site cards → TreeNode
  objects : Table NativeObject (OpenObject cards)

instance : DecidableEq (OpenObject cards) := fun a b =>
  decidable_of_iff (a.site = b.site ∧ a.path = b.path) OpenObject.ext_iff.symm

/-- Whether a call changes the gallery, if it succeeds. -/
def DeviceCall.curates : DeviceCall → Bool
  | .resetHandle _ | .tokenGetObject _ _ _ | .handleGetObject _ _ _ | .destroyObject _
  | .objectWrite64 _ _ _ | .objectGetObject _ _ _ | .objectGetObjectAt _ _
  | .reconfigureSlot _ _ _ _ => true
  | _ => false

namespace Simulator

variable {s t : Simulator cards}

def gallery (s : Simulator cards) : Gallery cards :=
  ⟨fun site => (s.resources site).tree, s.objects⟩

/-- What an object of a resource shows, live or not. -/
def faceAt (s : Simulator cards) (object : OpenObject cards) : Option Face :=
  (s.resources object.site).tree.face? object.path

/-! ## Calls that leave the gallery alone -/

theorem gallery_congr (htree : ∀ site, (t.resources site).tree = (s.resources site).tree)
    (hobjects : t.objects = s.objects) : t.gallery = s.gallery :=
  Gallery.ext (funext htree) hobjects

theorem tree_override {resources : Site cards → Resource} {site : Site cards} {r : Resource}
    (h : r.tree = (resources site).tree) (other : Site cards) :
    (override resources site r other).tree = (resources other).tree := by
  by_cases ho : other = site
  · rw [ho, override_self, h]
  · rw [override_of_ne _ _ ho]

theorem gallery_updateResource (s : Simulator cards) (site : Site cards)
    {change : Resource → Resource}
    (h : (change (s.resources site)).tree = (s.resources site).tree) :
    (s.updateResource site change).gallery = s.gallery :=
  gallery_congr (tree_override h) rfl

theorem gallery_commit {result : Except Fault (α × Simulator cards)}
    (h : ∀ value t, result = .ok (value, t) → t.gallery = s.gallery) :
    (s.commit result).2.gallery = s.gallery :=
  commit_preserves (I := fun t => t.gallery = s.gallery) rfl h

theorem gallery_of_openHandle {token : NativeToken} {flags : UInt32} {handle : NativeHandle}
    (h : s.openHandle token flags = .ok (handle, t)) : t.gallery = s.gallery := by
  obtain ⟨site, -, -, rfl⟩ := openHandle_ok h
  exact gallery_congr (tree_override rfl) rfl

theorem gallery_of_closeHandle {handle : NativeHandle} {value : Unit}
    (h : s.closeHandle handle = .ok (value, t)) : t.gallery = s.gallery := by
  obtain ⟨closed, -, rfl⟩ := closeHandle_ok h
  exact gallery_congr (tree_override rfl) rfl

theorem gallery_of_writeRegister {handle : NativeHandle} {region : UInt32} {offset : UInt64}
    {data : Memory} {value : Unit}
    (h : s.writeRegister handle region offset data = .ok (value, t)) : t.gallery = s.gallery := by
  unfold writeRegister at h
  split at h
  · cases h
  · cases h
    exact s.gallery_updateResource _ rfl

theorem gallery_of_clearError {token : NativeToken} {number : UInt32} {value : Unit}
    (h : s.clearError token number = .ok (value, t)) : t.gallery = s.gallery := by
  unfold clearError at h
  split at h
  · cases h
  · split at h
    · cases h
      exact s.gallery_updateResource _ rfl
    · cases h

theorem gallery_of_clearAllErrors {token : NativeToken} {value : Unit}
    (h : s.clearAllErrors token = .ok (value, t)) : t.gallery = s.gallery := by
  unfold clearAllErrors at h
  split at h
  · cases h
  · cases h
    exact s.gallery_updateResource _ rfl

theorem gallery_of_setUserClock {handle : NativeHandle} {highHz lowHz : UInt64} {value : Unit}
    (h : s.setUserClock handle highHz lowHz = .ok (value, t)) : t.gallery = s.gallery := by
  unfold setUserClock at h
  split at h
  · cases h
  split at h
  · cases h
  split at h
  · cases h
  · cases h
    exact s.gallery_updateResource _ rfl

theorem gallery_sampleMetrics (s : Simulator cards) (handle : NativeHandle)
    (numbers : List (Option UInt64)) :
    (s.sampleMetrics handle numbers).2.gallery = s.gallery := by
  rw [resources_sampleMetrics]
  refine gallery_congr (fun site => ?_) rfl
  dsimp only
  split <;> rfl

theorem gallery_raiseError (s : Simulator cards) (token : NativeToken) (number : UInt32)
    (bits : UInt64) : (s.raiseError token number bits).2.gallery = s.gallery := by
  unfold raiseError
  split
  · rfl
  · rename_i site register _
    change (s.changeError site number fun value => value ||| bits).gallery = s.gallery
    exact s.gallery_updateResource site rfl

theorem gallery_propertiesAt (s : Simulator cards) (site : Site cards) :
    (s.propertiesAt site).2.gallery = s.gallery := by
  obtain ⟨card, kind⟩ := site
  cases kind <;> rfl

theorem gallery_enumerate (s : Simulator cards) (filters : List (Properties NativeToken))
    (maxTokens : UInt32) : (s.enumerate filters maxTokens).2.gallery = s.gallery := by
  have published : ∀ (sites : List (Site cards)) (u : Simulator cards),
      (sites.foldl (fun u site => u.publish site.canonical site) u).gallery = u.gallery := by
    intro sites
    induction sites with
    | nil => exact fun _ => rfl
    | cons site rest ih => exact fun u => ih _
  exact published _ s

theorem gallery_serve (s : Simulator cards) {call : DeviceCall} (h : call.curates = false) :
    (s.serve call).2.gallery = s.gallery := by
  cases call with
  | resetHandle | tokenGetObject | handleGetObject | destroyObject | objectWrite64
  | objectGetObject | objectGetObjectAt | reconfigureSlot => cases h
  | enumerate => exact s.gallery_enumerate _ _
  | destroyToken => exact gallery_commit fun _ _ h => by obtain rfl := destroyToken_ok h; rfl
  | cloneToken => exact gallery_commit fun _ _ h => by obtain ⟨_, -, rfl⟩ := cloneToken_ok h; rfl
  | getProperties | updateProperties =>
    refine gallery_commit fun properties t h => ?_
    obtain ⟨site, hsite⟩ := tokenProperties_ok h
    rw [← s.gallery_propertiesAt site, hsite]
  | getHandleProperties =>
    refine gallery_commit fun properties t h => ?_
    obtain ⟨site, hsite⟩ := handleProperties_ok h
    rw [← s.gallery_propertiesAt site, hsite]
  | openHandle => exact gallery_commit fun _ _ => gallery_of_openHandle
  | closeHandle => exact gallery_commit fun _ _ => gallery_of_closeHandle
  | writeMmio32 | writeMmio64 | writeMmio512 =>
    exact gallery_commit fun _ _ => gallery_of_writeRegister
  | mapMmio => exact gallery_commit fun _ _ h => by obtain ⟨-, rfl⟩ := mapMmio_ok h; rfl
  | unmapMmio => exact gallery_commit fun _ _ h => by obtain ⟨-, rfl⟩ := unmapMmio_ok h; rfl
  | prepareBuffer =>
    exact gallery_commit fun _ _ h => by obtain ⟨_, _, -, -, -, rfl⟩ := prepareBuffer_ok h; rfl
  | releaseBuffer =>
    exact gallery_commit fun _ _ h => by obtain ⟨-, rfl⟩ := releaseBuffer_ok h; rfl
  | bufferWrite =>
    exact gallery_commit fun _ _ h => by obtain ⟨_, _, -, -, rfl⟩ := writeBuffer_ok h; rfl
  | clearError => exact gallery_commit fun _ _ => gallery_of_clearError
  | clearAllErrors => exact gallery_commit fun _ _ => gallery_of_clearAllErrors
  | setUserClock => exact gallery_commit fun _ _ => gallery_of_setUserClock
  | getMetricsByIndex | getMetricsByName => exact s.gallery_sampleMetrics _ _
  | _ => rfl

/-! ## Outlines -/

/-- What the trees show when texts do not count. -/
def outlines (s : Simulator cards) (site : Site cards) :
    List String → Option (Option (List String)) :=
  (s.resources site).tree.outline?

theorem outlines_congr (h : t.gallery = s.gallery) : t.outlines = s.outlines :=
  congrArg (fun g : Gallery cards => fun site => (g.tree site).outline?) h

theorem outlines_eq_map (s : Simulator cards) (object : OpenObject cards) :
    s.outlines object.site object.path = (s.faceAt object).map Face.outline := rfl

theorem outlines_updateResource (s : Simulator cards) (site : Site cards)
    {change : Resource → Resource}
    (h : (change (s.resources site)).tree.outline? = (s.resources site).tree.outline?) :
    (s.updateResource site change).outlines = s.outlines := by
  funext other
  unfold outlines updateResource
  by_cases ho : other = site
  · subst ho
    rw [← h]
    exact congrArg (fun r : Resource => r.tree.outline?) (override_self _ _ _)
  · exact congrArg (fun r : Resource => r.tree.outline?) (override_of_ne _ _ ho)

end Simulator

/-! ## Texts that are put over texts -/

theorem TreeNode.outline?_getD_replace? {tree : TreeNode} {path : List String} {old : String}
    (h : tree.face? path = some (.attribute old)) (new : String) :
    ((TreeNode.replace? (.attribute new) path tree).getD tree).outline? = tree.outline? := by
  obtain ⟨written, hwritten, hface⟩ := face?_of_replace? h new
  rw [hwritten]
  exact outline?_override h hface

theorem TreeNode.face?_getD_replace? {tree : TreeNode} {path : List String} {old : String}
    (h : tree.face? path = some (.attribute old)) (new : String) :
    ((TreeNode.replace? (.attribute new) path tree).getD tree).face? =
      override tree.face? path (some (.attribute new)) := by
  obtain ⟨written, hwritten, hface⟩ := face?_of_replace? h new
  rw [hwritten]
  exact hface

theorem TreeNode.find?_of_face? {tree : TreeNode} {path : List String} {text : String} :
    tree.face? path = some (.attribute text) ↔ tree.find? path = some (.attribute text) := by
  unfold face?
  constructor
  · intro h
    obtain ⟨node, hnode, hface⟩ := Option.map_eq_some_iff.mp h
    obtain old | children := node
    · cases hface
      exact hnode
    · cases hface
  · intro h
    rw [h]
    rfl

namespace Resource

/-- To show a guid changes no outline. -/
theorem outline?_showGuid (r : Resource) : r.showGuid.tree.outline? = r.tree.outline? := by
  unfold showGuid
  dsimp only
  split
  · rename_i old hfind
    exact TreeNode.outline?_getD_replace? (TreeNode.find?_of_face?.mpr hfind) _
  · rfl

theorem face?_showGuid {r : Resource} {old : String}
    (h : r.tree.face? guidPath = some (.attribute old)) :
    r.showGuid.tree.face? =
      override r.tree.face? guidPath (some (.attribute (guidText r.guid))) := by
  unfold showGuid
  dsimp only
  rw [TreeNode.find?_of_face?.mp h]
  exact TreeNode.face?_getD_replace? h _

theorem outline?_reset (kind : ResourceKind) (r : Resource) :
    (r.reset kind).tree.outline? = r.tree.outline? := by
  cases kind with
  | device => rfl
  | accelerator => exact r.zeroRegisters.outline?_showGuid

end Resource

namespace Simulator

variable {s t : Simulator cards}

theorem faceAt_of_nodeOf {object : OpenObject cards} {node : TreeNode}
    (h : s.nodeOf object = .ok node) : s.faceAt object = some node.face := by
  unfold nodeOf at h
  split at h
  · rename_i found hfind
    cases h
    exact congrArg (Option.map TreeNode.face) hfind
  · cases h

theorem nodeOf_of_faceAt_eq_none {object : OpenObject cards} (h : s.faceAt object = none) :
    s.nodeOf object = .error .notFound := by
  unfold nodeOf
  rw [Option.map_eq_none_iff.mp h]

/-- What is shown of a live object with a node. -/
theorem shown_of_find? {object : NativeObject} {state : OpenObject cards} {face : Face}
    (hf : s.objects.find? object = some state) (hface : s.faceAt state = some face) :
    ∃ node, s.shown object = .ok (state, node) ∧ node.face = face := by
  obtain ⟨node, hnode, rfl⟩ := Option.map_eq_some_iff.mp hface
  refine ⟨node, ?_, rfl⟩
  simp only [shown, objectOf, hf, nodeOf, hnode]
  rfl

theorem shown_ok {object : NativeObject} {state : OpenObject cards} {node : TreeNode}
    (h : s.shown object = .ok (state, node)) :
    s.objects.find? object = some state ∧ s.faceAt state = some node.face := by
  unfold shown at h
  split at h
  · cases h
  · rename_i found hfound
    cases hn : s.nodeOf found with
    | error fault =>
      rw [hn] at h
      cases h
    | ok shown =>
      rw [hn] at h
      cases h
      exact ⟨find?_of_objectOf hfound, faceAt_of_nodeOf hn⟩

/-! ## Calls that change the gallery -/

/-- What is shown elsewhere does not change when one tree changes at one path. -/
theorem faceAt_updateResource {change : Resource → Resource} {place : OpenObject cards}
    {face? : Option Face}
    (h : (change (s.resources place.site)).tree.face? =
      override (s.resources place.site).tree.face? place.path face?) :
    (s.updateResource place.site change).faceAt = override s.faceAt place face? := by
  funext other
  by_cases hsite : other.site = place.site
  · have hpath : other = place ↔ other.path = place.path :=
      ⟨fun heq => congrArg OpenObject.path heq, fun heq => OpenObject.ext hsite heq⟩
    unfold faceAt updateResource
    dsimp only
    rw [hsite, override_self, h]
    by_cases hp : other.path = place.path
    · rw [hp, override_self, hpath.mpr hp, override_self]
    · rw [override_of_ne _ _ hp, override_of_ne _ _ (mt hpath.mp hp), hsite]
  · have hne : other ≠ place := fun heq => hsite (congrArg OpenObject.site heq)
    rw [override_of_ne _ _ hne]
    exact congrArg (fun r : Resource => r.tree.face? other.path) (override_of_ne _ _ hsite)

/-- What a write through an object does to the trees: a text comes at its path. -/
theorem gallery_of_writeObject64 {object : NativeObject} {number : UInt64} {value : Unit}
    (h : s.writeObject64 object number = .ok (value, t)) :
    ∃ state old, s.objects.find? object = some state ∧ s.faceAt state = some (.attribute old) ∧
      t.objects = s.objects ∧ t.outlines = s.outlines ∧
      t.faceAt = override s.faceAt state (some (.attribute (attributeText number))) := by
  unfold writeObject64 at h
  split at h
  · cases h
  · cases h
  · rename_i state old hshown
    cases h
    obtain ⟨hfind, hface⟩ := shown_ok hshown
    refine ⟨state, old, hfind, hface, rfl,
      s.outlines_updateResource _ (TreeNode.outline?_getD_replace? hface _), ?_⟩
    exact faceAt_updateResource (TreeNode.face?_getD_replace? hface (attributeText number))

theorem outlines_of_resetHandle {handle : NativeHandle} {value : Unit}
    (h : s.resetHandle handle = .ok (value, t)) :
    t.objects = s.objects ∧ t.outlines = s.outlines := by
  unfold resetHandle at h
  split at h
  · cases h
  · cases h
    exact ⟨rfl, s.outlines_updateResource _ (Resource.outline?_reset _ _)⟩

theorem outlines_of_reconfigureSlot {handle : NativeHandle} {slot : UInt32} {path : String}
    {value : Unit} (h : s.reconfigureSlot handle slot path = .ok (value, t)) :
    t.objects = s.objects ∧ t.outlines = s.outlines := by
  unfold reconfigureSlot at h
  split at h
  · cases h
  split at h
  · cases h
  split at h
  · cases h
  split at h
  · cases h
  split at h
  · dsimp only at h
    split at h
    · cases h
    · cases h
      exact ⟨rfl, s.outlines_updateResource _ (Resource.outline?_reset .accelerator _)⟩
  · cases h

theorem outlines_of_openObject {object : NativeObject}
    (h : ∃ site path, s.openObject site path = .ok (object, t)) : t.outlines = s.outlines := by
  obtain ⟨site, path, h⟩ := h
  obtain ⟨-, rfl⟩ := openObject_ok h
  rfl

theorem outlines_commit {result : Except Fault (α × Simulator cards)}
    (h : ∀ value t, result = .ok (value, t) → t.outlines = s.outlines) :
    (s.commit result).2.outlines = s.outlines :=
  commit_preserves (I := fun t => t.outlines = s.outlines) rfl h

theorem outlines_serve (s : Simulator cards) (call : DeviceCall) :
    (s.serve call).2.outlines = s.outlines := by
  cases hc : call.curates with
  | false => exact outlines_congr (s.gallery_serve hc)
  | true =>
  cases call with
  | tokenGetObject => exact outlines_commit fun _ _ h => outlines_of_openObject (tokenObject_ok h)
  | handleGetObject => exact outlines_commit fun _ _ h => outlines_of_openObject (handleObject_ok h)
  | objectGetObject => exact outlines_commit fun _ _ h => outlines_of_openObject (childObject_ok h)
  | objectGetObjectAt =>
    exact outlines_commit fun _ _ h => outlines_of_openObject (childObjectAt_ok h)
  | destroyObject => exact outlines_commit fun _ _ h => by obtain rfl := destroyObject_ok h; rfl
  | objectWrite64 =>
    refine outlines_commit fun _ _ h => ?_
    obtain ⟨_, _, -, -, -, houtlines, -⟩ := gallery_of_writeObject64 h
    exact houtlines
  | resetHandle => exact outlines_commit fun _ _ h => (outlines_of_resetHandle h).2
  | reconfigureSlot => exact outlines_commit fun _ _ h => (outlines_of_reconfigureSlot h).2
  | _ => cases hc

/-- No call changes an outline. -/
theorem outlines_call (s : Simulator cards) (call : DeviceCall) :
    (s.call call).2.outlines = s.outlines := by
  cases ha : s.armed call.kind with
  | some fault =>
    rw [call_of_armed ha]
    rfl
  | none =>
    rw [call_of_unarmed ha]
    exact s.outlines_serve call

/-- The next object is opened, at a path where there is a node. -/
def Hangs (s t : Simulator cards) (object : NativeObject) : Prop :=
  ∃ state, (s.outlines state.site state.path).isSome = true ∧
    object = ⟨firstObject + s.nextObject⟩ ∧ t.objects = s.objects.insert object state

/-- What a call that is to open an object does to the live objects. -/
def Opens (s : Simulator cards) : Except Fault NativeObject × Simulator cards → Prop
  | (.ok object, t) => s.Hangs t object
  | (.error _, t) => t.objects = s.objects

/-- What a call that is to destroy an object does to the live objects. -/
def Destroys (s : Simulator cards) (object : NativeObject) :
    Except Fault Unit × Simulator cards → Prop
  | (.ok _, t) => t.objects = s.objects.erase object
  | (.error _, t) => t.objects = s.objects

/-- What a call does to the live objects. -/
def Rehangs (s : Simulator cards) :
    (call : DeviceCall) → Except Fault call.Value × Simulator cards → Prop
  | .tokenGetObject _ _ _, outcome => s.Opens outcome
  | .handleGetObject _ _ _, outcome => s.Opens outcome
  | .objectGetObject _ _ _, outcome => s.Opens outcome
  | .objectGetObjectAt _ _, outcome => s.Opens outcome
  | .destroyObject object, outcome => s.Destroys object outcome
  | _, (_, t) => t.objects = s.objects

theorem rehangs_of_eq {call : DeviceCall} (h : call.curates = false)
    {outcome : Except Fault call.Value × Simulator cards} (ht : outcome.2.objects = s.objects) :
    s.Rehangs call outcome := by
  cases call with
  | resetHandle | tokenGetObject | handleGetObject | destroyObject | objectWrite64
  | objectGetObject | objectGetObjectAt | reconfigureSlot => cases h
  | _ => exact ht

theorem rehangs_of_error {call : DeviceCall} {fault : Fault} (ht : t.objects = s.objects) :
    s.Rehangs call (.error fault, t) := by
  cases call <;> exact ht

theorem rehangs_commit {call : DeviceCall} {result : Except Fault (call.Value × Simulator cards)}
    (h : ∀ value t, result = .ok (value, t) → s.Rehangs call (.ok value, t)) :
    s.Rehangs call (s.commit result) := by
  cases result with
  | error fault => exact rehangs_of_error rfl
  | ok outcome => exact h outcome.1 outcome.2 rfl

theorem hangs_of_openObject {object : NativeObject}
    (h : ∃ site path, s.openObject site path = .ok (object, t)) : s.Hangs t object := by
  obtain ⟨site, path, h⟩ := h
  obtain ⟨hobject, hstate⟩ := openObject_ok h
  refine ⟨⟨site, path⟩, ?_, hobject, by rw [hstate, hobject]⟩
  unfold openObject at h
  split at h
  · cases h
  · rename_i node hnode
    rw [outlines_eq_map, faceAt_of_nodeOf hnode]
    rfl

theorem rehangs_serve (s : Simulator cards) (call : DeviceCall) :
    s.Rehangs call (s.serve call) := by
  cases hc : call.curates with
  | false => exact rehangs_of_eq hc (congrArg Gallery.objects (s.gallery_serve hc))
  | true =>
  cases call with
  | tokenGetObject => exact rehangs_commit fun _ _ h => hangs_of_openObject (tokenObject_ok h)
  | handleGetObject => exact rehangs_commit fun _ _ h => hangs_of_openObject (handleObject_ok h)
  | objectGetObject => exact rehangs_commit fun _ _ h => hangs_of_openObject (childObject_ok h)
  | objectGetObjectAt => exact rehangs_commit fun _ _ h => hangs_of_openObject (childObjectAt_ok h)
  | destroyObject => exact rehangs_commit fun _ _ h => congrArg objects (destroyObject_ok h)
  | objectWrite64 =>
    refine rehangs_commit fun _ _ h => ?_
    obtain ⟨_, _, -, -, hobjects, -⟩ := gallery_of_writeObject64 h
    exact hobjects
  | resetHandle => exact rehangs_commit fun _ _ h => (outlines_of_resetHandle h).1
  | reconfigureSlot => exact rehangs_commit fun _ _ h => (outlines_of_reconfigureSlot h).1
  | _ => cases hc

theorem rehangs_call (s : Simulator cards) (call : DeviceCall) :
    s.Rehangs call (s.call call) := by
  cases ha : s.armed call.kind with
  | some fault =>
    rw [call_of_armed ha]
    exact rehangs_of_error rfl
  | none =>
    have hserved := s.rehangs_serve call
    rw [call_of_unarmed ha]
    generalize s.serve call = outcome at hserved ⊢
    obtain ⟨_ | value, t⟩ := outcome
    · cases call <;> exact hserved
    · cases call <;> exact hserved

/-! ## Well-formed galleries -/

/-- The trees have the outlines that they started with, and every live object has a node. -/
structure Formed (s : Simulator cards) : Prop where
  outlines : ∀ site, s.outlines site = (Resource.initial site.kind).tree.outline?
  resolved : ∀ object state, s.objects.find? object = some state →
    (s.outlines state.site state.path).isSome = true

theorem formed_start (cards : Nat) (images : String → Option (List UInt8)) :
    (start cards images).Formed where
  outlines _ := rfl
  resolved _ _ hf := by cases hf

theorem Formed.of_gallery (h : s.Formed) (hg : t.gallery = s.gallery) : t.Formed where
  outlines site := (congrFun (outlines_congr hg) site).trans (h.outlines site)
  resolved object state hf := by
    have hobjects : t.objects = s.objects := congrArg Gallery.objects hg
    rw [hobjects] at hf
    rw [outlines_congr hg]
    exact h.resolved object state hf

theorem Formed.call (h : s.Formed) (call : DeviceCall) : (s.call call).2.Formed where
  outlines site := (congrFun (s.outlines_call call) site).trans (h.outlines site)
  resolved := by
    rw [outlines_call]
    have hrehangs := s.rehangs_call call
    generalize s.call call = outcome at hrehangs ⊢
    have kept : ∀ {t : Simulator cards}, t.objects = s.objects →
        ∀ object state, t.objects.find? object = some state →
          (s.outlines state.site state.path).isSome = true :=
      fun ht object state hf => h.resolved object state (ht ▸ hf)
    have hung : ∀ {t : Simulator cards} {object : NativeObject}, s.Hangs t object →
        ∀ other state, t.objects.find? other = some state →
          (s.outlines state.site state.path).isSome = true := by
      rintro t object ⟨state, hnode, -, ht⟩ other found hf
      rw [ht, Table.find?_insert] at hf
      split at hf
      · cases hf
        exact hnode
      · exact h.resolved other found hf
    obtain ⟨_ | value, t⟩ := outcome
    · cases call <;> exact kept hrehangs
    · cases call with
      | tokenGetObject | handleGetObject | objectGetObject | objectGetObjectAt =>
        exact hung hrehangs
      | destroyObject object =>
        have ht : t.objects = s.objects.erase object := hrehangs
        intro other state hf
        rw [ht, Table.find?_erase] at hf
        split at hf
        · cases hf
        · exact h.resolved other state hf
      | _ => exact kept hrehangs

theorem Formed.disturb (h : s.Formed) (d : Disturbance) : (s.disturb d).Formed := by
  cases d with
  | arm | recycle => exact ⟨h.outlines, h.resolved⟩
  | raise token number bits => exact h.of_gallery (s.gallery_raiseError token number bits)

/-- A live object shows something. -/
theorem Formed.exists_face (h : s.Formed) {object : NativeObject} {state : OpenObject cards}
    (hf : s.objects.find? object = some state) : ∃ face, s.faceAt state = some face := by
  have hnode := h.resolved object state hf
  rw [outlines_eq_map, Option.isSome_map] at hnode
  exact Option.isSome_iff_exists.mp hnode

/-- Where an accelerator shows the guid of its function. -/
def guidObject (site : Site cards) : OpenObject cards := ⟨site, Resource.guidPath⟩

/-- The guid of an accelerator is an attribute, whatever was written there. -/
theorem Formed.exists_guidText (h : s.Formed) {site : Site cards} (hk : site.kind = .accelerator) :
    ∃ text, s.faceAt (guidObject site) = some (.attribute text) := by
  have houtline : s.outlines site Resource.guidPath = some none := by
    rw [h.outlines site, hk]
    rfl
  have hmap : (s.faceAt (guidObject site)).map Face.outline = some none := houtline
  obtain ⟨face, hface, hnone⟩ := Option.map_eq_some_iff.mp hmap
  obtain text | names := face
  · exact ⟨text, hface⟩
  · cases hnone

end Simulator

end DeviceBroker
