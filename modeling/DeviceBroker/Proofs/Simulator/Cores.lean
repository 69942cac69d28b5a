import DeviceBroker.Proofs.Simulator.Failure
import DeviceBroker.Proofs.Simulator.Contents

/-!
# Cores of resources

Error registers, attributes, clocks and samples have no effect on who may open
a resource, nor on what its registers hold. The rest of a resource is its
core: the loaded function, the register regions, and who has it open. Opening,
closing, resetting, writing a register and loading another function are the
only calls that change the core of a resource, and each of them changes one.
-/

namespace DeviceBroker

variable {cards : Nat} {α : Type}

/-- What matters of a resource for opening it and for its registers. -/
@[ext] structure Core where
  guid : Guid
  regions : List Memory
  openCount : Nat
  exclusive : Bool

namespace Resource

def core (r : Resource) : Core := ⟨r.guid, r.regions, r.openCount, r.exclusive⟩

/-- The regions of registers that are all zero, but for those that show a guid. -/
def clearedRegions (kind : ResourceKind) (guid : Guid) (regions : List Memory) : List Memory :=
  let zeroed := regions.map fun region => Memory.zeros region.size
  match kind with
  | .device => zeroed
  | .accelerator => zeroed.modifyHead fun region =>
      (region.write guidHighOffset (.ofList (guid.toList.take 8))).write guidLowOffset
        (.ofList (guid.toList.drop 8))

theorem core_reset (kind : ResourceKind) (r : Resource) :
    (r.reset kind).core = { r.core with regions := clearedRegions kind r.guid r.regions } := by
  cases kind <;> rfl

theorem core_load (guid : Guid) (r : Resource) :
    (r.load guid).core =
      { r.core with guid := guid, regions := clearedRegions .accelerator guid r.regions } := rfl

end Resource

/-- Whether a call changes the core of a resource, if it succeeds. -/
def DeviceCall.touchesCore : DeviceCall → Bool
  | .openHandle _ _ | .closeHandle _ | .resetHandle _ | .writeMmio32 _ _ _ _
  | .writeMmio64 _ _ _ _ | .writeMmio512 _ _ _ _ | .reconfigureSlot _ _ _ _ => true
  | _ => false

namespace Simulator

variable {s t : Simulator cards}

def cores (s : Simulator cards) (site : Site cards) : Core := (s.resources site).core

/-- A change of one resource is a change of its core, or leaves all cores alone. -/
theorem cores_updateResource (s : Simulator cards) (site : Site cards)
    {change : Resource → Resource} {core : Core} (h : (change (s.resources site)).core = core) :
    (s.updateResource site change).cores = override s.cores site core := by
  funext other
  unfold cores updateResource
  by_cases ho : other = site
  · simpa [ho] using h
  · simp [override, ho]

theorem cores_updateResource_of_eq (s : Simulator cards) (site : Site cards)
    {change : Resource → Resource}
    (h : (change (s.resources site)).core = (s.resources site).core) :
    (s.updateResource site change).cores = s.cores := by
  rw [s.cores_updateResource site h]
  exact override_eq_self s.cores site

/-! ## Operations that leave the cores alone -/

theorem cores_of_clearError {token : NativeToken} {number : UInt32} {value : Unit}
    (h : s.clearError token number = .ok (value, t)) : t.cores = s.cores := by
  unfold clearError at h
  split at h
  · cases h
  · split at h
    · cases h
      exact s.cores_updateResource_of_eq _ rfl
    · cases h

theorem cores_of_clearAllErrors {token : NativeToken} {value : Unit}
    (h : s.clearAllErrors token = .ok (value, t)) : t.cores = s.cores := by
  unfold clearAllErrors at h
  split at h
  · cases h
  · cases h
    exact s.cores_updateResource_of_eq _ rfl

theorem cores_of_writeObject64 {object : NativeObject} {number : UInt64} {value : Unit}
    (h : s.writeObject64 object number = .ok (value, t)) : t.cores = s.cores := by
  unfold writeObject64 at h
  split at h
  · cases h
  · cases h
  · cases h
    exact s.cores_updateResource_of_eq _ rfl

theorem cores_of_setUserClock {handle : NativeHandle} {highHz lowHz : UInt64} {value : Unit}
    (h : s.setUserClock handle highHz lowHz = .ok (value, t)) : t.cores = s.cores := by
  unfold setUserClock at h
  split at h
  · cases h
  split at h
  · cases h
  split at h
  · cases h
  · cases h
    exact s.cores_updateResource_of_eq _ rfl

theorem cores_sampleMetrics (s : Simulator cards) (handle : NativeHandle)
    (numbers : List (Option UInt64)) : (s.sampleMetrics handle numbers).2.cores = s.cores := by
  rw [resources_sampleMetrics]
  funext site
  unfold cores
  dsimp only
  split
  · rfl
  · rfl

theorem cores_raiseError (s : Simulator cards) (token : NativeToken) (number : UInt32)
    (bits : UInt64) : (s.raiseError token number bits).2.cores = s.cores := by
  unfold raiseError
  split
  · rfl
  · rename_i site register _
    change (s.changeError site number fun value => value ||| bits).cores = s.cores
    exact s.cores_updateResource_of_eq site rfl

theorem cores_of_openObject {object : NativeObject}
    (h : ∃ site path, s.openObject site path = .ok (object, t)) : t.cores = s.cores := by
  obtain ⟨site, path, h⟩ := h
  obtain ⟨-, rfl⟩ := openObject_ok h
  rfl

theorem cores_propertiesAt (s : Simulator cards) (site : Site cards) :
    (s.propertiesAt site).2.cores = s.cores := by
  obtain ⟨card, kind⟩ := site
  cases kind <;> rfl

theorem cores_enumerate (s : Simulator cards) (filters : List (Properties NativeToken))
    (maxTokens : UInt32) : (s.enumerate filters maxTokens).2.cores = s.cores := by
  have published : ∀ (sites : List (Site cards)) (u : Simulator cards),
      (sites.foldl (fun u site => u.publish site.canonical site) u).cores = u.cores := by
    intro sites
    induction sites with
    | nil => exact fun _ => rfl
    | cons site rest ih => exact fun u => ih _
  exact published _ s

theorem cores_commit {result : Except Fault (α × Simulator cards)}
    (h : ∀ value t, result = .ok (value, t) → t.cores = s.cores) :
    (s.commit result).2.cores = s.cores :=
  commit_preserves (I := fun t => t.cores = s.cores) rfl h

theorem cores_serve (s : Simulator cards) {call : DeviceCall} (h : call.touchesCore = false) :
    (s.serve call).2.cores = s.cores := by
  cases call with
  | openHandle | closeHandle | resetHandle | writeMmio32 | writeMmio64 | writeMmio512
  | reconfigureSlot => cases h
  | enumerate => exact s.cores_enumerate _ _
  | destroyToken => exact cores_commit fun _ _ h => by obtain rfl := destroyToken_ok h; rfl
  | cloneToken => exact cores_commit fun _ _ h => by obtain ⟨_, -, rfl⟩ := cloneToken_ok h; rfl
  | getProperties | updateProperties =>
    refine cores_commit fun properties t h => ?_
    obtain ⟨site, hsite⟩ := tokenProperties_ok h
    rw [← s.cores_propertiesAt site, hsite]
  | getHandleProperties =>
    refine cores_commit fun properties t h => ?_
    obtain ⟨site, hsite⟩ := handleProperties_ok h
    rw [← s.cores_propertiesAt site, hsite]
  | mapMmio => exact cores_commit fun _ _ h => by obtain ⟨-, rfl⟩ := mapMmio_ok h; rfl
  | unmapMmio => exact cores_commit fun _ _ h => by obtain ⟨-, rfl⟩ := unmapMmio_ok h; rfl
  | prepareBuffer =>
    exact cores_commit fun _ _ h => by obtain ⟨_, _, -, -, -, rfl⟩ := prepareBuffer_ok h; rfl
  | releaseBuffer => exact cores_commit fun _ _ h => by obtain ⟨-, rfl⟩ := releaseBuffer_ok h; rfl
  | bufferWrite =>
    exact cores_commit fun _ _ h => by obtain ⟨_, _, -, -, rfl⟩ := writeBuffer_ok h; rfl
  | tokenGetObject => exact cores_commit fun _ _ h => cores_of_openObject (tokenObject_ok h)
  | handleGetObject => exact cores_commit fun _ _ h => cores_of_openObject (handleObject_ok h)
  | objectGetObject => exact cores_commit fun _ _ h => cores_of_openObject (childObject_ok h)
  | objectGetObjectAt => exact cores_commit fun _ _ h => cores_of_openObject (childObjectAt_ok h)
  | destroyObject => exact cores_commit fun _ _ h => by obtain rfl := destroyObject_ok h; rfl
  | clearError => exact cores_commit fun _ _ h => cores_of_clearError h
  | clearAllErrors => exact cores_commit fun _ _ h => cores_of_clearAllErrors h
  | objectWrite64 => exact cores_commit fun _ _ h => cores_of_writeObject64 h
  | setUserClock => exact cores_commit fun _ _ h => cores_of_setUserClock h
  | getMetricsByIndex | getMetricsByName => exact s.cores_sampleMetrics _ _
  | _ => rfl

/-! ## Operations that change one core -/

theorem cores_of_openHandle {token : NativeToken} {flags : UInt32} {handle : NativeHandle}
    (h : s.openHandle token flags = .ok (handle, t)) :
    ∃ site, t.cores = override s.cores site
      { s.cores site with
        openCount := (s.cores site).openCount + 1
        exclusive := !Flags.has flags Flags.openShared } := by
  obtain ⟨site, -, rfl, rfl⟩ := openHandle_ok h
  refine ⟨site, funext fun other => ?_⟩
  simp only [cores, updateResource, override]
  split
  · rfl
  · rfl

theorem cores_of_closeHandle {handle : NativeHandle} {value : Unit}
    (h : s.closeHandle handle = .ok (value, t)) :
    ∃ closed, s.handles.find? handle = some closed ∧
      t.cores = override s.cores closed.site
        { s.cores closed.site with
          openCount := (s.cores closed.site).openCount - 1
          exclusive := if closed.exclusive then false else (s.cores closed.site).exclusive } := by
  obtain ⟨closed, hf, rfl⟩ := closeHandle_ok h
  refine ⟨closed, hf, funext fun other => ?_⟩
  simp only [cores, updateResource, override]
  split
  · rfl
  · rfl

theorem cores_of_resetHandle {handle : NativeHandle} {value : Unit}
    (h : s.resetHandle handle = .ok (value, t)) :
    ∃ state, s.handles.find? handle = some state ∧
      t.cores = override s.cores state.site
        { s.cores state.site with
          regions := Resource.clearedRegions state.site.kind (s.cores state.site).guid
            (s.cores state.site).regions } := by
  unfold resetHandle at h
  split at h
  · cases h
  · rename_i state hs
    cases h
    exact ⟨state, find?_of_handleOf hs, s.cores_updateResource _ (Resource.core_reset _ _)⟩

theorem cores_of_writeRegister {handle : NativeHandle} {region : UInt32} {offset : UInt64}
    {data : Memory} {value : Unit}
    (h : s.writeRegister handle region offset data = .ok (value, t)) :
    ∃ state, s.handles.find? handle = some state ∧
      t.cores = override s.cores state.site
        { s.cores state.site with
          regions := (s.cores state.site).regions.modify region.toNat fun memory =>
            memory.write offset.toNat data } := by
  unfold writeRegister at h
  split at h
  · cases h
  · rename_i site memory hr
    cases h
    unfold regionFor at hr
    split at hr
    · cases hr
    rename_i state hs
    split at hr
    · cases hr
    split at hr
    · cases hr
      exact ⟨state, find?_of_handleOf hs, s.cores_updateResource _ rfl⟩
    · cases hr

/-- Only the accelerator of a card is loaded with another function, through the
management device of the card and from the beginning of an image, while nobody
has the accelerator open. -/
theorem cores_of_reconfigureSlot {handle : NativeHandle} {slot : UInt32} {path : String}
    {value : Unit} (h : s.reconfigureSlot handle slot path = .ok (value, t)) :
    ∃ state image guid, s.handles.find? handle = some state ∧ state.site.kind = .device ∧
      s.images path = some image ∧ guid.toList = image.take 16 ∧
      (s.cores state.site.accelerator).openCount = 0 ∧
      t.cores = override s.cores state.site.accelerator
        { s.cores state.site.accelerator with
          guid := guid
          regions := Resource.clearedRegions .accelerator guid
            (s.cores state.site.accelerator).regions } := by
  unfold reconfigureSlot at h
  split at h
  · cases h
  rename_i image himage
  split at h
  · cases h
  rename_i state hs
  split at h
  · cases h
  rename_i hkind
  split at h
  · cases h
  split at h
  · dsimp only at h
    split at h
    · cases h
    · rename_i hlength hcount
      cases h
      refine ⟨state, image, ⟨(image.take 16).toArray, by simpa using hlength⟩,
        find?_of_handleOf hs, hkind, himage, rfl, Nat.eq_zero_of_not_pos hcount, ?_⟩
      exact s.cores_updateResource _ (Resource.core_load _ _)
  · cases h

end Simulator

end DeviceBroker
