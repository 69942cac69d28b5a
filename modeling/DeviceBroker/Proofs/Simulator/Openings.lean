import DeviceBroker.Proofs.Broker.Workload
import DeviceBroker.Proofs.Simulator.Holdings

/-!
# Regions and values of open handles

For the handles themselves three things matter about the simulated cards: the
regions that are mapped through every open handle, the slot from which on the
values of new handles are sought, and whether closed values are given out
again. `Openings` is that view, and `openings_call` says what every call does
to it: nothing if it fails, and `Openings.after` if it succeeds. The host of the
cards decides about closed values, and leaves the rest of it alone.
-/

namespace DeviceBroker

/-- What a driver keeps for its open handles. -/
@[ext] structure Openings where
  /-- The regions that are mapped through a handle, none if it is not open. -/
  mapped : NativeHandle → UInt32 → Bool
  nextHandle : Nat
  recycling : Bool

namespace Openings

/-- A region of a handle is mapped from now on, or is not. -/
def setMapped (o : Openings) (handle : NativeHandle) (region : UInt32) (mapped : Bool) : Openings :=
  { o with mapped := override o.mapped handle (override (o.mapped handle) region mapped) }

/-- What the driver keeps after a call that returned a value. -/
def after (o : Openings) : (call : DeviceCall) → call.Value → Openings
  | .openHandle _ _, handle =>
    { o with nextHandle := max o.nextHandle (handle.raw - Simulator.firstHandle + 1) }
  | .closeHandle handle, _ => { o with mapped := override o.mapped handle fun _ => false }
  | .mapMmio handle region, _ => o.setMapped handle region true
  | .unmapMmio handle region, _ => o.setMapped handle region false
  | _, _ => o

/-- What the driver promises about the values that it returns. -/
def Grants (o : Openings) : (call : DeviceCall) → call.Value → Prop
  | .openHandle _ _, handle =>
    ∃ slot, handle = Simulator.handleAt slot ∧ (o.recycling = false → o.nextHandle ≤ slot)
  | _, _ => True

theorem recycling_after (o : Openings) (call : DeviceCall) (value : call.Value) :
    (o.after call value).recycling = o.recycling := by
  cases call <;> rfl

theorem nextHandle_le_after (o : Openings) (call : DeviceCall) (value : call.Value) :
    o.nextHandle ≤ (o.after call value).nextHandle := by
  cases call with
  | openHandle token flags => exact Nat.le_max_left _ _
  | _ => exact Nat.le_refl _

end Openings

namespace Simulator

variable {cards : Nat}

/-- What the simulated cards keep for their open handles. -/
def openings (s : Simulator cards) : Openings where
  mapped handle region := (s.handles.find? handle).any fun state => state.mapped region
  nextHandle := s.nextHandle
  recycling := s.recycling

/-! ## Changes of the state -/

@[simp] theorem openings_updateResource (s : Simulator cards) (site : Site cards)
    (change : Resource → Resource) : (s.updateResource site change).openings = s.openings := rfl

@[simp] theorem openings_changeBuffers (s : Simulator cards) (handle : NativeHandle)
    (change : Table Nat Buffer → Table Nat Buffer) :
    (s.changeBuffers handle change).openings = s.openings := by
  simp only [openings, changeBuffers, Table.find?_modify]
  congr 1
  funext other region
  by_cases ho : other = handle
  · cases s.handles.find? other <;> simp [ho]
  · simp [ho]

theorem openings_setMapped {s : Simulator cards} {handle : NativeHandle} {state : OpenHandle cards}
    (hf : s.handles.find? handle = some state) (region : UInt32) (mapped : Bool) :
    (s.setMapped handle region mapped).openings = s.openings.setMapped handle region mapped := by
  simp only [openings, setMapped, Openings.setMapped, Table.find?_modify]
  congr 1
  funext other number
  by_cases ho : other = handle
  · subst ho
    by_cases hn : number = region <;> simp [hf, hn, override]
  · simp [ho, override]

/-! ## Successful operations -/

variable {s t : Simulator cards}

theorem openings_of_openHandle {token : NativeToken} {flags : UInt32} {handle : NativeHandle}
    (h : s.openHandle token flags = .ok (handle, t)) :
    s.openings.Grants (.openHandle token flags) handle ∧
      t.openings = s.openings.after (.openHandle token flags) handle := by
  obtain ⟨site, -, rfl, rfl⟩ := openHandle_ok h
  refine ⟨⟨s.freeSlot, rfl, le_freeSlot⟩, ?_⟩
  -- A handle that has just been opened has as few mappings as one that is not open.
  have hclosed := (s.handles.find?_eq_none_iff _).mpr s.not_contains_freeSlot
  simp only [openings, Openings.after, Openings.mk.injEq]
  refine ⟨?_, ?_, rfl⟩
  · funext other region
    by_cases ho : other = handleAt s.freeSlot
    · simp [ho, hclosed]
    · simp [Table.find?_insert, ho]
  · simp [handleAt]

theorem openings_of_closeHandle {handle : NativeHandle} {value : Unit}
    (h : s.closeHandle handle = .ok (value, t)) :
    t.openings = s.openings.after (.closeHandle handle) value := by
  obtain ⟨closed, -, rfl⟩ := closeHandle_ok h
  simp only [openings_updateResource]
  simp only [openings, Openings.after, Table.find?_erase]
  congr 1
  funext other region
  by_cases ho : other = handle <;> simp [ho, override]

theorem openings_of_mapMmio {handle : NativeHandle} {region : UInt32} {base : UInt64}
    (h : s.mapMmio handle region = .ok (base, t)) :
    t.openings = s.openings.setMapped handle region true := by
  obtain ⟨⟨state, hf⟩, rfl⟩ := mapMmio_ok h
  exact openings_setMapped hf region true

theorem openings_of_unmapMmio {handle : NativeHandle} {region : UInt32} {value : Unit}
    (h : s.unmapMmio handle region = .ok (value, t)) :
    t.openings = s.openings.setMapped handle region false := by
  obtain ⟨⟨state, hf⟩, rfl⟩ := unmapMmio_ok h
  exact openings_setMapped hf region false

/-- A region can be unmapped exactly if it is mapped. -/
theorem answer_unmapMmio (s : Simulator cards) (handle : NativeHandle) (region : UInt32) :
    (s.commit (s.unmapMmio handle region)).1 =
      if s.openings.mapped handle region then .ok () else .error .invalidParam := by
  unfold unmapMmio handleOf
  change _ = if (s.handles.find? handle).any fun state => state.mapped region then _ else _
  cases s.handles.find? handle with
  | none => rfl
  | some state => cases hm : state.mapped region <;> simp [hm]

/-! ## Operations that leave the handles alone -/

theorem Retouches.openings_eq (h : s.Retouches t) : t.openings = s.openings := by
  obtain ⟨resources, rfl⟩ := h
  rfl

theorem openings_of_destroyToken {token : NativeToken} {value : Unit}
    (h : s.destroyToken token = .ok (value, t)) : t.openings = s.openings := by
  obtain rfl := destroyToken_ok h
  rfl

theorem openings_of_cloneToken {token : NativeToken} {clone : NativeHeader}
    (h : s.cloneToken token = .ok (clone, t)) : t.openings = s.openings := by
  obtain ⟨site, -, rfl⟩ := cloneToken_ok h
  rfl

theorem openings_enumerate (s : Simulator cards) (filters : List (Properties NativeToken))
    (maxTokens : UInt32) : (s.enumerate filters maxTokens).2.openings = s.openings := by
  have published : ∀ (sites : List (Site cards)) (u : Simulator cards),
      (sites.foldl (fun u site => u.publish site.canonical site) u).openings = u.openings := by
    intro sites
    induction sites with
    | nil => exact fun _ => rfl
    | cons site rest ih => exact fun u => ih _
  exact published _ s

theorem openings_propertiesAt (s : Simulator cards) (site : Site cards) :
    (s.propertiesAt site).2.openings = s.openings := by
  obtain ⟨card, kind⟩ := site
  cases kind <;> rfl

theorem openings_of_tokenProperties {token : NativeToken}
    {properties : Properties NativeToken} (h : s.tokenProperties token = .ok (properties, t)) :
    t.openings = s.openings := by
  obtain ⟨site, hsite⟩ := tokenProperties_ok h
  rw [← s.openings_propertiesAt site, hsite]

theorem openings_of_handleProperties {handle : NativeHandle}
    {properties : Properties NativeToken} (h : s.handleProperties handle = .ok (properties, t)) :
    t.openings = s.openings := by
  obtain ⟨site, hsite⟩ := handleProperties_ok h
  rw [← s.openings_propertiesAt site, hsite]

theorem openings_of_prepareBuffer {handle : NativeHandle} {length : UInt64}
    {address : Option UInt64} {flags : UInt32} {prepared : PreparedBuffer}
    (h : s.prepareBuffer handle length address flags = .ok (prepared, t)) :
    t.openings = s.openings := by
  obtain ⟨state, buffer, -, -, -, rfl⟩ := prepareBuffer_ok h
  exact openings_changeBuffers _ _ _

theorem openings_of_releaseBuffer {handle : NativeHandle} {workspace : Nat} {value : Unit}
    (h : s.releaseBuffer handle workspace = .ok (value, t)) : t.openings = s.openings := by
  obtain ⟨-, rfl⟩ := releaseBuffer_ok h
  exact openings_changeBuffers _ _ _

theorem openings_of_writeBuffer {handle : NativeHandle} {workspace : Nat} {offset : UInt64}
    {data : Memory} {value : Unit}
    (h : s.writeBuffer handle workspace offset data = .ok (value, t)) :
    t.openings = s.openings := by
  obtain ⟨state, buffer, -, -, rfl⟩ := writeBuffer_ok h
  exact openings_changeBuffers _ _ _

theorem openings_of_openObject {object : NativeObject}
    (h : ∃ site path, s.openObject site path = .ok (object, t)) : t.openings = s.openings := by
  obtain ⟨site, path, h⟩ := h
  obtain ⟨-, rfl⟩ := openObject_ok h
  rfl

theorem openings_of_destroyObject {object : NativeObject} {value : Unit}
    (h : s.destroyObject object = .ok (value, t)) : t.openings = s.openings := by
  obtain rfl := destroyObject_ok h
  rfl

/-! ## Calls -/

/-- A failed call leaves alone what is kept for open handles; a successful one
changes it as the returned value says, and the value is as promised. -/
def Tends (s : Simulator cards) (call : DeviceCall) :
    Except Fault call.Value × Simulator cards → Prop
  | (.error _, t) => t.openings = s.openings
  | (.ok value, t) => s.openings.Grants call value ∧ t.openings = s.openings.after call value

theorem tends_commit {call : DeviceCall} {result : Except Fault (call.Value × Simulator cards)}
    (h : ∀ value t, result = .ok (value, t) →
      s.openings.Grants call value ∧ t.openings = s.openings.after call value) :
    s.Tends call (s.commit result) := by
  cases result with
  | error fault => exact (rfl : s.openings = s.openings)
  | ok outcome => exact h outcome.1 outcome.2 rfl

/-- A call that leaves the handles alone, whether or not it succeeds. -/
theorem tends_of_eq {call : DeviceCall} {outcome : Except Fault call.Value × Simulator cards}
    (hg : ∀ value, s.openings.Grants call value)
    (ha : ∀ value, s.openings.after call value = s.openings)
    (h : outcome.2.openings = s.openings) : s.Tends call outcome := by
  obtain ⟨result, t⟩ := outcome
  cases result with
  | error fault => exact h
  | ok value => exact ⟨hg value, h.trans (ha value).symm⟩

theorem tends_serve (s : Simulator cards) (call : DeviceCall) : s.Tends call (s.serve call) := by
  cases call with
  | enumerate filters maxTokens => exact ⟨trivial, s.openings_enumerate filters maxTokens⟩
  | destroyToken token => exact tends_commit fun _ _ h => ⟨trivial, openings_of_destroyToken h⟩
  | cloneToken token => exact tends_commit fun _ _ h => ⟨trivial, openings_of_cloneToken h⟩
  | getProperties token => exact tends_commit fun _ _ h => ⟨trivial, openings_of_tokenProperties h⟩
  | updateProperties token =>
      exact tends_commit fun _ _ h => ⟨trivial, openings_of_tokenProperties h⟩
  | openHandle token flags => exact tends_commit fun _ _ h => openings_of_openHandle h
  | closeHandle handle => exact tends_commit fun _ _ h => ⟨trivial, openings_of_closeHandle h⟩
  | resetHandle handle => exact tends_commit fun _ _ h => ⟨trivial, (resetHandle_ok h).openings_eq⟩
  | getHandleProperties handle =>
      exact tends_commit fun _ _ h => ⟨trivial, openings_of_handleProperties h⟩
  | mapMmio handle region => exact tends_commit fun _ _ h => ⟨trivial, openings_of_mapMmio h⟩
  | unmapMmio handle region => exact tends_commit fun _ _ h => ⟨trivial, openings_of_unmapMmio h⟩
  | writeMmio32 handle region offset value =>
      exact tends_commit fun _ _ h => ⟨trivial, (writeRegister_ok h).openings_eq⟩
  | writeMmio64 handle region offset value =>
      exact tends_commit fun _ _ h => ⟨trivial, (writeRegister_ok h).openings_eq⟩
  | writeMmio512 handle region offset value =>
      exact tends_commit fun _ _ h => ⟨trivial, (writeRegister_ok h).openings_eq⟩
  | prepareBuffer handle length address flags =>
      exact tends_commit fun _ _ h => ⟨trivial, openings_of_prepareBuffer h⟩
  | releaseBuffer handle workspace =>
      exact tends_commit fun _ _ h => ⟨trivial, openings_of_releaseBuffer h⟩
  | bufferWrite handle workspace offset data =>
      exact tends_commit fun _ _ h => ⟨trivial, openings_of_writeBuffer h⟩
  | clearError token number =>
      exact tends_commit fun _ _ h => ⟨trivial, (clearError_ok h).openings_eq⟩
  | clearAllErrors token =>
      exact tends_commit fun _ _ h => ⟨trivial, (clearAllErrors_ok h).openings_eq⟩
  | tokenGetObject token name flags =>
      exact tends_commit fun _ _ h => ⟨trivial, openings_of_openObject (tokenObject_ok h)⟩
  | handleGetObject handle name flags =>
      exact tends_commit fun _ _ h => ⟨trivial, openings_of_openObject (handleObject_ok h)⟩
  | objectGetObject object name flags =>
      exact tends_commit fun _ _ h => ⟨trivial, openings_of_openObject (childObject_ok h)⟩
  | objectGetObjectAt object index =>
      exact tends_commit fun _ _ h => ⟨trivial, openings_of_openObject (childObjectAt_ok h)⟩
  | destroyObject object => exact tends_commit fun _ _ h => ⟨trivial, openings_of_destroyObject h⟩
  | objectWrite64 object value flags =>
      exact tends_commit fun _ _ h => ⟨trivial, (writeObject64_ok h).openings_eq⟩
  | setUserClock handle highHz lowHz flags =>
      exact tends_commit fun _ _ h => ⟨trivial, (setUserClock_ok h).openings_eq⟩
  | reconfigureSlot handle slot path flags =>
      exact tends_commit fun _ _ h => ⟨trivial, (reconfigureSlot_ok h).openings_eq⟩
  | getMetricsByIndex handle numbers =>
      exact tends_of_eq (fun _ => trivial) (fun _ => rfl)
        (s.retouches_sampleMetrics _ _).openings_eq
  | getMetricsByName handle names =>
      exact tends_of_eq (fun _ => trivial) (fun _ => rfl)
        (s.retouches_sampleMetrics _ _).openings_eq
  | _ => exact tends_of_eq (fun _ => trivial) (fun _ => rfl) rfl

/-- What every call does to what the driver keeps for open handles. -/
theorem openings_call (s : Simulator cards) (call : DeviceCall) : s.Tends call (s.call call) := by
  have hcounted : ({ s with calls := s.calls + 1 } : Simulator cards).Tends call
      (({ s with calls := s.calls + 1 } : Simulator cards).serve call) :=
    tends_serve _ call
  unfold Simulator.call
  dsimp only
  cases ha : s.armed call.kind with
  | some fault => exact (rfl : s.openings = s.openings)
  | none => exact hcounted

/-- Values are sought from ever larger slots on. -/
theorem Tends.nextHandle_le {s t : Simulator cards} {call : DeviceCall}
    {answer : Except Fault call.Value} (h : s.Tends call (answer, t)) :
    t.recycling = s.recycling ∧ s.nextHandle ≤ t.nextHandle := by
  cases answer with
  | error fault =>
    have hsame : t.openings = s.openings := h
    exact ⟨congrArg Openings.recycling hsame,
      Nat.le_of_eq (congrArg Openings.nextHandle hsame).symm⟩
  | ok value =>
    exact ⟨(congrArg Openings.recycling h.2).trans (s.openings.recycling_after call value),
      Nat.le_trans (s.openings.nextHandle_le_after call value)
        (Nat.le_of_eq (congrArg Openings.nextHandle h.2).symm)⟩

theorem answer_call_unmapMmio {s : Simulator cards} (h : s.armed .unmapMmio = none)
    (handle : NativeHandle) (region : UInt32) :
    (s.call (.unmapMmio handle region)).1 =
      if s.openings.mapped handle region then .ok () else .error .invalidParam := by
  unfold Simulator.call
  dsimp only
  rw [show s.armed (DeviceCall.unmapMmio handle region).kind = none from h]
  exact ({ s with calls := s.calls + 1 } : Simulator cards).answer_unmapMmio handle region

/-! ## Interference of the host -/

/-- The host of the cards takes nothing away and adds nothing to what is held. -/
theorem holdings_disturb (s : Simulator cards) (d : Disturbance) :
    (s.disturb d).holdings = s.holdings := by
  cases d with
  | arm kind fault => rfl
  | recycle => rfl
  | raise token number bits => exact (s.retouches_raiseError token number bits).holdings_eq

/-- The host of the cards maps and unmaps nothing. -/
theorem openings_disturb (s : Simulator cards) (d : Disturbance) :
    (s.disturb d).openings =
      { s.openings with recycling := (s.disturb d).recycling } := by
  cases d with
  | arm kind fault => rfl
  | recycle => rfl
  | raise token number bits =>
      obtain ⟨resources, hraised⟩ := s.retouches_raiseError token number bits
      unfold disturb
      dsimp only
      rw [hraised]
      rfl

theorem recycling_disturb (s : Simulator cards) {d : Disturbance} (h : d ≠ .recycle) :
    (s.disturb d).recycling = s.recycling := by
  cases d with
  | arm kind fault => rfl
  | raise token number bits =>
    unfold disturb raiseError
    dsimp only
    split
    · rfl
    · rfl
  | recycle => exact absurd rfl h

end Simulator

end DeviceBroker
