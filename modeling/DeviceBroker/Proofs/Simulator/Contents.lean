import DeviceBroker.Proofs.Simulator.Allocation

/-!
# What buffers hold

The bytes of every buffer of the simulated cards are found by the handle and
the workspace number that the buffer is named with. Four calls change them:
preparing a buffer sets zeros up, writing changes the bytes of one buffer,
releasing takes one buffer away, and closing a handle takes all of its buffers
away. `stored_call` says this of every call; one that fails changes nothing.
-/

namespace DeviceBroker

variable {cards : Nat} {α : Type}

/-- Whether a call changes what is kept for an open handle, if it succeeds. -/
def DeviceCall.touchesHandle : DeviceCall → Bool
  | .openHandle _ _ | .closeHandle _ | .mapMmio _ _ | .unmapMmio _ _ | .prepareBuffer _ _ _ _
  | .releaseBuffer _ _ | .bufferWrite _ _ _ _ => true
  | _ => false

/-- The bytes of all buffers after a call that returned a value. -/
def DeviceCall.storing (stored : NativeHandle × Nat → Option Memory) :
    (call : DeviceCall) → call.Value → NativeHandle × Nat → Option Memory
  | .closeHandle handle, _ => fun place => if place.1 = handle then none else stored place
  | .prepareBuffer handle length _ _, prepared =>
    override stored (handle, prepared.workspace) (some (.zeros length.toNat))
  | .releaseBuffer handle workspace, _ => override stored (handle, workspace) none
  | .bufferWrite handle workspace offset data, _ =>
    override stored (handle, workspace)
      ((stored (handle, workspace)).map fun memory => memory.write offset.toNat data)
  | _, _ => stored

namespace Simulator

variable {s t : Simulator cards}

/-! ## Calls that leave the handles alone -/

theorem Retouches.handles_eq (h : s.Retouches t) : t.handles = s.handles := by
  obtain ⟨resources, rfl⟩ := h
  rfl

theorem handles_of_openObject {object : NativeObject}
    (h : ∃ site path, s.openObject site path = .ok (object, t)) : t.handles = s.handles := by
  obtain ⟨site, path, h⟩ := h
  obtain ⟨-, rfl⟩ := openObject_ok h
  rfl

theorem handles_propertiesAt (s : Simulator cards) (site : Site cards) :
    (s.propertiesAt site).2.handles = s.handles := by
  obtain ⟨card, kind⟩ := site
  cases kind <;> rfl

theorem handles_enumerate (s : Simulator cards) (filters : List (Properties NativeToken))
    (maxTokens : UInt32) : (s.enumerate filters maxTokens).2.handles = s.handles := by
  have published : ∀ (sites : List (Site cards)) (u : Simulator cards),
      (sites.foldl (fun u site => u.publish site.canonical site) u).handles = u.handles := by
    intro sites
    induction sites with
    | nil => exact fun _ => rfl
    | cons site rest ih => exact fun u => ih _
  exact published _ s

theorem handles_commit {result : Except Fault (α × Simulator cards)}
    (h : ∀ value t, result = .ok (value, t) → t.handles = s.handles) :
    (s.commit result).2.handles = s.handles :=
  commit_preserves (I := fun t => t.handles = s.handles) rfl h

theorem handles_serve (s : Simulator cards) {call : DeviceCall} (h : call.touchesHandle = false) :
    (s.serve call).2.handles = s.handles := by
  cases call with
  | openHandle | closeHandle | mapMmio | unmapMmio | prepareBuffer | releaseBuffer
  | bufferWrite => cases h
  | enumerate => exact s.handles_enumerate _ _
  | destroyToken => exact handles_commit fun _ _ h => by obtain rfl := destroyToken_ok h; rfl
  | cloneToken => exact handles_commit fun _ _ h => by obtain ⟨_, -, rfl⟩ := cloneToken_ok h; rfl
  | getProperties | updateProperties =>
    refine handles_commit fun properties t h => ?_
    obtain ⟨site, hsite⟩ := tokenProperties_ok h
    rw [← s.handles_propertiesAt site, hsite]
  | getHandleProperties =>
    refine handles_commit fun properties t h => ?_
    obtain ⟨site, hsite⟩ := handleProperties_ok h
    rw [← s.handles_propertiesAt site, hsite]
  | tokenGetObject => exact handles_commit fun _ _ h => handles_of_openObject (tokenObject_ok h)
  | handleGetObject => exact handles_commit fun _ _ h => handles_of_openObject (handleObject_ok h)
  | objectGetObject => exact handles_commit fun _ _ h => handles_of_openObject (childObject_ok h)
  | objectGetObjectAt =>
    exact handles_commit fun _ _ h => handles_of_openObject (childObjectAt_ok h)
  | destroyObject => exact handles_commit fun _ _ h => by obtain rfl := destroyObject_ok h; rfl
  | resetHandle => exact handles_commit fun _ _ h => (resetHandle_ok h).handles_eq
  | writeMmio32 | writeMmio64 | writeMmio512 =>
    exact handles_commit fun _ _ h => (writeRegister_ok h).handles_eq
  | clearError => exact handles_commit fun _ _ h => (clearError_ok h).handles_eq
  | clearAllErrors => exact handles_commit fun _ _ h => (clearAllErrors_ok h).handles_eq
  | objectWrite64 => exact handles_commit fun _ _ h => (writeObject64_ok h).handles_eq
  | setUserClock => exact handles_commit fun _ _ h => (setUserClock_ok h).handles_eq
  | reconfigureSlot => exact handles_commit fun _ _ h => (reconfigureSlot_ok h).handles_eq
  | getMetricsByIndex | getMetricsByName => exact (s.retouches_sampleMetrics _ _).handles_eq
  | _ => rfl

/-! ## The bytes of buffers -/

/-- The bytes of the buffer with a workspace number that a handle has. -/
def stored (s : Simulator cards) (place : NativeHandle × Nat) : Option Memory :=
  (s.handles.find? place.1).bind fun state => (state.buffers.find? place.2).map Buffer.data

theorem stored_congr (h : t.handles = s.handles) : t.stored = s.stored := by
  unfold stored
  rw [h]

theorem stored_eq_some_iff {handle : NativeHandle} {workspace : Nat} {memory : Memory} :
    s.stored (handle, workspace) = some memory ↔
      ∃ buffer, s.bufferOf handle workspace = .ok buffer ∧ buffer.data = memory := by
  unfold stored bufferOf handleOf
  dsimp only
  cases s.handles.find? handle with
  | none => simp
  | some state => cases hb : state.buffers.find? workspace <;> simp [hb]

theorem stored_updateResource (s : Simulator cards) (site : Site cards)
    (change : Resource → Resource) : (s.updateResource site change).stored = s.stored := rfl

theorem stored_setMapped (s : Simulator cards) (handle : NativeHandle) (region : UInt32)
    (mapped : Bool) : (s.setMapped handle region mapped).stored = s.stored := by
  funext place
  simp only [stored, setMapped, Table.find?_modify]
  by_cases hp : place.1 = handle
  · cases s.handles.find? place.1 <;> simp [hp]
  · simp [hp]

/-- Changing one buffer of an open handle changes what is stored at one place. -/
theorem stored_changeBuffers {handle : NativeHandle} {state : OpenHandle cards}
    (hf : s.handles.find? handle = some state) (change : Table Nat Buffer → Table Nat Buffer)
    (workspace : Nat) (buffer? : Option Buffer)
    (hc : ∀ other, (change state.buffers).find? other =
      if other = workspace then buffer? else state.buffers.find? other) :
    (s.changeBuffers handle change).stored =
      override s.stored (handle, workspace) (buffer?.map Buffer.data) := by
  funext place
  obtain ⟨owner, other⟩ := place
  simp only [stored, changeBuffers, Table.find?_modify]
  by_cases ho : owner = handle
  · subst ho
    by_cases hw : other = workspace
    · subst hw
      simp [hf, hc]
    · simp [hf, hc, hw, override, stored]
  · simp [ho, override, stored]

theorem stored_of_openHandle {token : NativeToken} {flags : UInt32} {handle : NativeHandle}
    (h : s.openHandle token flags = .ok (handle, t)) : t.stored = s.stored := by
  obtain ⟨site, -, rfl, rfl⟩ := openHandle_ok h
  -- A handle that has just been opened has as few buffers as one that is not open.
  have hclosed := (s.handles.find?_eq_none_iff _).mpr s.not_contains_freeSlot
  funext place
  simp only [stored, Table.find?_insert]
  by_cases hp : place.1 = handleAt s.freeSlot
  · simp [hp, hclosed]
  · simp [hp]

theorem stored_of_closeHandle {handle : NativeHandle} {value : Unit}
    (h : s.closeHandle handle = .ok (value, t)) :
    t.stored = DeviceCall.storing s.stored (.closeHandle handle) value := by
  obtain ⟨closed, -, rfl⟩ := closeHandle_ok h
  rw [stored_updateResource]
  funext place
  simp only [stored, DeviceCall.storing, Table.find?_erase]
  by_cases hp : place.1 = handle <;> simp [hp]

theorem stored_of_prepareBuffer {handle : NativeHandle} {length : UInt64} {address : Option UInt64}
    {flags : UInt32} {prepared : PreparedBuffer}
    (h : s.prepareBuffer handle length address flags = .ok (prepared, t)) :
    t.stored = override s.stored (handle, prepared.workspace) (some (.zeros length.toNat)) := by
  unfold prepareBuffer at h
  split at h
  · cases h
  split at h
  · cases h
  split at h
  · cases h
  split at h
  · cases h
  · rename_i state hs
    cases h
    have hinsert := fun other => state.buffers.find?_insert s.nextWorkspace other
      ⟨.zeros length.toNat, address.getD (virtualBase + workspaceOffset s.nextWorkspace),
        ioBase + workspaceOffset s.nextWorkspace⟩
    exact stored_changeBuffers (s := { s with nextWorkspace := s.nextWorkspace + 1 })
      (find?_of_handleOf hs) (fun buffers => buffers.insert _ _) s.nextWorkspace _ hinsert

theorem stored_of_releaseBuffer {handle : NativeHandle} {workspace : Nat} {value : Unit}
    (h : s.releaseBuffer handle workspace = .ok (value, t)) :
    t.stored = override s.stored (handle, workspace) none := by
  obtain ⟨⟨state, hs⟩, rfl⟩ := releaseBuffer_ok h
  exact stored_changeBuffers hs _ _ none fun other => Table.find?_erase _ _ _

theorem stored_of_writeBuffer {handle : NativeHandle} {workspace : Nat} {offset : UInt64}
    {data : Memory} {value : Unit}
    (h : s.writeBuffer handle workspace offset data = .ok (value, t)) :
    t.stored = DeviceCall.storing s.stored (.bufferWrite handle workspace offset data) value := by
  obtain ⟨state, buffer, hs, hb, rfl⟩ := writeBuffer_ok h
  have hbefore : s.stored (handle, workspace) = some buffer.data := by simp [stored, hs, hb]
  simp only [DeviceCall.storing, hbefore, Option.map_some]
  refine stored_changeBuffers hs _ workspace
    (some { buffer with data := buffer.data.write offset.toNat data }) fun other => ?_
  rw [Table.find?_modify]
  by_cases ho : other = workspace
  · subst ho
    simp only [if_true, hb, Option.map_some]
  · simp only [ho, if_false]

/-- A failed call leaves the buffers alone; a successful one changes them as it says. -/
def Restores (s : Simulator cards) (call : DeviceCall) :
    Except Fault call.Value × Simulator cards → Prop
  | (.error _, t) => t.stored = s.stored
  | (.ok value, t) => t.stored = call.storing s.stored value

theorem restores_commit {call : DeviceCall} {result : Except Fault (call.Value × Simulator cards)}
    (h : ∀ value t, result = .ok (value, t) → t.stored = call.storing s.stored value) :
    s.Restores call (s.commit result) := by
  cases result with
  | error fault => exact (rfl : s.stored = s.stored)
  | ok outcome => exact h outcome.1 outcome.2 rfl

theorem restores_of_untouched {call : DeviceCall} (h : call.touchesHandle = false)
    {outcome : Except Fault call.Value × Simulator cards} (ht : outcome.2.stored = s.stored) :
    s.Restores call outcome := by
  have hsame : ∀ value, call.storing s.stored value = s.stored := by
    intro value
    cases call with
    | closeHandle | prepareBuffer | releaseBuffer | bufferWrite => cases h
    | _ => rfl
  obtain ⟨result, t⟩ := outcome
  cases result with
  | error fault => exact ht
  | ok value => exact ht.trans (hsame value).symm

theorem restores_serve (s : Simulator cards) (call : DeviceCall) :
    s.Restores call (s.serve call) := by
  cases ht : call.touchesHandle with
  | false => exact restores_of_untouched ht (stored_congr (s.handles_serve ht))
  | true =>
  cases call with
  | openHandle => exact restores_commit fun _ _ h => stored_of_openHandle h
  | closeHandle => exact restores_commit fun _ _ h => stored_of_closeHandle h
  | mapMmio handle region =>
    refine restores_commit fun _ _ h => ?_
    obtain ⟨-, rfl⟩ := mapMmio_ok h
    exact s.stored_setMapped handle region true
  | unmapMmio handle region =>
    refine restores_commit fun _ _ h => ?_
    obtain ⟨-, rfl⟩ := unmapMmio_ok h
    exact s.stored_setMapped handle region false
  | prepareBuffer => exact restores_commit fun _ _ h => stored_of_prepareBuffer h
  | releaseBuffer => exact restores_commit fun _ _ h => stored_of_releaseBuffer h
  | bufferWrite => exact restores_commit fun _ _ h => stored_of_writeBuffer h
  | _ => cases ht

/-- What every call does to the bytes of buffers. -/
theorem stored_call (s : Simulator cards) (call : DeviceCall) :
    s.Restores call (s.call call) := by
  cases ha : s.armed call.kind with
  | some fault =>
    rw [call_of_armed ha]
    exact (rfl : s.stored = s.stored)
  | none =>
    have hserved := s.restores_serve call
    rw [call_of_unarmed ha]
    generalize s.serve call = outcome at hserved ⊢
    obtain ⟨_ | value, t⟩ := outcome
    · exact hserved
    · exact hserved

/-! ## Answers -/

/-- A buffer can be read where it has bytes. -/
theorem readBuffer_eq {handle : NativeHandle} {workspace : Nat} {memory : Memory}
    (h : s.stored (handle, workspace) = some memory) {offset count : UInt64}
    (hrange : offset.toNat + count.toNat ≤ memory.size) :
    s.readBuffer handle workspace offset count =
      .ok (memory.slice offset.toNat count.toNat) := by
  obtain ⟨buffer, hb, rfl⟩ := stored_eq_some_iff.mp h
  unfold readBuffer
  rw [hb]
  exact if_pos (decide_eq_true hrange)

/-- A buffer can be written where it has bytes. -/
theorem writeBuffer_isOk {handle : NativeHandle} {workspace : Nat} {memory : Memory}
    (h : s.stored (handle, workspace) = some memory) {offset : UInt64} {data : Memory}
    (hrange : offset.toNat + data.size ≤ memory.size) :
    ∃ t, s.writeBuffer handle workspace offset data = .ok ((), t) := by
  obtain ⟨buffer, hb, rfl⟩ := stored_eq_some_iff.mp h
  unfold writeBuffer
  rw [hb]
  exact ⟨_, if_pos (decide_eq_true hrange)⟩

end Simulator

end DeviceBroker
