import DeviceBroker.Proofs.Renaming
import DeviceBroker.Proofs.Simulator.Armed

/-!
# Cards with other values for their handles

The value of a handle is chosen when the handle is opened, and afterwards the
cards only look it up. So cards whose open handles have other values serve a
call that names the other values in the same way: the answer is the same, and
the cards after it still differ in these values alone. Opening a handle is the
one call that is left out, since there a value is chosen.
-/

namespace DeviceBroker

variable {cards : Nat} {α : Type}

/-- Other values for handles: how the values are renamed, and from which state
further ones are chosen. -/
structure Recasting where
  names : NativeHandle ≃ NativeHandle
  nextHandle : Nat
  recycling : Bool

/-- The call with the handle that it names renamed. -/
def DeviceCall.rename (names : NativeHandle ≃ NativeHandle) : DeviceCall → DeviceCall
  | .closeHandle handle => .closeHandle (names handle)
  | .resetHandle handle => .resetHandle (names handle)
  | .getHandleProperties handle => .getHandleProperties (names handle)
  | .mapMmio handle region => .mapMmio (names handle) region
  | .unmapMmio handle region => .unmapMmio (names handle) region
  | .readMmio32 handle region offset => .readMmio32 (names handle) region offset
  | .writeMmio32 handle region offset value => .writeMmio32 (names handle) region offset value
  | .readMmio64 handle region offset => .readMmio64 (names handle) region offset
  | .writeMmio64 handle region offset value => .writeMmio64 (names handle) region offset value
  | .readMmio512 handle region offset => .readMmio512 (names handle) region offset
  | .writeMmio512 handle region offset value => .writeMmio512 (names handle) region offset value
  | .prepareBuffer handle length address flags =>
    .prepareBuffer (names handle) length address flags
  | .releaseBuffer handle workspace => .releaseBuffer (names handle) workspace
  | .getIoAddress handle workspace => .getIoAddress (names handle) workspace
  | .bufferRead handle workspace offset count => .bufferRead (names handle) workspace offset count
  | .bufferWrite handle workspace offset data => .bufferWrite (names handle) workspace offset data
  | .handleGetObject handle name flags => .handleGetObject (names handle) name flags
  | .setUserClock handle highHz lowHz flags => .setUserClock (names handle) highHz lowHz flags
  | .getUserClock handle flags => .getUserClock (names handle) flags
  | .getNumMetrics handle => .getNumMetrics (names handle)
  | .getMetricsInfo handle count => .getMetricsInfo (names handle) count
  | .getMetricsByIndex handle numbers => .getMetricsByIndex (names handle) numbers
  | .getMetricsByName handle texts => .getMetricsByName (names handle) texts
  | .getMetricThresholds handle count => .getMetricThresholds (names handle) count
  | .reconfigureSlot handle slot path flags => .reconfigureSlot (names handle) slot path flags
  | call => call

@[simp] theorem DeviceCall.kind_rename (names : NativeHandle ≃ NativeHandle) (call : DeviceCall) :
    (call.rename names).kind = call.kind := by
  cases call <;> rfl

/-- What a call answers, as an answer to the renamed call. -/
def DeviceCall.answer (names : NativeHandle ≃ NativeHandle) (call : DeviceCall)
    (result : Except Fault call.Value) : Except Fault (call.rename names).Value :=
  cast (by rw [DeviceCall.Value, DeviceCall.Value, kind_rename]) result

namespace Simulator

/-- The cards with other values for their handles. -/
def recast (s : Simulator cards) (c : Recasting) : Simulator cards :=
  { s with
    handles := s.handles.relabel c.names fun state => state
    nextHandle := c.nextHandle
    recycling := c.recycling }

section

variable (s : Simulator cards) (c : Recasting)

@[simp] theorem resources_recast : (s.recast c).resources = s.resources := rfl

@[simp] theorem images_recast : (s.recast c).images = s.images := rfl

@[simp] theorem siteOf_recast (token : NativeToken) :
    (s.recast c).siteOf token = s.siteOf token := rfl

@[simp] theorem objectOf_recast (object : NativeObject) :
    (s.recast c).objectOf object = s.objectOf object := rfl

@[simp] theorem nodeOf_recast (object : OpenObject cards) :
    (s.recast c).nodeOf object = s.nodeOf object := rfl

@[simp] theorem shown_recast (object : NativeObject) :
    (s.recast c).shown object = s.shown object := rfl

@[simp] theorem errorRegister_recast (token : NativeToken) (number : UInt32) :
    (s.recast c).errorRegister token number = s.errorRegister token number := rfl

@[simp] theorem handleOf_recast (handle : NativeHandle) :
    (s.recast c).handleOf (c.names handle) = s.handleOf handle := by
  have hfind : (s.recast c).handles.find? (c.names handle) = s.handles.find? handle :=
    (s.handles.find?_relabel c.names _ handle).trans Option.map_id'
  unfold handleOf
  rw [hfind]

@[simp] theorem bufferOf_recast (handle : NativeHandle) (workspace : Nat) :
    (s.recast c).bufferOf (c.names handle) workspace = s.bufferOf handle workspace := by
  unfold bufferOf
  rw [handleOf_recast]

@[simp] theorem regionFor_recast (handle : NativeHandle) (region : UInt32) (offset : UInt64)
    (width : Nat) : (s.recast c).regionFor (c.names handle) region offset width =
      s.regionFor handle region offset width := by
  unfold regionFor
  rw [handleOf_recast]
  rfl

theorem propertiesAt_recast (site : Site cards) :
    (s.recast c).propertiesAt site =
      ((s.propertiesAt site).1, (s.propertiesAt site).2.recast c) := by
  obtain ⟨card, kind⟩ := site
  cases kind <;> rfl

theorem recast_changeBuffers (handle : NativeHandle)
    (change : Table Nat Buffer → Table Nat Buffer) :
    (s.changeBuffers handle change).recast c =
      (s.recast c).changeBuffers (c.names handle) change := by
  unfold changeBuffers recast
  dsimp only
  congr 1
  exact s.handles.relabel_modify c.names _ handle fun state => rfl

theorem recast_setMapped (handle : NativeHandle) (region : UInt32) (mapped : Bool) :
    (s.setMapped handle region mapped).recast c =
      (s.recast c).setMapped (c.names handle) region mapped := by
  unfold setMapped recast
  dsimp only
  congr 1
  exact s.handles.relabel_modify c.names _ handle fun state => rfl

end

/-- An operation does on recast cards what another does on the cards themselves. -/
def Mirrors (c : Recasting)
    (mirror operation : Simulator cards → Except Fault (α × Simulator cards)) :
    Prop :=
  ∀ s, mirror (s.recast c) = (operation s).map fun outcome => (outcome.1, outcome.2.recast c)

theorem Mirrors.commit {c : Recasting}
    {mirror operation : Simulator cards → Except Fault (α × Simulator cards)}
    (h : Mirrors c mirror operation) (s : Simulator cards) :
    (s.recast c).commit (mirror (s.recast c)) =
      ((s.commit (operation s)).1, (s.commit (operation s)).2.recast c) := by
  rw [h s]
  cases operation s <;> rfl

/-! ## Operations -/

variable (c : Recasting)

theorem mirrors_destroyToken (token : NativeToken) :
    Mirrors c (fun s : Simulator cards => s.destroyToken token) fun s => s.destroyToken token := by
  intro s
  simp only [destroyToken, siteOf_recast]
  cases s.siteOf token <;> rfl

theorem mirrors_cloneToken (token : NativeToken) :
    Mirrors c (fun s : Simulator cards => s.cloneToken token) fun s => s.cloneToken token := by
  intro s
  simp only [cloneToken, siteOf_recast]
  cases s.siteOf token <;> rfl

theorem mirrors_tokenProperties (token : NativeToken) :
    Mirrors c (fun s : Simulator cards => s.tokenProperties token)
      fun s => s.tokenProperties token := by
  intro s
  simp only [tokenProperties, siteOf_recast]
  cases s.siteOf token with
  | error fault => rfl
  | ok site => exact congrArg Except.ok (s.propertiesAt_recast c site)

theorem mirrors_handleProperties (handle : NativeHandle) :
    Mirrors c (fun s : Simulator cards => s.handleProperties (c.names handle))
      fun s => s.handleProperties handle := by
  intro s
  simp only [handleProperties, handleOf_recast]
  cases s.handleOf handle with
  | error fault => rfl
  | ok state => exact congrArg Except.ok (s.propertiesAt_recast c state.site)

theorem mirrors_closeHandle (handle : NativeHandle) :
    Mirrors c (fun s : Simulator cards => s.closeHandle (c.names handle))
      fun s => s.closeHandle handle := by
  intro s
  simp only [closeHandle, handleOf_recast]
  cases s.handleOf handle with
  | error fault => rfl
  | ok closed =>
    have herase : (s.recast c).handles.erase (c.names handle) =
        (s.handles.erase handle).relabel c.names fun state => state :=
      (s.handles.relabel_erase c.names _ handle).symm
    dsimp only
    rw [herase]
    rfl

theorem mirrors_resetHandle (handle : NativeHandle) :
    Mirrors c (fun s : Simulator cards => s.resetHandle (c.names handle))
      fun s => s.resetHandle handle := by
  intro s
  simp only [resetHandle, handleOf_recast]
  cases s.handleOf handle <;> rfl

theorem mirrors_mapMmio (handle : NativeHandle) (region : UInt32) :
    Mirrors c (fun s : Simulator cards => s.mapMmio (c.names handle) region)
      fun s => s.mapMmio handle region := by
  intro s
  simp only [mapMmio, handleOf_recast, resources_recast, ← recast_setMapped]
  cases s.handleOf handle with
  | error fault => rfl
  | ok state =>
    dsimp only
    split <;> rfl

theorem mirrors_unmapMmio (handle : NativeHandle) (region : UInt32) :
    Mirrors c (fun s : Simulator cards => s.unmapMmio (c.names handle) region)
      fun s => s.unmapMmio handle region := by
  intro s
  simp only [unmapMmio, handleOf_recast, ← recast_setMapped]
  cases s.handleOf handle with
  | error fault => rfl
  | ok state =>
    dsimp only
    split <;> rfl

theorem mirrors_writeRegister (handle : NativeHandle) (region : UInt32) (offset : UInt64)
    (data : Memory) :
    Mirrors c (fun s : Simulator cards => s.writeRegister (c.names handle) region offset data)
      fun s => s.writeRegister handle region offset data := by
  intro s
  simp only [writeRegister, regionFor_recast]
  cases s.regionFor handle region offset data.size <;> rfl

theorem mirrors_prepareBuffer (handle : NativeHandle) (length : UInt64) (address : Option UInt64)
    (flags : UInt32) :
    Mirrors c (fun s : Simulator cards => s.prepareBuffer (c.names handle) length address flags)
      fun s => s.prepareBuffer handle length address flags := by
  intro s
  simp only [prepareBuffer, handleOf_recast]
  split
  · rfl
  split
  · rfl
  split
  · rfl
  cases s.handleOf handle with
  | error fault => rfl
  | ok state =>
    have hprepared := recast_changeBuffers
      ({ s with nextWorkspace := s.nextWorkspace + 1 } : Simulator cards) c handle
    exact congrArg (fun t => Except.ok (_, t)) (hprepared _).symm

theorem mirrors_releaseBuffer (handle : NativeHandle) (workspace : Nat) :
    Mirrors c (fun s : Simulator cards => s.releaseBuffer (c.names handle) workspace)
      fun s => s.releaseBuffer handle workspace := by
  intro s
  simp only [releaseBuffer, bufferOf_recast, ← recast_changeBuffers]
  cases s.bufferOf handle workspace <;> rfl

theorem mirrors_writeBuffer (handle : NativeHandle) (workspace : Nat) (offset : UInt64)
    (data : Memory) :
    Mirrors c (fun s : Simulator cards => s.writeBuffer (c.names handle) workspace offset data)
      fun s => s.writeBuffer handle workspace offset data := by
  intro s
  simp only [writeBuffer, bufferOf_recast, ← recast_changeBuffers]
  cases s.bufferOf handle workspace with
  | error fault => rfl
  | ok buffer =>
    dsimp only
    split <;> rfl

theorem mirrors_clearError (token : NativeToken) (number : UInt32) :
    Mirrors c (fun s : Simulator cards => s.clearError token number)
      fun s => s.clearError token number := by
  intro s
  simp only [clearError, errorRegister_recast]
  cases s.errorRegister token number with
  | error fault => rfl
  | ok found =>
    dsimp only
    split <;> rfl

theorem mirrors_clearAllErrors (token : NativeToken) :
    Mirrors c (fun s : Simulator cards => s.clearAllErrors token)
      fun s => s.clearAllErrors token := by
  intro s
  simp only [clearAllErrors, siteOf_recast]
  cases s.siteOf token <;> rfl

theorem mirrors_openObject (site : Site cards) (path : List String) :
    Mirrors c (fun s : Simulator cards => s.openObject site path)
      fun s => s.openObject site path := by
  intro s
  simp only [openObject, nodeOf_recast]
  cases s.nodeOf ⟨site, path⟩ <;> rfl

theorem mirrors_tokenObject (token : NativeToken) (name : String) :
    Mirrors c (fun s : Simulator cards => s.tokenObject token name)
      fun s => s.tokenObject token name := by
  intro s
  simp only [tokenObject, siteOf_recast]
  cases s.siteOf token with
  | error fault => rfl
  | ok site => exact mirrors_openObject c site (splitPath name) s

theorem mirrors_handleObject (handle : NativeHandle) (name : String) :
    Mirrors c (fun s : Simulator cards => s.handleObject (c.names handle) name)
      fun s => s.handleObject handle name := by
  intro s
  simp only [handleObject, handleOf_recast]
  cases s.handleOf handle with
  | error fault => rfl
  | ok state => exact mirrors_openObject c state.site (splitPath name) s

theorem mirrors_childObject (parent : NativeObject) (name : String) :
    Mirrors c (fun s : Simulator cards => s.childObject parent name)
      fun s => s.childObject parent name := by
  intro s
  simp only [childObject, objectOf_recast]
  cases s.objectOf parent with
  | error fault => rfl
  | ok state => exact mirrors_openObject c state.site (state.path ++ splitPath name) s

theorem mirrors_childObjectAt (parent : NativeObject) (index : UInt64) :
    Mirrors c (fun s : Simulator cards => s.childObjectAt parent index)
      fun s => s.childObjectAt parent index := by
  intro s
  simp only [childObjectAt, shown_recast]
  rcases s.shown parent with fault | ⟨state, value | children⟩
  · rfl
  · rfl
  · dsimp only
    cases (TreeNode.container children).childName? index.toNat with
    | none => rfl
    | some name => exact mirrors_openObject c state.site (state.path ++ [name]) s

theorem mirrors_destroyObject (object : NativeObject) :
    Mirrors c (fun s : Simulator cards => s.destroyObject object)
      fun s => s.destroyObject object := by
  intro s
  simp only [destroyObject, objectOf_recast]
  cases s.objectOf object <;> rfl

theorem mirrors_writeObject64 (object : NativeObject) (value : UInt64) :
    Mirrors c (fun s : Simulator cards => s.writeObject64 object value)
      fun s => s.writeObject64 object value := by
  intro s
  simp only [writeObject64, shown_recast]
  rcases s.shown object with fault | ⟨state, text | children⟩ <;> rfl

theorem mirrors_setUserClock (handle : NativeHandle) (highHz lowHz : UInt64) :
    Mirrors c (fun s : Simulator cards => s.setUserClock (c.names handle) highHz lowHz)
      fun s => s.setUserClock handle highHz lowHz := by
  intro s
  simp only [setUserClock, handleOf_recast, resources_recast]
  split
  · rfl
  cases s.handleOf handle with
  | error fault => rfl
  | ok state =>
    dsimp only
    cases (s.resources state.site).clock <;> rfl

theorem mirrors_reconfigureSlot (handle : NativeHandle) (slot : UInt32) (path : String) :
    Mirrors c (fun s : Simulator cards => s.reconfigureSlot (c.names handle) slot path)
      fun s => s.reconfigureSlot handle slot path := by
  intro s
  simp only [reconfigureSlot, handleOf_recast, images_recast]
  cases s.images path with
  | none => rfl
  | some image =>
    cases s.handleOf handle with
    | error fault => rfl
    | ok state =>
      dsimp only
      cases state.site.kind with
      | accelerator => rfl
      | device =>
        dsimp only
        split
        · rfl
        split
        · change (if (s.resources state.site.accelerator).openCount > 0 then _ else _) = _
          split <;> rfl
        · rfl

theorem enumerate_recast (s : Simulator cards) (filters : List (Properties NativeToken))
    (maxTokens : UInt32) :
    (s.recast c).enumerate filters maxTokens =
      ((s.enumerate filters maxTokens).1, (s.enumerate filters maxTokens).2.recast c) := by
  have published : ∀ (sites : List (Site cards)) (t : Simulator cards),
      sites.foldl (fun t site => t.publish site.canonical site) (t.recast c) =
        (sites.foldl (fun t site => t.publish site.canonical site) t).recast c := by
    intro sites
    induction sites with
    | nil => exact fun _ => rfl
    | cons site rest ih => exact fun t => ih (t.publish site.canonical site)
  exact Prod.ext rfl (published _ s)

theorem sampleMetrics_recast (s : Simulator cards) (handle : NativeHandle)
    (numbers : List (Option UInt64)) :
    (s.recast c).sampleMetrics (c.names handle) numbers =
      ((s.sampleMetrics handle numbers).1, (s.sampleMetrics handle numbers).2.recast c) := by
  simp only [sampleMetrics, handleOf_recast]
  cases s.handleOf handle <;> rfl

/-! ## Calls -/

/-- What only looks at the cards sees the same on recast cards. -/
theorem serve_recast_of_read {s : Simulator cards} {result mirrored : Except Fault α}
    (h : mirrored = result) : (mirrored, s.recast c) = (result, s.recast c) := by rw [h]

/-- Recast cards serve a renamed call as the cards serve the call. -/
theorem serve_recast (s : Simulator cards) {call : DeviceCall} (h : call.kind ≠ .openHandle) :
    (s.recast c).serve (call.rename c.names) =
      (call.answer c.names (s.serve call).1, (s.serve call).2.recast c) := by
  cases call with
  | openHandle => exact absurd rfl h
  | enumerate filters maxTokens =>
    exact congrArg (fun outcome => (Except.ok outcome.1, outcome.2))
      (s.enumerate_recast c filters maxTokens)
  | getMetricsByIndex handle numbers => exact s.sampleMetrics_recast c handle _
  | getMetricsByName handle names => exact s.sampleMetrics_recast c handle _
  | destroyToken token => exact (mirrors_destroyToken c token).commit s
  | cloneToken token => exact (mirrors_cloneToken c token).commit s
  | getProperties token | updateProperties token => exact (mirrors_tokenProperties c token).commit s
  | closeHandle handle => exact (mirrors_closeHandle c handle).commit s
  | resetHandle handle => exact (mirrors_resetHandle c handle).commit s
  | getHandleProperties handle => exact (mirrors_handleProperties c handle).commit s
  | mapMmio handle region => exact (mirrors_mapMmio c handle region).commit s
  | unmapMmio handle region => exact (mirrors_unmapMmio c handle region).commit s
  | writeMmio32 handle region offset | writeMmio64 handle region offset
  | writeMmio512 handle region offset =>
    exact (mirrors_writeRegister c handle region offset _).commit s
  | prepareBuffer handle length address flags =>
    exact (mirrors_prepareBuffer c handle length address flags).commit s
  | releaseBuffer handle workspace => exact (mirrors_releaseBuffer c handle workspace).commit s
  | bufferWrite handle workspace offset data =>
    exact (mirrors_writeBuffer c handle workspace offset data).commit s
  | clearError token number => exact (mirrors_clearError c token number).commit s
  | clearAllErrors token => exact (mirrors_clearAllErrors c token).commit s
  | tokenGetObject token name => exact (mirrors_tokenObject c token name).commit s
  | handleGetObject handle name => exact (mirrors_handleObject c handle name).commit s
  | destroyObject object => exact (mirrors_destroyObject c object).commit s
  | objectWrite64 object value => exact (mirrors_writeObject64 c object value).commit s
  | objectGetObject object name => exact (mirrors_childObject c object name).commit s
  | objectGetObjectAt object index => exact (mirrors_childObjectAt c object index).commit s
  | setUserClock handle highHz lowHz => exact (mirrors_setUserClock c handle highHz lowHz).commit s
  | reconfigureSlot handle slot path => exact (mirrors_reconfigureSlot c handle slot path).commit s
  | readMmio32 handle region offset | readMmio64 handle region offset
  | readMmio512 handle region offset =>
    refine serve_recast_of_read c ?_
    simp only [readMmio32, readMmio64, readMmio512, readRegister, regionFor_recast]
    rfl
  | getIoAddress handle workspace =>
    exact serve_recast_of_read c (congrArg (Except.map _) (s.bufferOf_recast c handle workspace))
  | bufferRead handle workspace offset count =>
    refine serve_recast_of_read c ?_
    rw [readBuffer, bufferOf_recast]
    rfl
  | getUserClock handle =>
    refine serve_recast_of_read c ?_
    rw [userClock, handleOf_recast]
    rfl
  | getNumMetrics handle | getMetricsInfo handle | getMetricThresholds handle =>
    exact serve_recast_of_read c (congrArg (Except.map _) (s.handleOf_recast c handle))
  | _ => rfl

/-- Recast cards answer a renamed call as the cards answer the call, armed
failures included. -/
theorem call_recast (s : Simulator cards) {call : DeviceCall} (h : call.kind ≠ .openHandle) :
    (s.recast c).call (call.rename c.names) =
      (call.answer c.names (s.call call).1, (s.call call).2.recast c) := by
  have harmed : (s.recast c).armed (call.rename c.names).kind = s.armed call.kind := by
    rw [DeviceCall.kind_rename]
    rfl
  cases ha : s.armed call.kind with
  | some fault =>
    rw [call_of_armed ha, call_of_armed (harmed.trans ha), DeviceCall.kind_rename]
    refine Prod.ext ?_ rfl
    cases call <;> rfl
  | none =>
    rw [call_of_unarmed ha, call_of_unarmed (harmed.trans ha), serve_recast c s h]
    rfl

end Simulator

end DeviceBroker
