import DeviceBroker.Simulator.Serve

/-!
# Armed failures and the count of calls

A driver counts the calls that it receives, and some of them fail because a
failure was armed. Neither shows in what a call does that is served: with
another count and other failures armed, the cards serve it in the same way.
So a call that meets an armed failure consumes the failure, is counted, and
does nothing else; any other call is counted and served.
-/

namespace DeviceBroker.Simulator

variable {cards : Nat} {α : Type}

/-- The same cards with another count of calls and other failures armed. -/
def rig (s : Simulator cards) (calls : Nat) (armed : CallKind → Option Fault) : Simulator cards :=
  { s with calls := calls, armed := armed }

/-- An operation that takes no notice of the count and of the armed failures. -/
def Indifferent (operation : Simulator cards → Except Fault (α × Simulator cards)) : Prop :=
  ∀ s calls armed, operation (s.rig calls armed) =
    (operation s).map fun outcome => (outcome.1, outcome.2.rig calls armed)

section

variable (s : Simulator cards) (n : Nat) (f : CallKind → Option Fault)

@[simp] theorem resources_rig : (s.rig n f).resources = s.resources := rfl

@[simp] theorem images_rig : (s.rig n f).images = s.images := rfl

@[simp] theorem siteOf_rig (token : NativeToken) : (s.rig n f).siteOf token = s.siteOf token := rfl

@[simp] theorem handleOf_rig (handle : NativeHandle) :
    (s.rig n f).handleOf handle = s.handleOf handle := rfl

@[simp] theorem objectOf_rig (object : NativeObject) :
    (s.rig n f).objectOf object = s.objectOf object := rfl

@[simp] theorem bufferOf_rig (handle : NativeHandle) (workspace : Nat) :
    (s.rig n f).bufferOf handle workspace = s.bufferOf handle workspace := rfl

@[simp] theorem nodeOf_rig (object : OpenObject cards) :
    (s.rig n f).nodeOf object = s.nodeOf object := rfl

@[simp] theorem shown_rig (object : NativeObject) : (s.rig n f).shown object = s.shown object := rfl

@[simp] theorem errorRegister_rig (token : NativeToken) (number : UInt32) :
    (s.rig n f).errorRegister token number = s.errorRegister token number := rfl

@[simp] theorem regionFor_rig (handle : NativeHandle) (region : UInt32) (offset : UInt64)
    (width : Nat) : (s.rig n f).regionFor handle region offset width =
      s.regionFor handle region offset width := rfl

theorem propertiesAt_rig (site : Site cards) :
    (s.rig n f).propertiesAt site =
      ((s.propertiesAt site).1, (s.propertiesAt site).2.rig n f) := by
  obtain ⟨card, kind⟩ := site
  cases kind <;> rfl

end

/-! ## Operations -/

theorem indifferent_destroyToken (token : NativeToken) :
    Indifferent fun s : Simulator cards => s.destroyToken token := by
  intro s n f
  simp only [destroyToken, siteOf_rig]
  cases s.siteOf token <;> rfl

theorem indifferent_cloneToken (token : NativeToken) :
    Indifferent fun s : Simulator cards => s.cloneToken token := by
  intro s n f
  simp only [cloneToken, siteOf_rig]
  cases s.siteOf token <;> rfl

theorem indifferent_tokenProperties (token : NativeToken) :
    Indifferent fun s : Simulator cards => s.tokenProperties token := by
  intro s n f
  simp only [tokenProperties, siteOf_rig]
  cases s.siteOf token with
  | error fault => rfl
  | ok site => exact congrArg Except.ok (s.propertiesAt_rig n f site)

theorem indifferent_handleProperties (handle : NativeHandle) :
    Indifferent fun s : Simulator cards => s.handleProperties handle := by
  intro s n f
  simp only [handleProperties, handleOf_rig]
  cases s.handleOf handle with
  | error fault => rfl
  | ok state => exact congrArg Except.ok (s.propertiesAt_rig n f state.site)

theorem indifferent_openHandle (token : NativeToken) (flags : UInt32) :
    Indifferent fun s : Simulator cards => s.openHandle token flags := by
  intro s n f
  simp only [openHandle, siteOf_rig]
  cases s.siteOf token with
  | error fault => rfl
  | ok site =>
    -- The bound is decided on the rigged cards, so the condition is restated on
    -- the cards themselves.
    change (if ((s.resources site).exclusive || !Flags.has flags Flags.openShared &&
      decide ((s.resources site).openCount > 0)) = true then _ else _) = _
    dsimp only
    split <;> rfl

theorem indifferent_closeHandle (handle : NativeHandle) :
    Indifferent fun s : Simulator cards => s.closeHandle handle := by
  intro s n f
  simp only [closeHandle, handleOf_rig]
  cases s.handleOf handle <;> rfl

theorem indifferent_resetHandle (handle : NativeHandle) :
    Indifferent fun s : Simulator cards => s.resetHandle handle := by
  intro s n f
  simp only [resetHandle, handleOf_rig]
  cases s.handleOf handle <;> rfl

theorem indifferent_mapMmio (handle : NativeHandle) (region : UInt32) :
    Indifferent fun s : Simulator cards => s.mapMmio handle region := by
  intro s n f
  simp only [mapMmio, handleOf_rig]
  cases s.handleOf handle with
  | error fault => rfl
  | ok state =>
    change (if (s.resources state.site).regions.length ≤ region.toNat then _ else _) = _
    dsimp only
    split <;> rfl

theorem indifferent_unmapMmio (handle : NativeHandle) (region : UInt32) :
    Indifferent fun s : Simulator cards => s.unmapMmio handle region := by
  intro s n f
  simp only [unmapMmio, handleOf_rig]
  cases s.handleOf handle with
  | error fault => rfl
  | ok state =>
    dsimp only
    split <;> rfl

theorem indifferent_writeRegister (handle : NativeHandle) (region : UInt32) (offset : UInt64)
    (data : Memory) : Indifferent fun s : Simulator cards =>
      s.writeRegister handle region offset data := by
  intro s n f
  simp only [writeRegister, regionFor_rig]
  cases s.regionFor handle region offset data.size <;> rfl

theorem indifferent_prepareBuffer (handle : NativeHandle) (length : UInt64)
    (address : Option UInt64) (flags : UInt32) : Indifferent fun s : Simulator cards =>
      s.prepareBuffer handle length address flags := by
  intro s n f
  simp only [prepareBuffer, handleOf_rig]
  split
  · rfl
  split
  · rfl
  split
  · rfl
  cases s.handleOf handle <;> rfl

theorem indifferent_releaseBuffer (handle : NativeHandle) (workspace : Nat) :
    Indifferent fun s : Simulator cards => s.releaseBuffer handle workspace := by
  intro s n f
  simp only [releaseBuffer, bufferOf_rig]
  cases s.bufferOf handle workspace <;> rfl

theorem indifferent_writeBuffer (handle : NativeHandle) (workspace : Nat) (offset : UInt64)
    (data : Memory) : Indifferent fun s : Simulator cards =>
      s.writeBuffer handle workspace offset data := by
  intro s n f
  simp only [writeBuffer, bufferOf_rig]
  cases s.bufferOf handle workspace with
  | error fault => rfl
  | ok buffer =>
    dsimp only
    split <;> rfl

theorem indifferent_clearError (token : NativeToken) (number : UInt32) :
    Indifferent fun s : Simulator cards => s.clearError token number := by
  intro s n f
  simp only [clearError, errorRegister_rig]
  cases s.errorRegister token number with
  | error fault => rfl
  | ok found =>
    dsimp only
    split <;> rfl

theorem indifferent_clearAllErrors (token : NativeToken) :
    Indifferent fun s : Simulator cards => s.clearAllErrors token := by
  intro s n f
  simp only [clearAllErrors, siteOf_rig]
  cases s.siteOf token <;> rfl

theorem indifferent_openObject (site : Site cards) (path : List String) :
    Indifferent fun s : Simulator cards => s.openObject site path := by
  intro s n f
  simp only [openObject, nodeOf_rig]
  cases s.nodeOf ⟨site, path⟩ <;> rfl

theorem indifferent_tokenObject (token : NativeToken) (name : String) :
    Indifferent fun s : Simulator cards => s.tokenObject token name := by
  intro s n f
  simp only [tokenObject, siteOf_rig]
  cases s.siteOf token with
  | error fault => rfl
  | ok site => exact indifferent_openObject site (splitPath name) s n f

theorem indifferent_handleObject (handle : NativeHandle) (name : String) :
    Indifferent fun s : Simulator cards => s.handleObject handle name := by
  intro s n f
  simp only [handleObject, handleOf_rig]
  cases s.handleOf handle with
  | error fault => rfl
  | ok state => exact indifferent_openObject state.site (splitPath name) s n f

theorem indifferent_childObject (parent : NativeObject) (name : String) :
    Indifferent fun s : Simulator cards => s.childObject parent name := by
  intro s n f
  simp only [childObject, objectOf_rig]
  cases s.objectOf parent with
  | error fault => rfl
  | ok state => exact indifferent_openObject state.site (state.path ++ splitPath name) s n f

theorem indifferent_childObjectAt (parent : NativeObject) (index : UInt64) :
    Indifferent fun s : Simulator cards => s.childObjectAt parent index := by
  intro s n f
  simp only [childObjectAt, shown_rig]
  rcases s.shown parent with fault | ⟨state, value | children⟩
  · rfl
  · rfl
  · dsimp only
    cases (TreeNode.container children).childName? index.toNat with
    | none => rfl
    | some name => exact indifferent_openObject state.site (state.path ++ [name]) s n f

theorem indifferent_destroyObject (object : NativeObject) :
    Indifferent fun s : Simulator cards => s.destroyObject object := by
  intro s n f
  simp only [destroyObject, objectOf_rig]
  cases s.objectOf object <;> rfl

theorem indifferent_writeObject64 (object : NativeObject) (value : UInt64) :
    Indifferent fun s : Simulator cards => s.writeObject64 object value := by
  intro s n f
  simp only [writeObject64, shown_rig]
  rcases s.shown object with fault | ⟨state, text | children⟩ <;> rfl

theorem indifferent_setUserClock (handle : NativeHandle) (highHz lowHz : UInt64) :
    Indifferent fun s : Simulator cards => s.setUserClock handle highHz lowHz := by
  intro s n f
  simp only [setUserClock, handleOf_rig, resources_rig]
  split
  · rfl
  cases s.handleOf handle with
  | error fault => rfl
  | ok state =>
    dsimp only
    cases (s.resources state.site).clock <;> rfl

theorem indifferent_reconfigureSlot (handle : NativeHandle) (slot : UInt32) (path : String) :
    Indifferent fun s : Simulator cards => s.reconfigureSlot handle slot path := by
  intro s n f
  simp only [reconfigureSlot, handleOf_rig, images_rig]
  cases s.images path with
  | none => rfl
  | some image =>
    cases s.handleOf handle with
    | error fault => rfl
    | ok state =>
      dsimp only
      cases state.site.kind with
      | accelerator => rfl
      | device =>
        dsimp only
        split
        · rfl
        split
        · change (if (s.resources state.site.accelerator).openCount > 0 then _ else _) = _
          split <;> rfl
        · rfl

theorem enumerate_rig (s : Simulator cards) (n : Nat) (f : CallKind → Option Fault)
    (filters : List (Properties NativeToken)) (maxTokens : UInt32) :
    (s.rig n f).enumerate filters maxTokens =
      ((s.enumerate filters maxTokens).1, (s.enumerate filters maxTokens).2.rig n f) := by
  have published : ∀ (sites : List (Site cards)) (t : Simulator cards),
      sites.foldl (fun t site => t.publish site.canonical site) (t.rig n f) =
        (sites.foldl (fun t site => t.publish site.canonical site) t).rig n f := by
    intro sites
    induction sites with
    | nil => exact fun _ => rfl
    | cons site rest ih => exact fun t => ih (t.publish site.canonical site)
  exact Prod.ext rfl (published _ s)

theorem sampleMetrics_rig (s : Simulator cards) (n : Nat) (f : CallKind → Option Fault)
    (handle : NativeHandle) (numbers : List (Option UInt64)) :
    (s.rig n f).sampleMetrics handle numbers =
      ((s.sampleMetrics handle numbers).1, (s.sampleMetrics handle numbers).2.rig n f) := by
  simp only [sampleMetrics, handleOf_rig]
  cases s.handleOf handle <;> rfl

/-! ## Calls -/

theorem Indifferent.commit {operation : Simulator cards → Except Fault (α × Simulator cards)}
    (h : Indifferent operation) (s : Simulator cards) (n : Nat) (f : CallKind → Option Fault) :
    (s.rig n f).commit (operation (s.rig n f)) =
      ((s.commit (operation s)).1, (s.commit (operation s)).2.rig n f) := by
  rw [h s n f]
  cases operation s <;> rfl

/-- Serving a call takes no notice of the count and of the armed failures. -/
theorem serve_rig (s : Simulator cards) (n : Nat) (f : CallKind → Option Fault)
    (call : DeviceCall) :
    (s.rig n f).serve call = ((s.serve call).1, (s.serve call).2.rig n f) := by
  cases call with
  | enumerate filters maxTokens =>
    simp only [serve, enumerate_rig]
  | getMetricsByIndex handle numbers => exact s.sampleMetrics_rig n f _ _
  | getMetricsByName handle names => exact s.sampleMetrics_rig n f _ _
  | destroyToken token => exact (indifferent_destroyToken token).commit s n f
  | cloneToken token => exact (indifferent_cloneToken token).commit s n f
  | getProperties token | updateProperties token =>
    exact (indifferent_tokenProperties token).commit s n f
  | openHandle token flags => exact (indifferent_openHandle token flags).commit s n f
  | closeHandle handle => exact (indifferent_closeHandle handle).commit s n f
  | resetHandle handle => exact (indifferent_resetHandle handle).commit s n f
  | getHandleProperties handle => exact (indifferent_handleProperties handle).commit s n f
  | mapMmio handle region => exact (indifferent_mapMmio handle region).commit s n f
  | unmapMmio handle region => exact (indifferent_unmapMmio handle region).commit s n f
  | writeMmio32 handle region offset value =>
    exact (indifferent_writeRegister handle region offset _).commit s n f
  | writeMmio64 handle region offset value =>
    exact (indifferent_writeRegister handle region offset _).commit s n f
  | writeMmio512 handle region offset value =>
    exact (indifferent_writeRegister handle region offset _).commit s n f
  | prepareBuffer handle length address flags =>
    exact (indifferent_prepareBuffer handle length address flags).commit s n f
  | releaseBuffer handle workspace =>
    exact (indifferent_releaseBuffer handle workspace).commit s n f
  | bufferWrite handle workspace offset data =>
    exact (indifferent_writeBuffer handle workspace offset data).commit s n f
  | clearError token number => exact (indifferent_clearError token number).commit s n f
  | clearAllErrors token => exact (indifferent_clearAllErrors token).commit s n f
  | tokenGetObject token name flags => exact (indifferent_tokenObject token name).commit s n f
  | handleGetObject handle name flags => exact (indifferent_handleObject handle name).commit s n f
  | destroyObject object => exact (indifferent_destroyObject object).commit s n f
  | objectWrite64 object value flags =>
    exact (indifferent_writeObject64 object value).commit s n f
  | objectGetObject object name flags => exact (indifferent_childObject object name).commit s n f
  | objectGetObjectAt object index => exact (indifferent_childObjectAt object index).commit s n f
  | setUserClock handle highHz lowHz flags =>
    exact (indifferent_setUserClock handle highHz lowHz).commit s n f
  | reconfigureSlot handle slot path flags =>
    exact (indifferent_reconfigureSlot handle slot path).commit s n f
  | _ => rfl

/-- A call that meets an armed failure consumes it and does nothing else. -/
theorem call_of_armed {s : Simulator cards} {call : DeviceCall} {fault : Fault}
    (h : s.armed call.kind = some fault) :
    s.call call = (.error fault, s.rig (s.calls + 1) (override s.armed call.kind none)) := by
  simp only [Simulator.call, h, rig]

/-- A call that meets no armed failure is counted and served. -/
theorem call_of_unarmed {s : Simulator cards} {call : DeviceCall}
    (h : s.armed call.kind = none) :
    s.call call = ((s.serve call).1, (s.serve call).2.rig (s.calls + 1) s.armed) := by
  simp only [Simulator.call, h]
  exact s.serve_rig (s.calls + 1) s.armed call

/-- Every call is counted. -/
theorem calls_call (s : Simulator cards) (call : DeviceCall) :
    (s.call call).2.calls = s.calls + 1 := by
  cases h : s.armed call.kind with
  | some fault => rw [call_of_armed h, rig]
  | none => rw [call_of_unarmed h, rig]

/-- A call consumes no failure that is armed for another kind of calls. -/
theorem armed_call_of_ne (s : Simulator cards) {call : DeviceCall} {kind : CallKind}
    (h : kind ≠ call.kind) : (s.call call).2.armed kind = s.armed kind := by
  cases ha : s.armed call.kind with
  | some fault =>
    rw [call_of_armed ha]
    exact override_of_ne _ _ h
  | none => rw [call_of_unarmed ha, rig]

/-- Calls arm nothing. -/
theorem armed_call_eq_none {s : Simulator cards} {kind : CallKind} (h : s.armed kind = none)
    (call : DeviceCall) : (s.call call).2.armed kind = none := by
  by_cases hk : kind = call.kind
  · rw [call_of_unarmed (hk ▸ h)]
    exact h
  · rw [s.armed_call_of_ne hk]
    exact h

/-- The same cards with another count of calls. -/
def recount (s : Simulator cards) (n : Nat) : Simulator cards := s.rig n s.armed

/-- What a call does does not depend on how many calls there were before. -/
theorem call_recount (s : Simulator cards) (n : Nat) (call : DeviceCall) :
    (s.recount n).call call = ((s.call call).1, (s.call call).2.recount (n + 1)) := by
  cases h : s.armed call.kind with
  | some fault =>
    rw [call_of_armed h, call_of_armed (s := s.recount n) h]
    rfl
  | none =>
    rw [call_of_unarmed h, call_of_unarmed (s := s.recount n) h, recount, serve_rig]
    rfl

end DeviceBroker.Simulator
