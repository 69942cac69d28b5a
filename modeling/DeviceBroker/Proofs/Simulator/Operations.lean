import DeviceBroker.Simulator.Serve

/-!
# Operations that succeed

An operation of the simulated cards that succeeds has found what it names, and
has passed its checks, and the state after it is known outright. That is one
inversion lemma for every operation. Many of them change nothing but the state
of resources, which is `Retouches`.
-/

namespace DeviceBroker.Simulator

variable {cards : Nat} {s t : Simulator cards}

theorem find?_of_handleOf {handle : NativeHandle} {state : OpenHandle cards}
    (h : s.handleOf handle = .ok state) : s.handles.find? handle = some state := by
  unfold handleOf at h
  split at h
  · rename_i found hf
    cases h
    exact hf
  · cases h

theorem find?_of_siteOf {token : NativeToken} {site : Site cards} (h : s.siteOf token = .ok site) :
    s.tokens.find? token = some site := by
  unfold siteOf at h
  split at h
  · rename_i found hf
    cases h
    exact hf
  · cases h

theorem find?_of_objectOf {object : NativeObject} {state : OpenObject cards}
    (h : s.objectOf object = .ok state) : s.objects.find? object = some state := by
  unfold objectOf at h
  split at h
  · rename_i found hf
    cases h
    exact hf
  · cases h

theorem find?_of_bufferOf {handle : NativeHandle} {workspace : Nat} {buffer : Buffer}
    (h : s.bufferOf handle workspace = .ok buffer) :
    ∃ state, s.handles.find? handle = some state ∧
      state.buffers.find? workspace = some buffer := by
  unfold bufferOf at h
  split at h
  · cases h
  · rename_i state hs
    split at h
    · rename_i found hb
      cases h
      exact ⟨state, find?_of_handleOf hs, hb⟩
    · cases h

/-- What an operation keeps if it succeeds is kept by committing it. -/
theorem commit_preserves {α : Type} {I : Simulator cards → Prop}
    {result : Except Fault (α × Simulator cards)} (h : I s)
    (hok : ∀ value t, result = .ok (value, t) → I t) : I (s.commit result).2 := by
  cases result with
  | error fault => exact h
  | ok outcome => exact hok outcome.1 outcome.2 rfl

/-! ## Tokens -/

theorem destroyToken_ok {token : NativeToken} {value : Unit}
    (h : s.destroyToken token = .ok (value, t)) :
    t = { s with tokens := s.tokens.erase token } := by
  unfold destroyToken at h
  split at h
  · cases h
  · cases h
    rfl

theorem cloneToken_ok {token : NativeToken} {clone : NativeHeader}
    (h : s.cloneToken token = .ok (clone, t)) :
    ∃ site, clone = s.headed ⟨firstClone + s.nextToken⟩ site ∧
      t = { s with nextToken := s.nextToken + 1 }.publish ⟨firstClone + s.nextToken⟩ site := by
  unfold cloneToken at h
  split at h
  · cases h
  · rename_i site _
    cases h
    exact ⟨site, rfl, rfl⟩

theorem tokenProperties_ok {token : NativeToken} {properties : Properties NativeToken}
    (h : s.tokenProperties token = .ok (properties, t)) :
    ∃ site, s.propertiesAt site = (properties, t) := by
  unfold tokenProperties at h
  cases hs : s.siteOf token with
  | error fault => simp [hs, Except.map] at h
  | ok site =>
    rw [hs] at h
    exact ⟨site, Except.ok.inj h⟩

/-! ## Handles -/

theorem handleProperties_ok {handle : NativeHandle} {properties : Properties NativeToken}
    (h : s.handleProperties handle = .ok (properties, t)) :
    ∃ site, s.propertiesAt site = (properties, t) := by
  unfold handleProperties at h
  cases hs : s.handleOf handle with
  | error fault => simp [hs, Except.map] at h
  | ok state =>
    rw [hs] at h
    exact ⟨state.site, Except.ok.inj h⟩

/-- A resource can be opened while nobody has it exclusively; exclusively, while nobody has it. -/
theorem openHandle_ok {token : NativeToken} {flags : UInt32} {handle : NativeHandle}
    (h : s.openHandle token flags = .ok (handle, t)) :
    ∃ site, (s.resources site).exclusive = false ∧ handle = handleAt s.freeSlot ∧
      t = { s.updateResource site fun r =>
            { r with openCount := r.openCount + 1
                     exclusive := !Flags.has flags Flags.openShared } with
        nextHandle := max s.nextHandle (s.freeSlot + 1)
        handles := s.handles.insert (handleAt s.freeSlot)
          ⟨site, !Flags.has flags Flags.openShared, fun _ => false, .empty⟩ } := by
  unfold openHandle at h
  split at h
  · cases h
  · rename_i site _
    dsimp only at h
    split at h
    · cases h
    · rename_i hfree
      cases h
      rw [Bool.not_eq_true, Bool.or_eq_false_iff] at hfree
      exact ⟨site, hfree.1, rfl, rfl⟩

theorem closeHandle_ok {handle : NativeHandle} {value : Unit}
    (h : s.closeHandle handle = .ok (value, t)) :
    ∃ closed, s.handles.find? handle = some closed ∧
      t = { s with handles := s.handles.erase handle }.updateResource closed.site fun r =>
        { r with
          openCount := r.openCount - 1
          exclusive := if closed.exclusive then false else r.exclusive } := by
  unfold closeHandle at h
  split at h
  · cases h
  · rename_i closed hs
    cases h
    exact ⟨closed, find?_of_handleOf hs, rfl⟩

theorem mapMmio_ok {handle : NativeHandle} {region : UInt32} {base : UInt64}
    (h : s.mapMmio handle region = .ok (base, t)) :
    (∃ state, s.handles.find? handle = some state) ∧ t = s.setMapped handle region true := by
  unfold mapMmio at h
  split at h
  · cases h
  · rename_i state hs
    split at h
    · cases h
    · cases h
      exact ⟨⟨state, find?_of_handleOf hs⟩, rfl⟩

theorem unmapMmio_ok {handle : NativeHandle} {region : UInt32} {value : Unit}
    (h : s.unmapMmio handle region = .ok (value, t)) :
    (∃ state, s.handles.find? handle = some state) ∧ t = s.setMapped handle region false := by
  unfold unmapMmio at h
  split at h
  · cases h
  · rename_i state hs
    split at h
    · cases h
      exact ⟨⟨state, find?_of_handleOf hs⟩, rfl⟩
    · cases h

/-! ## Buffers -/

theorem prepareBuffer_ok {handle : NativeHandle} {length : UInt64} {address : Option UInt64}
    {flags : UInt32} {prepared : PreparedBuffer}
    (h : s.prepareBuffer handle length address flags = .ok (prepared, t)) :
    ∃ state buffer, s.handles.find? handle = some state ∧ prepared.workspace = s.nextWorkspace ∧
      buffer.data.size = length.toNat ∧
      t = { s with nextWorkspace := s.nextWorkspace + 1 }.changeBuffers handle fun buffers =>
        buffers.insert s.nextWorkspace buffer := by
  unfold prepareBuffer at h
  split at h
  · cases h
  split at h
  · cases h
  split at h
  · cases h
  split at h
  · cases h
  · rename_i state hs
    cases h
    exact ⟨state, _, find?_of_handleOf hs, rfl, rfl, rfl⟩

theorem releaseBuffer_ok {handle : NativeHandle} {workspace : Nat} {value : Unit}
    (h : s.releaseBuffer handle workspace = .ok (value, t)) :
    (∃ state, s.handles.find? handle = some state) ∧
      t = s.changeBuffers handle fun buffers => buffers.erase workspace := by
  unfold releaseBuffer at h
  split at h
  · cases h
  · rename_i buffer hb
    cases h
    obtain ⟨state, hs, -⟩ := find?_of_bufferOf hb
    exact ⟨⟨state, hs⟩, rfl⟩

theorem writeBuffer_ok {handle : NativeHandle} {workspace : Nat} {offset : UInt64} {data : Memory}
    {value : Unit} (h : s.writeBuffer handle workspace offset data = .ok (value, t)) :
    ∃ state buffer, s.handles.find? handle = some state ∧
      state.buffers.find? workspace = some buffer ∧
      t = s.changeBuffers handle fun buffers => buffers.modify workspace fun buffer =>
        { buffer with data := buffer.data.write offset.toNat data } := by
  unfold writeBuffer at h
  split at h
  · cases h
  · rename_i buffer hb
    split at h
    · cases h
      obtain ⟨state, hs, hbuffer⟩ := find?_of_bufferOf hb
      exact ⟨state, buffer, hs, hbuffer, rfl⟩
    · cases h

/-! ## Objects -/

theorem openObject_ok {site : Site cards} {path : List String} {object : NativeObject}
    (h : s.openObject site path = .ok (object, t)) :
    object = ⟨firstObject + s.nextObject⟩ ∧
      t = { s with
        nextObject := s.nextObject + 1
        objects := s.objects.insert ⟨firstObject + s.nextObject⟩ ⟨site, path⟩ } := by
  unfold openObject at h
  split at h
  · cases h
  · cases h
    exact ⟨rfl, rfl⟩

theorem tokenObject_ok {token : NativeToken} {name : String} {object : NativeObject}
    (h : s.tokenObject token name = .ok (object, t)) :
    ∃ site path, s.openObject site path = .ok (object, t) := by
  unfold tokenObject at h
  split at h
  · cases h
  · exact ⟨_, _, h⟩

theorem handleObject_ok {handle : NativeHandle} {name : String} {object : NativeObject}
    (h : s.handleObject handle name = .ok (object, t)) :
    ∃ site path, s.openObject site path = .ok (object, t) := by
  unfold handleObject at h
  split at h
  · cases h
  · exact ⟨_, _, h⟩

theorem childObject_ok {parent object : NativeObject} {name : String}
    (h : s.childObject parent name = .ok (object, t)) :
    ∃ site path, s.openObject site path = .ok (object, t) := by
  unfold childObject at h
  split at h
  · cases h
  · exact ⟨_, _, h⟩

theorem childObjectAt_ok {parent object : NativeObject} {index : UInt64}
    (h : s.childObjectAt parent index = .ok (object, t)) :
    ∃ site path, s.openObject site path = .ok (object, t) := by
  unfold childObjectAt at h
  split at h
  · cases h
  · cases h
  · split at h
    · cases h
    · exact ⟨_, _, h⟩

theorem destroyObject_ok {object : NativeObject} {value : Unit}
    (h : s.destroyObject object = .ok (value, t)) :
    t = { s with objects := s.objects.erase object } := by
  unfold destroyObject at h
  split at h
  · cases h
  · cases h
    rfl

/-! ## Resources alone -/

/-- Only the state of resources differs. -/
def Retouches (s t : Simulator cards) : Prop := ∃ resources, t = { s with resources := resources }

theorem retouches_updateResource (s : Simulator cards) (site : Site cards)
    (change : Resource → Resource) : s.Retouches (s.updateResource site change) := ⟨_, rfl⟩

theorem resetHandle_ok {handle : NativeHandle} {value : Unit}
    (h : s.resetHandle handle = .ok (value, t)) : s.Retouches t := by
  unfold resetHandle at h
  split at h
  · cases h
  · cases h
    exact retouches_updateResource _ _ _

theorem writeRegister_ok {handle : NativeHandle} {region : UInt32} {offset : UInt64}
    {data : Memory} {value : Unit}
    (h : s.writeRegister handle region offset data = .ok (value, t)) : s.Retouches t := by
  unfold writeRegister at h
  split at h
  · cases h
  · cases h
    exact retouches_updateResource _ _ _

theorem clearError_ok {token : NativeToken} {number : UInt32} {value : Unit}
    (h : s.clearError token number = .ok (value, t)) : s.Retouches t := by
  unfold clearError at h
  split at h
  · cases h
  · split at h
    · cases h
      exact retouches_updateResource _ _ _
    · cases h

theorem clearAllErrors_ok {token : NativeToken} {value : Unit}
    (h : s.clearAllErrors token = .ok (value, t)) : s.Retouches t := by
  unfold clearAllErrors at h
  split at h
  · cases h
  · cases h
    exact retouches_updateResource _ _ _

theorem writeObject64_ok {object : NativeObject} {number : UInt64} {value : Unit}
    (h : s.writeObject64 object number = .ok (value, t)) : s.Retouches t := by
  unfold writeObject64 at h
  split at h
  · cases h
  · cases h
  · cases h
    exact retouches_updateResource _ _ _

theorem setUserClock_ok {handle : NativeHandle} {highHz lowHz : UInt64} {value : Unit}
    (h : s.setUserClock handle highHz lowHz = .ok (value, t)) : s.Retouches t := by
  unfold setUserClock at h
  split at h
  · cases h
  · split at h
    · cases h
    · split at h
      · cases h
      · cases h
        exact retouches_updateResource _ _ _

theorem reconfigureSlot_ok {handle : NativeHandle} {slot : UInt32} {path : String} {value : Unit}
    (h : s.reconfigureSlot handle slot path = .ok (value, t)) : s.Retouches t := by
  unfold reconfigureSlot at h
  split at h
  · cases h
  split at h
  · cases h
  split at h
  · cases h
  split at h
  · cases h
  split at h
  · dsimp only at h
    split at h
    · cases h
    · cases h
      exact retouches_updateResource _ _ _
  · cases h

/-- Samples count even when a later metric does not exist. -/
theorem retouches_sampleMetrics (s : Simulator cards) (handle : NativeHandle)
    (numbers : List (Option UInt64)) : s.Retouches (s.sampleMetrics handle numbers).2 := by
  unfold sampleMetrics
  split
  · exact ⟨_, rfl⟩
  · exact ⟨_, rfl⟩

theorem retouches_raiseError (s : Simulator cards) (token : NativeToken) (number : UInt32)
    (bits : UInt64) : s.Retouches (s.raiseError token number bits).2 := by
  unfold raiseError
  split
  · exact ⟨_, rfl⟩
  · exact ⟨_, rfl⟩

end DeviceBroker.Simulator
