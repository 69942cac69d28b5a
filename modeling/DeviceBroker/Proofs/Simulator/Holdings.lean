import DeviceBroker.Proofs.Simulator.Operations
import DeviceBroker.Proofs.Simulator.Search

/-!
# What the driver holds

For the agreement of the registry and the driver only a few things matter
about the simulated cards: which tokens, handles and objects are live, how
large the buffers of every handle are, and the counters behind new objects and
workspaces. `Holdings` is that view, and `holdings_call` says what every call
does to it: nothing if it fails, and `Holdings.after` if it succeeds.
-/

namespace DeviceBroker

/-- What a driver holds for its callers. -/
@[ext] structure Holdings where
  token : NativeToken → Bool
  handle : NativeHandle → Bool
  /-- The size of the buffer of a handle with a workspace number. -/
  buffer : NativeHandle × Nat → Option Nat
  object : NativeObject → Bool
  nextObject : Nat
  nextWorkspace : Nat

namespace Holdings

/-- One more token is live. -/
def track (h : Holdings) (token : NativeToken) : Holdings :=
  { h with token := override h.token token true }

/-- A handle is open from now on. -/
def openAt (h : Holdings) (handle : NativeHandle) : Holdings :=
  { h with handle := override h.handle handle true }

/-- A handle is closed, and its buffers are gone. -/
def closeAt (h : Holdings) (handle : NativeHandle) : Holdings :=
  { h with
    handle := override h.handle handle false
    buffer := fun place => if place.1 = handle then none else h.buffer place }

/-- The next object is live. -/
def openNext (h : Holdings) (object : NativeObject) : Holdings :=
  { h with object := override h.object object true, nextObject := h.nextObject + 1 }

/-- What the driver holds after a call that returned a value. -/
def after (h : Holdings) : (call : DeviceCall) → call.Value → Holdings
  | .enumerate _ _, listing => (listing.tokens.map NativeHeader.token).foldl track h
  | .destroyToken token, _ => { h with token := override h.token token false }
  | .cloneToken _, clone => h.track clone.token
  | .getProperties _, properties => properties.parent.elim h h.track
  | .updateProperties _, properties => properties.parent.elim h h.track
  | .getHandleProperties _, properties => properties.parent.elim h h.track
  | .openHandle _ _, handle => h.openAt handle
  | .closeHandle handle, _ => h.closeAt handle
  | .prepareBuffer handle length _ _, prepared =>
    { h with
      buffer := override h.buffer (handle, prepared.workspace) (some length.toNat)
      nextWorkspace := h.nextWorkspace + 1 }
  | .releaseBuffer handle workspace, _ =>
    { h with buffer := override h.buffer (handle, workspace) none }
  | .tokenGetObject _ _ _, object => h.openNext object
  | .handleGetObject _ _ _, object => h.openNext object
  | .objectGetObject _ _ _, object => h.openNext object
  | .objectGetObjectAt _ _, object => h.openNext object
  | .destroyObject object, _ => { h with object := override h.object object false }
  | _, _ => h

theorem handle_foldl_track (tokens : List NativeToken) (h : Holdings) :
    (tokens.foldl track h).handle = h.handle := by
  induction tokens generalizing h with
  | nil => rfl
  | cons token rest ih => exact ih (h.track token)

/-- What the driver promises about the values that it returns. -/
def Grants (h : Holdings) : (call : DeviceCall) → call.Value → Prop
  | .enumerate _ maxTokens, listing => listing.tokens.length ≤ maxTokens.toNat
  | .openHandle _ _, handle => h.handle handle = false
  | .prepareBuffer handle _ _ _, prepared =>
    h.handle handle = true ∧ prepared.workspace = h.nextWorkspace
  | .tokenGetObject _ _ _, object => object = ⟨Simulator.firstObject + h.nextObject⟩
  | .handleGetObject _ _ _, object => object = ⟨Simulator.firstObject + h.nextObject⟩
  | .objectGetObject _ _ _, object => object = ⟨Simulator.firstObject + h.nextObject⟩
  | .objectGetObjectAt _ _, object => object = ⟨Simulator.firstObject + h.nextObject⟩
  | _, _ => True

end Holdings

namespace Simulator

variable {cards : Nat}

/-- What the simulated cards hold. -/
def holdings (s : Simulator cards) : Holdings where
  token := s.tokens.contains
  handle := s.handles.contains
  buffer place := (s.handles.find? place.1).bind fun state =>
    (state.buffers.find? place.2).map fun buffer => buffer.data.size
  object := s.objects.contains
  nextObject := s.nextObject
  nextWorkspace := s.nextWorkspace

theorem holdings_handle_iff (s : Simulator cards) (handle : NativeHandle) :
    s.holdings.handle handle = true ↔ ∃ state, s.handles.find? handle = some state :=
  s.handles.contains_iff handle

/-! ## Changes of the state -/

@[simp] theorem holdings_updateResource (s : Simulator cards) (site : Site cards)
    (change : Resource → Resource) : (s.updateResource site change).holdings = s.holdings := rfl

theorem holdings_publish (s : Simulator cards) (token : NativeToken) (site : Site cards) :
    (s.publish token site).holdings = s.holdings.track token := by
  simp [holdings, publish, Holdings.track, Table.contains_insert]

theorem holdings_setMapped (s : Simulator cards) (handle : NativeHandle) (region : UInt32)
    (mapped : Bool) : (s.setMapped handle region mapped).holdings = s.holdings := by
  simp only [holdings, setMapped, Table.contains_modify, Table.find?_modify]
  congr 1
  funext place
  by_cases hp : place.1 = handle
  · cases s.handles.find? place.1 <;> simp [hp]
  · simp [hp]

/-- Changing one buffer of an open handle changes what is held at one place. -/
theorem holdings_changeBuffers {s : Simulator cards} {handle : NativeHandle}
    {state : OpenHandle cards} (hf : s.handles.find? handle = some state)
    (change : Table Nat Buffer → Table Nat Buffer) (workspace : Nat) (buffer? : Option Buffer)
    (hc : ∀ other, (change state.buffers).find? other =
      if other = workspace then buffer? else state.buffers.find? other) :
    (s.changeBuffers handle change).holdings =
      { s.holdings with
        buffer := override s.holdings.buffer (handle, workspace)
          (buffer?.map fun buffer => buffer.data.size) } := by
  simp only [holdings, changeBuffers, Table.contains_modify, Table.find?_modify]
  congr 1
  funext place
  obtain ⟨owner, other⟩ := place
  by_cases ho : owner = handle
  · subst ho
    by_cases hw : other = workspace
    · subst hw
      simp [hf, hc]
    · simp [hf, hc, hw, override]
  · simp [ho, override]

/-! ## Successful operations -/

variable {s t : Simulator cards}

theorem holdings_of_destroyToken {token : NativeToken} {value : Unit}
    (h : s.destroyToken token = .ok (value, t)) :
    t.holdings = { s.holdings with token := override s.holdings.token token false } := by
  obtain rfl := destroyToken_ok h
  simp [holdings, Table.contains_erase]

theorem holdings_of_cloneToken {token : NativeToken} {clone : NativeHeader}
    (h : s.cloneToken token = .ok (clone, t)) : t.holdings = s.holdings.track clone.token := by
  obtain ⟨site, rfl, rfl⟩ := cloneToken_ok h
  exact holdings_publish _ _ _

theorem holdings_enumerate (s : Simulator cards) (filters : List (Properties NativeToken))
    (maxTokens : UInt32) :
    (s.enumerate filters maxTokens).2.holdings =
      ((s.enumerate filters maxTokens).1.tokens.map NativeHeader.token).foldl Holdings.track
        s.holdings := by
  have published : ∀ (sites : List (Site cards)) (u : Simulator cards),
      (sites.foldl (fun u site => u.publish site.canonical site) u).holdings =
        (sites.map Site.canonical).foldl Holdings.track u.holdings := by
    intro sites
    induction sites with
    | nil => exact fun _ => rfl
    | cons site rest ih =>
        intro u
        rw [List.foldl_cons, ih, holdings_publish]
        rfl
  simp only [enumerate, published, List.map_map]
  rfl

theorem length_enumerate_le (s : Simulator cards) (filters : List (Properties NativeToken))
    (maxTokens : UInt32) :
    (s.enumerate filters maxTokens).1.tokens.length ≤ maxTokens.toNat := by
  simp only [enumerate, List.length_map]
  exact List.length_take_le _ _

theorem holdings_propertiesAt (s : Simulator cards) (site : Site cards) :
    (s.propertiesAt site).2.holdings =
      (s.propertiesAt site).1.parent.elim s.holdings s.holdings.track := by
  obtain ⟨card, kind⟩ := site
  cases kind with
  | device => rfl
  | accelerator => exact holdings_publish _ _ _

theorem holdings_of_tokenProperties {token : NativeToken} {properties : Properties NativeToken}
    (h : s.tokenProperties token = .ok (properties, t)) :
    t.holdings = properties.parent.elim s.holdings s.holdings.track := by
  obtain ⟨site, hsite⟩ := tokenProperties_ok h
  have hparent := s.holdings_propertiesAt site
  rwa [hsite] at hparent

theorem holdings_of_handleProperties {handle : NativeHandle}
    {properties : Properties NativeToken} (h : s.handleProperties handle = .ok (properties, t)) :
    t.holdings = properties.parent.elim s.holdings s.holdings.track := by
  obtain ⟨site, hsite⟩ := handleProperties_ok h
  have hparent := s.holdings_propertiesAt site
  rwa [hsite] at hparent

theorem holdings_of_openHandle {token : NativeToken} {flags : UInt32} {handle : NativeHandle}
    (h : s.openHandle token flags = .ok (handle, t)) :
    s.holdings.handle handle = false ∧ t.holdings = s.holdings.openAt handle := by
  obtain ⟨site, -, rfl, rfl⟩ := openHandle_ok h
  have hfree := s.not_contains_freeSlot
  refine ⟨hfree, ?_⟩
  simp only [holdings, Holdings.openAt, Table.contains_insert, updateResource]
  congr 1
  funext place
  by_cases hp : place.1 = handleAt s.freeSlot
  · have hn := (s.handles.find?_eq_none_iff _).mpr hfree
    simp [hp, hn]
  · simp [Table.find?_insert, hp]

theorem holdings_of_closeHandle {handle : NativeHandle} {value : Unit}
    (h : s.closeHandle handle = .ok (value, t)) : t.holdings = s.holdings.closeAt handle := by
  obtain ⟨closed, -, rfl⟩ := closeHandle_ok h
  simp only [holdings_updateResource]
  simp only [holdings, Holdings.closeAt, Table.contains_erase, Table.find?_erase]
  congr 1
  funext place
  by_cases hp : place.1 = handle <;> simp [hp]

theorem holdings_of_prepareBuffer {handle : NativeHandle} {length : UInt64}
    {address : Option UInt64} {flags : UInt32} {prepared : PreparedBuffer}
    (h : s.prepareBuffer handle length address flags = .ok (prepared, t)) :
    (s.holdings.handle handle = true ∧ prepared.workspace = s.holdings.nextWorkspace) ∧
    t.holdings =
      { s.holdings with
        buffer := override s.holdings.buffer (handle, prepared.workspace) (some length.toNat)
        nextWorkspace := s.holdings.nextWorkspace + 1 } := by
  obtain ⟨state, buffer, hf, hw, hsize, rfl⟩ := prepareBuffer_ok h
  refine ⟨⟨(s.holdings_handle_iff handle).mpr ⟨state, hf⟩, hw⟩, ?_⟩
  refine (holdings_changeBuffers (s := { s with nextWorkspace := s.nextWorkspace + 1 }) hf
    (fun buffers => buffers.insert s.nextWorkspace buffer) s.nextWorkspace (some buffer)
    fun other => state.buffers.find?_insert _ other _).trans ?_
  rw [hw, ← hsize]
  rfl

theorem holdings_of_releaseBuffer {handle : NativeHandle} {workspace : Nat} {value : Unit}
    (h : s.releaseBuffer handle workspace = .ok (value, t)) :
    t.holdings =
      { s.holdings with buffer := override s.holdings.buffer (handle, workspace) none } := by
  obtain ⟨⟨state, hf⟩, rfl⟩ := releaseBuffer_ok h
  exact holdings_changeBuffers hf (fun buffers => buffers.erase workspace) workspace none
    fun other => state.buffers.find?_erase _ other

theorem holdings_of_writeBuffer {handle : NativeHandle} {workspace : Nat} {offset : UInt64}
    {data : Memory} {value : Unit}
    (h : s.writeBuffer handle workspace offset data = .ok (value, t)) :
    t.holdings = s.holdings := by
  obtain ⟨state, buffer, hf, hfb, rfl⟩ := writeBuffer_ok h
  have hsize : s.holdings.buffer (handle, workspace) = some buffer.data.size := by
    simp [holdings, hf, hfb]
  refine (holdings_changeBuffers hf
    (fun buffers => buffers.modify workspace fun buffer =>
      { buffer with data := buffer.data.write offset.toNat data }) workspace
    (some { buffer with data := buffer.data.write offset.toNat data })
    fun other => ?_).trans ?_
  · rw [Table.find?_modify]
    by_cases ho : other = workspace
    · rw [if_pos ho, if_pos ho, ho, hfb, Option.map_some]
    · rw [if_neg ho, if_neg ho]
  · rw [Option.map_some, Memory.size_write, ← hsize, override_eq_self]

theorem holdings_of_openObject {object : NativeObject}
    (h : ∃ site path, s.openObject site path = .ok (object, t)) :
    object = ⟨firstObject + s.holdings.nextObject⟩ ∧ t.holdings = s.holdings.openNext object := by
  obtain ⟨site, path, h⟩ := h
  obtain ⟨rfl, rfl⟩ := openObject_ok h
  refine ⟨rfl, ?_⟩
  simp [holdings, Holdings.openNext, Table.contains_insert]

theorem holdings_of_destroyObject {object : NativeObject} {value : Unit}
    (h : s.destroyObject object = .ok (value, t)) :
    t.holdings = { s.holdings with object := override s.holdings.object object false } := by
  obtain rfl := destroyObject_ok h
  simp [holdings, Table.contains_erase]

theorem Retouches.holdings_eq (h : s.Retouches t) : t.holdings = s.holdings := by
  obtain ⟨resources, rfl⟩ := h
  rfl

theorem holdings_of_mapMmio {handle : NativeHandle} {region : UInt32} {base : UInt64}
    (h : s.mapMmio handle region = .ok (base, t)) : t.holdings = s.holdings := by
  obtain ⟨-, rfl⟩ := mapMmio_ok h
  exact holdings_setMapped _ _ _ _

theorem holdings_of_unmapMmio {handle : NativeHandle} {region : UInt32} {value : Unit}
    (h : s.unmapMmio handle region = .ok (value, t)) : t.holdings = s.holdings := by
  obtain ⟨-, rfl⟩ := unmapMmio_ok h
  exact holdings_setMapped _ _ _ _

/-! ## Calls -/

/-- A failed call leaves alone what is held; a successful one changes it as the
returned value says, and the value is as promised. -/
def Serves (s : Simulator cards) (call : DeviceCall) :
    Except Fault call.Value × Simulator cards → Prop
  | (.error _, t) => t.holdings = s.holdings
  | (.ok value, t) => s.holdings.Grants call value ∧ t.holdings = s.holdings.after call value

theorem serves_commit {call : DeviceCall}
    {result : Except Fault (call.Value × Simulator cards)}
    (h : ∀ value t, result = .ok (value, t) →
      s.holdings.Grants call value ∧ t.holdings = s.holdings.after call value) :
    s.Serves call (s.commit result) := by
  cases result with
  | error fault => exact (rfl : s.holdings = s.holdings)
  | ok outcome => exact h outcome.1 outcome.2 rfl

/-- A call that changes nothing that is held, whether or not it succeeds. -/
theorem serves_of_quiet {call : DeviceCall} {outcome : Except Fault call.Value × Simulator cards}
    (hg : ∀ value, s.holdings.Grants call value)
    (ha : ∀ value, s.holdings.after call value = s.holdings)
    (h : outcome.2.holdings = s.holdings) : s.Serves call outcome := by
  obtain ⟨result, t⟩ := outcome
  cases result with
  | error fault => exact h
  | ok value => exact ⟨hg value, h.trans (ha value).symm⟩

theorem serves_serve (s : Simulator cards) (call : DeviceCall) : s.Serves call (s.serve call) := by
  cases call with
  | enumerate filters maxTokens =>
      exact ⟨s.length_enumerate_le filters maxTokens, s.holdings_enumerate filters maxTokens⟩
  | destroyToken token => exact serves_commit fun _ _ h => ⟨trivial, holdings_of_destroyToken h⟩
  | cloneToken token => exact serves_commit fun _ _ h => ⟨trivial, holdings_of_cloneToken h⟩
  | getProperties token => exact serves_commit fun _ _ h => ⟨trivial, holdings_of_tokenProperties h⟩
  | updateProperties token =>
      exact serves_commit fun _ _ h => ⟨trivial, holdings_of_tokenProperties h⟩
  | openHandle token flags => exact serves_commit fun _ _ h => holdings_of_openHandle h
  | closeHandle handle => exact serves_commit fun _ _ h => ⟨trivial, holdings_of_closeHandle h⟩
  | resetHandle handle => exact serves_commit fun _ _ h => ⟨trivial, (resetHandle_ok h).holdings_eq⟩
  | getHandleProperties handle =>
      exact serves_commit fun _ _ h => ⟨trivial, holdings_of_handleProperties h⟩
  | mapMmio handle region => exact serves_commit fun _ _ h => ⟨trivial, holdings_of_mapMmio h⟩
  | unmapMmio handle region => exact serves_commit fun _ _ h => ⟨trivial, holdings_of_unmapMmio h⟩
  | writeMmio32 handle region offset value =>
      exact serves_commit fun _ _ h => ⟨trivial, (writeRegister_ok h).holdings_eq⟩
  | writeMmio64 handle region offset value =>
      exact serves_commit fun _ _ h => ⟨trivial, (writeRegister_ok h).holdings_eq⟩
  | writeMmio512 handle region offset value =>
      exact serves_commit fun _ _ h => ⟨trivial, (writeRegister_ok h).holdings_eq⟩
  | prepareBuffer handle length address flags =>
      exact serves_commit fun _ _ h => holdings_of_prepareBuffer h
  | releaseBuffer handle workspace =>
      exact serves_commit fun _ _ h => ⟨trivial, holdings_of_releaseBuffer h⟩
  | bufferWrite handle workspace offset data =>
      exact serves_commit fun _ _ h => ⟨trivial, holdings_of_writeBuffer h⟩
  | clearError token number =>
      exact serves_commit fun _ _ h => ⟨trivial, (clearError_ok h).holdings_eq⟩
  | clearAllErrors token =>
      exact serves_commit fun _ _ h => ⟨trivial, (clearAllErrors_ok h).holdings_eq⟩
  | tokenGetObject token name flags =>
      exact serves_commit fun _ _ h => holdings_of_openObject (tokenObject_ok h)
  | handleGetObject handle name flags =>
      exact serves_commit fun _ _ h => holdings_of_openObject (handleObject_ok h)
  | objectGetObject object name flags =>
      exact serves_commit fun _ _ h => holdings_of_openObject (childObject_ok h)
  | objectGetObjectAt object index =>
      exact serves_commit fun _ _ h => holdings_of_openObject (childObjectAt_ok h)
  | destroyObject object => exact serves_commit fun _ _ h => ⟨trivial, holdings_of_destroyObject h⟩
  | objectWrite64 object value flags =>
      exact serves_commit fun _ _ h => ⟨trivial, (writeObject64_ok h).holdings_eq⟩
  | setUserClock handle highHz lowHz flags =>
      exact serves_commit fun _ _ h => ⟨trivial, (setUserClock_ok h).holdings_eq⟩
  | reconfigureSlot handle slot path flags =>
      exact serves_commit fun _ _ h => ⟨trivial, (reconfigureSlot_ok h).holdings_eq⟩
  -- Sampling changes the state even when it fails, but nothing that is held.
  | getMetricsByIndex handle numbers =>
      exact serves_of_quiet (fun _ => trivial) (fun _ => rfl)
        (s.retouches_sampleMetrics _ _).holdings_eq
  | getMetricsByName handle names =>
      exact serves_of_quiet (fun _ => trivial) (fun _ => rfl)
        (s.retouches_sampleMetrics _ _).holdings_eq
  | _ => exact serves_of_quiet (fun _ => trivial) (fun _ => rfl) rfl

/-- What every call does to what the driver holds, with failures armed or not. -/
theorem serves_call (s : Simulator cards) (call : DeviceCall) : s.Serves call (s.call call) := by
  have hcounted : ({ s with calls := s.calls + 1 } : Simulator cards).Serves call
      (({ s with calls := s.calls + 1 } : Simulator cards).serve call) :=
    serves_serve _ call
  unfold Simulator.call
  dsimp only
  cases ha : s.armed call.kind with
  | some fault => exact (rfl : s.holdings = s.holdings)
  | none => exact hcounted

end Simulator

end DeviceBroker
