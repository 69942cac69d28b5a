import DeviceBroker.Proofs.Simulator.Allocation

/-!
# Destroying what was just created

Four kinds of things are created by a call and destroyed by another: cloned
tokens, handles, buffers and objects. Destroying at once what was created gives
back the very same cards, whatever else is open on them; only the counters of
calls and of values given out have moved on.
-/

namespace DeviceBroker

variable {cards : Nat}

/-- What is only ever counted up: the calls, and the values given out. -/
@[ext] structure Counters where
  calls : Nat
  nextToken : Nat
  nextHandle : Nat
  nextObject : Nat
  nextWorkspace : Nat

instance : LE Counters where
  le c d := c.calls ≤ d.calls ∧ c.nextToken ≤ d.nextToken ∧ c.nextHandle ≤ d.nextHandle ∧
    c.nextObject ≤ d.nextObject ∧ c.nextWorkspace ≤ d.nextWorkspace

/-- The call that destroys what a call has created. -/
inductive DeviceCall.Undoes : (create : DeviceCall) → create.Value → DeviceCall → Prop
  | token {source : NativeToken} {clone : NativeHeader} :
      Undoes (.cloneToken source) clone (.destroyToken clone.token)
  | handle {token : NativeToken} {flags : UInt32} {handle : NativeHandle} :
      Undoes (.openHandle token flags) handle (.closeHandle handle)
  | buffer {handle : NativeHandle} {length : UInt64} {address : Option UInt64} {flags : UInt32}
      {prepared : PreparedBuffer} :
      Undoes (.prepareBuffer handle length address flags) prepared
        (.releaseBuffer handle prepared.workspace)
  | tokenObject {token : NativeToken} {name : String} {flags : UInt32} {object : NativeObject} :
      Undoes (.tokenGetObject token name flags) object (.destroyObject object)
  | handleObject {handle : NativeHandle} {name : String} {flags : UInt32} {object : NativeObject} :
      Undoes (.handleGetObject handle name flags) object (.destroyObject object)
  | childObject {parent : NativeObject} {name : String} {flags : UInt32} {object : NativeObject} :
      Undoes (.objectGetObject parent name flags) object (.destroyObject object)
  | childObjectAt {parent : NativeObject} {index : UInt64} {object : NativeObject} :
      Undoes (.objectGetObjectAt parent index) object (.destroyObject object)

namespace Simulator

variable {s t : Simulator cards}

def counters (s : Simulator cards) : Counters :=
  ⟨s.calls, s.nextToken, s.nextHandle, s.nextObject, s.nextWorkspace⟩

/-- The same cards with other counters. -/
def withCounters (s : Simulator cards) (c : Counters) : Simulator cards :=
  { s with
    calls := c.calls
    nextToken := c.nextToken
    nextHandle := c.nextHandle
    nextObject := c.nextObject
    nextWorkspace := c.nextWorkspace }

/-! ## Operations -/

theorem destroyToken_cloneToken (alloc : s.Allocated) {source : NativeToken} {clone : NativeHeader}
    (h : s.cloneToken source = .ok (clone, t)) :
    t.destroyToken clone.token = .ok ((), { s with nextToken := s.nextToken + 1 }) := by
  obtain ⟨site, rfl, rfl⟩ := cloneToken_ok h
  have hfresh : s.tokens.find? ⟨firstClone + s.nextToken⟩ = none := by
    rw [Table.find?_eq_none_iff, Bool.eq_false_iff]
    intro hlive
    exact Nat.lt_irrefl _ (alloc.tokens _ hlive)
  simp only [destroyToken, siteOf, publish, headed, Table.find?_insert_self,
    Table.erase_insert hfresh]

/-- Opening requires that nobody has the resource exclusively, so a closed handle
leaves the flag as it was, whether or not it was exclusive itself. -/
theorem closeHandle_openHandle {token : NativeToken} {flags : UInt32} {handle : NativeHandle}
    (h : s.openHandle token flags = .ok (handle, t)) :
    t.closeHandle handle =
      .ok ((), { s with nextHandle := max s.nextHandle (s.freeSlot + 1) }) := by
  obtain ⟨site, hexclusive, rfl, rfl⟩ := openHandle_ok h
  have hfree := (s.handles.find?_eq_none_iff _).mpr s.not_contains_freeSlot
  have hback : ∀ shared : Bool, (if (!shared) = true then false else !shared) = false := by decide
  have hresource : { s.resources site with exclusive := false } = s.resources site := by
    rw [← hexclusive]
  simp only [closeHandle, handleOf, updateResource, Table.find?_insert_self,
    Table.erase_insert hfree, override_self, override_override, Nat.add_sub_cancel, hback,
    hresource, override_eq_self]

theorem releaseBuffer_prepareBuffer (alloc : s.Allocated) {handle : NativeHandle} {length : UInt64}
    {address : Option UInt64} {flags : UInt32} {prepared : PreparedBuffer}
    (h : s.prepareBuffer handle length address flags = .ok (prepared, t)) :
    t.releaseBuffer handle prepared.workspace =
      .ok ((), { s with nextWorkspace := s.nextWorkspace + 1 }) := by
  obtain ⟨state, buffer, hs, hw, -, rfl⟩ := prepareBuffer_ok h
  have hfresh : state.buffers.find? s.nextWorkspace = none := by
    rw [Option.eq_none_iff_forall_not_mem]
    intro other hother
    have hheld : s.holdings.buffer (handle, s.nextWorkspace) = some other.data.size := by
      simp [holdings, hs, Option.mem_def.mp hother]
    have hlt := alloc.holdings.workspace (handle, s.nextWorkspace) (by rw [hheld]; rfl)
    exact Nat.lt_irrefl _ hlt
  -- Inserting and erasing in the same table is no change of the handle, nor of the handles.
  have hsame : (s.handles.modify handle fun state =>
      { state with buffers := state.buffers.insert s.nextWorkspace buffer }).modify handle
        (fun state => { state with buffers := state.buffers.erase s.nextWorkspace }) =
      s.handles := by
    rw [Table.modify_modify]
    refine Table.modify_eq_self hs ?_
    simp only [Function.comp_apply, Table.erase_insert hfresh]
  rw [hw]
  simp only [releaseBuffer, bufferOf, handleOf, changeBuffers, Table.find?_modify, if_true, hs,
    Option.map_some, Table.find?_insert_self, hsame]

theorem destroyObject_openObject (alloc : s.Allocated) {object : NativeObject}
    (h : ∃ site path, s.openObject site path = .ok (object, t)) :
    t.destroyObject object = .ok ((), { s with nextObject := s.nextObject + 1 }) := by
  obtain ⟨site, path, h⟩ := h
  obtain ⟨rfl, rfl⟩ := openObject_ok h
  have hfresh : s.objects.find? ⟨firstObject + s.nextObject⟩ = none := by
    rw [Table.find?_eq_none_iff, Bool.eq_false_iff]
    intro hlive
    exact Nat.lt_irrefl _ (alloc.holdings.object _ hlive)
  simp only [destroyObject, objectOf, Table.find?_insert_self, Table.erase_insert hfresh]

/-! ## Calls -/

theorem commit_eq_ok {α : Type} {result : Except Fault (α × Simulator cards)} {value : α}
    (h : s.commit result = (.ok value, t)) : result = .ok (value, t) := by
  cases result with
  | error fault => cases h
  | ok outcome =>
    cases h
    rfl

/-- Serving the one call and then the other gives back the cards. -/
theorem serve_undo (alloc : s.Allocated) {create : DeviceCall} {value : create.Value}
    {undo : DeviceCall} (undoes : create.Undoes value undo)
    (h : s.serve create = (.ok value, t)) :
    ∃ c, (t.serve undo).2 = s.withCounters c ∧ s.counters ≤ c := by
  have same : ∀ n : Nat, n ≤ n := Nat.le_refl
  have hobject : ∀ object : NativeObject, (∃ site path, s.openObject site path = .ok (object, t)) →
      ∃ c, (t.serve (.destroyObject object)).2 = s.withCounters c ∧ s.counters ≤ c := by
    intro object hopened
    have hundone := destroyObject_openObject alloc hopened
    refine ⟨{ s.counters with nextObject := s.nextObject + 1 }, ?_,
      ⟨same _, same _, same _, Nat.le_succ _, same _⟩⟩
    simp only [serve, hundone]
    rfl
  cases undoes with
  | token =>
    have hundone := destroyToken_cloneToken alloc (commit_eq_ok h)
    refine ⟨{ s.counters with nextToken := s.nextToken + 1 }, ?_,
      ⟨same _, Nat.le_succ _, same _, same _, same _⟩⟩
    simp only [serve, hundone]
    rfl
  | handle =>
    have hundone := closeHandle_openHandle (commit_eq_ok h)
    refine ⟨{ s.counters with nextHandle := max s.nextHandle (s.freeSlot + 1) }, ?_,
      ⟨same _, same _, Nat.le_max_left _ _, same _, same _⟩⟩
    simp only [serve, hundone]
    rfl
  | buffer =>
    have hundone := releaseBuffer_prepareBuffer alloc (commit_eq_ok h)
    refine ⟨{ s.counters with nextWorkspace := s.nextWorkspace + 1 }, ?_,
      ⟨same _, same _, same _, same _, Nat.le_succ _⟩⟩
    simp only [serve, hundone]
    rfl
  | tokenObject => exact hobject _ (tokenObject_ok (commit_eq_ok h))
  | handleObject => exact hobject _ (handleObject_ok (commit_eq_ok h))
  | childObject => exact hobject _ (childObject_ok (commit_eq_ok h))
  | childObjectAt => exact hobject _ (childObjectAt_ok (commit_eq_ok h))

/-- A creation that succeeds and is undone at once leaves nothing but later counters,
unless the second call meets a failure. -/
theorem call_undo (alloc : s.Allocated) {create : DeviceCall} {value : create.Value}
    {undo : DeviceCall} (undoes : create.Undoes value undo) (h : s.call create = (.ok value, t))
    (unarmed : s.armed undo.kind = none) :
    ∃ c, (t.call undo).2 = s.withCounters c ∧ s.counters ≤ c ∧ c.calls = s.calls + 2 := by
  cases ha : s.armed create.kind with
  | some fault =>
    rw [call_of_armed ha] at h
    cases h
  | none =>
  cases hserve : s.serve create with
  | mk result served =>
  rw [call_of_unarmed ha, hserve] at h
  cases h
  obtain ⟨c, hundone, hc⟩ := serve_undo alloc undoes hserve
  -- Both calls are served as on the cards that count no call and have nothing armed.
  have hcall := call_of_unarmed (s := served.rig (s.calls + 1) s.armed) unarmed
  rw [serve_rig, hundone] at hcall
  refine ⟨{ c with calls := s.calls + 2 }, ?_, ⟨Nat.le_add_right _ 2, hc.2⟩, rfl⟩
  rw [hcall]
  rfl

end Simulator

end DeviceBroker
