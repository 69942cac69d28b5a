import DeviceBroker.Proofs.Broker.Patterns
import DeviceBroker.Proofs.Broker.Regions
import DeviceBroker.Proofs.Broker.Repertoire
import DeviceBroker.Proofs.Memory
import DeviceBroker.Proofs.Simulator.Contents

/-!
# Shared buffers as arrays of bytes

A client can tell what a buffer holds from what it has asked for and been
granted: every byte is the last one written at its position, and zero if none
was written since the buffer was prepared. `lastByte` reads that off the
dialogue so far. The broker knows a buffer by its entry and the driver by a
handle and a workspace number; `Stocked` says that both belong together and
that the bytes are the expected ones, and every request keeps it.
-/

namespace DeviceBroker

variable {cards : Nat} {α β : Type}

/-! ## What a client expects -/

/-- The byte that a request, if it is granted, writes at a position of a buffer. -/
def Request.writes? (id : RemoteId) (i : Nat) : Request → Option UInt8
  | .bufferFill _ bufferId offset byte count =>
    if bufferId = id ∧ offset.toNat ≤ i ∧ i < offset.toNat + count.toNat then some byte else none
  | .bufferWrite _ bufferId offset source count =>
    if bufferId = id ∧ offset.toNat ≤ i ∧ i < offset.toNat + count.toNat then
      source[i - offset.toNat]?
    else none
  | .bufferPattern _ bufferId name =>
    if bufferId = id then
      (FillPattern.repeated? name).bind fun bytes => bytes[i % bytes.length]?
    else none
  | _ => none

/-- The byte at a position of a buffer after a request was answered: zero if it
has prepared the buffer, and what it writes if it was granted. -/
def stamp (id : RemoteId) (i : Nat) (byte : UInt8) (served : Request × Reply) : UInt8 :=
  if served.2.outcome? .prepareBuffer = some (.ok id) then 0
  else if served.2.status? = some .success then (served.1.writes? id i).getD byte
  else byte

/-- The last byte that was written at a position of a buffer, zero if there is none. -/
def lastByte (served : List (Request × Reply)) (id : RemoteId) (i : Nat) : UInt8 :=
  served.foldl (stamp id i) 0

/-- Whether an operation can change what is in buffers, or which buffers there are. -/
def Operation.restocks : Operation → Bool
  | .openHandle | .closeHandle | .prepareBuffer | .releaseBuffer | .bufferFill | .bufferWrite
  | .bufferPattern => true
  | _ => false

/-- What is not a preparation and writes nothing at a position leaves the byte there. -/
theorem stamp_eq_self {request : Request} (hp : request.operation ≠ .prepareBuffer)
    {id : RemoteId} {i : Nat} (hw : request.writes? id i = none) (byte : UInt8)
    (result : Except Fault request.operation.Value) :
    stamp id i byte (request, .ofResult request.operation result) = byte := by
  have hnone : (Reply.ofResult request.operation result).outcome? .prepareBuffer = none :=
    Reply.outcome?_answer_of_ne _ hp
  unfold stamp
  rw [hnone, hw]
  simp

theorem stamp_of_ok {request : Request} (hp : request.operation ≠ .prepareBuffer)
    (value : request.operation.Value) (id : RemoteId) (i : Nat) (byte : UInt8) :
    stamp id i byte (request, .ofResult request.operation (.ok value)) =
      (request.writes? id i).getD byte := by
  have hnone : (Reply.ofResult request.operation (.ok value)).outcome? .prepareBuffer = none :=
    Reply.outcome?_answer_of_ne _ hp
  unfold stamp
  rw [hnone, if_neg nofun]
  exact if_pos rfl

theorem stamp_of_error (request : Request) (fault : Fault) (id : RemoteId) (i : Nat)
    (byte : UInt8) :
    stamp id i byte (request, .ofResult request.operation (.error fault)) = byte := by
  have hfailed : (Reply.ofResult request.operation (.error fault)).status? ≠ some .success := nofun
  unfold stamp
  rw [if_neg hfailed, if_neg]
  intro heq
  cases request with
  | prepareBuffer => cases heq
  | _ => cases heq

/-! ## Requests that leave buffers alone -/

/-- Whether a call of a kind changes what is stored, if it succeeds. -/
def CallKind.restocks : CallKind → Bool
  | .closeHandle | .prepareBuffer | .releaseBuffer | .bufferWrite => true
  | _ => false

theorem Simulator.stored_call_eq (s : Simulator cards) {call : DeviceCall}
    (h : call.kind.restocks = false) : (s.call call).2.stored = s.stored := by
  have hcall := s.stored_call call
  generalize s.call call = outcome at hcall ⊢
  obtain ⟨_ | value, t⟩ := outcome
  · exact hcall
  · refine Eq.trans hcall ?_
    cases call with
    | closeHandle | prepareBuffer | releaseBuffer | bufferWrite => cases h
    | _ => rfl

section

variable {request : Request} {cls : ResourceClass}

theorem Request.target_of_not_restocks (h : request.operation.restocks = false) {id : RemoteId}
    (ht : request.target? = some (cls, id)) : cls ≠ .buffer ∧ cls ≠ .handle := by
  cases request with
  | closeHandle | releaseBuffer => cases h
  | destroyToken | unmapMmio | destroyObject =>
    cases ht
    exact ⟨nofun, nofun⟩
  | _ => cases ht

theorem Operation.creates_of_not_restocks {op : Operation} (h : op.restocks = false)
    (hc : op.creates? = some cls) : cls ≠ .buffer ∧ cls ≠ .handle := by
  cases op with
  | openHandle | prepareBuffer => cases h
  | mapMmio | tokenGetObject | handleGetObject | objectGetObject | objectGetObjectAt =>
    cases hc
    exact ⟨nofun, nofun⟩
  | _ => cases hc

theorem Operation.call_of_not_restocks {op : Operation} (h : op.restocks = false)
    {kind : CallKind} (hk : kind = op.firstCall ∨ op.undoes? = some kind) :
    kind.restocks = false := by
  cases op with
  | openHandle | closeHandle | prepareBuffer | releaseBuffer | bufferFill | bufferWrite
  | bufferPattern => cases h
  | _ =>
    obtain rfl | hk := hk
    · rfl
    · cases hk
      try rfl

end

namespace Broker

/-- What buffers rest on is the same. -/
structure SameShelf (b' b : Broker cards) : Prop where
  buffers : b'.registry.map .buffer = b.registry.map .buffer
  handles : b'.registry.map .handle = b.registry.map .handle
  stored : b'.device.stored = b.device.stored

theorem sameShelf_of_withMap {b : Broker cards} {cls : ResourceClass}
    (h : cls ≠ .buffer ∧ cls ≠ .handle) (m : IdentityMap cls) :
    SameShelf { b with registry := b.registry.withMap cls m } b :=
  ⟨b.registry.map_withMap_of_ne m h.1.symm, b.registry.map_withMap_of_ne m h.2.symm, rfl⟩

theorem sameShelf_perform {b : Broker cards} {request : Request}
    (h : request.operation.restocks = false) {a : Action} (ha : request.MayPerform a) :
    SameShelf (b.perform a).2 b := by
  cases ha with
  | find cls id => exact ⟨rfl, rfl, rfl⟩
  | claim ht => exact sameShelf_of_withMap (request.target_of_not_restocks h ht) _
  | settle ht how => exact sameShelf_of_withMap (request.target_of_not_restocks h ht) _
  | register hc entry =>
    obtain ⟨hbuffer, hhandle⟩ := Operation.creates_of_not_restocks h hc
    exact ⟨b.registry.map_register_of_ne entry hbuffer.symm,
      b.registry.map_register_of_ne entry hhandle.symm, rfl⟩
  | intern token =>
    exact ⟨b.registry.map_intern_of_ne _ nofun, b.registry.map_intern_of_ne _ nofun, rfl⟩
  | removeOwned hr cls =>
    subst hr
    cases h
  | call hk =>
    exact ⟨rfl, rfl, b.device.stored_call_eq (Operation.call_of_not_restocks h hk)⟩

theorem sameShelf_handle (b : Broker cards) {request : Request}
    (h : request.operation.restocks = false) : SameShelf (b.handle request).2 b := by
  refine handle_preserves (I := fun b' => SameShelf b' b) (fun b' a ha hb => ?_) ⟨rfl, rfl, rfl⟩
  have hstep := sameShelf_perform (b := b') h ha
  exact ⟨hstep.buffers.trans hb.buffers, hstep.handles.trans hb.handles,
    hstep.stored.trans hb.stored⟩

/-! ## Stocked brokers -/

/-- The driver stores what is expected for every live buffer, and no two live
buffers are stored at one place. -/
structure Stocked (b : Broker cards) (content : RemoteId → Nat → UInt8) : Prop where
  backed : ∀ id entry, (b.registry.map .buffer).find? id = some entry →
    ∃ native memory, b.native? entry.owner = some native ∧
      b.device.stored (native, entry.workspace) = some memory ∧
      memory.size = entry.length.toNat ∧ ∀ i < entry.length.toNat, memory.byte i = content id i
  distinct : ∀ id id' entry entry', (b.registry.map .buffer).find? id = some entry →
    (b.registry.map .buffer).find? id' = some entry' → entry.workspace = entry'.workspace →
    id = id'

variable {b b' : Broker cards} {content : RemoteId → Nat → UInt8}

/-- Fewer buffers, stored where they were. -/
theorem Stocked.mono (h : b.Stocked content)
    (buffers : ∀ id entry, (b'.registry.map .buffer).find? id = some entry →
      (b.registry.map .buffer).find? id = some entry)
    (places : ∀ id entry native, (b'.registry.map .buffer).find? id = some entry →
      b.native? entry.owner = some native → b'.native? entry.owner = some native ∧
        b'.device.stored (native, entry.workspace) = b.device.stored (native, entry.workspace)) :
    b'.Stocked content where
  backed id entry hf := by
    obtain ⟨native, memory, hn, hm, hsize, hbytes⟩ := h.backed id entry (buffers id entry hf)
    obtain ⟨hn', hm'⟩ := places id entry native hf hn
    exact ⟨native, memory, hn', hm'.trans hm, hsize, hbytes⟩
  distinct id id' entry entry' hf hf' :=
    h.distinct id id' entry entry' (buffers id entry hf) (buffers id' entry' hf')

theorem Stocked.congr (h : b.Stocked content) (hs : SameShelf b' b) : b'.Stocked content := by
  have hnative : b'.native? = b.native? := by
    funext id
    unfold native?
    rw [hs.handles]
  refine h.mono (fun id entry hf => ?_) fun id entry native _ hn => ?_
  · rwa [hs.buffers] at hf
  · rw [hnative, hs.stored]
    exact ⟨hn, rfl⟩

theorem Stocked.expect (h : b.Stocked content) {content' : RemoteId → Nat → UInt8}
    (hc : content' = content) : b.Stocked content' := hc ▸ h

/-- A new buffer of zeros at a place that no live buffer has. -/
theorem Stocked.prepare (h : b.Stocked content) {id : RemoteId} {entry : BufferEntry}
    {native : NativeHandle} (hfresh : (b.registry.map .buffer).find? id = none)
    (hbuffers : (b'.registry.map .buffer).find? =
      override (b.registry.map .buffer).find? id (some entry))
    (hhandles : b'.native? = b.native?) (hn : b.native? entry.owner = some native)
    (hstored : b'.device.stored =
      override b.device.stored (native, entry.workspace) (some (.zeros entry.length.toNat)))
    (hplace : ∀ other stored, (b.registry.map .buffer).find? other = some stored →
      stored.workspace ≠ entry.workspace)
    {content' : RemoteId → Nat → UInt8} (hnew : ∀ i, content' id i = 0)
    (hold : ∀ other, other ≠ id → content' other = content other) : b'.Stocked content' := by
  have hcases : ∀ other found, (b'.registry.map .buffer).find? other = some found →
      other = id ∧ found = entry ∨
        other ≠ id ∧ (b.registry.map .buffer).find? other = some found := by
    intro other found hf
    rw [hbuffers] at hf
    by_cases ho : other = id
    · subst ho
      rw [override_self] at hf
      exact .inl ⟨rfl, (Option.some.inj hf).symm⟩
    · rw [override_of_ne _ _ ho] at hf
      exact .inr ⟨ho, hf⟩
  constructor
  · intro other found hf
    rw [hhandles, hstored]
    rcases hcases other found hf with ⟨rfl, rfl⟩ | ⟨ho, hf⟩
    · refine ⟨native, _, hn, override_self _ _ _, rfl, fun i hi => ?_⟩
      simp [hnew, Memory.zeros, Memory.fill, Memory.byte_ofFn]
    · obtain ⟨native', memory, hn', hm, hsize, hbytes⟩ := h.backed other found hf
      have hne : (native', found.workspace) ≠ (native, entry.workspace) :=
        fun heq => hplace other found hf (Prod.mk.inj heq).2
      rw [hold other ho]
      exact ⟨native', memory, hn', (override_of_ne _ _ hne).trans hm, hsize, hbytes⟩
  · intro one two found found' hf hf' hw
    rcases hcases one found hf with ⟨rfl, rfl⟩ | ⟨_, hf⟩ <;>
      rcases hcases two found' hf' with ⟨rfl, rfl⟩ | ⟨_, hf'⟩
    · rfl
    · exact absurd hw.symm (hplace two found' hf')
    · exact absurd hw (hplace one found hf)
    · exact h.distinct one two found found' hf hf' hw

/-- A buffer is written, and every other one has a place of its own. -/
theorem Stocked.write (h : b.Stocked content) {id : RemoteId} {entry : BufferEntry}
    {native : NativeHandle} (hr : b'.registry = b.registry)
    (hf : (b.registry.map .buffer).find? id = some entry)
    (hn : b.native? entry.owner = some native) {offset : Nat} {data : Memory}
    (hstored : b'.device.stored = override b.device.stored (native, entry.workspace)
      ((b.device.stored (native, entry.workspace)).map fun memory => memory.write offset data))
    {content' : RemoteId → Nat → UInt8}
    (hnew : ∀ i < entry.length.toNat, content' id i =
      if offset ≤ i ∧ i < offset + data.size then data.byte (i - offset) else content id i)
    (hold : ∀ other, other ≠ id → content' other = content other) : b'.Stocked content' := by
  have hnative : b'.native? = b.native? := by
    funext other
    unfold native?
    rw [hr]
  constructor
  · intro other found hfound
    rw [hr] at hfound
    rw [hnative, hstored]
    obtain ⟨native', memory, hn', hm, hsize, hbytes⟩ := h.backed other found hfound
    by_cases ho : other = id
    · subst ho
      obtain rfl := Option.some.inj (hf.symm.trans hfound)
      obtain rfl := Option.some.inj (hn.symm.trans hn')
      refine ⟨native, memory.write offset data, hn, ?_, hsize, fun i hi => ?_⟩
      · rw [override_self, hm, Option.map_some]
      · rw [Memory.byte_write _ _ _ (hsize ▸ hi), hnew i hi, hbytes i hi]
    · have hne : (native', found.workspace) ≠ (native, entry.workspace) :=
        fun heq => ho (h.distinct other id found entry hfound hf (Prod.mk.inj heq).2)
      rw [hold other ho]
      exact ⟨native', memory, hn', (override_of_ne _ _ hne).trans hm, hsize, hbytes⟩
  · rw [hr]
    exact h.distinct

end Broker

/-! ## Requests that change buffers -/

open Service

section

variable {b b' : Broker cards} {content : RemoteId → Nat → UInt8} {request : Request}
  {fault : Fault}

theorem stored_of_exec_error {call : DeviceCall} (h : exec (device call) b = (.error fault, b')) :
    b'.registry = b.registry ∧ b'.device.stored = b.device.stored := by
  have hcall := b.device.stored_call call
  rw [exec_device] at h
  obtain ⟨hr, rfl⟩ := Prod.mk.inj h
  refine ⟨rfl, ?_⟩
  generalize b.device.call call = outcome at hr hcall ⊢
  obtain ⟨result, d⟩ := outcome
  subst hr
  exact hcall

theorem stored_of_exec_ok {call : DeviceCall} {value : call.Value}
    (h : exec (device call) b = (.ok value, b')) :
    b'.registry = b.registry ∧ b'.device.stored = call.storing b.device.stored value := by
  have hcall := b.device.stored_call call
  rw [exec_device] at h
  obtain ⟨hr, rfl⟩ := Prod.mk.inj h
  refine ⟨rfl, ?_⟩
  generalize b.device.call call = outcome at hr hcall ⊢
  obtain ⟨result, d⟩ := outcome
  subst hr
  exact hcall

/-- After a request the buffers hold what was expected, stamped by the request. -/
def Restocks (content : RemoteId → Nat → UInt8) (request : Request)
    (outcome : Except Fault request.operation.Value × Broker cards) : Prop :=
  outcome.2.Stocked fun id i =>
    stamp id i (content id i) (request, .ofResult request.operation outcome.1)

theorem restocks_of_stocked_error (h : b'.Stocked content) :
    Restocks content request (.error fault, b') := by
  refine h.expect ?_
  funext id i
  exact stamp_of_error request fault id i _

theorem restocks_of_error (h : b.Stocked content) (hr : b'.registry = b.registry)
    (hs : b'.device.stored = b.device.stored) : Restocks content request (.error fault, b') :=
  restocks_of_stocked_error (h.congr ⟨by rw [hr], by rw [hr], hs⟩)

/-- A request that prepares and writes nothing leaves what is expected as it is. -/
theorem restocks_of_unwritten (hp : request.operation ≠ .prepareBuffer)
    (hw : ∀ id i, request.writes? id i = none)
    {outcome : Except Fault request.operation.Value × Broker cards}
    (h : outcome.2.Stocked content) : Restocks content request outcome := by
  refine h.expect ?_
  funext id i
  exact stamp_eq_self hp (hw id i) _ _

theorem restocks_of_call {cls : ResourceClass} {id : RemoteId} {call : cls.Entry → DeviceCall}
    {next : (entry : cls.Entry) → (call entry).Value → Service request.operation.Value}
    (h : b.Stocked content)
    (hn : ∀ entry value b', (b.registry.map cls).find? id = some entry →
      exec (device (call entry)) b = (.ok value, b') →
      Restocks content request (exec (next entry value) b')) :
    Restocks content request
      (exec (lookup cls id >>= fun entry => device (call entry) >>= next entry) b) := by
  cases hf : (b.registry.map cls).find? id with
  | none =>
    rw [exec_bind_of_error _ (exec_lookup_of_none hf)]
    exact restocks_of_error h rfl rfl
  | some entry =>
    rw [exec_bind_of_ok _ (exec_lookup_of_some hf)]
    cases he : exec (device (call entry)) b with
    | mk result b' =>
      cases result with
      | error fault =>
        obtain ⟨hr, hs⟩ := stored_of_exec_error he
        rw [exec_bind_of_error _ he]
        exact restocks_of_error h hr hs
      | ok value =>
        rw [exec_bind_of_ok _ he]
        exact hn entry value b' hf he

theorem restocks_of_teardown {cls : ResourceClass} {id : RemoteId}
    {destroy : cls.Entry → Service Unit} {next : Unit → Service request.operation.Value}
    (h : b.Stocked content) (hd : ∀ entry, DeviceOnly (destroy entry))
    (herror : ∀ entry fault b', exec (destroy entry) b = (.error fault, b') →
      b'.registry = b.registry ∧ b'.device.stored = b.device.stored)
    (hok : ∀ entry b', (b.registry.map cls).find? id = some entry →
      exec (destroy entry) b = (.ok (), b') →
      Restocks content request (exec (next ()) { b' with
        registry := b.registry.withMap cls ((b.registry.map cls).remove id).2 })) :
    Restocks content request (exec (teardown cls id destroy >>= next) b) := by
  cases hf : (b.registry.map cls).find? id with
  | none =>
    rw [exec_bind_of_error next (exec_teardown_of_none destroy hf)]
    exact restocks_of_error h rfl rfl
  | some entry =>
    rcases exec_teardown_of_some (hd entry) hf with hbusy | hexec
    · rw [exec_bind_of_error next hbusy]
      exact restocks_of_error h rfl rfl
    split at hexec
    · rename_i b' he
      rw [exec_bind_of_ok next hexec]
      exact hok entry b' hf he
    · rename_i fault b' he
      obtain ⟨hr, hs⟩ := herror entry fault b' he
      rw [exec_bind_of_error next hexec]
      exact restocks_of_error h hr hs

/-- A handle that is opened has no buffers, and neither has it if it is closed again. -/
theorem restocks_openHandle {past : List Record} (h : b.Stocked content)
    (hp : Provenance past b.ownership) (tokenId : RemoteId) (flags : UInt32) :
    Restocks content (.openHandle tokenId flags)
      (exec (Request.serve b.payloadLimit (.openHandle tokenId flags)) b) := by
  refine restocks_of_call h fun entry native b' _ he => ?_
  refine restocks_of_unwritten (by exact nofun) (fun _ _ => rfl) ?_
  obtain ⟨-, hclosed, -⟩ := holdings_of_exec_ok he
  obtain ⟨hr, hs⟩ := stored_of_exec_ok he
  have hstocked : b'.Stocked content := h.congr ⟨by rw [hr], by rw [hr], hs⟩
  have hfree : ∀ id, b'.native? id ≠ some native := by
    intro id hn
    have hn : b.ownership.handle id = some native := by
      unfold Broker.native? at hn
      rwa [hr] at hn
    exact absurd ((hp.opened id native hn).symm.trans hclosed) (by simp)
  rw [exec_bind_pure_snd, exec_registerOrUndo]
  have hbuffers : (b'.registry.register .handle ⟨native, tokenId⟩).2.map .buffer =
      b'.registry.map .buffer := Registry.map_register_of_ne _ _ (by decide)
  rcases b'.registry.find?_register .handle ⟨native, tokenId⟩ with
    ⟨id, hid, hfresh, hfind⟩ | ⟨hid, hfind⟩
  · rw [hid]
    refine hstocked.mono (fun other buffer hf => ?_) fun other buffer native' _ hn => ⟨?_, rfl⟩
    · exact hbuffers ▸ hf
    · have hne : buffer.owner ≠ id := by
        intro ho
        rw [ho, Broker.native?, hfresh] at hn
        cases hn
      unfold Broker.native? at hn ⊢
      dsimp only
      rwa [hfind, override_of_ne _ _ hne]
  · rw [hid]
    refine hstocked.mono (fun other buffer hf => ?_) fun other buffer native' _ hn => ⟨?_, ?_⟩
    · exact hbuffers ▸ hf
    · unfold Broker.native? at hn ⊢
      dsimp only
      rwa [hfind]
    · have hcall := b'.device.stored_call (.closeHandle native)
      have hne : native' ≠ native := fun heq => hfree _ (heq ▸ hn)
      generalize b'.device.call (.closeHandle native) = outcome at hcall ⊢
      obtain ⟨_ | value, t⟩ := outcome
      · exact congrFun hcall _
      · exact (congrFun hcall _).trans (if_neg hne)

theorem restocks_closeHandle {past : List Record} (h : b.Stocked content)
    (hp : Provenance past b.ownership) (handleId : RemoteId) :
    Restocks content (.closeHandle handleId)
      (exec (Request.serve b.payloadLimit (.closeHandle handleId)) b) := by
  refine restocks_of_teardown h (fun _ => deviceOnly_device _)
    (fun entry fault b' he => stored_of_exec_error he) fun entry b' hf he => ?_
  refine restocks_of_unwritten (by exact nofun) (fun _ _ => rfl) ?_
  obtain ⟨-, hs⟩ := stored_of_exec_ok he
  -- The three removals together are the registry without the handle and what it owns.
  change Broker.Stocked { b' with registry := b.registry.closed handleId } content
  have hkept : ∀ id (buffer : BufferEntry),
      ((b.registry.closed handleId).map .buffer).find? id = some buffer →
      (b.registry.map .buffer).find? id = some buffer ∧ buffer.owner ≠ handleId := by
    intro id buffer hb
    have hfilter := IdentityMap.find?_removeOwnedBy b.registry.buffers handleId id
    obtain ⟨hlive, hother⟩ := Option.filter_eq_some_iff.mp (hfilter.symm.trans hb)
    exact ⟨hlive, by simpa [ResourceClass.owner?] using hother⟩
  have hhandles : ((b.registry.closed handleId).map .handle).find? =
      override (b.registry.map .handle).find? handleId none :=
    IdentityMap.find?_remove b.registry.handles handleId
  have hlive : b.native? handleId = some entry.handle :=
    congrArg (Option.map HandleEntry.handle) hf
  refine h.mono (fun id buffer hb => (hkept id buffer hb).1) fun id buffer native hb hn => ⟨?_, ?_⟩
  · unfold Broker.native? at hn ⊢
    dsimp only
    rwa [hhandles, override_of_ne _ _ (hkept id buffer hb).2]
  · -- Another handle has another native value.
    have hne : native ≠ entry.handle := by
      rintro rfl
      exact (hkept id buffer hb).2 (hp.distinct _ _ _ hn hlive)
    exact (congrFun hs _).trans (if_neg hne)

theorem restocks_releaseBuffer (h : b.Stocked content) (handleId bufferId : RemoteId) :
    Restocks content (.releaseBuffer handleId bufferId)
      (exec (Request.serve b.payloadLimit (.releaseBuffer handleId bufferId)) b) := by
  cases hh : (b.registry.map .handle).find? handleId with
  | none =>
    have hnone : exec (Request.serve b.payloadLimit (.releaseBuffer handleId bufferId)) b = _ :=
      exec_bind_of_error _ (exec_lookup_of_none hh)
    rw [hnone]
    exact restocks_of_error h rfl rfl
  | some handle =>
  have hserve : exec (Request.serve b.payloadLimit (.releaseBuffer handleId bufferId)) b = _ :=
    (exec_bind_of_ok _ (exec_lookup_of_some hh)).trans (congrArg (exec · b) (bind_pure _).symm)
  rw [hserve]
  refine restocks_of_teardown h (fun _ => deviceOnly_require_bind (deviceOnly_device _))
    (fun buffer fault b' he => ?_) fun buffer b' hf he => ?_
  · rcases exec_require_bind_error he with rfl | he
    · exact ⟨rfl, rfl⟩
    · exact stored_of_exec_error he
  · obtain ⟨ho, he⟩ := exec_require_bind_ok he
    obtain ⟨-, hs⟩ := stored_of_exec_ok he
    refine restocks_of_unwritten (by exact nofun) (fun _ _ => rfl) ?_
    have hkept : ∀ id (other : BufferEntry),
        ((b.registry.withMap .buffer ((b.registry.map .buffer).remove bufferId).2).map
          .buffer).find? id = some other →
        (b.registry.map .buffer).find? id = some other ∧ id ≠ bufferId := by
      intro id other hother
      rw [Registry.map_withMap_self, IdentityMap.find?_remove] at hother
      by_cases hi : id = bufferId
      · rw [hi, override_self] at hother
        cases hother
      · rw [override_of_ne _ _ hi] at hother
        exact ⟨hother, hi⟩
    refine h.mono (fun id other hother => (hkept id other hother).1)
      fun id other native hother hn => ⟨hn, ?_⟩
    -- Another buffer has another workspace number.
    obtain ⟨hlive, hne⟩ := hkept id other hother
    refine (congrFun hs _).trans (override_of_ne _ _ fun heq => hne ?_)
    exact h.distinct id bufferId other buffer hlive hf (Prod.mk.inj heq).2

theorem Simulator.holdings_buffer_eq (s : Simulator cards) (place : NativeHandle × Nat) :
    s.holdings.buffer place = (s.stored place).map Memory.size := by
  unfold holdings stored
  dsimp only
  cases s.handles.find? place.1 with
  | none => rfl
  | some state => simp [Function.comp_def]

/-- A buffer that is prepared gets a place that no buffer has. -/
theorem restocks_prepareBuffer (h : b.Stocked content) (hbounded : b.device.holdings.Bounded)
    (handleId : RemoteId) (length : UInt64) (address : Option UInt64) (flags : UInt32) :
    Restocks content (.prepareBuffer handleId length address flags)
      (exec (Request.serve b.payloadLimit (.prepareBuffer handleId length address flags)) b) := by
  refine restocks_of_call h fun handle prepared b' hf he => ?_
  obtain ⟨-, ⟨-, hnext⟩, -⟩ := holdings_of_exec_ok he
  obtain ⟨hr, hs⟩ := stored_of_exec_ok he
  have hn : b.native? handleId = some handle.handle :=
    congrArg (Option.map HandleEntry.handle) hf
  have hplace : ∀ other buffer, (b.registry.map .buffer).find? other = some buffer →
      buffer.workspace ≠ prepared.workspace := by
    intro other buffer hb heq
    obtain ⟨native, memory, -, hm, -⟩ := h.backed other buffer hb
    have hlt := hbounded.workspace (native, buffer.workspace)
      (by rw [Simulator.holdings_buffer_eq, hm]; rfl)
    exact absurd (heq ▸ hnext ▸ hlt) (Nat.lt_irrefl _)
  have hhandles : (b.registry.register .buffer
      ⟨handleId, length, flags, prepared.workspace, prepared.address⟩).2.map .handle =
      b.registry.map .handle := Registry.map_register_of_ne _ _ (by decide)
  rw [exec_registerOrUndo, hr]
  rcases b.registry.find?_register .buffer
    ⟨handleId, length, flags, prepared.workspace, prepared.address⟩ with
    ⟨id, hid, hfresh, hfind⟩ | ⟨hid, hfind⟩
  · rw [hid]
    refine h.prepare hfresh hfind ?_ hn hs hplace (fun i => ?_) fun other ho => ?_
    · funext other
      exact congrArg (fun m : IdentityMap .handle => (m.find? other).map HandleEntry.handle)
        hhandles
    · exact if_pos rfl
    · funext i
      refine (if_neg fun heq => ho ?_).trans (if_pos rfl)
      cases heq
      rfl
  · rw [hid]
    refine restocks_of_stocked_error
      (h.mono (fun other buffer hb => ?_) fun other buffer native hb hnative => ⟨?_, ?_⟩)
    · exact (congrFun hfind other).symm.trans hb
    · exact (congrArg (fun m : IdentityMap .handle =>
        (m.find? buffer.owner).map HandleEntry.handle) hhandles).trans hnative
    · have hcall := b'.device.stored_call (.releaseBuffer handle.handle prepared.workspace)
      have hne : (native, buffer.workspace) ≠ (handle.handle, prepared.workspace) := fun heq =>
        hplace other buffer ((congrFun hfind other).symm.trans hb) (Prod.mk.inj heq).2
      have hprepared := (congrFun hs (native, buffer.workspace)).trans (override_of_ne _ _ hne)
      generalize b'.device.call (.releaseBuffer handle.handle prepared.workspace) = outcome
        at hcall ⊢
      obtain ⟨_ | value, t⟩ := outcome
      · exact (congrFun hcall _).trans hprepared
      · exact (congrFun hcall _).trans ((override_of_ne _ _ hne).trans hprepared)

/-- A request that goes on with a buffer of a handle does nothing without it. -/
theorem restocks_of_owned {handleId bufferId : RemoteId}
    {next : HandleEntry → BufferEntry → Service request.operation.Value} (h : b.Stocked content)
    (hn : ∀ handle buffer, (b.registry.map .buffer).find? bufferId = some buffer →
      b.native? buffer.owner = some handle.handle →
      Restocks content request (exec (next handle buffer) b)) :
    Restocks content request (exec (lookup .handle handleId >>= fun handle =>
      lookupOwned .buffer bufferId handleId >>= next handle) b) := by
  cases hh : (b.registry.map .handle).find? handleId with
  | none =>
    rw [exec_bind_of_error _ (exec_lookup_of_none hh)]
    exact restocks_of_error h rfl rfl
  | some handle =>
  have howned := exec_lookupOwned .buffer bufferId handleId b
  rw [exec_bind_of_ok _ (exec_lookup_of_some hh)]
  cases hf : (b.registry.map .buffer).find? bufferId with
  | none =>
    rw [hf] at howned
    rw [exec_bind_of_error _ howned]
    exact restocks_of_error h rfl rfl
  | some buffer =>
    rw [hf] at howned
    dsimp only at howned
    split at howned
    · rename_i ho
      obtain rfl : buffer.owner = handleId := Option.some.inj ho
      rw [exec_bind_of_ok _ howned]
      exact hn handle buffer hf (congrArg (Option.map HandleEntry.handle) hh)
    · rw [exec_bind_of_error _ howned]
      exact restocks_of_error h rfl rfl

theorem restocks_of_require {condition : Bool} {next : Unit → Service request.operation.Value}
    (h : b.Stocked content)
    (hn : condition = true → Restocks content request (exec (next ()) b)) :
    Restocks content request (exec (require condition fault >>= next) b) := by
  rw [exec_require_bind]
  split
  · rename_i hc
    exact hn hc
  · exact restocks_of_error h rfl rfl

theorem restocks_of_range {handleId bufferId : RemoteId} {offset count : UInt64}
    {next : HandleEntry × BufferEntry → Service request.operation.Value} (h : b.Stocked content)
    (hn : ∀ handle buffer, (b.registry.map .buffer).find? bufferId = some buffer →
      b.native? buffer.owner = some handle.handle →
      Restocks content request (exec (next (handle, buffer)) b)) :
    Restocks content request
      (exec (bufferRange handleId bufferId offset count >>= next) b) := by
  have hrange : bufferRange handleId bufferId offset count >>= next =
      lookup .handle handleId >>= fun handle => lookupOwned .buffer bufferId handleId >>=
        fun buffer => require (buffer.covers offset count) .invalidParam >>=
          fun _ => next (handle, buffer) := by
    simp only [bufferRange, bind_assoc, pure_bind]
  rw [hrange]
  exact restocks_of_owned h fun handle buffer hf hnative =>
    restocks_of_require h fun _ => hn handle buffer hf hnative

/-- Writing to a buffer of which all that is expected is that the bytes written are there. -/
theorem restocks_of_write {bufferId : RemoteId} {handle : HandleEntry} {buffer : BufferEntry}
    (h : b.Stocked content) (hf : (b.registry.map .buffer).find? bufferId = some buffer)
    (hn : b.native? buffer.owner = some handle.handle) {offset : UInt64} {data : Memory}
    {s : Service request.operation.Value} (hop : request.operation ≠ .prepareBuffer)
    (herror : ∀ fault b', exec (device
      (.bufferWrite handle.handle buffer.workspace offset data)) b = (.error fault, b') →
      exec s b = (.error fault, b'))
    (hok : ∀ b', exec (device
      (.bufferWrite handle.handle buffer.workspace offset data)) b = (.ok (), b') →
      ∃ value, exec s b = (.ok value, b'))
    (hwrites : ∀ i < buffer.length.toNat, request.writes? bufferId i =
      if offset.toNat ≤ i ∧ i < offset.toNat + data.size then some (data.byte (i - offset.toNat))
      else none)
    (hothers : ∀ other, other ≠ bufferId → ∀ i, request.writes? other i = none) :
    Restocks content request (exec s b) := by
  cases he : exec (device (.bufferWrite handle.handle buffer.workspace offset data)) b with
  | mk result b' =>
    cases result with
    | error fault =>
      obtain ⟨hr, hs⟩ := stored_of_exec_error he
      rw [herror fault b' he]
      exact restocks_of_error h hr hs
    | ok value =>
      obtain ⟨hr, hs⟩ := stored_of_exec_ok he
      obtain ⟨value, hexec⟩ := hok b' he
      rw [hexec]
      refine h.write hr hf hn hs (fun i hi => ?_) fun other ho => ?_
      · rw [stamp_of_ok hop, hwrites i hi]
        split <;> rfl
      · funext i
        rw [stamp_of_ok hop, hothers other ho i]
        rfl

theorem restocks_bufferFill (h : b.Stocked content) (handleId bufferId : RemoteId)
    (offset : UInt64) (byte : UInt8) (count : UInt64) :
    Restocks content (.bufferFill handleId bufferId offset byte count)
      (exec (Request.serve b.payloadLimit (.bufferFill handleId bufferId offset byte count))
        b) := by
  refine restocks_of_range h fun handle buffer hf hn => ?_
  refine restocks_of_write h hf hn (by exact nofun) (fun _ _ he => he) (fun _ he => ⟨(), he⟩)
    (fun i _ => ?_) fun other ho i => if_neg fun hw => ho hw.1.symm
  simp only [Request.writes?, Memory.size_fill, true_and]
  by_cases hi : offset.toNat ≤ i ∧ i < offset.toNat + count.toNat
  · have hlt : i - offset.toNat < count.toNat := by omega
    simp [hi, Memory.fill, Memory.byte_ofFn, hlt]
  · simp only [hi, if_false]

theorem restocks_bufferWrite (h : b.Stocked content) (handleId bufferId : RemoteId)
    (offset : UInt64) (source : List UInt8) (count : UInt64) :
    Restocks content (.bufferWrite handleId bufferId offset source count)
      (exec (Request.serve b.payloadLimit
        (.bufferWrite handleId bufferId offset source count)) b) := by
  refine restocks_of_require h fun _ => restocks_of_require h fun hlength => ?_
  refine restocks_of_range h fun handle buffer hf hn => ?_
  refine restocks_of_write h hf hn (by exact nofun) (fun _ _ he => he) (fun _ he => ⟨(), he⟩)
    (fun i _ => ?_) fun other ho i => if_neg fun hw => ho hw.1.symm
  have hsize := List.length_take_of_le (of_decide_eq_true hlength)
  simp only [Request.writes?, Memory.size_ofList, hsize, true_and]
  by_cases hi : offset.toNat ≤ i ∧ i < offset.toNat + count.toNat
  · have hlt : i - offset.toNat < count.toNat := by omega
    rw [if_pos hi, if_pos hi, ← Memory.byte_ofList (hsize.symm ▸ hlt),
      List.getElem?_take_of_lt hlt]
  · simp only [hi, if_false]

theorem restocks_bufferPattern (h : b.Stocked content) (handleId bufferId : RemoteId)
    (name : String) :
    Restocks content (.bufferPattern handleId bufferId name)
      (exec (Request.serve b.payloadLimit (.bufferPattern handleId bufferId name)) b) := by
  refine restocks_of_owned h fun handle buffer hf hn => ?_
  cases hname : FillPattern.ofName? name with
  | none => exact restocks_of_error h rfl rfl
  | some pattern =>
    refine restocks_of_write h hf hn (by exact nofun) (fun _ _ he => he) (fun _ he => ⟨(), he⟩)
      (fun i hi => ?_) fun other ho i => if_neg fun hw => ho hw.symm
    simp only [Request.writes?, FillPattern.repeated?_eq, hname, if_true, Option.map_some,
      Option.bind_some, pattern.cycle_getElem?]
    simp [FillPattern.fill, Memory.byte_ofFn, hi]

/-- Every request leaves in the buffers what a client then expects. -/
theorem Request.restocks {past : List Record} (h : b.Stocked content)
    (hp : Provenance past b.ownership) (hbounded : b.device.holdings.Bounded) (request : Request) :
    (b.handle request).2.Stocked fun id i =>
      stamp id i (content id i) (request, (b.handle request).1) := by
  by_cases ho : request.operation.restocks = false
  · refine (h.congr (b.sameShelf_handle ho)).expect ?_
    funext id i
    rw [Broker.handle_eq]
    cases request with
    | openHandle | closeHandle | prepareBuffer | releaseBuffer | bufferFill | bufferWrite
    | bufferPattern => cases ho
    | _ => exact stamp_eq_self (by exact nofun) rfl _ _
  rw [Broker.handle_eq]
  cases request with
  | openHandle tokenId flags => exact restocks_openHandle h hp tokenId flags
  | closeHandle handleId => exact restocks_closeHandle h hp handleId
  | prepareBuffer handleId length address flags =>
    exact restocks_prepareBuffer h hbounded handleId length address flags
  | releaseBuffer handleId bufferId => exact restocks_releaseBuffer h handleId bufferId
  | bufferFill handleId bufferId offset byte count =>
    exact restocks_bufferFill h handleId bufferId offset byte count
  | bufferWrite handleId bufferId offset source count =>
    exact restocks_bufferWrite h handleId bufferId offset source count
  | bufferPattern handleId bufferId name => exact restocks_bufferPattern h handleId bufferId name
  | _ => exact absurd rfl ho

end

end DeviceBroker
