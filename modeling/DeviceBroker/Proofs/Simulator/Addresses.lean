import DeviceBroker.Proofs.Simulator.Occupancy

/-!
# Where buffers lie

A buffer is given two ranges of addresses, one for the device and one for the
program, and both start at a place that its workspace number determines,
unless the caller supplied the second one. The stretch of a workspace is as
long as the largest buffer and the numbers are never given out twice, so the
ranges of different buffers do not meet: not even when one buffer has long been
released or its handle has been closed and its value given out again.
`Laid` is the invariant behind this. It ties the live buffers to a record of
all that were ever prepared, which is kept from the outside by the answers of
the driver.
-/

namespace DeviceBroker

variable {cards : Nat}

/-- A range of addresses: where it begins, and how many addresses it has. -/
@[ext] structure Span where
  first : UInt64
  count : Nat
  deriving DecidableEq, Repr

namespace Span

def Contains (span : Span) (address : Nat) : Prop :=
  span.first.toNat ≤ address ∧ address < span.first.toNat + span.count

/-- The range ends before the addresses do. -/
def Fits (span : Span) : Prop := span.first.toNat + span.count ≤ UInt64.size

/-- No address is in both ranges. -/
def Apart (one two : Span) : Prop := ∀ address, ¬ (one.Contains address ∧ two.Contains address)

/-- Ranges that begin a whole stride apart do not meet if none is longer than a stride. -/
theorem apart_of_strides {one two : Span} {base stride i j : Nat} (hij : i ≠ j)
    (hone : one.first.toNat = base + i * stride) (htwo : two.first.toNat = base + j * stride)
    (hi : one.count ≤ stride) (hj : two.count ≤ stride) : one.Apart two := by
  rintro address ⟨⟨hlow, hhigh⟩, hlow', hhigh'⟩
  rw [hone] at hlow hhigh
  rw [htwo] at hlow' hhigh'
  rcases Nat.lt_or_gt_of_ne hij with h | h
  · have := Nat.mul_le_mul_right stride (Nat.succ_le_of_lt h)
    rw [Nat.succ_mul] at this
    omega
  · have := Nat.mul_le_mul_right stride (Nat.succ_le_of_lt h)
    rw [Nat.succ_mul] at this
    omega

/-- A range that is not empty shares its first address with one that begins there too. -/
theorem Apart.first_ne {one two : Span} (h : one.Apart two) (hone : 0 < one.count)
    (htwo : 0 < two.count) : one.first ≠ two.first := by
  intro heq
  refine h one.first.toNat ⟨⟨Nat.le_refl _, by omega⟩, ?_⟩
  rw [heq]
  exact ⟨Nat.le_refl _, by omega⟩

end Span

/-- The addresses at which the program finds a buffer. -/
def Buffer.span (buffer : Buffer) : Span := ⟨buffer.address, buffer.data.size⟩

/-- The addresses at which the device finds a buffer. -/
def Buffer.ioSpan (buffer : Buffer) : Span := ⟨buffer.ioAddress, buffer.data.size⟩

/-- A buffer that a driver has prepared. -/
@[ext] structure Preparation where
  handle : NativeHandle
  workspace : Nat
  length : UInt64
  /-- Whether the caller supplied the address. -/
  preallocated : Bool
  deriving DecidableEq, Repr

namespace Preparation

def place (p : Preparation) : NativeHandle × Nat := (p.handle, p.workspace)

/-- The addresses that the driver chooses for the program. -/
def span (p : Preparation) : Span :=
  ⟨Simulator.virtualBase + Simulator.workspaceOffset p.workspace, p.length.toNat⟩

/-- The addresses that the driver chooses for the device. -/
def ioSpan (p : Preparation) : Span :=
  ⟨Simulator.ioBase + Simulator.workspaceOffset p.workspace, p.length.toNat⟩

end Preparation

theorem Holdings.nextWorkspace_foldl_track (tokens : List NativeToken) (h : Holdings) :
    (tokens.foldl Holdings.track h).nextWorkspace = h.nextWorkspace := by
  induction tokens generalizing h with
  | nil => rfl
  | cons token rest ih => exact ih (h.track token)

namespace Simulator

variable {s t : Simulator cards}

/-! ## Addresses of a workspace -/

theorem toNat_workspaceOffset {workspace : Nat} (h : workspace < 2 ^ 36) :
    (workspaceOffset workspace).toNat = workspace * 2 ^ 26 := by
  have hword : (UInt64.ofNat workspace).toNat = workspace :=
    UInt64.toNat_ofNat_of_lt (by rw [UInt64.size]; omega)
  rw [workspaceOffset, UInt64.toNat_shiftLeft, hword]
  change workspace <<< 26 % 2 ^ 64 = _
  rw [Nat.shiftLeft_eq]
  omega

/-- Addresses of a workspace do not wrap, from either base. -/
theorem toNat_add_workspaceOffset {base : UInt64} {workspace : Nat} (hbase : base.toNat < 2 ^ 63)
    (h : workspace < 2 ^ 36) :
    (base + workspaceOffset workspace).toNat = base.toNat + workspace * 2 ^ 26 := by
  rw [UInt64.toNat_add, toNat_workspaceOffset h]
  omega

/-! ## What a call does to the live buffers -/

/-- The buffer with a workspace number that a handle has. -/
def bufferAt (s : Simulator cards) (place : NativeHandle × Nat) : Option Buffer :=
  (s.handles.find? place.1).bind fun state => state.buffers.find? place.2

theorem bufferOf_eq_ok_iff {handle : NativeHandle} {workspace : Nat} {buffer : Buffer} :
    s.bufferOf handle workspace = .ok buffer ↔ s.bufferAt (handle, workspace) = some buffer := by
  unfold bufferOf handleOf bufferAt
  dsimp only
  cases s.handles.find? handle with
  | none => simp
  | some state => cases hb : state.buffers.find? workspace <;> simp [hb]

/-- Changing one buffer of an open handle changes what is at one place. -/
theorem bufferAt_changeBuffers {handle : NativeHandle} {state : OpenHandle cards}
    (hf : s.handles.find? handle = some state) (change : Table Nat Buffer → Table Nat Buffer)
    (workspace : Nat) (buffer? : Option Buffer)
    (hc : ∀ other, (change state.buffers).find? other =
      if other = workspace then buffer? else state.buffers.find? other) :
    (s.changeBuffers handle change).bufferAt =
      override s.bufferAt (handle, workspace) buffer? := by
  funext place
  obtain ⟨owner, other⟩ := place
  simp only [bufferAt, changeBuffers, Table.find?_modify]
  by_cases ho : owner = handle
  · subst ho
    by_cases hw : other = workspace
    · subst hw
      simp [hf, hc]
    · simp [hf, hc, hw, override, bufferAt]
  · simp [ho, override, bufferAt]

/-- Where a buffer lies, for the program and for the device. -/
def spansAt (s : Simulator cards) (place : NativeHandle × Nat) : Option (Span × Span) :=
  (s.bufferAt place).map fun buffer => (buffer.span, buffer.ioSpan)

/-- No buffer has come or has moved; some may have gone. -/
def Keeps (s t : Simulator cards) : Prop :=
  ∀ place spans, t.spansAt place = some spans → s.spansAt place = some spans

theorem Keeps.refl (s : Simulator cards) : s.Keeps s := fun _ _ h => h

theorem keeps_of_handles (h : t.handles = s.handles) : s.Keeps t := by
  intro place spans hspans
  rw [spansAt, bufferAt, h] at hspans
  exact hspans

theorem keeps_setMapped (s : Simulator cards) (handle : NativeHandle) (region : UInt32)
    (mapped : Bool) : s.Keeps (s.setMapped handle region mapped) := by
  intro place spans hspans
  simp only [spansAt, bufferAt, setMapped, Table.find?_modify] at hspans ⊢
  by_cases hp : place.1 = handle
  · cases hf : s.handles.find? place.1 <;> simp_all
  · simpa [hp] using hspans

theorem keeps_of_openHandle {token : NativeToken} {flags : UInt32} {handle : NativeHandle}
    (h : s.openHandle token flags = .ok (handle, t)) : s.Keeps t := by
  obtain ⟨site, -, -, rfl⟩ := openHandle_ok h
  intro place spans hspans
  simp only [spansAt, bufferAt, Table.find?_insert] at hspans ⊢
  by_cases hp : place.1 = handleAt s.freeSlot
  · simp [hp] at hspans
  · simpa [hp] using hspans

theorem keeps_of_closeHandle {handle : NativeHandle} {value : Unit}
    (h : s.closeHandle handle = .ok (value, t)) : s.Keeps t := by
  obtain ⟨closed, -, rfl⟩ := closeHandle_ok h
  intro place spans hspans
  simp only [spansAt, bufferAt, updateResource, Table.find?_erase] at hspans ⊢
  by_cases hp : place.1 = handle
  · simp [hp] at hspans
  · simpa [hp] using hspans

theorem keeps_of_releaseBuffer {handle : NativeHandle} {workspace : Nat} {value : Unit}
    (h : s.releaseBuffer handle workspace = .ok (value, t)) : s.Keeps t := by
  obtain ⟨⟨state, hs⟩, rfl⟩ := releaseBuffer_ok h
  intro place spans hspans
  rw [spansAt, bufferAt_changeBuffers hs _ _ none fun other => Table.find?_erase _ _ _] at hspans
  by_cases hp : place = (handle, workspace)
  · simp [hp] at hspans
  · rwa [override_of_ne _ _ hp] at hspans

theorem keeps_of_writeBuffer {handle : NativeHandle} {workspace : Nat} {offset : UInt64}
    {data : Memory} {value : Unit}
    (h : s.writeBuffer handle workspace offset data = .ok (value, t)) : s.Keeps t := by
  obtain ⟨state, buffer, hs, hb, rfl⟩ := writeBuffer_ok h
  intro place spans hspans
  rw [spansAt, bufferAt_changeBuffers hs _ workspace
    (some { buffer with data := buffer.data.write offset.toNat data }) fun other => ?_] at hspans
  · by_cases hp : place = (handle, workspace)
    · subst hp
      rw [override_self] at hspans
      rw [spansAt, bufferAt, hs]
      exact (congrArg (Option.map _) hb).trans hspans
    · rwa [override_of_ne _ _ hp] at hspans
  · rw [Table.find?_modify]
    by_cases ho : other = workspace
    · subst ho
      simp [hb]
    · simp [ho]

/-- A buffer of an admitted length is set up at the next workspace. -/
def Sets (s t : Simulator cards) (p : Preparation) : Prop :=
  p.workspace = s.nextWorkspace ∧ 0 < p.length.toNat ∧ p.length ≤ maxBufferBytes ∧
    t.nextWorkspace = s.nextWorkspace + 1 ∧
    ∃ span : Span, span.count = p.length.toNat ∧ (p.preallocated = false → span = p.span) ∧
      t.spansAt = override s.spansAt p.place (some (span, p.ioSpan))

/-- The preparation that an answer to a call tells of. -/
def preparation? : (call : DeviceCall) → Except Fault call.Value → Option Preparation
  | .prepareBuffer handle length _ flags, .ok prepared =>
    some ⟨handle, prepared.workspace, length, Flags.has flags Flags.preallocated⟩
  | _, _ => none

theorem sets_of_prepareBuffer {handle : NativeHandle} {length : UInt64} {address : Option UInt64}
    {flags : UInt32} {prepared : PreparedBuffer}
    (h : s.prepareBuffer handle length address flags = .ok (prepared, t)) :
    s.Sets t ⟨handle, prepared.workspace, length, Flags.has flags Flags.preallocated⟩ := by
  unfold prepareBuffer at h
  split at h
  · cases h
  rename_i hpositive
  split at h
  · cases h
  rename_i hflag
  split at h
  · cases h
  rename_i hlength
  split at h
  · cases h
  rename_i state hs
  cases h
  refine ⟨rfl, ?_, UInt64.not_lt.mp hlength, rfl,
    ⟨address.getD (virtualBase + workspaceOffset s.nextWorkspace), length.toNat⟩, rfl, ?_, ?_⟩
  · exact Nat.pos_of_ne_zero fun h0 => hpositive (UInt64.toNat_inj.mp h0)
  · intro hchosen
    have hflag' : Flags.has flags Flags.preallocated = address.isSome := by simpa using hflag
    cases address with
    | none => rfl
    | some supplied => exact absurd (hflag'.symm.trans hchosen) Bool.noConfusion
  · have hbuffers := bufferAt_changeBuffers (s := { s with nextWorkspace := s.nextWorkspace + 1 })
      (find?_of_handleOf hs) (fun buffers => buffers.insert s.nextWorkspace _) s.nextWorkspace _
      fun other => state.buffers.find?_insert s.nextWorkspace other
        ⟨.zeros length.toNat, address.getD (virtualBase + workspaceOffset s.nextWorkspace),
          ioBase + workspaceOffset s.nextWorkspace⟩
    funext place
    rw [spansAt, hbuffers]
    by_cases hp : place = (handle, s.nextWorkspace)
    · rw [hp, override_self, Preparation.place, override_self]
      rfl
    · rw [override_of_ne _ _ hp, Preparation.place, override_of_ne _ _ hp]
      rfl

theorem keeps_commit {α : Type} {result : Except Fault (α × Simulator cards)}
    (h : ∀ value t, result = .ok (value, t) → s.Keeps t) : s.Keeps (s.commit result).2 :=
  commit_preserves (Keeps.refl s) h

theorem keeps_serve (s : Simulator cards) {call : DeviceCall}
    (h : preparation? call (s.serve call).1 = none) : s.Keeps (s.serve call).2 := by
  cases ht : call.touchesHandle with
  | false => exact keeps_of_handles (s.handles_serve ht)
  | true =>
  cases call with
  | openHandle => exact keeps_commit fun _ _ => keeps_of_openHandle
  | closeHandle => exact keeps_commit fun _ _ => keeps_of_closeHandle
  | mapMmio handle region =>
    refine keeps_commit fun _ _ h => ?_
    obtain ⟨-, rfl⟩ := mapMmio_ok h
    exact s.keeps_setMapped handle region true
  | unmapMmio handle region =>
    refine keeps_commit fun _ _ h => ?_
    obtain ⟨-, rfl⟩ := unmapMmio_ok h
    exact s.keeps_setMapped handle region false
  | prepareBuffer handle length address flags =>
    rw [serve] at h ⊢
    cases hp : s.prepareBuffer handle length address flags with
    | error fault => exact Keeps.refl s
    | ok outcome =>
      rw [hp] at h
      cases h
  | releaseBuffer => exact keeps_commit fun _ _ => keeps_of_releaseBuffer
  | bufferWrite => exact keeps_commit fun _ _ => keeps_of_writeBuffer
  | _ => cases ht

/-- A call that does not tell of a new buffer sets none up and moves none. -/
theorem keeps_call (s : Simulator cards) {call : DeviceCall}
    (h : preparation? call (s.call call).1 = none) :
    s.Keeps (s.call call).2 ∧ (s.call call).2.nextWorkspace = s.nextWorkspace := by
  constructor
  · cases ha : s.armed call.kind with
    | some fault =>
      rw [call_of_armed ha]
      exact keeps_of_handles rfl
    | none =>
      rw [call_of_unarmed ha] at h ⊢
      exact s.keeps_serve h
  · have hserves := s.serves_call call
    generalize s.call call = outcome at h hserves ⊢
    obtain ⟨fault | value, t⟩ := outcome
    · exact congrArg Holdings.nextWorkspace (show t.holdings = s.holdings from hserves)
    · refine (congrArg Holdings.nextWorkspace hserves.2).trans ?_
      cases call with
      | prepareBuffer => cases h
      | enumerate => exact Holdings.nextWorkspace_foldl_track _ _
      | getProperties | updateProperties | getHandleProperties =>
        rw [Holdings.after]
        cases value.parent <;> rfl
      | _ => rfl

theorem sets_serve (s : Simulator cards) {call : DeviceCall} {p : Preparation}
    (h : preparation? call (s.serve call).1 = some p) : s.Sets (s.serve call).2 p := by
  cases call with
  | prepareBuffer handle length address flags =>
    rw [serve] at h ⊢
    cases hp : s.prepareBuffer handle length address flags with
    | error fault =>
      rw [hp] at h
      cases h
    | ok outcome =>
      rw [hp] at h
      cases h
      exact sets_of_prepareBuffer hp
  | _ => cases h

/-- A call that tells of a new buffer sets it up. -/
theorem sets_call (s : Simulator cards) {call : DeviceCall} {p : Preparation}
    (h : preparation? call (s.call call).1 = some p) : s.Sets (s.call call).2 p := by
  cases ha : s.armed call.kind with
  | some fault =>
    rw [call_of_armed ha] at h
    cases call <;> cases h
  | none =>
    rw [call_of_unarmed ha] at h ⊢
    exact s.sets_serve h

/-! ## Runs -/

/-- The buffer that a move sets up, by the answer of the driver. -/
def prepared (s : Simulator cards) : Move → Option Preparation
  | .call call => preparation? call (s.call call).1
  | .disturb _ => none

/-- Every buffer that a run sets up, in the order in which they are set up. -/
def preparations (s : Simulator cards) : List Move → List Preparation
  | [] => []
  | m :: rest => (s.prepared m).toList ++ (s.move m).preparations rest

/-- The live buffers lie where they were set up, and workspaces are numbered through. -/
structure Laid (s : Simulator cards) (record : List Preparation) : Prop where
  next : s.nextWorkspace = record.length + 1
  numbered : record.map Preparation.workspace = List.range' 1 record.length
  admitted : ∀ p ∈ record, 0 < p.length.toNat ∧ p.length ≤ maxBufferBytes
  live : ∀ place spans, s.spansAt place = some spans → ∃ p ∈ record, p.place = place ∧
    spans.1.count = p.length.toNat ∧ (p.preallocated = false → spans.1 = p.span) ∧
      spans.2 = p.ioSpan

variable {record : List Preparation}

theorem Laid.keeps (h : s.Laid record) (hkeeps : s.Keeps t)
    (hnext : t.nextWorkspace = s.nextWorkspace) : t.Laid record where
  next := hnext.trans h.next
  numbered := h.numbered
  admitted := h.admitted
  live place spans hspans := h.live place spans (hkeeps place spans hspans)

theorem Laid.sets (h : s.Laid record) {p : Preparation} (hsets : s.Sets t p) :
    t.Laid (record ++ [p]) := by
  obtain ⟨hworkspace, hpositive, hlength, hnext, span, hcount, hchosen, hspans⟩ := hsets
  refine ⟨?_, ?_, ?_, ?_⟩
  · rw [hnext, h.next, List.length_append, List.length_singleton]
  · rw [List.map_append, h.numbered, List.length_append, List.map_singleton, hworkspace, h.next,
      List.length_singleton, List.range'_concat, Nat.one_mul, Nat.add_comm 1]
  · intro q hq
    rcases List.mem_append.mp hq with hq | hq
    · exact h.admitted q hq
    · rw [List.mem_singleton.mp hq]
      exact ⟨hpositive, hlength⟩
  · intro place spans hlive
    rw [hspans] at hlive
    by_cases hp : place = p.place
    · rw [hp, override_self] at hlive
      cases hlive
      exact ⟨p, List.mem_append_right _ List.mem_cons_self, hp.symm, hcount, hchosen, rfl⟩
    · rw [override_of_ne _ _ hp] at hlive
      obtain ⟨q, hq, hdescribes⟩ := h.live place spans hlive
      exact ⟨q, List.mem_append_left _ hq, hdescribes⟩

theorem handles_disturb (s : Simulator cards) (d : Disturbance) :
    (s.disturb d).handles = s.handles ∧ (s.disturb d).nextWorkspace = s.nextWorkspace := by
  cases d with
  | arm | recycle => exact ⟨rfl, rfl⟩
  | raise token number bits =>
    obtain ⟨resources, hraised⟩ := s.retouches_raiseError token number bits
    rw [disturb, hraised]
    exact ⟨rfl, rfl⟩

theorem Laid.move (h : s.Laid record) (m : Move) :
    (s.move m).Laid (record ++ (s.prepared m).toList) := by
  cases m with
  | disturb d =>
    obtain ⟨hhandles, hnext⟩ := s.handles_disturb d
    rw [prepared, Option.toList_none, List.append_nil]
    exact h.keeps (keeps_of_handles hhandles) hnext
  | call call =>
    cases hp : preparation? call (s.call call).1 with
    | none =>
      rw [prepared, hp, Option.toList_none, List.append_nil]
      obtain ⟨hkeeps, hnext⟩ := s.keeps_call hp
      exact h.keeps hkeeps hnext
    | some p =>
      rw [prepared, hp, Option.toList_some]
      exact h.sets (s.sets_call hp)

theorem Laid.run (h : s.Laid record) (moves : List Move) :
    (s.run moves).Laid (record ++ s.preparations moves) := by
  induction moves generalizing s record with
  | nil => rwa [preparations, List.append_nil]
  | cons m rest ih =>
    rw [preparations, ← List.append_assoc]
    exact ih (h.move m)

theorem laid_start (cards : Nat) (images : String → Option (List UInt8)) :
    (start cards images).Laid [] where
  next := rfl
  numbered := rfl
  admitted _ hp := by cases hp
  live _ _ hlive := by cases hlive

/-! ## Live buffers do not meet -/

/-- No two live buffers share an address. -/
structure BuffersApart (s : Simulator cards) (record : List Preparation) : Prop where
  /-- A live buffer has one preparation on record, and the length that was asked for. -/
  recorded : ∀ place buffer, s.bufferAt place = some buffer → ∃ p ∈ record,
    p.place = place ∧ buffer.data.size = p.length.toNat ∧ ∀ q ∈ record, q.place = place → q = p
  ioFits : ∀ place buffer, s.bufferAt place = some buffer → buffer.ioSpan.Fits
  ioApart : ∀ one two a b, one ≠ two → s.bufferAt one = some a → s.bufferAt two = some b →
    a.ioSpan.Apart b.ioSpan
  /-- So it is for the program, with the buffers whose address the driver chose. -/
  fits : ∀ p ∈ record, p.preallocated = false → ∀ buffer, s.bufferAt p.place = some buffer →
    buffer.span.Fits
  apart : ∀ p ∈ record, ∀ q ∈ record, p.preallocated = false → q.preallocated = false →
    p.place ≠ q.place → ∀ a b, s.bufferAt p.place = some a → s.bufferAt q.place = some b →
      a.span.Apart b.span
  /-- A live buffer has an address for the device, -/
  answered : ∀ handle workspace buffer, s.bufferAt (handle, workspace) = some buffer →
    s.armed .getIoAddress = none →
      (s.call (.getIoAddress handle workspace)).1 = .ok buffer.ioAddress
  /-- and no two have the same. -/
  distinct : ∀ handle workspace handle' workspace' address address',
    (s.call (.getIoAddress handle workspace)).1 = .ok address →
      (s.call (.getIoAddress handle' workspace')).1 = .ok address' →
        (handle, workspace) ≠ (handle', workspace') → address ≠ address'

/-- Workspaces are numbered through, so a record has one entry for each. -/
theorem Laid.eq_of_workspace (h : s.Laid record) {p q : Preparation} (hp : p ∈ record)
    (hq : q ∈ record) (heq : p.workspace = q.workspace) : p = q := by
  have hnodup : (record.map Preparation.workspace).Nodup := by
    rw [h.numbered]
    exact List.nodup_range'
  exact List.inj_on_of_nodup_map hnodup hp hq heq

theorem Laid.workspace_lt (h : s.Laid record) (few : record.length < 2 ^ 36) {p : Preparation}
    (hp : p ∈ record) : p.workspace < 2 ^ 36 := by
  have hmem : p.workspace ∈ record.map Preparation.workspace := List.mem_map_of_mem hp
  rw [h.numbered, List.mem_range'_1] at hmem
  omega

theorem Laid.length_le (h : s.Laid record) {p : Preparation} (hp : p ∈ record) :
    p.length.toNat ≤ 2 ^ 26 :=
  UInt64.le_iff_toNat_le.mp (h.admitted p hp).2

section

variable {base : UInt64} (h : s.Laid record) (few : record.length < 2 ^ 36)
  (hbase : base.toNat < 2 ^ 63) {p q : Preparation} (hp : p ∈ record) (hq : q ∈ record)

include h few hbase hp

theorem Laid.fits : (Span.mk (base + workspaceOffset p.workspace) p.length.toNat).Fits := by
  have hworkspace := h.workspace_lt few hp
  have hlength := h.length_le hp
  change (base + workspaceOffset p.workspace).toNat + p.length.toNat ≤ 2 ^ 64
  rw [toNat_add_workspaceOffset hbase hworkspace]
  omega

include hq

theorem Laid.apart (hne : p ≠ q) :
    (Span.mk (base + workspaceOffset p.workspace) p.length.toNat).Apart
      ⟨base + workspaceOffset q.workspace, q.length.toNat⟩ :=
  Span.apart_of_strides (fun heq => hne (h.eq_of_workspace hp hq heq))
    (toNat_add_workspaceOffset hbase (h.workspace_lt few hp))
    (toNat_add_workspaceOffset hbase (h.workspace_lt few hq)) (h.length_le hp) (h.length_le hq)

end

/-- A live buffer lies where its one preparation put it. -/
theorem Laid.bufferAt (h : s.Laid record) {place : NativeHandle × Nat} {buffer : Buffer}
    (hlive : s.bufferAt place = some buffer) :
    ∃ p ∈ record, p.place = place ∧ buffer.data.size = p.length.toNat ∧
      (p.preallocated = false → buffer.span = p.span) ∧ buffer.ioSpan = p.ioSpan :=
  h.live place (buffer.span, buffer.ioSpan) (by rw [spansAt, hlive]; rfl)

theorem bufferAt_of_getIoAddress {handle : NativeHandle} {workspace : Nat} {address : UInt64}
    (h : (s.call (.getIoAddress handle workspace)).1 = .ok address) :
    ∃ buffer, s.bufferAt (handle, workspace) = some buffer ∧ buffer.ioAddress = address := by
  cases ha : s.armed (DeviceCall.getIoAddress handle workspace).kind with
  | some fault =>
    rw [call_of_armed ha] at h
    cases h
  | none =>
    rw [call_of_unarmed ha] at h
    change s.ioAddress handle workspace = .ok address at h
    unfold ioAddress at h
    cases hb : s.bufferOf handle workspace with
    | error fault =>
      rw [hb] at h
      cases h
    | ok buffer =>
      rw [hb] at h
      exact ⟨buffer, bufferOf_eq_ok_iff.mp hb, Except.ok.inj h⟩

theorem Laid.ioApart (h : s.Laid record) (few : record.length < 2 ^ 36)
    {one two : NativeHandle × Nat} {a b : Buffer} (hne : one ≠ two)
    (ha : s.bufferAt one = some a) (hb : s.bufferAt two = some b) : a.ioSpan.Apart b.ioSpan := by
  obtain ⟨p, hp, rfl, -, -, hspan⟩ := h.bufferAt ha
  obtain ⟨q, hq, rfl, -, -, hspan'⟩ := h.bufferAt hb
  rw [hspan, hspan']
  exact h.apart few (by decide) hp hq fun heq => hne (congrArg Preparation.place heq)

theorem Laid.size_pos (h : s.Laid record) {place : NativeHandle × Nat} {buffer : Buffer}
    (hlive : s.bufferAt place = some buffer) : 0 < buffer.data.size := by
  obtain ⟨p, hp, -, hsize, -, -⟩ := h.bufferAt hlive
  rw [hsize]
  exact (h.admitted p hp).1

theorem Laid.buffersApart (h : s.Laid record) (few : record.length < 2 ^ 36) :
    s.BuffersApart record where
  recorded place buffer hlive := by
    obtain ⟨p, hp, hplace, hsize, -, -⟩ := h.bufferAt hlive
    refine ⟨p, hp, hplace, hsize, fun q hq hq' => h.eq_of_workspace hq hp ?_⟩
    exact congrArg Prod.snd (hq'.trans hplace.symm)
  ioFits place buffer hlive := by
    obtain ⟨p, hp, -, -, -, hspan⟩ := h.bufferAt hlive
    rw [hspan]
    exact h.fits few (by decide) hp
  ioApart one two a b hne ha hb := h.ioApart few hne ha hb
  fits p hp hchosen buffer hlive := by
    obtain ⟨q, hq, hplace, -, hspan, -⟩ := h.bufferAt hlive
    obtain rfl := h.eq_of_workspace hq hp (congrArg Prod.snd hplace)
    rw [hspan hchosen]
    exact h.fits few (by decide) hp
  apart p hp q hq hchosen hchosen' hne a b ha hb := by
    obtain ⟨p', hp', hplace, -, hspan, -⟩ := h.bufferAt ha
    obtain rfl := h.eq_of_workspace hp' hp (congrArg Prod.snd hplace)
    obtain ⟨q', hq', hplace', -, hspan', -⟩ := h.bufferAt hb
    obtain rfl := h.eq_of_workspace hq' hq (congrArg Prod.snd hplace')
    rw [hspan hchosen, hspan' hchosen']
    exact h.apart few (by decide) hp hq fun heq => hne (congrArg Preparation.place heq)
  answered handle workspace buffer hlive unarmed := by
    have ha : s.armed (DeviceCall.getIoAddress handle workspace).kind = none := unarmed
    rw [call_of_unarmed ha]
    change s.ioAddress handle workspace = .ok buffer.ioAddress
    rw [ioAddress, bufferOf_eq_ok_iff.mpr hlive]
    rfl
  distinct handle workspace handle' workspace' address address' hone htwo hne := by
    obtain ⟨a, ha, rfl⟩ := bufferAt_of_getIoAddress hone
    obtain ⟨b, hb, rfl⟩ := bufferAt_of_getIoAddress htwo
    exact (h.ioApart few hne ha hb).first_ne (h.size_pos ha) (h.size_pos hb)

/-- Whatever a driver is asked for after its cards have started, and whatever their host
does: as long as fewer than `2 ^ 36` buffers were ever prepared, the addresses of live
buffers do not meet and do not wrap, for the device and, where the driver chose them, for
the program. The handles of the buffers do not matter, and neither do buffers that are gone. -/
theorem buffersApart_run (images : String → Option (List UInt8)) (moves : List Move)
    (few : ((start cards images).preparations moves).length < 2 ^ 36) :
    ((start cards images).run moves).BuffersApart ((start cards images).preparations moves) :=
  ((laid_start cards images).run moves).buffersApart few

/-- Two handles on one accelerator, a buffer of each, one that is released in between, and one
that was preallocated. -/
theorem buffersApart_two_handles :
    ((start 1 fun _ => none).preparations
      [.call (.enumerate [] 2), .call (.openHandle ⟨0x1001⟩ Flags.openShared),
        .call (.openHandle ⟨0x1001⟩ Flags.openShared),
        .call (.prepareBuffer (handleAt 0) maxBufferBytes none 0),
        .call (.prepareBuffer (handleAt 1) 4096 none 0),
        .call (.releaseBuffer (handleAt 1) 2),
        .call (.prepareBuffer (handleAt 1) 4096 none 0),
        .call (.prepareBuffer (handleAt 0) 64 (some 0x1000) Flags.preallocated)]).length < 2 ^ 36 ∧
    ((start 1 fun _ => none).run
      [.call (.enumerate [] 2), .call (.openHandle ⟨0x1001⟩ Flags.openShared),
        .call (.openHandle ⟨0x1001⟩ Flags.openShared),
        .call (.prepareBuffer (handleAt 0) maxBufferBytes none 0),
        .call (.prepareBuffer (handleAt 1) 4096 none 0),
        .call (.releaseBuffer (handleAt 1) 2),
        .call (.prepareBuffer (handleAt 1) 4096 none 0),
        .call (.prepareBuffer (handleAt 0) 64 (some 0x1000) Flags.preallocated)]).BuffersApart
      [⟨handleAt 0, 1, maxBufferBytes, false⟩, ⟨handleAt 1, 2, 4096, false⟩,
        ⟨handleAt 1, 3, 4096, false⟩, ⟨handleAt 0, 4, 64, true⟩] :=
  have few : (4 : Nat) < 2 ^ 36 := by decide
  ⟨few, @buffersApart_run 1 (fun _ => none) _ few⟩

end Simulator

end DeviceBroker
