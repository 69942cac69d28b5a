import DeviceBroker.Proofs.Memory
import DeviceBroker.Proofs.Simulator.Cores
import DeviceBroker.Proofs.Simulator.Rollback

/-!
# Register files

The registers of a resource are known by the byte at every position of every
region, and by the guid that they show after a reset. Accesses of all widths
are accesses to these bytes. A driver `Shows` the register files of its
resources if each resource has its regions filled with them, and five calls
change what is shown: three write some bytes, and two clear everything.
-/

namespace DeviceBroker

variable {cards : Nat} {α : Type}

namespace Memory

theorem write_ofFn (size : Nat) (byte : Nat → UInt8) (offset : Nat) (data : Memory) :
    (ofFn size byte).write offset data =
      ofFn size fun i =>
        if offset ≤ i ∧ i < offset + data.size then data.byte (i - offset) else byte i := by
  have hsize : ((ofFn size byte).write offset data).size = size := rfl
  refine Memory.ext rfl fun i hi => ?_
  rw [hsize] at hi
  rw [byte_write _ _ _ hi, byte_ofFn, byte_ofFn, if_pos hi, if_pos hi]

theorem byte_ofList_eq (bytes : List UInt8) (i : Nat) :
    (ofList bytes).byte i = bytes[i]?.getD 0 := by
  by_cases hi : i < bytes.length
  · rw [byte_ofList hi]
    rfl
  · rw [(ofList bytes).byte_of_size_le i (by simpa using hi), List.getElem?_eq_none (by omega)]
    rfl

theorem slice_self (m : Memory) : m.slice 0 m.size = m := by
  refine Memory.ext rfl fun i hi => ?_
  have hlt : i < m.size := hi
  rw [byte_slice, if_pos hlt, Nat.zero_add]

theorem toList_slice_ofFn {size : Nat} (byte : Nat → UInt8) {offset count : Nat}
    (h : offset + count ≤ size) :
    ((ofFn size byte).slice offset count).toList =
      (List.range count).map fun i => byte (offset + i) := by
  rw [toList_slice]
  refine List.map_congr_left fun i hi => ?_
  have hlt := List.mem_range.mp hi
  rw [byte_ofFn, if_pos (by omega)]

end Memory

theorem Word512.toList_of_ofList? {values : List UInt8} {word : Word512}
    (h : Word512.ofList? values = some word) :
    Memory.ofArray word.toArray = .ofList (values.take 64) := by
  unfold Word512.ofList? at h
  split at h
  · cases h
    rfl
  · cases h

theorem Word512.exists_ofList? {values : List UInt8} (h : 64 ≤ values.length) :
    ∃ word, Word512.ofList? values = some word := by
  have htaken : (values.take 64).length = 64 := List.length_take_of_le h
  exact ⟨_, dif_pos htaken⟩

theorem Word512.le_length_of_ofList? {values : List UInt8} {word : Word512}
    (h : Word512.ofList? values = some word) : 64 ≤ values.length := by
  unfold Word512.ofList? at h
  split at h
  · rename_i htaken
    rw [← htaken]
    exact List.length_take_le' 64 values
  · cases h

/-- How many register regions a resource has. -/
def Resource.regionCount : ResourceKind → Nat
  | .device => 1
  | .accelerator => 2

/-- The bytes of the registers by region and position, and the guid on display. -/
@[ext] structure RegisterFile where
  guid : List UInt8
  byte : Nat → Nat → UInt8

namespace RegisterFile

/-- The bytes from a position of a region on. -/
def read (file : RegisterFile) (region offset count : Nat) : List UInt8 :=
  (List.range count).map fun i => file.byte region (offset + i)

/-- The file with some bytes written from a position of a region on. -/
def put (file : RegisterFile) (region offset : Nat) (data : List UInt8) : RegisterFile where
  guid := file.guid
  byte r i :=
    if r = region ∧ offset ≤ i ∧ i < offset + data.length then data[i - offset]?.getD 0
    else file.byte r i

def blank (guid : List UInt8) : RegisterFile := ⟨guid, fun _ _ => 0⟩

/-- Zeros, but for the registers in which an accelerator shows its guid. -/
def cleared (kind : ResourceKind) (guid : List UInt8) : RegisterFile :=
  match kind with
  | .device => blank guid
  | .accelerator =>
    ((blank guid).put 0 Resource.guidHighOffset (guid.take 8)).put 0 Resource.guidLowOffset
      (guid.drop 8)

/-- The registers of a resource that has just started. -/
def initial (kind : ResourceKind) : RegisterFile :=
  cleared kind (Resource.initial kind).guid.toList

/-- The regions of a resource that are filled with the bytes of a file. -/
def regions (file : RegisterFile) (kind : ResourceKind) : List Memory :=
  (List.range (Resource.regionCount kind)).map fun region =>
    .ofFn Resource.regionSize (file.byte region)

@[simp] theorem guid_put (file : RegisterFile) (region offset : Nat) (data : List UInt8) :
    (file.put region offset data).guid = file.guid := rfl

@[simp] theorem guid_cleared (kind : ResourceKind) (guid : List UInt8) :
    (cleared kind guid).guid = guid := by
  cases kind <;> rfl

/-- What was written is read back, by whatever width it is looked at. -/
theorem byte_put {file : RegisterFile} {region offset i : Nat} {data : List UInt8}
    (h : i < data.length) :
    (file.put region offset data).byte region (offset + i) = data[i] := by
  have hin : region = region ∧ offset ≤ offset + i ∧ offset + i < offset + data.length :=
    ⟨rfl, Nat.le_add_right _ _, by omega⟩
  have hbyte : (file.put region offset data).byte region (offset + i) =
      data[offset + i - offset]?.getD 0 := if_pos hin
  rw [hbyte, Nat.add_sub_cancel_left, List.getElem?_eq_getElem h]
  rfl

/-- Other bytes are left alone. -/
theorem byte_put_of_not {file : RegisterFile} {region offset r i : Nat} {data : List UInt8}
    (h : ¬ (r = region ∧ offset ≤ i ∧ i < offset + data.length)) :
    (file.put region offset data).byte r i = file.byte r i := if_neg h

theorem read_put_self (file : RegisterFile) (region offset : Nat) (data : List UInt8) :
    (file.put region offset data).read region offset data.length = data := by
  refine List.ext_getElem (by simp [read]) fun i hi hi' => ?_
  simp only [read, List.getElem_map, List.getElem_range]
  exact byte_put hi'

theorem getElem?_regions (file : RegisterFile) (kind : ResourceKind) (region : Nat) :
    (file.regions kind)[region]? =
      if region < Resource.regionCount kind then
        some (.ofFn Resource.regionSize (file.byte region))
      else none := by
  unfold regions
  rw [List.getElem?_map]
  split
  · rename_i h
    rw [List.getElem?_range h]
    rfl
  · rename_i h
    rw [List.getElem?_eq_none (by simpa using h)]
    rfl

theorem regions_put (file : RegisterFile) (kind : ResourceKind) (region offset : Nat)
    (data : List UInt8) :
    (file.put region offset data).regions kind =
      (file.regions kind).modify region fun memory => memory.write offset (.ofList data) := by
  refine List.ext_getElem? fun r => ?_
  rw [List.getElem?_modify, getElem?_regions, getElem?_regions]
  split
  · by_cases hr : region = r
    · subst hr
      simp only [Option.map_eq_map, Option.map_some, if_true, Memory.write_ofFn,
        Memory.size_ofList, Memory.byte_ofList_eq, put, true_and]
    · have hbyte : (file.put region offset data).byte r = file.byte r :=
        funext fun i => byte_put_of_not fun h => hr h.1.symm
      simp [hr, hbyte]
  · simp

theorem regions_cleared (file : RegisterFile) (kind : ResourceKind) (guid : Guid) :
    Resource.clearedRegions kind guid (file.regions kind) =
      (cleared kind guid.toList).regions kind := by
  have hzeroed : ((file.regions kind).map fun region => Memory.zeros region.size) =
      (blank guid.toList).regions kind := by
    simp only [regions, List.map_map]
    rfl
  unfold Resource.clearedRegions cleared
  rw [hzeroed]
  cases kind with
  | device => rfl
  | accelerator =>
    simp only [regions_put, List.modify_modify_eq]
    rfl

theorem regions_initial (kind : ResourceKind) :
    (Resource.initial kind).regions = (initial kind).regions kind := by
  cases kind with
  | device => rfl
  | accelerator => exact (blank []).regions_cleared .accelerator Resource.initialGuid

end RegisterFile

/-- Whether an access of a width is within the regions of a resource, and aligned. -/
def Site.Reaches (site : Site cards) (region : UInt32) (offset : UInt64) (width : Nat) : Prop :=
  region.toNat < Resource.regionCount site.kind ∧ width ∣ offset.toNat ∧
    offset.toNat + width ≤ Resource.regionSize

/-- Whether a call of a kind changes registers, if it succeeds. -/
def CallKind.rewrites : CallKind → Bool
  | .resetHandle | .writeMmio32 | .writeMmio64 | .writeMmio512 | .reconfigureSlot => true
  | _ => false

namespace Simulator

variable {s t : Simulator cards} {files : Site cards → RegisterFile} {handle : NativeHandle}
  {site : Site cards} {region : UInt32} {offset : UInt64}

/-- The resource that a handle is open on. -/
def siteAt (s : Simulator cards) (handle : NativeHandle) : Option (Site cards) :=
  (s.handles.find? handle).map OpenHandle.site

/-- The registers of every resource are those of its file. -/
def Shows (s : Simulator cards) (files : Site cards → RegisterFile) : Prop :=
  ∀ site, (s.cores site).guid.toList = (files site).guid ∧
    (s.cores site).regions = (files site).regions site.kind

theorem shows_start (cards : Nat) (images : String → Option (List UInt8)) :
    (start cards images).Shows fun site => .initial site.kind :=
  fun site => ⟨(RegisterFile.guid_cleared _ _).symm, RegisterFile.regions_initial site.kind⟩

/-! ## Calls that leave the registers alone -/

theorem Shows.congr (h : s.Shows files)
    (hg : ∀ site, (t.cores site).guid = (s.cores site).guid)
    (hr : ∀ site, (t.cores site).regions = (s.cores site).regions) : t.Shows files := by
  intro site
  rw [hg, hr]
  exact h site

theorem Shows.of_cores (h : s.Shows files) (hc : t.cores = s.cores) : t.Shows files := by
  unfold Shows
  rw [hc]
  exact h

/-- One resource has another file. -/
theorem Shows.change (h : s.Shows files) {core : Core} {file : RegisterFile}
    (hc : t.cores = override s.cores site core) (hg : core.guid.toList = file.guid)
    (hr : core.regions = file.regions site.kind) : t.Shows (override files site file) := by
  intro other
  rw [hc]
  by_cases ho : other = site
  · rw [ho, override_self, override_self]
    exact ⟨hg, hr⟩
  · rw [override_of_ne _ _ ho, override_of_ne _ _ ho]
    exact h other

/-- To be opened or closed is nothing to the registers of a resource. -/
theorem Shows.of_seat (h : s.Shows files) {count : Nat} {exclusive : Bool}
    (hc : t.cores = override s.cores site
      { s.cores site with openCount := count, exclusive := exclusive }) : t.Shows files := by
  have hchanged := h.change hc (h site).1 (h site).2
  rwa [override_eq_self] at hchanged

theorem shows_commit {result : Except Fault (α × Simulator cards)} (h : s.Shows files)
    (hok : ∀ value t, result = .ok (value, t) → t.Shows files) :
    (s.commit result).2.Shows files :=
  commit_preserves (I := fun t => t.Shows files) h hok

theorem Shows.serve (h : s.Shows files) {call : DeviceCall} (hcall : call.kind.rewrites = false) :
    (s.serve call).2.Shows files := by
  cases ht : call.touchesCore with
  | false => exact h.of_cores (s.cores_serve ht)
  | true =>
    cases call with
    | openHandle =>
      refine shows_commit h fun _ t hopen => ?_
      obtain ⟨site, hc⟩ := cores_of_openHandle hopen
      exact h.of_seat hc
    | closeHandle =>
      refine shows_commit h fun _ t hclose => ?_
      obtain ⟨closed, -, hc⟩ := cores_of_closeHandle hclose
      exact h.of_seat hc
    | resetHandle | writeMmio32 | writeMmio64 | writeMmio512 | reconfigureSlot => cases hcall
    | _ => cases ht

theorem Shows.call (h : s.Shows files) {call : DeviceCall} (hcall : call.kind.rewrites = false) :
    (s.call call).2.Shows files := by
  cases ha : s.armed call.kind with
  | some fault =>
    rw [call_of_armed ha]
    exact h
  | none =>
    rw [call_of_unarmed ha]
    exact h.serve hcall

theorem cores_remains (s : Simulator cards) (call : DeviceCall) :
    (s.remains call).cores = s.cores := by
  funext site
  unfold remains cores
  dsimp only
  split
  · rfl
  · rfl

/-- A call that fails leaves the registers alone. -/
theorem Shows.of_error (h : s.Shows files) {call : DeviceCall} {fault : Fault}
    (failed : (s.call call).1 = .error fault) : (s.call call).2.Shows files := by
  rw [call_of_error failed]
  exact h.of_cores (s.cores_remains call)

/-! ## Calls that change registers -/

/-- A call that was served with success has done what its operation does. -/
theorem cores_of_call_ok {call : DeviceCall}
    {result : Except Fault (call.Value × Simulator cards)}
    (hserve : s.serve call = s.commit result) (hok : (s.call call).1.isOk = true) :
    ∃ value t, result = .ok (value, t) ∧ (s.call call).2.cores = t.cores := by
  cases ha : s.armed call.kind with
  | some fault =>
    rw [call_of_armed ha] at hok
    cases hok
  | none =>
    rw [call_of_unarmed ha, hserve] at hok ⊢
    cases result with
    | error fault => cases hok
    | ok outcome => exact ⟨outcome.1, outcome.2, rfl, rfl⟩

theorem siteAt_of_find? {state : OpenHandle cards} (h : s.handles.find? handle = some state) :
    s.siteAt handle = some state.site := by
  rw [siteAt, h]
  rfl

theorem Shows.of_writeRegister (h : s.Shows files) {data : List UInt8} {value : Unit}
    (hw : s.writeRegister handle region offset (.ofList data) = .ok (value, t)) :
    ∃ site, s.siteAt handle = some site ∧
      t.Shows (override files site ((files site).put region.toNat offset.toNat data)) := by
  obtain ⟨state, hs, hc⟩ := cores_of_writeRegister hw
  refine ⟨state.site, siteAt_of_find? hs, h.change hc (h state.site).1 ?_⟩
  rw [RegisterFile.regions_put, ← (h state.site).2]

theorem Shows.of_resetHandle (h : s.Shows files) {value : Unit}
    (hr : s.resetHandle handle = .ok (value, t)) :
    ∃ site, s.siteAt handle = some site ∧
      t.Shows (override files site (.cleared site.kind (files site).guid)) := by
  obtain ⟨state, hs, hc⟩ := cores_of_resetHandle hr
  refine ⟨state.site, siteAt_of_find? hs, h.change hc ?_ ?_⟩
  · rw [RegisterFile.guid_cleared]
    exact (h state.site).1
  · rw [← (h state.site).1, ← RegisterFile.regions_cleared (files state.site),
      ← (h state.site).2]

theorem Shows.of_reconfigureSlot (h : s.Shows files) {slot : UInt32} {path : String} {value : Unit}
    (hr : s.reconfigureSlot handle slot path = .ok (value, t)) :
    ∃ site image, s.siteAt handle = some site ∧ s.images path = some image ∧
      t.Shows (override files site.accelerator (.cleared .accelerator (image.take 16))) := by
  obtain ⟨state, image, guid, hs, -, himage, hguid, -, hc⟩ := cores_of_reconfigureSlot hr
  refine ⟨state.site, image, siteAt_of_find? hs, himage, h.change hc ?_ ?_⟩
  · rw [RegisterFile.guid_cleared]
    exact hguid
  · rw [← hguid]
    change _ = (RegisterFile.cleared .accelerator guid.toList).regions .accelerator
    rw [← RegisterFile.regions_cleared (files state.site.accelerator),
      (h state.site.accelerator).2]
    rfl

/-! ## Accesses -/

section

variable {width : Nat} (h : s.Shows files) (opened : s.siteAt handle = some site)

include h opened

theorem regionFor_of_reaches (reaches : site.Reaches region offset width) :
    s.regionFor handle region offset width =
      .ok (site, .ofFn Resource.regionSize ((files site).byte region.toNat)) := by
  obtain ⟨state, hs, rfl⟩ := Option.map_eq_some_iff.mp opened
  obtain ⟨hregion, haligned, hrange⟩ := reaches
  have hmemory : (s.resources state.site).regions[region.toNat]? =
      some (.ofFn Resource.regionSize ((files state.site).byte region.toNat)) := by
    have hregions : (s.resources state.site).regions = _ := (h state.site).2
    rw [hregions, RegisterFile.getElem?_regions, if_pos hregion]
  have haccess : (offset.toNat % width = 0 && Memory.hasRange
      (.ofFn Resource.regionSize ((files state.site).byte region.toNat)) offset.toNat width) =
      true := by
    simp [Nat.mod_eq_zero_of_dvd haligned, Memory.hasRange, hrange]
  simp only [regionFor, handleOf, hs, hmemory, haccess, if_true]

theorem regionFor_of_not_reaches (reaches : ¬ site.Reaches region offset width) :
    s.regionFor handle region offset width = .error .invalidParam := by
  obtain ⟨state, hs, rfl⟩ := Option.map_eq_some_iff.mp opened
  have hregions : (s.resources state.site).regions = _ := (h state.site).2
  by_cases hregion : region.toNat < Resource.regionCount state.site.kind
  · have hmemory : (s.resources state.site).regions[region.toNat]? =
        some (.ofFn Resource.regionSize ((files state.site).byte region.toNat)) := by
      rw [hregions, RegisterFile.getElem?_regions, if_pos hregion]
    have haccess : ¬ (offset.toNat % width = 0 && Memory.hasRange
        (.ofFn Resource.regionSize ((files state.site).byte region.toNat)) offset.toNat width) =
        true := by
      intro hboth
      obtain ⟨haligned, hrange⟩ := (Bool.and_eq_true _ _).mp hboth
      exact reaches ⟨hregion, Nat.dvd_of_mod_eq_zero (of_decide_eq_true haligned),
        of_decide_eq_true hrange⟩
    simp only [regionFor, handleOf, hs, hmemory]
    exact if_neg haccess
  · have hmemory : (s.resources state.site).regions[region.toNat]? = none := by
      rw [hregions, RegisterFile.getElem?_regions, if_neg hregion]
    simp only [regionFor, handleOf, hs, hmemory]

theorem readRegister_of_reaches (reaches : site.Reaches region offset width) :
    ∃ data, s.readRegister handle region offset width = .ok data ∧ data.size = width ∧
      data.toList = (files site).read region.toNat offset.toNat width := by
  unfold readRegister
  rw [regionFor_of_reaches h opened reaches]
  exact ⟨_, rfl, rfl, Memory.toList_slice_ofFn _ reaches.2.2⟩

theorem readRegister_of_not_reaches (reaches : ¬ site.Reaches region offset width) :
    s.readRegister handle region offset width = .error .invalidParam := by
  unfold readRegister
  rw [regionFor_of_not_reaches h opened reaches]
  rfl

theorem writeRegister_of_reaches {data : Memory} (reaches : site.Reaches region offset data.size) :
    ∃ t, s.writeRegister handle region offset data = .ok ((), t) := by
  unfold writeRegister
  rw [regionFor_of_reaches h opened reaches]
  exact ⟨_, rfl⟩

theorem writeRegister_of_not_reaches {data : Memory}
    (reaches : ¬ site.Reaches region offset data.size) :
    s.writeRegister handle region offset data = .error .invalidParam := by
  unfold writeRegister
  rw [regionFor_of_not_reaches h opened reaches]

theorem commit_writeRegister_of_reaches {data : Memory} (hsize : data.size = width)
    (reaches : site.Reaches region offset width) :
    (s.commit (s.writeRegister handle region offset data)).1 = .ok () := by
  obtain ⟨t, hwrite⟩ := writeRegister_of_reaches h opened (hsize ▸ reaches)
  rw [hwrite]
  rfl

theorem commit_writeRegister_of_not_reaches {data : Memory} (hsize : data.size = width)
    (reaches : ¬ site.Reaches region offset width) :
    (s.commit (s.writeRegister handle region offset data)).1 = .error .invalidParam ∧
      (s.commit (s.writeRegister handle region offset data)).2 = s := by
  rw [writeRegister_of_not_reaches h opened (hsize ▸ reaches)]
  exact ⟨rfl, rfl⟩

theorem readMmio32_of_reaches (reaches : site.Reaches region offset 4) :
    s.readMmio32 handle region offset =
      .ok (UInt32.ofNat
        (Bytes.ofLittleEndian ((files site).read region.toNat offset.toNat 4))) := by
  obtain ⟨data, hread, hsize, hlist⟩ := readRegister_of_reaches h opened reaches
  rw [readMmio32, hread, ← hlist, ← data.slice_self, hsize]
  rfl

theorem readMmio64_of_reaches (reaches : site.Reaches region offset 8) :
    s.readMmio64 handle region offset =
      .ok (UInt64.ofNat
        (Bytes.ofLittleEndian ((files site).read region.toNat offset.toNat 8))) := by
  obtain ⟨data, hread, hsize, hlist⟩ := readRegister_of_reaches h opened reaches
  rw [readMmio64, hread, ← hlist, ← data.slice_self, hsize]
  rfl

theorem readMmio512_of_reaches (reaches : site.Reaches region offset 64) :
    s.readMmio512 handle region offset =
      .ok (Vector.ofFn fun i => (files site).byte region.toNat (offset.toNat + i)) := by
  unfold readMmio512 readRegister
  rw [regionFor_of_reaches h opened reaches]
  refine congrArg Except.ok (congrArg Vector.ofFn (funext fun i => ?_))
  have hrange := reaches.2.2
  rw [Memory.byte_slice, if_pos i.isLt, Memory.byte_ofFn, if_pos (by omega)]

end

end Simulator

end DeviceBroker
