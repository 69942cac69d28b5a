import DeviceBroker.Proofs.Simulator.Gallery
import DeviceBroker.Proofs.Simulator.Numerals
import DeviceBroker.Proofs.Simulator.Occupancy
import DeviceBroker.Proofs.Simulator.Registers

/-!
# Loading another function

An accelerator shows the guid of its function in three ways: among its
properties, in two registers of its first region, and as the text of an
attribute. Clients can write over the registers and the attribute, so the
three need not agree. To load another function makes them agree on the first
sixteen bytes of its image, and to reset the accelerator makes them agree on the
guid that it has. Either puts zero into all other registers and leaves the
rest alone. To load may be refused for four reasons, and then nothing happens.
-/

namespace DeviceBroker

variable {cards : Nat}

/-! ## Registers -/

namespace RegisterFile

/-- The registers of an accelerator that was cleared show its guid, and zeros. -/
structure Mirrors (file : RegisterFile) (guid : List UInt8) : Prop where
  high : file.read 0 Resource.guidHighOffset 8 = guid.take 8
  low : file.read 0 Resource.guidLowOffset 8 = guid.drop 8
  zero : ∀ region i,
    ¬ (region = 0 ∧ Resource.guidLowOffset ≤ i ∧ i < Resource.guidHighOffset + 8) →
      file.byte region i = 0

theorem mirrors_cleared {guid : List UInt8} (h : guid.length = 16) :
    (cleared .accelerator guid).Mirrors guid := by
  have hhigh : (guid.take 8).length = 8 := by rw [List.length_take, h]; rfl
  have hlow : (guid.drop 8).length = 8 := by rw [List.length_drop, h]
  constructor
  case high =>
    have hread := read_put_self (blank guid) 0 Resource.guidHighOffset (guid.take 8)
    rw [hhigh] at hread
    rw [← hread]
    refine List.map_congr_left fun i hi => byte_put_of_not ?_
    rw [hlow]
    simp [Resource.guidHighOffset, Resource.guidLowOffset]
  case low =>
    have hread := read_put_self ((blank guid).put 0 Resource.guidHighOffset (guid.take 8)) 0
      Resource.guidLowOffset (guid.drop 8)
    rw [hlow] at hread
    exact hread
  case zero =>
    intro region i hout
    simp only [Resource.guidHighOffset, Resource.guidLowOffset] at hout
    unfold cleared
    rw [byte_put_of_not, byte_put_of_not]
    · rfl
    · rw [hhigh]
      simp only [Resource.guidHighOffset]
      omega
    · rw [hlow]
      simp only [Resource.guidLowOffset]
      omega

end RegisterFile

/-! ## Resources -/

/-- An accelerator that shows a guid in all three ways, and is otherwise as it was. -/
structure Resource.Displays (old r : Resource) (guid : Guid) : Prop where
  loaded : r.guid = guid
  registers : r.regions = (RegisterFile.cleared .accelerator guid.toList).regions .accelerator
  text : r.tree.face? = override old.tree.face? guidPath (some (.attribute (guidText guid)))
  errors : r.errors = old.errors
  openCount : r.openCount = old.openCount
  exclusive : r.exclusive = old.exclusive
  clock : r.clock = old.clock
  samples : r.samples = old.samples

namespace Resource

variable {old : Resource} {file : RegisterFile} {text : String}
  (hregions : old.regions = file.regions .accelerator)
  (htext : old.tree.face? guidPath = some (.attribute text))

include hregions htext

theorem displays_reset : old.Displays (old.reset .accelerator) old.guid where
  loaded := rfl
  registers := by
    rw [← file.regions_cleared, ← hregions]
    exact congrArg Core.regions (old.core_reset .accelerator)
  text := old.zeroRegisters.face?_showGuid htext
  errors := rfl
  openCount := rfl
  exclusive := rfl
  clock := rfl
  samples := rfl

theorem displays_load (guid : Guid) : old.Displays (old.load guid) guid := by
  have h := @displays_reset { old with guid := guid } file text hregions htext
  exact ⟨h.loaded, h.registers, h.text, h.errors, h.openCount, h.exclusive, h.clock, h.samples⟩

end Resource

namespace Simulator

variable {s t : Simulator cards} {port : Site cards} {handle : NativeHandle}
  {files : Site cards → RegisterFile}

/-! ## The driver -/

/-- A driver after a call that made an accelerator show a guid in all three ways, and did
nothing else. -/
structure Displays (s t : Simulator cards) (port : Site cards) (guid : List UInt8) : Prop where
  /-- The call is counted, and all other resources, the live values, the images and the armed
  failures are as they were. -/
  elsewhere : ∃ r, t =
    { s.recount (s.calls + 1) with resources := override s.resources port r }
  property : (port.properties (t.resources port)).guid.map Vector.toList = some guid
  registers : ∃ file : RegisterFile, file.Mirrors guid ∧
    (t.resources port).regions = file.regions .accelerator
  /-- The attribute shows two digits for each byte of the guid, and all other objects show
  what they did. -/
  text : ∃ digits, Hex.Writes digits guid ∧
    t.faceAt = override s.faceAt (guidObject port) (some (.attribute (String.ofList digits)))
  errors : (t.resources port).errors = (s.resources port).errors
  openCount : (t.resources port).openCount = (s.resources port).openCount
  exclusive : (t.resources port).exclusive = (s.resources port).exclusive
  clock : (t.resources port).clock = (s.resources port).clock
  samples : (t.resources port).samples = (s.resources port).samples

theorem displays_updateResource {change : Resource → Resource} {guid : Guid}
    (h : (s.resources port).Displays (change (s.resources port)) guid) :
    s.Displays ((s.updateResource port change).rig (s.calls + 1) s.armed) port guid.toList := by
  have hport : ((s.updateResource port change).rig (s.calls + 1) s.armed).resources port =
      change (s.resources port) := override_self _ _ _
  constructor
  case elsewhere => exact ⟨change (s.resources port), rfl⟩
  case property =>
    obtain ⟨card, kind⟩ := port
    rw [hport]
    cases kind <;> exact congrArg (fun guid : Guid => some guid.toList) h.loaded
  case registers =>
    exact ⟨_, RegisterFile.mirrors_cleared guid.size_toArray, hport ▸ h.registers⟩
  case text =>
    have hshown : (change (s.resources (guidObject port).site)).tree.face? = _ := h.text
    exact ⟨_, Hex.writes_ofBytes guid.toList, faceAt_updateResource hshown⟩
  case errors => exact hport ▸ h.errors
  case openCount => exact hport ▸ h.openCount
  case exclusive => exact hport ▸ h.exclusive
  case clock => exact hport ▸ h.clock
  case samples => exact hport ▸ h.samples

/-- A resource counts the handles that are open on it. -/
theorem openCount_pos_iff (h : s.tenure.Orderly) (site : Site cards) :
    0 < (s.resources site).openCount ↔ ∃ handle, s.siteAt handle = some site := by
  have hcount : (s.resources site).openCount = (s.tenure.holders site).length :=
    (h.held site).count
  have hsite : ∀ handle, (s.opening handle).map Opening.site = s.siteAt handle := fun handle => by
    simp [opening, siteAt, Function.comp_def]
  rw [hcount, List.length_pos_iff_exists_mem]
  refine exists_congr fun handle => ?_
  rw [Tenure.mem_holders_iff]
  change handle ∈ s.handles.keys ∧ (s.opening handle).map Opening.site = some site ↔ _
  rw [hsite, and_iff_right_iff_imp]
  intro hs
  obtain ⟨state, hf, -⟩ := Option.map_eq_some_iff.mp hs
  exact (s.handles.mem_keys_iff handle).mpr ((s.handles.contains_iff handle).mpr ⟨state, hf⟩)

/-- What is asked of a driver whose accelerators are to be reset and loaded. -/
structure Ready (s : Simulator cards) (files : Site cards → RegisterFile) : Prop where
  shows : s.Shows files
  formed : s.Formed
  orderly : s.tenure.Orderly

/-- How a call ends that is to load an accelerator from an image, through a handle on a
resource. What is wrong is looked for in the order of the fields. -/
structure LoadsSlot (s : Simulator cards) (site? : Option (Site cards)) (slot : UInt32)
    (path : String) (outcome : Except Fault Unit × Simulator cards) : Prop where
  unreadable : s.images path = none → outcome = (.error .notFound, s.recount (s.calls + 1))
  /-- The handle is not on a management device, or the device has no such slot. -/
  unfit : ∀ image, s.images path = some image →
    (∀ site, site? = some site → site.kind = .device → Site.numSlots ≤ slot) →
    outcome = (.error .invalidParam, s.recount (s.calls + 1))
  short : ∀ image site, s.images path = some image → site? = some site → site.kind = .device →
    slot < Site.numSlots → image.length < 16 →
    outcome = (.error .reconfiguration, s.recount (s.calls + 1))
  busy : ∀ image site, s.images path = some image → site? = some site → site.kind = .device →
    slot < Site.numSlots → 16 ≤ image.length →
    (∃ handle, s.siteAt handle = some site.accelerator) →
    outcome = (.error .busy, s.recount (s.calls + 1))
  loaded : ∀ image site, s.images path = some image → site? = some site → site.kind = .device →
    slot < Site.numSlots → 16 ≤ image.length →
    (∀ handle, s.siteAt handle ≠ some site.accelerator) →
    outcome.1 = .ok () ∧ s.Displays outcome.2 site.accelerator (image.take 16)

theorem call_reconfigureSlot_of_error {slot : UInt32} {path : String} {flags : UInt32}
    {fault : Fault} (unarmed : s.armed .reconfigureSlot = none)
    (h : s.reconfigureSlot handle slot path = .error fault) :
    s.call (.reconfigureSlot handle slot path flags) = (.error fault, s.recount (s.calls + 1)) := by
  have hcall : s.call (.reconfigureSlot handle slot path flags) = _ := call_of_unarmed unarmed
  have hserve : s.serve (.reconfigureSlot handle slot path flags) = (.error fault, s) :=
    congrArg s.commit h
  rw [hcall, hserve]
  rfl

theorem Ready.loadsSlot (h : s.Ready files) (unarmed : s.armed .reconfigureSlot = none)
    (handle : NativeHandle) (slot : UInt32) (path : String) (flags : UInt32) :
    s.LoadsSlot (s.siteAt handle) slot path (s.call (.reconfigureSlot handle slot path flags)) := by
  constructor
  case unreadable =>
    intro himage
    exact call_reconfigureSlot_of_error unarmed (by simp only [reconfigureSlot, himage])
  case unfit =>
    intro image himage hunfit
    refine call_reconfigureSlot_of_error unarmed ?_
    cases hs : s.handles.find? handle with
    | none => simp only [reconfigureSlot, himage, handleOf, hs]
    | some state =>
      cases hkind : state.site.kind with
      | accelerator => simp only [reconfigureSlot, himage, handleOf, hs, hkind]
      | device =>
        have hslot := hunfit state.site (siteAt_of_find? hs) hkind
        simp only [reconfigureSlot, himage, handleOf, hs, hkind, if_pos hslot]
  case short =>
    intro image site himage hsite hkind hslot hshort
    obtain ⟨state, hs, rfl⟩ := Option.map_eq_some_iff.mp hsite
    have hlength : ¬ (image.take 16).length = 16 := by rw [List.length_take]; omega
    refine call_reconfigureSlot_of_error unarmed ?_
    simp only [reconfigureSlot, himage, handleOf, hs, hkind, if_neg (UInt32.not_le.mpr hslot),
      dif_neg hlength]
  case busy =>
    intro image site himage hsite hkind hslot hlong hopened
    obtain ⟨state, hs, rfl⟩ := Option.map_eq_some_iff.mp hsite
    have hlength : (image.take 16).length = 16 := List.length_take_of_le hlong
    refine call_reconfigureSlot_of_error unarmed ?_
    simp only [reconfigureSlot, himage, handleOf, hs, hkind, if_neg (UInt32.not_le.mpr hslot),
      dif_pos hlength]
    exact if_pos ((openCount_pos_iff h.orderly _).mpr hopened)
  case loaded =>
    intro image site himage hsite hkind hslot hlong hclosed
    obtain ⟨state, hs, rfl⟩ := Option.map_eq_some_iff.mp hsite
    have hlength : (image.take 16).length = 16 := List.length_take_of_le hlong
    have hfree : ¬ 0 < (s.resources state.site.accelerator).openCount := by
      rw [openCount_pos_iff h.orderly]
      exact not_exists.mpr hclosed
    have hload : s.reconfigureSlot handle slot path =
        .ok ((), s.updateResource state.site.accelerator
          (Resource.load ⟨(image.take 16).toArray, by simpa using hlength⟩)) := by
      simp only [reconfigureSlot, himage, handleOf, hs, hkind, if_neg (UInt32.not_le.mpr hslot),
        dif_pos hlength]
      exact if_neg hfree
    have hcall : s.call (.reconfigureSlot handle slot path flags) = _ := call_of_unarmed unarmed
    have hserve : s.serve (.reconfigureSlot handle slot path flags) = (.ok (), _) :=
      congrArg s.commit hload
    rw [hcall, hserve]
    refine ⟨rfl, ?_⟩
    have haccelerator : state.site.accelerator.kind = .accelerator := rfl
    obtain ⟨text, htext⟩ := h.formed.exists_guidText haccelerator
    exact displays_updateResource
      (Resource.displays_load (h.shows state.site.accelerator).2 htext _)

/-- Through a handle on an accelerator the guid that it has is put on display again. -/
theorem Ready.displays_resetHandle (h : s.Ready files) (unarmed : s.armed .resetHandle = none)
    (opened : s.siteAt handle = some port) (hkind : port.kind = .accelerator) :
    (s.call (.resetHandle handle)).1 = .ok () ∧
      s.Displays (s.call (.resetHandle handle)).2 port (s.resources port).guid.toList := by
  obtain ⟨state, hs, rfl⟩ := Option.map_eq_some_iff.mp opened
  have hreset : s.resetHandle handle =
      .ok ((), s.updateResource state.site (Resource.reset .accelerator)) := by
    simp only [resetHandle, handleOf, hs, hkind]
  have hcall : s.call (.resetHandle handle) = _ := call_of_unarmed unarmed
  have hserve : s.serve (.resetHandle handle) = (.ok (), _) := congrArg s.commit hreset
  have hregions := (h.shows state.site).2
  rw [hkind] at hregions
  obtain ⟨text, htext⟩ := h.formed.exists_guidText hkind
  rw [hcall, hserve]
  exact ⟨rfl, displays_updateResource (Resource.displays_reset hregions htext)⟩

end Simulator

end DeviceBroker
