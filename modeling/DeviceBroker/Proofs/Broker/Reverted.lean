import DeviceBroker.Proofs.Broker.Regions
import DeviceBroker.Proofs.Broker.Undone

/-!
# Mappings that are reverted

A region that the driver has mapped for a request is unmapped again if no
mapping can be registered for it. The driver does not count how often a region
of a handle is mapped, so this is no way back: if the region was mapped before,
it is unmapped as well, while the earlier mapping stays registered. Any other
request to map that fails leaves the regions of all handles as they were.
-/

namespace DeviceBroker

variable {cards : Nat}

theorem Openings.setMapped_setMapped (o : Openings) (handle : NativeHandle) (region : UInt32)
    (first second : Bool) :
    (o.setMapped handle region first).setMapped handle region second =
      o.setMapped handle region second := by
  simp [setMapped]

/-- Mapping a region and unmapping it leaves it unmapped, however it was before; if the
unmapping meets a failure, the region stays mapped. -/
theorem Simulator.openings_unmapMmio_mapMmio {s : Simulator cards} {handle : NativeHandle}
    {region : UInt32} {base : UInt64} (h : (s.call (.mapMmio handle region)).1 = .ok base) :
    ((s.call (.mapMmio handle region)).2.call (.unmapMmio handle region)).2.openings =
      s.openings.setMapped handle region (s.armed .unmapMmio).isSome := by
  have harmed : (s.call (.mapMmio handle region)).2.armed .unmapMmio = s.armed .unmapMmio :=
    s.armed_call_of_ne fun heq => by cases heq
  have hmapped : (s.call (.mapMmio handle region)).2.openings =
      s.openings.setMapped handle region true := by
    have htends := s.openings_call (.mapMmio handle region)
    generalize s.call (.mapMmio handle region) = outcome at h htends ⊢
    obtain ⟨result, t⟩ := outcome
    subst h
    exact htends.2
  generalize (s.call (.mapMmio handle region)).2 = t at harmed hmapped ⊢
  rw [← harmed]
  cases ha : t.armed .unmapMmio with
  | some fault =>
    have hcall : t.call (.unmapMmio handle region) = _ := call_of_armed ha
    rw [hcall]
    exact hmapped
  | none =>
    have hanswer := answer_call_unmapMmio ha handle region
    have htends := t.openings_call (.unmapMmio handle region)
    have hon : t.openings.mapped handle region = true := by
      rw [hmapped]
      simp [Openings.setMapped]
    rw [hon, if_pos rfl] at hanswer
    generalize t.call (.unmapMmio handle region) = outcome at hanswer htends ⊢
    obtain ⟨result, u⟩ := outcome
    subst hanswer
    exact htends.2.trans ((congrArg (·.setMapped handle region false) hmapped).trans
      (s.openings.setMapped_setMapped handle region true false))

namespace Broker

open Service

/-- The driver maps a region of a live handle, and no mapping can be registered for it. -/
structure MapsInVain (b : Broker cards) (handleId : RemoteId) (region : UInt32)
    (native : NativeHandle) (base : UInt64) : Prop where
  live : b.native? handleId = some native
  maps : (b.device.call (.mapMmio native region)).1 = .ok base
  rejects : b.registry.Rejects .mapping ⟨handleId, region, base⟩

variable {b : Broker cards} {handleId : RemoteId} {region : UInt32} {native : NativeHandle}
  {base : UInt64}

theorem exec_mapMmio_of_live {entry : HandleEntry}
    (live : (b.registry.map .handle).find? handleId = some entry)
    (maps : (b.device.call (.mapMmio entry.handle region)).1 = .ok base) :
    exec (Request.serve b.payloadLimit (.mapMmio handleId region)) b =
      exec (registerOrUndo .mapping ⟨handleId, region, base⟩ (.unmapMmio entry.handle region))
        { b with device := (b.device.call (.mapMmio entry.handle region)).2 } := by
  have hdevice : exec (Service.device (.mapMmio entry.handle region)) b =
      (.ok base, { b with device := (b.device.call (.mapMmio entry.handle region)).2 }) := by
    rw [exec_device, maps]
  exact (exec_bind_of_ok _ (exec_lookup_of_some live)).trans (exec_bind_of_ok _ hdevice)

theorem MapsInVain.handle (h : b.MapsInVain handleId region native base) :
    (b.handle (.mapMmio handleId region)).1 = .ofResult .mapMmio (.error .exception) ∧
      (b.handle (.mapMmio handleId region)).2.mapped =
        override b.mapped native
          (override (b.mapped native) region (b.device.armed .unmapMmio).isSome) := by
  obtain ⟨entry, live, rfl⟩ := Option.map_eq_some_iff.mp h.live
  have hundone := exec_registerOrUndo_of_rejects
    (b := { b with device := (b.device.call (.mapMmio entry.handle region)).2 }) h.rejects
    (.unmapMmio entry.handle region)
  have hexec := (exec_mapMmio_of_live live h.maps).trans hundone
  have hhandle := b.handle_eq (.mapMmio handleId region)
  rw [hexec] at hhandle
  rw [hhandle]
  exact ⟨rfl, congrArg Openings.mapped (Simulator.openings_unmapMmio_mapMmio h.maps)⟩

/-- A request to map that is not granted ends before the driver has mapped anything,
or was in vain. -/
theorem mapped_or_mapsInVain (refused : ¬ b.Grants (.mapMmio handleId region)) :
    (b.handle (.mapMmio handleId region)).2.mapped = b.mapped ∨
      ∃ native base, b.MapsInVain handleId region native base := by
  have hhandle := b.handle_eq (.mapMmio handleId region)
  cases hf : (b.registry.map .handle).find? handleId with
  | none =>
    have hexec : exec (Request.serve b.payloadLimit (.mapMmio handleId region)) b =
        (.error .invalidParam, b) := exec_bind_of_error _ (exec_lookup_of_none hf)
    rw [hexec] at hhandle
    exact .inl (by rw [hhandle])
  | some entry =>
  cases maps : (b.device.call (.mapMmio entry.handle region)).1 with
  | error fault =>
    have hdevice : exec (Service.device (.mapMmio entry.handle region)) b =
        (.error fault, { b with device := (b.device.call (.mapMmio entry.handle region)).2 }) := by
      rw [exec_device, maps]
    have hexec : exec (Request.serve b.payloadLimit (.mapMmio handleId region)) b = _ :=
      (exec_bind_of_ok _ (exec_lookup_of_some hf)).trans (exec_bind_of_error _ hdevice)
    rw [hexec] at hhandle
    rw [hhandle]
    exact .inl (congrArg Openings.mapped (openings_of_exec_error hdevice).2)
  | ok base =>
    have hexec := exec_mapMmio_of_live hf maps
    cases hadd : (b.registry.register .mapping ⟨handleId, region, base⟩).1 with
    | some id =>
      -- The mapping is registered, and the request is granted after all.
      rw [exec_registerOrUndo, hadd] at hexec
      exact absurd (grants_of_exec_ok hexec) refused
    | none =>
      exact .inr ⟨entry.handle, base, congrArg (Option.map HandleEntry.handle) hf, maps,
        Registry.rejects_of_register rfl hadd⟩

/-- A request to map that is not granted leaves the regions of all handles as they
were, unless the driver has mapped the region and no mapping could be registered for
it. Then the region is unmapped, whether or not it was mapped before, or it stays
mapped because the unmapping has met a failure; no other region is concerned. -/
theorem mapped_of_refused_mapMmio (refused : ¬ b.Grants (.mapMmio handleId region)) :
    ((∀ native base, ¬ b.MapsInVain handleId region native base) →
      (b.handle (.mapMmio handleId region)).2.mapped = b.mapped) ∧
    ∀ native base, b.MapsInVain handleId region native base →
      (b.handle (.mapMmio handleId region)).2.mapped =
          override b.mapped native
            (override (b.mapped native) region (b.device.armed .unmapMmio).isSome) ∧
        (b.device.armed .unmapMmio = none →
          ((b.handle (.mapMmio handleId region)).2.mapped = b.mapped ↔
            b.mapped native region = false)) := by
  refine ⟨fun hnever => ?_, fun native base hvain => ?_⟩
  · rcases mapped_or_mapsInVain refused with hsame | ⟨native, base, hvain⟩
    · exact hsame
    · exact absurd hvain (hnever native base)
  · have hmapped := hvain.handle.2
    refine ⟨hmapped, fun unarmed => ?_⟩
    rw [hmapped, unarmed]
    constructor
    · intro hsame
      rw [← hsame]
      simp
    · intro hoff
      change override b.mapped native (override (b.mapped native) region false) = b.mapped
      rw [← hoff, override_eq_self, override_eq_self]

/-- A handle is open and its first region is mapped, and the identifier of that
mapping is the next to be drawn. -/
def mappedOnce : Broker 1 :=
  (start (.script [⟨7, 1⟩, ⟨7, 2⟩, ⟨7, 3⟩, ⟨7, 4⟩, ⟨7, 4⟩]) (.start 1 fun _ => none) 4096).after
    [.serve (.enumerate [] 2), .serve (.openHandle ⟨7, 2⟩ 0), .serve (.mapMmio ⟨7, 3⟩ 0)]

theorem mapped_of_refused_mapMmio_mappedOnce :
    ¬ mappedOnce.Grants (.mapMmio ⟨7, 3⟩ 1) ∧
    mappedOnce.MapsInVain ⟨7, 3⟩ 1 ⟨0x20000000⟩ 0x40110000 ∧
    ((mappedOnce.handle (.mapMmio ⟨7, 3⟩ 1)).2.mapped = mappedOnce.mapped ↔
      mappedOnce.mapped ⟨0x20000000⟩ 1 = false) := by
  have refused : ¬ mappedOnce.Grants (.mapMmio ⟨7, 3⟩ 1) := by
    change ¬ some (Status.failure .exception) = some Status.success
    decide
  have hvain : mappedOnce.MapsInVain ⟨7, 3⟩ 1 ⟨0x20000000⟩ 0x40110000 :=
    ⟨rfl, rfl, ⟨rfl, rfl⟩⟩
  exact ⟨refused, hvain, ((mapped_of_refused_mapMmio refused).2 _ _ hvain).2 rfl⟩

/-- The region is mapped a second time, in vain. The first mapping is still live, but
its region is not mapped any more, and to unmap it is refused. -/
theorem unmapped_of_refused_mapMmio :
    (mappedOnce.handle (.mapMmio ⟨7, 3⟩ 0)).1 = .ofResult .mapMmio (.error .exception) ∧
    mappedOnce.mapped ⟨0x20000000⟩ 0 = true ∧
    (mappedOnce.handle (.mapMmio ⟨7, 3⟩ 0)).2.mapped ⟨0x20000000⟩ 0 = false ∧
    (mappedOnce.handle (.unmapMmio ⟨7, 3⟩ ⟨7, 4⟩ 0)).1 = .ofResult .unmapMmio (.ok ()) ∧
    ((mappedOnce.handle (.mapMmio ⟨7, 3⟩ 0)).2.handle (.unmapMmio ⟨7, 3⟩ ⟨7, 4⟩ 0)).1 =
      .ofResult .unmapMmio (.error .invalidParam) :=
  ⟨rfl, rfl, rfl, rfl, rfl⟩

end Broker

end DeviceBroker
