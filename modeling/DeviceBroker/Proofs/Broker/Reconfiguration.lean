import DeviceBroker.Proofs.Broker.Objects
import DeviceBroker.Proofs.Simulator.Reconfiguration

/-!
# Loading another function along a history

Whatever clients have written to the registers and to the attributes of an
accelerator: as soon as another function is loaded, or the accelerator is reset,
its guid is shown alike by its properties, its registers and its attribute. A
request that does not load the function changes nothing.
-/

namespace DeviceBroker

variable {cards : Nat}

namespace Broker

variable {b : Broker cards}

open Service

/-! ## Histories -/

theorem orderly_handle (h : b.device.tenure.Orderly) (request : Request) :
    (b.handle request).2.device.tenure.Orderly := by
  refine handle_preserves (I := fun b => b.device.tenure.Orderly) (fun b' a _ hb => ?_) h
  cases a with
  | call c => exact (Simulator.orderly_of_seats hb (b'.device.seats_call c)).1
  | _ => exact hb

theorem orderly_after (h : b.device.tenure.Orderly) (events : List Event) :
    (b.after events).device.tenure.Orderly := by
  induction events generalizing b with
  | nil => exact h
  | cons event rest ih =>
    cases event with
    | serve request => exact ih (orderly_handle h request)
    | disturb d =>
      have hsame : (b.disturb d).device.tenure = b.device.tenure := b.device.tenure_disturb d
      exact ih (hsame ▸ h)

theorem ready_after (source : IdSource) (images : String → Option (List UInt8)) (limit : UInt64)
    (events : List Event) : ∃ files,
    ((start source (.start cards images) limit).after events).device.Ready files :=
  ⟨_, shows_after (Simulator.shows_start cards images) events,
    ((walled_start cards source images limit).after events).formed,
    orderly_after (Simulator.orderly_start cards images) events⟩

/-! ## Requests -/

/-- What is done with images and resets, for the driver and for its clients. -/
structure Reconfigures (b : Broker cards) : Prop where
  called : ∀ handle slot path flags, b.device.LoadsSlot (b.device.siteAt handle) slot path
    (b.device.call (.reconfigureSlot handle slot path flags))
  requested : ∀ id native slot path flags, b.native? id = some native → ∃ outcome,
    b.device.LoadsSlot (b.site? id) slot path outcome ∧
    b.handle (.reconfigureSlot id slot path flags) =
      (.ofResult .reconfigureSlot outcome.1, { b with device := outcome.2 })
  /-- The identifier of a handle that is not live is refused before the image is looked for. -/
  unknown : ∀ id slot path flags, b.native? id = none →
    b.handle (.reconfigureSlot id slot path flags) =
      (.ofResult .reconfigureSlot (.error .invalidParam), b)
  reset : ∀ id port, b.site? id = some port → port.kind = .accelerator → ∃ t,
    b.device.Displays t port (b.device.resources port).guid.toList ∧
    b.handle (.resetHandle id) = (.ofResult .resetHandle (.ok ()), { b with device := t })

theorem reconfigures_of_ready {files : Site cards → RegisterFile} (h : b.device.Ready files)
    (unarmed : ∀ kind, b.device.armed kind = none) : b.Reconfigures := by
  constructor
  case called =>
    exact fun handle slot path flags => h.loadsSlot (unarmed _) handle slot path flags
  case requested =>
    intro id native slot path flags hnative
    obtain ⟨entry, hf, rfl⟩ := Option.map_eq_some_iff.mp hnative
    have hsite : b.site? id = b.device.siteAt entry.handle := by rw [site?, hnative]; rfl
    refine ⟨_, hsite ▸ h.loadsSlot (unarmed _) entry.handle slot path flags, ?_⟩
    have hexec : exec (Request.serve b.payloadLimit (.reconfigureSlot id slot path flags)) b = _ :=
      (exec_bind_of_ok _ (exec_lookup_of_some hf)).trans (exec_device _ b)
    rw [handle_eq, hexec]
  case unknown =>
    intro id slot path flags hnone
    have hf : (b.registry.map .handle).find? id = none := Option.map_eq_none_iff.mp hnone
    have hexec : exec (Request.serve b.payloadLimit (.reconfigureSlot id slot path flags)) b = _ :=
      exec_bind_of_error _ (exec_lookup_of_none hf)
    rw [handle_eq, hexec]
  case reset =>
    intro id port hsite hkind
    obtain ⟨native, hnative, hs⟩ := Option.bind_eq_some_iff.mp hsite
    obtain ⟨entry, hf, rfl⟩ := Option.map_eq_some_iff.mp hnative
    obtain ⟨hok, hdisplays⟩ := h.displays_resetHandle (unarmed _) hs hkind
    refine ⟨_, hdisplays, ?_⟩
    have hexec : exec (Request.serve b.payloadLimit (.resetHandle id)) b = _ :=
      (exec_bind_of_ok _ (exec_lookup_of_some hf)).trans (exec_device _ b)
    rw [handle_eq, hexec, hok]
    rfl

/-- Along every history, while no failure is armed: an image is loaded or refused as it should
be, and after it was loaded, as after a reset, the accelerator shows one guid in all three
ways. -/
theorem reconfigures_after {source : IdSource} {images : String → Option (List UInt8)}
    {limit : UInt64} {events : List Event}
    (unarmed : ∀ kind,
      ((start source (.start cards images) limit).after events).device.armed kind = none) :
    ((start source (.start cards images) limit).after events).Reconfigures := by
  obtain ⟨files, hready⟩ := ready_after source images limit events
  exact reconfigures_of_ready hready unarmed

/-- The bytes from `0xa0` on, as many as asked for. -/
def countedUp (count : Nat) : List UInt8 := (List.range count).map fun i => .ofNat (0xa0 + i)

/-- A register and the attribute that show the guid of an accelerator have been written over,
and nobody has it open any more. -/
def defaced : Broker 1 :=
  (start (.seeded 7) (.start 1 fun _ => some (countedUp 20)) 4096).after
    [.serve (.enumerate [] 2), .serve (.openHandle ⟨7, 1⟩ 0), .serve (.openHandle ⟨7, 2⟩ 0),
      .serve (.writeMmio64 ⟨7, 4⟩ 0 0x10 0x1234), .serve (.tokenGetObject ⟨7, 2⟩ "afu_id" 0),
      .serve (.objectWrite64 ⟨7, 5⟩ 0x5678 0), .serve (.closeHandle ⟨7, 4⟩)]

/-- An image of twenty bytes is loaded, and the first sixteen are shown. -/
theorem reconfigures_after_defaced :
    (∀ kind, defaced.device.armed kind = none) ∧
    ∃ t, defaced.device.Displays t ⟨0, .accelerator⟩ (countedUp 16) ∧
      t.faceAt (Simulator.guidObject ⟨0, .accelerator⟩) =
        some (.attribute "a0a1a2a3a4a5a6a7a8a9aaabacadaeaf") ∧
      defaced.handle (.reconfigureSlot ⟨7, 3⟩ 0 "function.gbs" 0) =
        (.ofResult .reconfigureSlot (.ok ()), { defaced with device := t }) := by
  have h : defaced.Reconfigures := reconfigures_after fun _ => rfl
  have horderly : defaced.device.tenure.Orderly :=
    orderly_after (Simulator.orderly_start 1 _) _
  obtain ⟨outcome, hloads, hhandle⟩ := h.requested ⟨7, 3⟩ _ 0 "function.gbs" 0 rfl
  have hloaded := hloads.loaded (countedUp 20) ⟨0, .device⟩ rfl rfl rfl (by decide)
    (by decide) fun handle hopened =>
      absurd ((Simulator.openCount_pos_iff horderly _).mpr ⟨handle, hopened⟩) (by decide)
  have hdisplays : defaced.device.Displays outcome.2 ⟨0, .accelerator⟩ (countedUp 16) := hloaded.2
  obtain ⟨digits, hwrites, hface⟩ := hdisplays.text
  have hdigits : digits = "a0a1a2a3a4a5a6a7a8a9aaabacadaeaf".toList :=
    hwrites.unique (Hex.writes_ofBytes (countedUp 16))
  refine ⟨fun _ => rfl, outcome.2, hdisplays, ?_, hloaded.1 ▸ hhandle⟩
  rw [hface, override_self, hdigits, String.ofList_toList]

end Broker

end DeviceBroker
