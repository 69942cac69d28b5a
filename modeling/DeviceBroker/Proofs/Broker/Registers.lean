import DeviceBroker.Proofs.Broker.Regions
import DeviceBroker.Proofs.Broker.Repertoire
import DeviceBroker.Proofs.Broker.Trace
import DeviceBroker.Proofs.Simulator.Registers

/-!
# Shared registers along a history

Every resource has one register file, and all handles that are open on the
resource share it. A client can tell what is in it from what was asked for and
granted: a granted write puts its bytes, a granted reset of the resource or a
granted reconfiguration clears the file, and no other request changes a byte.
An access of 32, 64 or 512 bits reads or writes bytes of the file if it is
aligned and within a region, and is refused otherwise.
-/

namespace DeviceBroker

variable {cards : Nat} {α : Type}

/-! ## What a client expects -/

/-- The files with that of one resource changed, if there is the resource. -/
def changeFile (files : Site cards → RegisterFile) (site? : Option (Site cards))
    (change : Site cards → RegisterFile → RegisterFile) : Site cards → RegisterFile :=
  match site? with
  | some site => override files site (change site (files site))
  | none => files

namespace Broker

/-- The resource that a live handle is open on. -/
def site? (b : Broker cards) (id : RemoteId) : Option (Site cards) :=
  (b.native? id).bind b.device.siteAt

/-- The register files after a request that was granted. -/
def rewritten (b : Broker cards) (files : Site cards → RegisterFile) :
    Request → Site cards → RegisterFile
  | .writeMmio32 id region offset value =>
    changeFile files (b.site? id) fun _ file =>
      file.put region.toNat offset.toNat (Bytes.littleEndian 4 value.toNat)
  | .writeMmio64 id region offset value =>
    changeFile files (b.site? id) fun _ file =>
      file.put region.toNat offset.toNat (Bytes.littleEndian 8 value.toNat)
  | .writeMmio512 id region offset values =>
    changeFile files (b.site? id) fun _ file =>
      file.put region.toNat offset.toNat (values.take 64)
  | .resetHandle id =>
    changeFile files (b.site? id) fun site file => .cleared site.kind file.guid
  | .reconfigureSlot id _ path _ =>
    changeFile files ((b.site? id).map Site.accelerator) fun _ _ =>
      .cleared .accelerator (((b.device.images path).getD []).take 16)
  | _ => files

instance (b : Broker cards) (request : Request) : Decidable (b.Grants request) :=
  inferInstanceAs (Decidable ((b.handle request).1.status? = some .success))

/-- The register files after a history. -/
def filesAfter (b : Broker cards) (files : Site cards → RegisterFile) :
    List Event → Site cards → RegisterFile
  | [] => files
  | .serve request :: rest =>
    (b.handle request).2.filesAfter
      (if b.Grants request then b.rewritten files request else files) rest
  | .disturb d :: rest => (b.disturb d).filesAfter files rest

end Broker

/-- Whether an operation changes registers. -/
def Operation.rewrites (op : Operation) : Bool := op.firstCall.rewrites

/-! ## Requests that change registers -/

open Service

section

variable {b : Broker cards} {files : Site cards → RegisterFile} {request : Request}
  {call : DeviceCall}

/-- The call that a request makes in order to change registers. -/
inductive Rewrites (b : Broker cards) : Request → DeviceCall → Prop
  | write32 {id : RemoteId} {region : UInt32} {offset : UInt64} {value : UInt32}
      {entry : HandleEntry} (live : (b.registry.map .handle).find? id = some entry) :
      Rewrites b (.writeMmio32 id region offset value)
        (.writeMmio32 entry.handle region offset value)
  | write64 {id : RemoteId} {region : UInt32} {offset value : UInt64} {entry : HandleEntry}
      (live : (b.registry.map .handle).find? id = some entry) :
      Rewrites b (.writeMmio64 id region offset value)
        (.writeMmio64 entry.handle region offset value)
  | write512 {id : RemoteId} {region : UInt32} {offset : UInt64} {values : List UInt8}
      {word : Word512} {entry : HandleEntry}
      (live : (b.registry.map .handle).find? id = some entry)
      (fits : values.length ≤ b.payloadLimit.toNat) (starts : Word512.ofList? values = some word) :
      Rewrites b (.writeMmio512 id region offset values)
        (.writeMmio512 entry.handle region offset word)
  | reset {id : RemoteId} {entry : HandleEntry}
      (live : (b.registry.map .handle).find? id = some entry) :
      Rewrites b (.resetHandle id) (.resetHandle entry.handle)
  | reconfigure {id : RemoteId} {slot : UInt32} {path : String} {flags : UInt32}
      {entry : HandleEntry} (live : (b.registry.map .handle).find? id = some entry) :
      Rewrites b (.reconfigureSlot id slot path flags)
        (.reconfigureSlot entry.handle slot path flags)

/-- A request that is one call of the driver is granted if the call succeeds. -/
theorem grants_iff_of_exec {result : Except Fault request.operation.Value}
    (hexec : exec (request.serve b.payloadLimit) b =
      (result, { b with device := (b.device.call call).2 }))
    (hresult : result.isOk = (b.device.call call).1.isOk) :
    (b.handle request).2.device = (b.device.call call).2 ∧
      (b.Grants request ↔ (b.device.call call).1.isOk = true) := by
  constructor
  · rw [Broker.handle_eq, hexec]
  · unfold Broker.Grants
    rw [Broker.handle_eq, hexec, ← hresult]
    exact Reply.status?_ofResult_eq_success_iff

theorem exec_writeMmio512 {id : RemoteId} {region : UInt32} {offset : UInt64}
    {values : List UInt8} {word : Word512} {entry : HandleEntry}
    (live : (b.registry.map .handle).find? id = some entry)
    (fits : values.length ≤ b.payloadLimit.toNat) (starts : Word512.ofList? values = some word) :
    exec (Request.serve b.payloadLimit (.writeMmio512 id region offset values)) b =
      exec (device (.writeMmio512 entry.handle region offset word)) b := by
  refine (exec_bind_of_ok _ (exec_lookup_of_some live)).trans ?_
  rw [exec_require_bind, if_pos (decide_eq_true fits), starts]
  rfl

theorem Rewrites.run (h : Rewrites b request call) :
    (b.handle request).2.device = (b.device.call call).2 ∧
      (b.Grants request ↔ (b.device.call call).1.isOk = true) := by
  cases h with
  | write32 live | write64 live | reset live | reconfigure live =>
    exact grants_iff_of_exec
      ((exec_bind_of_ok _ (exec_lookup_of_some live)).trans (exec_device _ b)) rfl
  | write512 live fits starts =>
    exact grants_iff_of_exec ((exec_writeMmio512 live fits starts).trans (exec_device _ b)) rfl

/-- A request that would change registers makes its call, or is refused before. -/
theorem rewrites_or_refused (h : request.operation.rewrites = true) :
    (∃ call, Rewrites b request call) ∨
      exec (request.serve b.payloadLimit) b = (.error .invalidParam, b) := by
  cases request with
  | writeMmio32 id =>
    cases hf : (b.registry.map .handle).find? id with
    | none => exact .inr (exec_bind_of_error _ (exec_lookup_of_none hf))
    | some entry => exact .inl ⟨_, .write32 hf⟩
  | writeMmio64 id =>
    cases hf : (b.registry.map .handle).find? id with
    | none => exact .inr (exec_bind_of_error _ (exec_lookup_of_none hf))
    | some entry => exact .inl ⟨_, .write64 hf⟩
  | resetHandle id =>
    cases hf : (b.registry.map .handle).find? id with
    | none => exact .inr (exec_bind_of_error _ (exec_lookup_of_none hf))
    | some entry => exact .inl ⟨_, .reset hf⟩
  | reconfigureSlot id =>
    cases hf : (b.registry.map .handle).find? id with
    | none => exact .inr (exec_bind_of_error _ (exec_lookup_of_none hf))
    | some entry => exact .inl ⟨_, .reconfigure hf⟩
  | writeMmio512 id region offset values =>
    cases hf : (b.registry.map .handle).find? id with
    | none => exact .inr (exec_bind_of_error _ (exec_lookup_of_none hf))
    | some entry =>
      by_cases fits : values.length ≤ b.payloadLimit.toNat
      · cases starts : Word512.ofList? values with
        | some word => exact .inl ⟨_, .write512 hf fits starts⟩
        | none =>
          refine .inr ((exec_bind_of_ok _ (exec_lookup_of_some hf)).trans ?_)
          rw [exec_require_bind, if_pos (decide_eq_true fits), starts]
          rfl
      · refine .inr ((exec_bind_of_ok _ (exec_lookup_of_some hf)).trans ?_)
        rw [exec_require_bind, decide_eq_false fits]
        rfl
  | _ => cases h

theorem Broker.site?_of_live {id : RemoteId} {entry : HandleEntry} {site : Site cards}
    (live : (b.registry.map .handle).find? id = some entry)
    (hs : b.device.siteAt entry.handle = some site) : b.site? id = some site := by
  unfold Broker.site? Broker.native?
  rw [live]
  exact hs

/-- The call of a granted request changes the registers as the request is expected to. -/
theorem Rewrites.shows (h : b.device.Shows files) (hr : Rewrites b request call)
    (hok : (b.device.call call).1.isOk = true) :
    (b.device.call call).2.Shows (b.rewritten files request) := by
  cases hr with
  | write32 live | write64 live =>
    obtain ⟨value, t, hwrite, hcores⟩ := Simulator.cores_of_call_ok rfl hok
    obtain ⟨site, hsite, hshows⟩ := h.of_writeRegister hwrite
    simp only [Broker.rewritten, Broker.site?_of_live live hsite, changeFile]
    exact hshows.of_cores hcores
  | write512 live fits starts =>
    obtain ⟨value, t, hwrite, hcores⟩ := Simulator.cores_of_call_ok rfl hok
    rw [Word512.toList_of_ofList? starts] at hwrite
    obtain ⟨site, hsite, hshows⟩ := h.of_writeRegister hwrite
    simp only [Broker.rewritten, Broker.site?_of_live live hsite, changeFile]
    exact hshows.of_cores hcores
  | reset live =>
    obtain ⟨value, t, hreset, hcores⟩ := Simulator.cores_of_call_ok rfl hok
    obtain ⟨site, hsite, hshows⟩ := h.of_resetHandle hreset
    simp only [Broker.rewritten, Broker.site?_of_live live hsite, changeFile]
    exact hshows.of_cores hcores
  | reconfigure live =>
    obtain ⟨value, t, hload, hcores⟩ := Simulator.cores_of_call_ok rfl hok
    obtain ⟨site, image, hsite, himage, hshows⟩ := h.of_reconfigureSlot hload
    simp only [Broker.rewritten, Broker.site?_of_live live hsite, changeFile, himage,
      Option.map_some, Option.getD_some]
    exact hshows.of_cores hcores

theorem Operation.call_of_not_rewrites {op : Operation} (h : op.rewrites = false)
    {kind : CallKind} (hk : kind = op.firstCall ∨ op.undoes? = some kind) :
    kind.rewrites = false := by
  obtain rfl | hk := hk
  · exact h
  · cases op with
    | openHandle | mapMmio | prepareBuffer | tokenGetObject | handleGetObject | objectGetObject
    | objectGetObjectAt | enumerate | cloneToken =>
      cases hk
      rfl
    | _ => cases hk

end

namespace Broker

variable {b : Broker cards} {files : Site cards → RegisterFile}

/-! ## Histories -/

theorem rewritten_of_not_rewrites {request : Request} (h : request.operation.rewrites = false) :
    b.rewritten files request = files := by
  cases request with
  | writeMmio32 | writeMmio64 | writeMmio512 | resetHandle | reconfigureSlot => cases h
  | _ => rfl

theorem shows_handle (h : b.device.Shows files) (request : Request) :
    (b.handle request).2.device.Shows
      (if b.Grants request then b.rewritten files request else files) := by
  cases hop : request.operation.rewrites with
  | false =>
    rw [rewritten_of_not_rewrites hop, ite_self]
    refine handle_preserves (I := fun b => b.device.Shows files) (fun b' a ha hb => ?_) h
    cases ha with
    | call hk => exact hb.call (Operation.call_of_not_rewrites hop hk)
    | _ => exact hb
  | true =>
    rcases rewrites_or_refused hop with ⟨call, hcall⟩ | hrefused
    · obtain ⟨hdevice, hgrants⟩ := hcall.run
      rw [hdevice]
      split
      · rename_i granted
        exact hcall.shows h (hgrants.mp granted)
      · rename_i refused
        cases hresult : (b.device.call call).1 with
        | error fault => exact h.of_error hresult
        | ok value =>
          rw [hresult] at hgrants
          exact absurd (hgrants.mpr rfl) refused
    · rw [if_neg (not_grants_of_exec_error hrefused), handle_eq, hrefused]
      exact h

theorem shows_disturb (h : b.device.Shows files) (d : Disturbance) :
    (b.disturb d).device.Shows files := by
  cases d with
  | raise token number bits => exact h.of_cores (b.device.cores_raiseError token number bits)
  | _ => exact h

/-- Along a history the registers hold what is expected after what was granted. -/
theorem shows_after (h : b.device.Shows files) (events : List Event) :
    (b.after events).device.Shows (b.filesAfter files events) := by
  induction events generalizing b files with
  | nil => exact h
  | cons event rest ih =>
    cases event with
    | serve request => exact ih (b.shows_handle h request)
    | disturb d => exact ih (b.shows_disturb h d)

/-! ## Accesses -/

/-- A request is answered with a value if a condition holds. Otherwise it is refused,
and nothing but the number of calls can tell that it was made. -/
def Allows (b : Broker cards) (request : Request) (condition : Prop)
    (value : request.operation.Value) : Prop :=
  (condition → (b.handle request).1 = .ofResult request.operation (.ok value)) ∧
  (¬ condition → ∃ calls,
    b.handle request = (.ofResult request.operation (.error .invalidParam), b.recount calls))

/-- What a live handle that is open on a resource gives access to. -/
structure ServesRegisters (b : Broker cards) (file : RegisterFile) (site : Site cards)
    (id : RemoteId) : Prop where
  read32 : ∀ region offset, b.Allows (.readMmio32 id region offset)
    (site.Reaches region offset 4)
    (.ofNat (Bytes.ofLittleEndian (file.read region.toNat offset.toNat 4)))
  read64 : ∀ region offset, b.Allows (.readMmio64 id region offset)
    (site.Reaches region offset 8)
    (.ofNat (Bytes.ofLittleEndian (file.read region.toNat offset.toNat 8)))
  read512 : ∀ region offset, b.Allows (.readMmio512 id region offset)
    (site.Reaches region offset 64)
    (Vector.ofFn fun i => file.byte region.toNat (offset.toNat + i))
  write32 : ∀ region offset value, b.Allows (.writeMmio32 id region offset value)
    (site.Reaches region offset 4) ()
  write64 : ∀ region offset value, b.Allows (.writeMmio64 id region offset value)
    (site.Reaches region offset 8) ()
  write512 : ∀ region offset values, b.Allows (.writeMmio512 id region offset values)
    (64 ≤ values.length ∧ values.length ≤ b.payloadLimit.toNat ∧ site.Reaches region offset 64) ()

/-- A request that makes one call is answered as the driver serves it. -/
theorem allows_of_exec {request : Request} {call : DeviceCall} {condition : Prop}
    {value : request.operation.Value} {result : Except Fault request.operation.Value}
    (hexec : exec (request.serve b.payloadLimit) b =
      (result, { b with device := (b.device.call call).2 }))
    (unarmed : b.device.armed call.kind = none) (granted : condition → result = .ok value)
    (refused : ¬ condition → result = .error .invalidParam ∧ (b.device.serve call).2 = b.device) :
    b.Allows request condition value := by
  constructor
  · intro h
    rw [handle_eq, hexec, granted h]
  · intro h
    obtain ⟨hresult, hsame⟩ := refused h
    refine ⟨b.device.calls + 1, ?_⟩
    rw [handle_eq, hexec, hresult, Simulator.call_of_unarmed unarmed, hsame]
    rfl

theorem exec_device_of_unarmed {call : DeviceCall} (unarmed : b.device.armed call.kind = none) :
    exec (Service.device call) b =
      ((b.device.serve call).1, { b with device := (b.device.call call).2 }) := by
  rw [exec_device, Simulator.call_of_unarmed unarmed]

/-- While no failure is armed, a live handle gives access to all registers of its resource. -/
theorem servesRegisters {id : RemoteId} {entry : HandleEntry} {site : Site cards}
    (h : b.device.Shows files) (unarmed : ∀ kind, b.device.armed kind = none)
    (live : (b.registry.map .handle).find? id = some entry)
    (opened : b.device.siteAt entry.handle = some site) :
    b.ServesRegisters (files site) site id := by
  have hfound {α : Type} (next : HandleEntry → Service α) :
      exec (lookup .handle id >>= next) b = exec (next entry) b :=
    exec_bind_of_ok next (exec_lookup_of_some live)
  constructor
  case read32 =>
    refine fun region offset => allows_of_exec
      ((hfound _).trans (exec_device_of_unarmed (unarmed _))) (unarmed _)
      (fun hr => Simulator.readMmio32_of_reaches h opened hr) fun hr => ⟨?_, rfl⟩
    exact congrArg (Except.map _) (Simulator.readRegister_of_not_reaches h opened hr)
  case read64 =>
    refine fun region offset => allows_of_exec
      ((hfound _).trans (exec_device_of_unarmed (unarmed _))) (unarmed _)
      (fun hr => Simulator.readMmio64_of_reaches h opened hr) fun hr => ⟨?_, rfl⟩
    exact congrArg (Except.map _) (Simulator.readRegister_of_not_reaches h opened hr)
  case read512 =>
    refine fun region offset => allows_of_exec
      ((hfound _).trans (exec_device_of_unarmed (unarmed _))) (unarmed _)
      (fun hr => Simulator.readMmio512_of_reaches h opened hr) fun hr => ⟨?_, rfl⟩
    exact congrArg (Except.map _) (Simulator.readRegister_of_not_reaches h opened hr)
  case write32 =>
    refine fun region offset value => allows_of_exec
      ((hfound _).trans (exec_device_of_unarmed (unarmed _))) (unarmed _)
      (fun hr => Simulator.commit_writeRegister_of_reaches h opened rfl hr) fun hr => ?_
    exact Simulator.commit_writeRegister_of_not_reaches h opened rfl hr
  case write64 =>
    refine fun region offset value => allows_of_exec
      ((hfound _).trans (exec_device_of_unarmed (unarmed _))) (unarmed _)
      (fun hr => Simulator.commit_writeRegister_of_reaches h opened rfl hr) fun hr => ?_
    exact Simulator.commit_writeRegister_of_not_reaches h opened rfl hr
  case write512 =>
    intro region offset values
    by_cases hlength : 64 ≤ values.length ∧ values.length ≤ b.payloadLimit.toNat
    · obtain ⟨word, starts⟩ := Word512.exists_ofList? hlength.1
      refine allows_of_exec ((exec_writeMmio512 live hlength.2 starts).trans
        (exec_device_of_unarmed (unarmed _))) (unarmed _)
        (fun hr => Simulator.commit_writeRegister_of_reaches h opened word.size_toArray hr.2.2)
        fun hr => ?_
      exact Simulator.commit_writeRegister_of_not_reaches h opened word.size_toArray fun hreaches =>
        hr ⟨hlength.1, hlength.2, hreaches⟩
    · refine ⟨fun hr => absurd ⟨hr.1, hr.2.1⟩ hlength, fun _ => ⟨b.device.calls, ?_⟩⟩
      have hmade : (∃ call, Rewrites b (.writeMmio512 id region offset values) call) ∨ _ :=
        rewrites_or_refused rfl
      rcases hmade with ⟨_, hcall⟩ | hrefused
      · cases hcall with
        | write512 _ fits starts => exact absurd ⟨Word512.le_length_of_ofList? starts, fits⟩ hlength
      · rw [handle_eq, hrefused]
        rfl

/-- The register files of the resources are what their registers hold, and what all
live handles give access to. -/
structure SharesRegisters (b : Broker cards) (files : Site cards → RegisterFile) : Prop where
  filled : ∀ site, (b.device.resources site).regions = (files site).regions site.kind
  opened : ∀ id native, b.native? id = some native → ∃ site, b.site? id = some site
  served : ∀ id site, b.site? id = some site → (∀ kind, b.device.armed kind = none) →
    b.ServesRegisters (files site) site id

/-- A live handle is open in the driver, on one of the resources. -/
theorem exists_site? {past : List Record} (hp : Provenance past b.ownership)
    {id : RemoteId} {native : NativeHandle} (live : b.native? id = some native) :
    ∃ site, b.site? id = some site := by
  have hopen : b.device.handles.contains native = true := hp.opened id native live
  obtain ⟨state, hs⟩ := Option.isSome_iff_exists.mp hopen
  refine ⟨state.site, ?_⟩
  rw [site?, live]
  exact Simulator.siteAt_of_find? hs

/-- Along every history the registers hold what was written to them, and while no
failure is armed every live handle gives access to those of its resource, whatever the
width and wherever a region has bytes. -/
theorem sharedRegisters_after (source : IdSource) (images : String → Option (List UInt8))
    (limit : UInt64) (events : List Event) :
    ((start source (.start cards images) limit).after events).SharesRegisters
      ((start source (.start cards images) limit).filesAfter (fun site => .initial site.kind)
        events) := by
  have hshows := shows_after (b := start source (.start cards images) limit)
    (Simulator.shows_start cards images) events
  constructor
  case filled => exact fun site => (hshows site).2
  case opened =>
    exact fun id native =>
      exists_site? (provenance_after (provenance_start cards source images limit) events)
  case served =>
    intro id site hsite unarmed
    obtain ⟨native, live, hs⟩ := Option.bind_eq_some_iff.mp hsite
    obtain ⟨entry, hf, rfl⟩ := Option.map_eq_some_iff.mp live
    exact servesRegisters hshows unarmed hf hs

/-- Two handles share a resource. One writes eight bytes, and the other the upper four. -/
theorem sharedRegisters_of_two_widths :
    ((start (.seeded 7) (.start 1 fun _ => none) 4096).after
      [.serve (.enumerate [] 2), .serve (.openHandle ⟨7, 2⟩ Flags.openShared),
        .serve (.openHandle ⟨7, 2⟩ Flags.openShared),
        .serve (.writeMmio64 ⟨7, 3⟩ 1 8 0x1122334455667788),
        .serve (.writeMmio32 ⟨7, 4⟩ 1 12 0xaabbccdd)]).site? ⟨7, 3⟩ = some ⟨0, .accelerator⟩ ∧
    (((start (.seeded 7) (.start 1 fun _ => none) 4096).after
      [.serve (.enumerate [] 2), .serve (.openHandle ⟨7, 2⟩ Flags.openShared),
        .serve (.openHandle ⟨7, 2⟩ Flags.openShared),
        .serve (.writeMmio64 ⟨7, 3⟩ 1 8 0x1122334455667788),
        .serve (.writeMmio32 ⟨7, 4⟩ 1 12 0xaabbccdd)]).handle (.readMmio64 ⟨7, 3⟩ 1 8)).1 =
      .ofResult .readMmio64 (.ok 0xaabbccdd55667788) := by
  have hserved := (@sharedRegisters_after 1 (.seeded 7) (fun _ => none) 4096
    [.serve (.enumerate [] 2), .serve (.openHandle ⟨7, 2⟩ Flags.openShared),
      .serve (.openHandle ⟨7, 2⟩ Flags.openShared),
      .serve (.writeMmio64 ⟨7, 3⟩ 1 8 0x1122334455667788),
      .serve (.writeMmio32 ⟨7, 4⟩ 1 12 0xaabbccdd)]).served ⟨7, 3⟩ ⟨0, .accelerator⟩ rfl
    fun _ => rfl
  exact ⟨rfl, (hserved.read64 1 8).1 ⟨by decide, by decide, by decide⟩⟩

end Broker

end DeviceBroker
