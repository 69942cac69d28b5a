import DeviceBroker.Broker.Serve
import DeviceBroker.Proofs.Identity.Registry

/-!
# Uninterrupted execution of services

`exec s b` is the result of a service that runs on the broker `b` without
interruption, together with the broker after it. Every step that requests are
made of has one equation here, so that no later proof unfolds the step. A
failure ends a service and keeps what was done before it.
-/

namespace DeviceBroker

variable {cards : Nat} {α β : Type}

namespace Service

/-- The result of a service that is not interrupted, and the broker after it. -/
def exec (s : Service α) (b : Broker cards) : Except Fault α × Broker cards := s.run.run b

@[simp] theorem exec_pure (value : α) (b : Broker cards) :
    exec (pure value) b = (.ok value, b) := rfl

@[simp] theorem exec_throw (fault : Fault) (b : Broker cards) :
    exec (throw fault : Service α) b = (.error fault, b) := rfl

theorem exec_bind (s : Service α) (next : α → Service β) (b : Broker cards) :
    exec (s >>= next) b =
      match exec s b with
      | (.ok value, b') => exec (next value) b'
      | (.error fault, b') => (.error fault, b') := by
  have h := Program.run_bind s.run (ExceptT.bindCont next) b
  change (s.run >>= ExceptT.bindCont next).run b = _
  rw [h]
  unfold exec
  generalize s.run.run b = outcome
  obtain ⟨result, b'⟩ := outcome
  cases result <;> rfl

theorem exec_bind_of_ok {s : Service α} {b b' : Broker cards} {value : α}
    (next : α → Service β) (h : exec s b = (.ok value, b')) :
    exec (s >>= next) b = exec (next value) b' := by
  rw [exec_bind, h]

theorem exec_bind_of_error {s : Service α} {b b' : Broker cards} {fault : Fault}
    (next : α → Service β) (h : exec s b = (.error fault, b')) :
    exec (s >>= next) b = (.error fault, b') := by
  rw [exec_bind, h]

/-- What is done with the result alone leaves the broker as it is. -/
theorem exec_bind_pure_snd (s : Service α) (f : α → β) (b : Broker cards) :
    (exec (s >>= fun value => pure (f value)) b).2 = (exec s b).2 := by
  rw [exec_bind]
  generalize exec s b = outcome
  obtain ⟨result, b'⟩ := outcome
  cases result <;> rfl

theorem exec_require (condition : Bool) (fault : Fault) (b : Broker cards) :
    exec (require condition fault) b = (if condition then .ok () else .error fault, b) := rfl

theorem exec_device (call : DeviceCall) (b : Broker cards) :
    exec (device call) b =
      ((b.device.call call).1, { b with device := (b.device.call call).2 }) := rfl

theorem exec_lookup (cls : ResourceClass) (id : RemoteId) (b : Broker cards) :
    exec (lookup cls id) b =
      match (b.registry.map cls).find? id with
      | some entry => (.ok entry, b)
      | none => (.error .invalidParam, b) := by
  change Program.run (_ >>= _) b = _
  rw [Program.run_bind, Program.run_perform]
  cases h : (b.registry.map cls).find? id <;> simp [Broker.perform, h]

theorem exec_lookup_of_none {cls : ResourceClass} {id : RemoteId} {b : Broker cards}
    (h : (b.registry.map cls).find? id = none) :
    exec (lookup cls id) b = (.error .invalidParam, b) := by
  rw [exec_lookup, h]

theorem exec_lookup_of_some {cls : ResourceClass} {id : RemoteId} {b : Broker cards}
    {entry : cls.Entry} (h : (b.registry.map cls).find? id = some entry) :
    exec (lookup cls id) b = (.ok entry, b) := by
  rw [exec_lookup, h]

theorem exec_require_bind (condition : Bool) (fault : Fault) (next : Unit → Service α)
    (b : Broker cards) :
    exec (require condition fault >>= next) b =
      if condition then exec (next ()) b else (.error fault, b) := by
  rw [exec_bind, exec_require]
  cases condition <;> rfl

theorem exec_require_bind_ok {condition : Bool} {fault : Fault} {next : Unit → Service α}
    {b b' : Broker cards} {value : α}
    (h : exec (require condition fault >>= next) b = (.ok value, b')) :
    condition = true ∧ exec (next ()) b = (.ok value, b') := by
  rw [exec_require_bind] at h
  split at h
  · rename_i hc
    exact ⟨hc, h⟩
  · cases h

theorem exec_require_bind_error {condition : Bool} {fault fault' : Fault}
    {next : Unit → Service α} {b b' : Broker cards}
    (h : exec (require condition fault >>= next) b = (.error fault', b')) :
    b' = b ∨ exec (next ()) b = (.error fault', b') := by
  rw [exec_require_bind] at h
  split at h
  · exact .inr h
  · cases h
    exact .inl rfl

theorem exec_lookupOwned (cls : ResourceClass) (id owner : RemoteId) (b : Broker cards) :
    exec (lookupOwned cls id owner) b =
      match (b.registry.map cls).find? id with
      | none => (.error .invalidParam, b)
      | some entry =>
        if cls.owner? entry = some owner then (.ok entry, b) else (.error .notFound, b) := by
  unfold lookupOwned
  cases h : (b.registry.map cls).find? id with
  | none => rw [exec_bind_of_error _ (exec_lookup_of_none h)]
  | some entry =>
      rw [exec_bind_of_ok _ (exec_lookup_of_some h), exec_require_bind]
      simp only [beq_iff_eq, exec_pure]

/-- A range of a live buffer, through a live handle. -/
theorem exec_bufferRange {handleId bufferId : RemoteId} {handle : HandleEntry}
    {buffer : BufferEntry} {b : Broker cards}
    (hh : (b.registry.map .handle).find? handleId = some handle)
    (hf : (b.registry.map .buffer).find? bufferId = some buffer) (offset count : UInt64) :
    exec (bufferRange handleId bufferId offset count) b =
      if buffer.owner ≠ handleId then (.error .notFound, b)
      else if buffer.covers offset count then (.ok (handle, buffer), b)
      else (.error .invalidParam, b) := by
  unfold bufferRange
  rw [exec_bind_of_ok _ (exec_lookup_of_some hh), exec_bind, exec_lookupOwned, hf]
  have howner : ResourceClass.buffer.owner? buffer = some buffer.owner := rfl
  by_cases ho : buffer.owner = handleId
  · simp only [howner, ho, ne_eq, not_true_eq_false, if_true, if_false, exec_require_bind,
      exec_pure]
  · simp only [howner, ho, ne_eq, not_false_eq_true, if_true, Option.some.injEq, if_false]

/-! ## Tearing down -/

/-- What is done to the driver alone neither reads nor changes the registry. -/
def DeviceOnly (s : Service α) : Prop :=
  ∀ (cards : Nat) (b : Broker cards) (r : Registry),
    exec s { b with registry := r } = ((exec s b).1, { (exec s b).2 with registry := r })

theorem deviceOnly_device (call : DeviceCall) : DeviceOnly (device call) :=
  fun _ _ _ => rfl

theorem deviceOnly_require_bind {condition : Bool} {fault : Fault} {next : Unit → Service α}
    (h : DeviceOnly (next ())) : DeviceOnly (require condition fault >>= next) := by
  intro cards b r
  rw [exec_require_bind, exec_require_bind]
  split
  · exact h cards b r
  · rfl

theorem DeviceOnly.registry_eq {s : Service α} (h : DeviceOnly s) (b : Broker cards) :
    (exec s b).2.registry = b.registry :=
  congrArg (fun outcome => outcome.2.registry) (h cards b b.registry)

theorem exec_teardown_of_none {cls : ResourceClass} {id : RemoteId} {b : Broker cards}
    (destroy : cls.Entry → Service Unit) (h : (b.registry.map cls).find? id = none) :
    exec (teardown cls id destroy) b = (.error .invalidParam, b) := by
  change Program.run (_ >>= _) b = _
  rw [Program.run_bind, Program.run_perform]
  simp [Broker.perform, Registry.update, IdentityMap.claim_of_absent h]

/-- A claim that is released leaves the registry that it was taken on. -/
theorem perform_settle_release {cls : ResourceClass} {id : RemoteId} {r : Registry}
    {entry : cls.Entry} (h : (r.map cls).slots.find? id = some ⟨entry, false⟩)
    (b : Broker cards) :
    ({ b with registry := r.withMap cls ((r.map cls).mark id true) }.perform
      (.settle cls id .release)).2 = { b with registry := r } := by
  simp [Broker.perform, Registry.update, IdentityMap.settle_release_mark h]

/-- A claim that is committed removes its identifier. -/
theorem perform_settle_commit {cls : ResourceClass} {id : RemoteId} {r : Registry}
    {entry : cls.Entry} (h : (r.map cls).slots.find? id = some ⟨entry, false⟩)
    (b : Broker cards) :
    ({ b with registry := r.withMap cls ((r.map cls).mark id true) }.perform
      (.settle cls id .commit)).2 =
      { b with registry := r.withMap cls ((r.map cls).remove id).2 } := by
  simp [Broker.perform, Registry.update, IdentityMap.settle_commit_mark h]

theorem exec_teardown_of_claimed {cls : ResourceClass} {id : RemoteId} {b : Broker cards}
    (destroy : cls.Entry → Service Unit) {entry : cls.Entry} (hv : id ≠ .sentinel)
    (h : (b.registry.map cls).slots.find? id = some ⟨entry, true⟩) :
    exec (teardown cls id destroy) b = (.error .busy, b) := by
  change Program.run (_ >>= _) b = _
  rw [Program.run_bind, Program.run_perform]
  simp [Broker.perform, Registry.update, IdentityMap.claim_of_claimed hv h rfl]

/-- Tearing down is to look the entry up, to destroy what is behind it, and to
remove it if that succeeded. -/
theorem exec_teardown_of_unclaimed {cls : ResourceClass} {id : RemoteId} {b : Broker cards}
    {destroy : cls.Entry → Service Unit} {entry : cls.Entry} (hd : DeviceOnly (destroy entry))
    (hv : id ≠ .sentinel) (h : (b.registry.map cls).slots.find? id = some ⟨entry, false⟩) :
    exec (teardown cls id destroy) b =
      match exec (destroy entry) b with
      | (.ok (), b') =>
        (.ok (), { b' with registry := b.registry.withMap cls ((b.registry.map cls).remove id).2 })
      | (.error fault, b') => (.error fault, b') := by
  change Program.run (_ >>= _) b = _
  rw [Program.run_bind, Program.run_perform]
  have hmarked := hd cards b (b.registry.withMap cls ((b.registry.map cls).mark id true))
  have hsame := hd.registry_eq b
  simp only [Broker.perform, Registry.update, IdentityMap.claim_of_unclaimed hv h rfl,
    Program.run_bind]
  unfold exec at hmarked hsame ⊢
  rw [hmarked]
  generalize (destroy entry).run.run b = outcome at hsame ⊢
  obtain ⟨result, b'⟩ := outcome
  cases result with
  | ok _ => exact congrArg (Prod.mk _) (perform_settle_commit h b')
  | error fault =>
      -- Destroying has called the driver at most, so putting the registry back changes nothing.
      have hback : { b' with registry := b.registry } = b' := by rw [← hsame]
      exact congrArg (Prod.mk _) ((perform_settle_release h b').trans hback)

/-- Tearing down answers what destroying answers. -/
theorem exec_teardown_fst {cls : ResourceClass} {id : RemoteId} {b : Broker cards}
    {destroy : cls.Entry → Service Unit} {entry : cls.Entry} (hd : DeviceOnly (destroy entry))
    (hv : id ≠ .sentinel) (h : (b.registry.map cls).slots.find? id = some ⟨entry, false⟩) :
    (exec (teardown cls id destroy) b).1 = (exec (destroy entry) b).1 := by
  rw [exec_teardown_of_unclaimed hd hv h]
  generalize exec (destroy entry) b = outcome
  obtain ⟨_ | _, _⟩ := outcome
  · rfl
  · rfl

/-- Tearing down something that is live, unless another claim on it is held. -/
theorem exec_teardown_of_some {cls : ResourceClass} {id : RemoteId} {b : Broker cards}
    {destroy : cls.Entry → Service Unit} {entry : cls.Entry} (hd : DeviceOnly (destroy entry))
    (h : (b.registry.map cls).find? id = some entry) :
    exec (teardown cls id destroy) b = (.error .busy, b) ∨
    exec (teardown cls id destroy) b =
      match exec (destroy entry) b with
      | (.ok (), b') =>
        (.ok (), { b' with registry := b.registry.withMap cls ((b.registry.map cls).remove id).2 })
      | (.error fault, b') => (.error fault, b') := by
  obtain ⟨hv, ⟨_, claimed⟩, hs, rfl⟩ := IdentityMap.slots_of_find? h
  cases claimed with
  | true => exact .inl (exec_teardown_of_claimed destroy hv hs)
  | false => exact .inr (exec_teardown_of_unclaimed hd hv hs)

/-! ## Registering -/

theorem exec_registerOrUndo (cls : ResourceClass) (entry : cls.Entry) (undo : DeviceCall)
    (b : Broker cards) :
    exec (registerOrUndo cls entry undo) b =
      match (b.registry.register cls entry).1 with
      | some id => (.ok id, { b with registry := (b.registry.register cls entry).2 })
      | none =>
        (.error .exception,
          { b with
            registry := (b.registry.register cls entry).2
            device := (b.device.call undo).2 }) := by
  change Program.run (_ >>= _) b = _
  rw [Program.run_bind, Program.run_perform]
  cases h : (b.registry.register cls entry).1 with
  | some id => simp [Broker.perform, h]
  | none =>
      simp only [Broker.perform, h, Program.run_bind]
      rfl

theorem exec_intern (token : NativeToken) (b : Broker cards) :
    exec (intern token) b =
      (match (b.registry.intern .token ⟨token⟩).1 with
        | some registration => .ok registration.id
        | none => .error .exception,
        { b with registry := (b.registry.intern .token ⟨token⟩).2 }) := by
  change Program.run (_ >>= _) b = _
  rw [Program.run_bind, Program.run_perform]
  cases h : (b.registry.intern .token ⟨token⟩).1 <;> simp [Broker.perform, h]

theorem exec_exportToken (native : NativeHeader) (b : Broker cards) :
    exec (exportToken native) b =
      match (b.registry.intern .token ⟨native.token⟩).1 with
      | some registration =>
        (.ok ⟨registration.id, native.header⟩,
          { b with registry := (b.registry.intern .token ⟨native.token⟩).2 })
      | none =>
        (.error .exception,
          { b with
            registry := (b.registry.intern .token ⟨native.token⟩).2
            device := (b.device.call (.destroyToken native.token)).2 }) := by
  have hintern := exec_intern native.token b
  unfold exec at hintern
  change Program.run (_ >>= _) b = _
  rw [Program.run_bind, hintern]
  cases h : (b.registry.intern .token ⟨native.token⟩).1 with
  | some registration => rfl
  | none => rfl

end Service

theorem Broker.payloadLimit_perform (b : Broker cards) (action : Action) :
    (b.perform action).2.payloadLimit = b.payloadLimit := by
  cases action <;> rfl

/-- Serving a request is executing its service and reporting the result. -/
theorem Broker.handle_eq (b : Broker cards) (request : Request) :
    b.handle request =
      (.ofResult request.operation (Service.exec (request.serve b.payloadLimit) b).1,
        (Service.exec (request.serve b.payloadLimit) b).2) :=
  Program.run_bind _ _ b

end DeviceBroker
