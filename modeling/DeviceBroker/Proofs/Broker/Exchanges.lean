import DeviceBroker.Proofs.Broker.Execution
import DeviceBroker.Proofs.Simulator.Armed

/-!
# Exchanges with the driver

A program is a sequence of actions, and some of them are calls of the driver.
The exchanges of a program are those calls with their answers, in order. The
count of calls goes up by their number, and otherwise the count has no part in
what a program does: with another count the same program makes the same
exchanges. So a broker that a program leaves as it was has made no call.
-/

namespace DeviceBroker

variable {cards : Nat} {α β : Type}

/-- A call of the driver with what it answered. -/
structure Exchange where
  call : DeviceCall
  answer : Except Fault call.Value

/-- The exchange that an action is, if it is a call. -/
def Broker.exchanged (b : Broker cards) : Action → List Exchange
  | .call c => [⟨c, (b.device.call c).1⟩]
  | _ => []

/-- The exchanges that a program makes when it runs. -/
def Program.exchanges : Program α → Broker cards → List Exchange
  | .done _, _ => []
  | .act action next, b =>
    b.exchanged action ++ (next (b.perform action).1).exchanges (b.perform action).2

/-- The same broker with another count of calls. -/
def Broker.recount (b : Broker cards) (n : Nat) : Broker cards :=
  { b with device := b.device.recount n }

namespace Broker

theorem calls_perform (b : Broker cards) (a : Action) :
    (b.perform a).2.device.calls = b.device.calls + (b.exchanged a).length := by
  cases a with
  | call c => exact b.device.calls_call c
  | _ => rfl

theorem armed_perform (b : Broker cards) (a : Action) {kind : CallKind}
    (h : ∀ x ∈ b.exchanged a, x.call.kind ≠ kind) :
    (b.perform a).2.device.armed kind = b.device.armed kind := by
  cases a with
  | call c => exact b.device.armed_call_of_ne fun hk => h _ (List.mem_singleton_self _) hk.symm
  | _ => rfl

theorem perform_recount (b : Broker cards) (n : Nat) (a : Action) :
    (b.recount n).perform a =
      ((b.perform a).1, (b.perform a).2.recount (n + (b.exchanged a).length)) := by
  cases a with
  | call c =>
    change (((b.device.recount n).call c).1,
      { b with device := ((b.device.recount n).call c).2 }) = _
    rw [b.device.call_recount n c]
    rfl
  | _ => rfl

end Broker

namespace Program

theorem exchanges_act (action : Action) (next : action.Answer → Program α) (b : Broker cards) :
    (Program.act action next).exchanges b =
      b.exchanged action ++ (next (b.perform action).1).exchanges (b.perform action).2 := rfl

theorem exchanges_bind (p : Program α) (next : α → Program β) (b : Broker cards) :
    (p >>= next).exchanges b =
      p.exchanges b ++ (next (p.run b).1).exchanges (p.run b).2 := by
  induction p generalizing b with
  | done value => rfl
  | act action rest ih =>
    rw [act_bind, exchanges_act, ih, exchanges_act, run_act, List.append_assoc]

/-- The calls of a program are those of its exchanges. -/
theorem map_call_exchanges (p : Program α) (b : Broker cards) :
    (p.exchanges b).map Exchange.call = p.calls b := by
  induction p generalizing b with
  | done value => rfl
  | act action next ih =>
    rw [exchanges_act, List.map_append, ih]
    cases action <;> rfl

theorem calls_run (p : Program α) (b : Broker cards) :
    (p.run b).2.device.calls = b.device.calls + (p.calls b).length := by
  rw [← p.map_call_exchanges, List.length_map]
  induction p generalizing b with
  | done value => rfl
  | act action next ih =>
    rw [run_act, ih, b.calls_perform, exchanges_act, List.length_append, Nat.add_assoc]

/-- A program consumes no failure but of the kinds of its calls. -/
theorem armed_run (p : Program α) {b : Broker cards} {kind : CallKind}
    (h : ∀ call ∈ p.calls b, call.kind ≠ kind) :
    (p.run b).2.device.armed kind = b.device.armed kind := by
  rw [← p.map_call_exchanges, List.forall_mem_map] at h
  induction p generalizing b with
  | done value => rfl
  | act action next ih =>
    rw [exchanges_act, List.forall_mem_append] at h
    rw [run_act, ih _ h.2, b.armed_perform action h.1]

theorem run_recount (p : Program α) (b : Broker cards) (n : Nat) :
    p.run (b.recount n) =
      ((p.run b).1, (p.run b).2.recount (n + (p.exchanges b).length)) := by
  induction p generalizing b n with
  | done value => rfl
  | act action next ih =>
    rw [run_act, b.perform_recount, ih, run_act, exchanges_act, List.length_append,
      Nat.add_assoc]

/-- A program that leaves the broker as it was makes no call. -/
theorem calls_eq_nil {p : Program α} {b : Broker cards} (h : (p.run b).2 = b) :
    p.calls b = [] := by
  have hcount := p.calls_run b
  rw [h] at hcount
  exact List.length_eq_zero_iff.mp (by omega)

end Program

/-- What a broker does with a request does not depend on how many calls it made before. -/
theorem Broker.handle_recount (b : Broker cards) (n : Nat) (request : Request) :
    (b.recount n).handle request =
      ((b.handle request).1,
        (b.handle request).2.recount
          (n + ((request.program b.payloadLimit).calls b).length)) := by
  have hrun := (request.program b.payloadLimit).run_recount b n
  rwa [← List.length_map (f := Exchange.call), Program.map_call_exchanges] at hrun

namespace Service

/-- The exchanges of a service that is not interrupted. -/
def exchanges (s : Service α) (b : Broker cards) : List Exchange := s.run.exchanges b

@[simp] theorem exchanges_pure (value : α) (b : Broker cards) :
    exchanges (pure value) b = [] := rfl

@[simp] theorem exchanges_throw (fault : Fault) (b : Broker cards) :
    exchanges (throw fault : Service α) b = [] := rfl

@[simp] theorem exchanges_require (condition : Bool) (fault : Fault) (b : Broker cards) :
    exchanges (require condition fault) b = [] := rfl

theorem exchanges_device (call : DeviceCall) (b : Broker cards) :
    exchanges (device call) b = [⟨call, (b.device.call call).1⟩] := rfl

theorem exchanges_bind (s : Service α) (next : α → Service β) (b : Broker cards) :
    exchanges (s >>= next) b =
      exchanges s b ++
        match exec s b with
        | (.ok value, b') => exchanges (next value) b'
        | (.error _, _) => [] := by
  have h := Program.exchanges_bind s.run (ExceptT.bindCont next) b
  change (s.run >>= ExceptT.bindCont next).exchanges b = _
  rw [h]
  unfold exchanges exec
  generalize s.run.run b = outcome
  obtain ⟨result, b'⟩ := outcome
  cases result <;> rfl

@[simp] theorem exchanges_lookup (cls : ResourceClass) (id : RemoteId) (b : Broker cards) :
    exchanges (lookup cls id) b = [] := by
  change Program.exchanges (_ >>= _) b = _
  rw [Program.exchanges_bind, Program.run_perform]
  cases h : (b.registry.map cls).find? id <;>
    simp [Broker.perform, h, Program.perform, Program.exchanges, Broker.exchanged]

theorem exchanges_intern (token : NativeToken) (b : Broker cards) :
    exchanges (intern token) b = [] := by
  change Program.exchanges (_ >>= _) b = _
  rw [Program.exchanges_bind, Program.run_perform]
  cases h : (b.registry.intern .token ⟨token⟩).1 <;>
    simp [Broker.perform, h, Program.perform, Program.exchanges, Broker.exchanged]

theorem exchanges_exportToken (native : NativeHeader) (b : Broker cards) :
    exchanges (exportToken native) b =
      match (b.registry.intern .token ⟨native.token⟩).1 with
      | some _ => []
      | none => [⟨.destroyToken native.token, (b.device.call (.destroyToken native.token)).1⟩] := by
  have hintern := exec_intern native.token b
  have hnone := exchanges_intern native.token b
  unfold exec at hintern
  unfold exchanges at hnone
  change Program.exchanges (_ >>= _) b = _
  rw [Program.exchanges_bind, hintern, hnone]
  cases h : (b.registry.intern .token ⟨native.token⟩).1 with
  | some registration => rfl
  | none => rfl

theorem exchanges_registerOrUndo (cls : ResourceClass) (entry : cls.Entry) (undo : DeviceCall)
    (b : Broker cards) :
    exchanges (registerOrUndo cls entry undo) b =
      match (b.registry.register cls entry).1 with
      | some _ => []
      | none => [⟨undo, (b.device.call undo).1⟩] := by
  change Program.exchanges (_ >>= _) b = _
  rw [Program.exchanges_bind, Program.run_perform]
  cases h : (b.registry.register cls entry).1 with
  | some id => simp [Broker.perform, h, Program.perform, Program.exchanges, Broker.exchanged]
  | none =>
    simp only [Broker.perform, h, Program.exchanges_bind]
    rfl

/-- A service that exchanges the same with the driver whatever the registry is. -/
def RegistryFree (s : Service α) : Prop :=
  ∀ (cards : Nat) (b : Broker cards) (r : Registry),
    exchanges s { b with registry := r } = exchanges s b

theorem registryFree_device (call : DeviceCall) : RegistryFree (device call) :=
  fun _ _ _ => rfl

theorem registryFree_require_bind {condition : Bool} {fault : Fault} {next : Unit → Service α}
    (h : RegistryFree (next ())) : RegistryFree (require condition fault >>= next) := by
  intro cards b r
  simp only [exchanges_bind, exec_require]
  cases condition with
  | false => rfl
  | true => exact h cards b r

/-- Tearing down is refused at once, or it exchanges with the driver what destroying does. -/
theorem exchanges_teardown {cls : ResourceClass} {id : RemoteId} {b : Broker cards}
    {destroy : cls.Entry → Service Unit} (hd : ∀ entry, RegistryFree (destroy entry)) :
    (exchanges (teardown cls id destroy) b = [] ∧
      ∃ fault, exec (teardown cls id destroy) b = (.error fault, b)) ∨
    ∃ entry, (b.registry.map cls).slots.find? id = some ⟨entry, false⟩ ∧ id ≠ .sentinel ∧
      exchanges (teardown cls id destroy) b = exchanges (destroy entry) b := by
  have hx : exchanges (teardown cls id destroy) b = Program.exchanges (_ >>= _) b := rfl
  rw [hx, Program.exchanges_bind, Program.run_perform]
  have he : exec (teardown cls id destroy) b = Program.run (_ >>= _) b := rfl
  rw [he, Program.run_bind, Program.run_perform]
  rcases IdentityMap.claim_cases (b.registry.map cls) id with
    ⟨-, hc⟩ | ⟨_, -, hc⟩ | ⟨entry, hf, hs, hc⟩
  · left
    simp [Broker.perform, Registry.update, hc, Program.perform, Program.exchanges,
      Broker.exchanged]
  · left
    simp [Broker.perform, Registry.update, hc, Program.perform, Program.exchanges,
      Broker.exchanged]
  · right
    refine ⟨entry, hs, (IdentityMap.slots_of_find? hf).1, ?_⟩
    rw [← hd entry cards b (b.registry.withMap cls ((b.registry.map cls).mark id true))]
    simp only [Broker.perform, Registry.update, hc, Program.exchanges_bind]
    unfold exchanges
    generalize ((destroy entry).run.run _) = outcome
    obtain ⟨result, b'⟩ := outcome
    cases result <;> simp [Program.perform, Program.exchanges, Broker.exchanged]

end Service

/-- What a request exchanges with the driver is what its service does. -/
theorem Request.exchanges_program (request : Request) (limit : UInt64) (b : Broker cards) :
    (request.program limit).exchanges b = Service.exchanges (request.serve limit) b := by
  refine (Program.exchanges_bind _ _ b).trans ?_
  exact List.append_nil _

end DeviceBroker
