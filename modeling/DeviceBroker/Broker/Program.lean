import DeviceBroker.Identity.Registry
import DeviceBroker.Simulator.Serve

/-!
# Programs of atomic steps

A request is not served in one piece. It is a program of atomic actions on the
registry and the driver, and the actions of other requests may come between
them. `Program` keeps the actions as data: `run` performs them one after
another without interruption, and `step` performs only the next one, which is
what an interleaving of several programs is made of.
-/

namespace DeviceBroker

/-- The state of a broker: what it has given identifiers to, the driver below
it, and the largest payload it accepts. -/
@[ext] structure Broker (cards : Nat) where
  registry : Registry
  device : Simulator cards
  payloadLimit : UInt64

def Broker.start {cards : Nat} (source : IdSource) (device : Simulator cards)
    (payloadLimit : UInt64) : Broker cards :=
  ⟨.empty source, device, payloadLimit⟩

/-- One atomic step of serving a request. -/
inductive Action where
  | find (cls : ResourceClass) (id : RemoteId)
  /-- Take the right to tear an entry down. -/
  | claim (cls : ResourceClass) (id : RemoteId)
  | settle (cls : ResourceClass) (id : RemoteId) (how : Settlement)
  | register (cls : ResourceClass) (entry : cls.Entry)
  /-- Find or add the entry of a native token. -/
  | intern (token : NativeToken)
  | removeOwned (cls : ResourceClass) (owner : RemoteId)
  | call (c : DeviceCall)

@[reducible] def Action.Answer : Action → Type
  | .find cls _ => Option cls.Entry
  | .claim cls _ => Except ClaimRefusal cls.Entry
  | .settle _ _ _ => Bool
  | .register _ _ => Option RemoteId
  | .intern _ => Option Registration
  | .removeOwned cls _ => List (RemoteId × cls.Entry)
  | .call c => Except Fault c.Value

def Broker.perform {cards : Nat} (b : Broker cards) : (a : Action) → a.Answer × Broker cards
  | .find cls id => ((b.registry.map cls).find? id, b)
  | .claim cls id =>
    let (answer, registry) := b.registry.update cls fun m => m.claim id
    (answer, { b with registry })
  | .settle cls id how =>
    let (answer, registry) := b.registry.update cls fun m => m.settle id how
    (answer, { b with registry })
  | .register cls entry =>
    let (answer, registry) := b.registry.register cls entry
    (answer, { b with registry })
  | .intern token =>
    let (answer, registry) := b.registry.intern .token ⟨token⟩
    (answer, { b with registry })
  | .removeOwned cls owner =>
    let (answer, registry) := b.registry.update cls fun m => m.removeOwnedBy owner
    (answer, { b with registry })
  | .call c =>
    let (answer, device) := b.device.call c
    (answer, { b with device })

/-- A sequence of actions that ends in a value; later actions may depend on
earlier answers. -/
inductive Program (α : Type) : Type where
  | done (value : α)
  | act (action : Action) (next : action.Answer → Program α)

namespace Program

variable {α β : Type}

def bind : Program α → (α → Program β) → Program β
  | .done value, next => next value
  | .act action rest, next => .act action fun answer => (rest answer).bind next

instance : Monad Program where
  pure := .done
  bind := bind

@[simp] theorem pure_eq (value : α) : (pure value : Program α) = .done value := rfl

@[simp] theorem done_bind (value : α) (next : α → Program β) :
    (Program.done value >>= next) = next value := rfl

@[simp] theorem act_bind (action : Action) (rest : action.Answer → Program α)
    (next : α → Program β) :
    (Program.act action rest >>= next) = .act action fun answer => rest answer >>= next := rfl

theorem bind_done (p : Program α) : p.bind .done = p := by
  induction p with
  | done _ => rfl
  | act action rest ih => exact congrArg (Program.act action) (funext ih)

theorem bind_assoc {γ : Type} (p : Program α) (f : α → Program β) (g : β → Program γ) :
    (p.bind f).bind g = p.bind fun value => (f value).bind g := by
  induction p with
  | done _ => rfl
  | act action rest ih => exact congrArg (Program.act action) (funext ih)

instance : LawfulMonad Program :=
  LawfulMonad.mk' Program (fun p => bind_done p) (fun _ _ => rfl) fun p f g => bind_assoc p f g

def perform (action : Action) : Program action.Answer := .act action .done

/-- Perform every action of a program without interruption. -/
def run {cards : Nat} : Program α → Broker cards → α × Broker cards
  | .done value, b => (value, b)
  | .act action next, b =>
    let (answer, b) := b.perform action
    (next answer).run b

def step {cards : Nat} : Program α → Broker cards → Program α × Broker cards
  | .done value, b => (.done value, b)
  | .act action next, b =>
    let (answer, b) := b.perform action
    (next answer, b)

/-- The calls of the driver that a program makes when it runs. -/
def calls {cards : Nat} : Program α → Broker cards → List DeviceCall
  | .done _, _ => []
  | .act action next, b =>
    let (answer, after) := b.perform action
    match action with
    | .call c => c :: (next answer).calls after
    | _ => (next answer).calls after

variable {cards : Nat}

@[simp] theorem run_done (value : α) (b : Broker cards) :
    (Program.done value).run b = (value, b) := rfl

theorem run_act (action : Action) (next : action.Answer → Program α) (b : Broker cards) :
    (Program.act action next).run b = (next (b.perform action).1).run (b.perform action).2 := rfl

theorem run_bind (p : Program α) (next : α → Program β) (b : Broker cards) :
    (p >>= next).run b = (next (p.run b).1).run (p.run b).2 := by
  induction p generalizing b with
  | done _ => rfl
  | act action rest ih => exact ih (b.perform action).1 (b.perform action).2

@[simp] theorem run_perform (action : Action) (b : Broker cards) :
    (perform action).run b = b.perform action := rfl

end Program

/-- A program that can end in a fault. -/
abbrev Service (α : Type) : Type := ExceptT Fault Program α

end DeviceBroker
