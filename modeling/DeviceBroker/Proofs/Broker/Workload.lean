import DeviceBroker.Broker.Serve
import DeviceBroker.Proofs.Identity.Registry

/-!
# Workloads

A broker serves many requests at once. A `Workload` is the broker together
with what is left of the program of every request that was accepted, and one
event lets one of them perform its next atomic action. A list of events is
thus a schedule, and a property of every schedule holds of every interleaving;
requests served one after another are the schedules that never switch.

An invariant of the broker need only be shown for one action: `Program.run`
and `Workload.after` then keep it.
-/

namespace DeviceBroker

variable {cards : Nat}

/-- The identifier that an action issued, read off its answer. -/
def Action.issued? : (a : Action) → a.Answer → Option RemoteId
  | .register _ _, id => id
  | .intern _, registration => Registry.issuedBy registration
  | .find _ _, _ => none
  | .claim _ _, _ => none
  | .settle _ _ _, _ => none
  | .removeOwned _ _, _ => none
  | .call _, _ => none

/-- Every action is one change of the registry. -/
theorem Broker.step_perform (b : Broker cards) (a : Action) :
    Registry.Step b.registry (a.issued? (b.perform a).1) (b.perform a).2.registry := by
  cases a with
  | find cls id => exact .refl _
  | claim cls id => exact .shrink (IdentityMap.within_claim _ id)
  | settle cls id how => exact .shrink (IdentityMap.within_settle _ id how)
  | register cls entry => exact Registry.step_register _ cls entry
  | intern token => exact Registry.step_intern _ .token ⟨token⟩
  | removeOwned cls owner => exact .shrink (IdentityMap.within_removeOwnedBy _ owner)
  | call c => exact .refl _

/-- What every action keeps, a program keeps. -/
theorem Program.run_preserves {α : Type} {I : Broker cards → Prop}
    (step : ∀ b a, I b → I (b.perform a).2) (p : Program α) {b : Broker cards} (h : I b) :
    I (p.run b).2 := by
  induction p generalizing b with
  | done value => exact h
  | act action next ih =>
      rw [run_act]
      exact ih _ (step b action h)

theorem Program.drawn_le_run {α : Type} (p : Program α) (b : Broker cards) :
    b.registry.drawn ≤ (p.run b).2.registry.drawn :=
  p.run_preserves (I := fun b' => b.registry.drawn ≤ b'.registry.drawn)
    (fun b' a h => Nat.le_trans h (b'.step_perform a).drawn_le) (Nat.le_refl _)

/-- While the sequence of identifiers lasts, a program keeps a registry sound. -/
theorem Program.sound_run {α : Type} {salt : UInt64} (p : Program α) {b : Broker cards}
    (h : b.registry.Sound salt) (hb : (p.run b).2.registry.drawn < 2 ^ 64) :
    (p.run b).2.registry.Sound salt := by
  refine p.run_preserves (I := fun b' => b'.registry.drawn < 2 ^ 64 → b'.registry.Sound salt)
    (fun b' a ih hd => ?_) (fun _ => h) hb
  have hstep := b'.step_perform a
  exact hstep.sound (ih (Nat.lt_of_le_of_lt hstep.drawn_le hd)) hd

/-- What the host of the cards can do between two calls. -/
inductive Disturbance where
  | arm (kind : CallKind) (fault : Fault)
  /-- The values of closed handles are given out again from now on. -/
  | recycle
  /-- Bits of an error register are set. -/
  | raise (token : NativeToken) (number : UInt32) (bits : UInt64)

def Simulator.disturb (s : Simulator cards) : Disturbance → Simulator cards
  | .arm kind fault => s.arm kind fault
  | .recycle => s.recycle
  | .raise token number bits => (s.raiseError token number bits).2

def Broker.disturb (b : Broker cards) (d : Disturbance) : Broker cards :=
  { b with device := b.device.disturb d }

/-- A request that was accepted, and what is left of its program. -/
structure Task where
  request : Request
  rest : Program Reply

/-- A broker and the requests that it has accepted. -/
structure Workload (cards : Nat) where
  broker : Broker cards
  tasks : List Task

namespace Workload

def start (source : IdSource) (device : Simulator cards) (payloadLimit : UInt64) :
    Workload cards :=
  ⟨.start source device payloadLimit, []⟩

inductive Event where
  /-- A request arrives. -/
  | accept (request : Request)
  /-- The request at a place performs its next action. -/
  | advance (place : Nat)
  /-- The host of the cards interferes. -/
  | disturb (d : Disturbance)

def step (w : Workload cards) : Event → Workload cards
  | .accept request =>
    { w with tasks := w.tasks ++ [⟨request, request.program w.broker.payloadLimit⟩] }
  | .advance place =>
    match w.tasks[place]? with
    | none => w
    | some task =>
      ⟨(task.rest.step w.broker).2,
        w.tasks.set place { task with rest := (task.rest.step w.broker).1 }⟩
  | .disturb d => { w with broker := w.broker.disturb d }

def after (w : Workload cards) (events : List Event) : Workload cards := events.foldl step w

/-- The identifiers that one event issues. -/
def issuedBy (w : Workload cards) : Event → List RemoteId
  | .advance place =>
    match w.tasks[place]? with
    | some ⟨_, .act action _⟩ => (action.issued? (w.broker.perform action).1).toList
    | _ => []
  | _ => []

/-- The identifiers that a schedule issues, in the order in which it does. -/
def issued (w : Workload cards) : List Event → List RemoteId
  | [] => []
  | event :: rest => w.issuedBy event ++ (w.step event).issued rest

def registry (w : Workload cards) : Registry := w.broker.registry

@[simp] theorem after_nil (w : Workload cards) : w.after [] = w := rfl

theorem after_cons (w : Workload cards) (event : Event) (rest : List Event) :
    w.after (event :: rest) = (w.step event).after rest := rfl

theorem after_append (w : Workload cards) (first second : List Event) :
    w.after (first ++ second) = (w.after first).after second :=
  List.foldl_append

@[simp] theorem issued_nil (w : Workload cards) : w.issued [] = [] := rfl

theorem issued_cons (w : Workload cards) (event : Event) (rest : List Event) :
    w.issued (event :: rest) = w.issuedBy event ++ (w.step event).issued rest := rfl

theorem step_advance_of_none {w : Workload cards} {place : Nat} (h : w.tasks[place]? = none) :
    w.step (.advance place) = w := by
  simp [step, h]

theorem step_advance_of_some {w : Workload cards} {place : Nat} {task : Task}
    (h : w.tasks[place]? = some task) :
    w.step (.advance place) =
      ⟨(task.rest.step w.broker).2,
        w.tasks.set place { task with rest := (task.rest.step w.broker).1 }⟩ := by
  simp [step, h]

/-- Every event is one change of the registry. -/
theorem step_registry (w : Workload cards) (event : Event) :
    ∃ issued : Option RemoteId, w.issuedBy event = issued.toList ∧
      Registry.Step w.registry issued (w.step event).registry := by
  cases event with
  | accept request => exact ⟨none, rfl, .refl _⟩
  | disturb d => exact ⟨none, rfl, .refl _⟩
  | advance place =>
      cases h : w.tasks[place]? with
      | none =>
          rw [step_advance_of_none h]
          exact ⟨none, by simp [issuedBy, h], .refl _⟩
      | some task =>
          rw [step_advance_of_some h]
          rcases task with ⟨request, value | ⟨action, next⟩⟩
          · exact ⟨none, by simp [issuedBy, h], .refl _⟩
          · exact ⟨_, by simp [issuedBy, h], w.broker.step_perform action⟩

theorem drawn_le_step (w : Workload cards) (event : Event) :
    w.registry.drawn ≤ (w.step event).registry.drawn := by
  obtain ⟨_, -, hstep⟩ := w.step_registry event
  exact hstep.drawn_le

theorem drawn_le_after (w : Workload cards) (events : List Event) :
    w.registry.drawn ≤ (w.after events).registry.drawn := by
  induction events generalizing w with
  | nil => exact Nat.le_refl _
  | cons event rest ih => exact Nat.le_trans (w.drawn_le_step event) (ih _)

/-- A schedule keeps a registry sound and only extends it, while the sequence
of identifiers lasts. -/
theorem after_sound {salt : UInt64} {w : Workload cards} (events : List Event)
    (h : w.registry.Sound salt) (hb : (w.after events).registry.drawn < 2 ^ 64) :
    (w.after events).registry.Sound salt ∧ (w.after events).registry.Extends w.registry := by
  induction events generalizing w with
  | nil => exact ⟨h, .refl _⟩
  | cons event rest ih =>
      obtain ⟨_, -, hstep⟩ := w.step_registry event
      have hmid : (w.step event).registry.drawn < 2 ^ 64 :=
        Nat.lt_of_le_of_lt ((w.step event).drawn_le_after rest) hb
      obtain ⟨hsound, hext⟩ := ih (hstep.sound h hmid) hb
      exact ⟨hsound, hext.trans (hstep.extends h hmid)⟩

/-- Some number of steps performs all that is left of a request. -/
theorem exists_advance (w : Workload cards) {place : Nat} {task : Task}
    (h : w.tasks[place]? = some task) :
    ∃ count, (w.after (.replicate count (.advance place))).broker =
      (task.rest.run w.broker).2 := by
  obtain ⟨request, rest⟩ := task
  -- Each advance takes one action off what is left, and the task stays at its place.
  induction rest generalizing w with
  | done reply => exact ⟨0, rfl⟩
  | act action next ih =>
      have hlt : place < w.tasks.length := (List.getElem?_eq_some_iff.mp h).1
      have hstep := step_advance_of_some h
      have hnext : (w.step (.advance place)).tasks[place]? =
          some ⟨request, next (w.broker.perform action).1⟩ := by
        rw [hstep]
        exact List.getElem?_set_self hlt
      obtain ⟨count, hcount⟩ := ih _ _ hnext
      refine ⟨count + 1, ?_⟩
      rw [List.replicate_succ, after_cons, hcount, hstep]
      rfl

/-- A request that is served without interruption is a schedule. -/
theorem exists_schedule_handle (w : Workload cards) (request : Request) :
    ∃ count, (w.after (.accept request :: .replicate count (.advance w.tasks.length))).broker =
      (w.broker.handle request).2 := by
  have h : (w.step (.accept request)).tasks[w.tasks.length]? =
      some ⟨request, request.program w.broker.payloadLimit⟩ := by
    simp [step]
  obtain ⟨count, hcount⟩ := (w.step (.accept request)).exists_advance h
  exact ⟨count, hcount⟩

end Workload

end DeviceBroker
