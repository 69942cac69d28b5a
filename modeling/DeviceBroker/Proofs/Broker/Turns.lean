import DeviceBroker.Proofs.Broker.Conduct
import Mathlib.Data.List.Induction

/-!
# The turns of a schedule

Every action in a schedule is the turn of one request. The turns are listed in
the order in which they were taken, so what one request has done is read off
the list, and so is what the broker was when it took its turn. Along every
schedule a request keeps to its rule whatever the turns of the others are: the
rule permits each of its turns after its own earlier ones, and accepts the
reply that it ends with.
-/

namespace DeviceBroker

variable {cards : Nat}

/-- A list with one more element splits at the last element or before it. -/
theorem concat_split {α : Type} {all early late : List α} {last x : α}
    (h : all ++ [last] = early ++ x :: late) :
    (all = early ∧ last = x ∧ late = []) ∨
      ∃ more, all = early ++ x :: more ∧ late = more ++ [last] := by
  rcases List.eq_nil_or_concat late with rfl | ⟨more, final, rfl⟩
  · obtain ⟨hall, hlast⟩ := List.append_inj' h rfl
    exact .inl ⟨hall, (List.cons.inj hlast).1, rfl⟩
  · rw [List.concat_eq_append, ← List.cons_append, ← List.append_assoc] at h
    obtain ⟨hall, hlast⟩ := List.append_inj' h rfl
    exact .inr ⟨more, hall, by rw [List.concat_eq_append, hlast]⟩

/-- A deed in a schedule, with the request that did it and the place of the request. -/
structure Turn where
  place : Nat
  request : Request
  deed : Deed

/-- What the request at a place has done. -/
def deedsAt (turns : List Turn) (place : Nat) : List Deed :=
  (turns.filter fun turn => turn.place = place).map Turn.deed

theorem deedsAt_append (one two : List Turn) (place : Nat) :
    deedsAt (one ++ two) place = deedsAt one place ++ deedsAt two place := by
  simp [deedsAt]

theorem deedsAt_singleton_self (turn : Turn) : deedsAt [turn] turn.place = [turn.deed] := by
  simp [deedsAt]

theorem deedsAt_singleton_of_ne {turn : Turn} {place : Nat} (h : place ≠ turn.place) :
    deedsAt [turn] place = [] := by
  simp [deedsAt, h.symm]

theorem mem_deedsAt {turns : List Turn} {place : Nat} {deed : Deed} :
    deed ∈ deedsAt turns place ↔ ∃ turn ∈ turns, turn.place = place ∧ turn.deed = deed := by
  simp [deedsAt, and_assoc]

theorem mem_deedsAt_concat {turns : List Turn} {turn : Turn} {place : Nat} {deed : Deed} :
    deed ∈ deedsAt (turns ++ [turn]) place ↔
      deed ∈ deedsAt turns place ∨ turn.place = place ∧ turn.deed = deed := by
  simp only [mem_deedsAt, List.mem_append, List.mem_singleton]
  constructor
  · rintro ⟨other, hm | rfl, hother⟩
    · exact .inl ⟨other, hm, hother⟩
    · exact .inr hother
  · rintro (⟨other, hm, hother⟩ | hturn)
    · exact ⟨other, .inl hm, hother⟩
    · exact ⟨turn, .inr rfl, hturn⟩

theorem deedsAt_eq_nil {turns : List Turn} {place : Nat} (h : ∀ turn ∈ turns, turn.place ≠ place) :
    deedsAt turns place = [] := by
  simpa [deedsAt] using h

/-- Every turn was permitted after the earlier ones of the same request. -/
def Lawful (turns : List Turn) : Prop :=
  ∀ before turn later, turns = before ++ turn :: later →
    turn.request.Permits (deedsAt before turn.place) turn.deed.action

theorem Lawful.of_append {turns more : List Turn} (h : Lawful (turns ++ more)) : Lawful turns :=
  fun before turn later heq => h before turn (later ++ more) (by rw [heq]; simp)

theorem Lawful.last {turns : List Turn} {turn : Turn} (h : Lawful (turns ++ [turn])) :
    turn.request.Permits (deedsAt turns turn.place) turn.deed.action :=
  h turns turn [] rfl

namespace Workload

/-- The turn that is taken at an event, if one is. -/
def turnBy (w : Workload cards) : Event → List Turn
  | .advance place =>
    match w.tasks[place]? with
    | some ⟨request, .act action _⟩ => [⟨place, request, action, (w.broker.perform action).1⟩]
    | _ => []
  | _ => []

/-- The turns of a schedule, in the order in which they are taken. -/
def turns (w : Workload cards) : List Event → List Turn
  | [] => []
  | event :: rest => w.turnBy event ++ (w.step event).turns rest

@[simp] theorem turns_nil (w : Workload cards) : w.turns [] = [] := rfl

theorem turns_cons (w : Workload cards) (event : Event) (rest : List Event) :
    w.turns (event :: rest) = w.turnBy event ++ (w.step event).turns rest := rfl

theorem turns_append (w : Workload cards) (first second : List Event) :
    w.turns (first ++ second) = w.turns first ++ (w.after first).turns second := by
  induction first generalizing w with
  | nil => rfl
  | cons event rest ih => rw [List.cons_append, turns_cons, ih, turns_cons, List.append_assoc]; rfl

theorem after_concat (w : Workload cards) (events : List Event) (event : Event) :
    w.after (events ++ [event]) = (w.after events).step event :=
  w.after_append events [event]

theorem drawn_le_concat (w : Workload cards) (events : List Event) (event : Event) :
    (w.after events).registry.drawn ≤ (w.after (events ++ [event])).registry.drawn := by
  rw [after_concat]
  exact drawn_le_step _ event

theorem turns_concat (w : Workload cards) (events : List Event) (event : Event) :
    w.turns (events ++ [event]) = w.turns events ++ (w.after events).turnBy event := by
  rw [turns_append, turns_cons, turns_nil, List.append_nil]

/-- The request at a place is about to take a turn. -/
structure Takes (w : Workload cards) (turn : Turn) (next : Program Reply) : Prop where
  task : ∃ rest, w.tasks[turn.place]? = some ⟨turn.request, .act turn.deed.action rest⟩ ∧
    next = rest turn.deed.answer
  answer : turn.deed.answer = (w.broker.perform turn.deed.action).1

theorem Takes.turnBy {w : Workload cards} {turn : Turn} {next : Program Reply}
    (h : w.Takes turn next) : w.turnBy (.advance turn.place) = [turn] := by
  obtain ⟨⟨rest, hget, -⟩, hanswer⟩ := h
  obtain ⟨place, request, action, answer⟩ := turn
  obtain rfl : answer = (w.broker.perform action).1 := hanswer
  simp [Workload.turnBy, hget]

/-- At an event a turn is taken, or a request arrives, or the host interferes,
or nothing happens. -/
theorem step_cases (w : Workload cards) (event : Event) :
    (∃ turn next, event = .advance turn.place ∧ w.turnBy event = [turn] ∧ w.Takes turn next ∧
      w.step event = ⟨(w.broker.perform turn.deed.action).2,
        w.tasks.set turn.place ⟨turn.request, next⟩⟩) ∨
    (w.turnBy event = [] ∧
      ((∃ request, w.step event =
          { w with tasks := w.tasks ++ [⟨request, request.program w.broker.payloadLimit⟩] }) ∨
        (∃ d, event = .disturb d ∧ w.step event = { w with broker := w.broker.disturb d }) ∨
        w.step event = w)) := by
  cases event with
  | accept request => exact .inr ⟨rfl, .inl ⟨request, rfl⟩⟩
  | disturb d => exact .inr ⟨rfl, .inr (.inl ⟨d, rfl, rfl⟩)⟩
  | advance place =>
    cases h : w.tasks[place]? with
    | none => exact .inr ⟨by simp [turnBy, h], .inr (.inr (step_advance_of_none h))⟩
    | some task =>
      obtain ⟨request, value | ⟨action, next⟩⟩ := task
      · refine .inr ⟨by simp [turnBy, h], .inr (.inr ?_)⟩
        obtain ⟨hlt, hget⟩ := List.getElem?_eq_some_iff.mp h
        rw [step_advance_of_some h]
        change (⟨w.broker, w.tasks.set place ⟨request, .done value⟩⟩ : Workload cards) = w
        rw [← hget, List.set_getElem_self]
      · exact .inl ⟨⟨place, request, action, (w.broker.perform action).1⟩, _, rfl,
          by simp [turnBy, h], ⟨⟨next, h, rfl⟩, rfl⟩, step_advance_of_some h⟩

/-- What the broker was when a turn was taken, and what became of it. -/
theorem exists_of_turns_eq {w : Workload cards} {events : List Event} {before later : List Turn}
    {turn : Turn} (h : w.turns events = before ++ turn :: later) :
    ∃ early late next, events = early ++ .advance turn.place :: late ∧ w.turns early = before ∧
      (w.after early).Takes turn next ∧
      (w.after (early ++ [.advance turn.place])).broker =
        ((w.after early).broker.perform turn.deed.action).2 := by
  induction events generalizing w before with
  | nil => simp at h
  | cons event rest ih =>
    rw [turns_cons] at h
    obtain ⟨first, next, rfl, hby, htakes, hstep⟩ | ⟨hby, -⟩ := w.step_cases event
    · rw [hby] at h
      cases before with
      | nil =>
        obtain ⟨rfl, -⟩ := List.cons.inj h
        refine ⟨[], rest, next, rfl, rfl, htakes, ?_⟩
        change (w.step (.advance first.place)).broker = _
        rw [hstep]
        rfl
      | cons head tail =>
        obtain ⟨rfl, htail⟩ := List.cons.inj h
        obtain ⟨early, late, next', rfl, hearly, htakes', hbroker⟩ := ih htail
        refine ⟨.advance first.place :: early, late, next', rfl, ?_, htakes', hbroker⟩
        rw [turns_cons, hby, hearly]
        rfl
    · rw [hby] at h
      obtain ⟨early, late, next, rfl, hearly, htakes, hbroker⟩ := ih h
      refine ⟨event :: early, late, next, rfl, ?_, htakes, hbroker⟩
      rw [turns_cons, hby, hearly]
      rfl

/-- The identifiers that a schedule issues are those that its turns issue. -/
theorem issued_eq (w : Workload cards) (events : List Event) :
    w.issued events =
      (w.turns events).filterMap fun turn => turn.deed.action.issued? turn.deed.answer := by
  induction events generalizing w with
  | nil => rfl
  | cons event rest ih =>
    rw [issued_cons, turns_cons, List.filterMap_append, ih]
    congr 1
    cases event with
    | accept request => rfl
    | disturb d => rfl
    | advance place =>
      rcases h : w.tasks[place]? with _ | ⟨request, value | ⟨action, next⟩⟩
      · simp [issuedBy, turnBy, h]
      · simp [issuedBy, turnBy, h]
      · simp only [issuedBy, turnBy, h]
        cases hi : action.issued? (w.broker.perform action).1 <;> simp [hi]

/-- The requests of a workload have taken some turns, and each of them has kept
to its rule. -/
structure Orderly (w : Workload cards) (turns : List Turn) : Prop where
  /-- A request goes on as its rule permits after what it has done. -/
  obeys : ∀ place (task : Task), w.tasks[place]? = some task →
    task.rest.Obeys task.request.Permits task.request.Accepts (deedsAt turns place)
  /-- A turn was taken by the request at its place. -/
  known : ∀ turn ∈ turns, ∃ rest, w.tasks[turn.place]? = some ⟨turn.request, rest⟩
  lawful : Lawful turns

theorem orderly_start (source : IdSource) (device : Simulator cards) (limit : UInt64) :
    (start source device limit).Orderly [] where
  obeys place task h := by simp [start] at h
  known turn h := absurd h List.not_mem_nil
  lawful before turn later h := by simp at h

theorem Orderly.accept {w : Workload cards} {turns : List Turn} (h : w.Orderly turns)
    (request : Request) (limit : UInt64) :
    ({ w with tasks := w.tasks ++ [⟨request, request.program limit⟩] } : Workload cards).Orderly
      turns := by
  have hlt : ∀ turn ∈ turns, turn.place < w.tasks.length := by
    intro turn hm
    obtain ⟨rest, hget⟩ := h.known turn hm
    exact (List.getElem?_eq_some_iff.mp hget).1
  refine ⟨fun place task hget => ?_, fun turn hm => ?_, h.lawful⟩
  · rcases Nat.lt_trichotomy place w.tasks.length with hp | rfl | hp
    · rw [List.getElem?_append_left hp] at hget
      exact h.obeys place task hget
    · -- A request that has just arrived has done nothing.
      simp only [List.getElem?_concat_length, Option.some.injEq] at hget
      subst hget
      rw [deedsAt_eq_nil fun turn hm => Nat.ne_of_lt (hlt turn hm)]
      exact request.obeys_program limit
    · rw [List.getElem?_eq_none (by simpa using Nat.succ_le_of_lt hp)] at hget
      cases hget
  · obtain ⟨rest, hget⟩ := h.known turn hm
    exact ⟨rest, by rwa [List.getElem?_append_left (hlt turn hm)]⟩

theorem Orderly.take {w : Workload cards} {turns : List Turn} (h : w.Orderly turns) {turn : Turn}
    {next : Program Reply} (ht : w.Takes turn next) (b : Broker cards) :
    (⟨b, w.tasks.set turn.place ⟨turn.request, next⟩⟩ : Workload cards).Orderly
      (turns ++ [turn]) := by
  obtain ⟨⟨rest, hget, rfl⟩, -⟩ := ht
  have hlt := (List.getElem?_eq_some_iff.mp hget).1
  obtain ⟨hpermits, hrest⟩ := h.obeys _ _ hget
  refine ⟨fun place task hplace => ?_, fun other hm => ?_, fun before last later heq => ?_⟩
  · by_cases hp : place = turn.place
    · subst hp
      rw [List.getElem?_set_self hlt] at hplace
      cases hplace
      rw [deedsAt_append, deedsAt_singleton_self]
      exact hrest turn.deed.answer
    · rw [List.getElem?_set_ne (Ne.symm hp)] at hplace
      rw [deedsAt_append, deedsAt_singleton_of_ne hp, List.append_nil]
      exact h.obeys place task hplace
  · rcases List.mem_append.mp hm with hm | hm
    · obtain ⟨rest', hother⟩ := h.known other hm
      by_cases hp : other.place = turn.place
      · rw [hp, hget, Option.some.injEq] at hother
        have hrequest : turn.request = other.request := congrArg Task.request hother
        exact ⟨_, by rw [hp, ← hrequest, List.getElem?_set_self hlt]⟩
      · exact ⟨rest', by rwa [List.getElem?_set_ne (Ne.symm hp)]⟩
    · obtain rfl := List.mem_singleton.mp hm
      exact ⟨_, List.getElem?_set_self hlt⟩
  · rcases concat_split heq with ⟨rfl, rfl, -⟩ | ⟨more, hturns, -⟩
    · exact hpermits
    · exact h.lawful before last more hturns

/-- Along every schedule all requests keep to their rules. -/
theorem orderly_after (source : IdSource) (device : Simulator cards) (limit : UInt64)
    (events : List Event) :
    ((start source device limit).after events).Orderly
      ((start source device limit).turns events) := by
  induction events using List.reverseRecOn with
  | nil => exact orderly_start source device limit
  | append_singleton events event ih =>
    rw [after_concat, turns_concat]
    obtain ⟨turn, next, -, hby, htakes, hstep⟩ | ⟨hby, hstep⟩ :=
      ((start source device limit).after events).step_cases event
    · rw [hby, hstep]
      exact ih.take htakes _
    · rw [hby, List.append_nil]
      obtain ⟨request, hstep⟩ | ⟨d, -, hstep⟩ | hstep := hstep
      · rw [hstep]
        exact ih.accept request _
      · rw [hstep]
        exact ⟨ih.obeys, ih.known, ih.lawful⟩
      · rwa [hstep]

/-- A broker over one card that has just started. -/
def solo : Workload 1 := start (.seeded 7) (.start 1 fun _ => none) 4096

/-- The tokens of the card are listed, and its accelerator is opened. -/
def opening : List Event :=
  .accept (.enumerate [] 2) :: .replicate 3 (.advance 0) ++
    .accept (.openHandle ⟨7, 2⟩ 0) :: .replicate 3 (.advance 1)

end Workload

end DeviceBroker
