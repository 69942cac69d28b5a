import DeviceBroker.Proofs.Broker.Failure
import DeviceBroker.Proofs.Broker.Ownership

/-!
# Deeds and rules

Between two actions of a request anything can happen to the broker, so what a
request does next can only depend on what it has done itself: its deeds. A
program `Obeys` a rule if the rule permits every action after the deeds before
it, whatever the answers are, and accepts the value that the program ends in.
-/

namespace DeviceBroker

variable {α β : Type}

/-- An action that was performed, with the answer that it got. -/
structure Deed where
  action : Action
  answer : action.Answer

/-- Whatever the answers, a rule permits every action of a program after the
deeds before it, and accepts the end. -/
def Program.Obeys (permits : List Deed → Action → Prop) (accepts : List Deed → α → Prop)
    (past : List Deed) : Program α → Prop
  | .done value => accepts past value
  | .act action next =>
    permits past action ∧ ∀ answer, (next answer).Obeys permits accepts (past ++ [⟨action, answer⟩])

section

variable {permits : List Deed → Action → Prop} {past : List Deed}

theorem Program.obeys_bind {accepts : List Deed → β → Prop} (p : Program α)
    (next : α → Program β) :
    (p >>= next).Obeys permits accepts past ↔
      p.Obeys permits (fun past value => (next value).Obeys permits accepts past) past := by
  induction p generalizing past with
  | done value => exact Iff.rfl
  | act action rest ih => exact and_congr_right fun _ => forall_congr' fun answer => ih answer

theorem Program.Obeys.mono {accepts accepts' : List Deed → α → Prop} {p : Program α}
    (h : p.Obeys permits accepts past)
    (ha : ∀ past value, accepts past value → accepts' past value) :
    p.Obeys permits accepts' past := by
  induction p generalizing past with
  | done value => exact ha past value h
  | act action rest ih => exact ⟨h.1, fun answer => ih answer (h.2 answer)⟩

/-- What the permitted actions keep of the broker and the deeds together, a
program keeps, and it accepts the end. -/
theorem Program.Obeys.run_tracks {cards : Nat} {accepts : List Deed → α → Prop}
    {I : List Deed → Broker cards → Prop} {p : Program α} (h : p.Obeys permits accepts past)
    (step : ∀ past b a, permits past a → I past b →
      I (past ++ [⟨a, (b.perform a).1⟩]) (b.perform a).2)
    {b : Broker cards} (hb : I past b) :
    ∃ past', accepts past' (p.run b).1 ∧ I past' (p.run b).2 := by
  induction p generalizing past b with
  | done value => exact ⟨past, h, hb⟩
  | act action rest ih => exact ih _ (h.2 _) (step past b action h.1 hb)

/-- What the permitted actions keep, a program keeps. -/
theorem Program.Obeys.run_preserves {cards : Nat} {accepts : List Deed → α → Prop}
    {I : Broker cards → Prop} {p : Program α} (h : p.Obeys permits accepts past)
    (step : ∀ past b a, permits past a → I b → I (b.perform a).2) {b : Broker cards} (hb : I b) :
    I (p.run b).2 := by
  obtain ⟨past', -, hI⟩ := h.run_tracks (I := fun _ b' => I b') step hb
  exact hI

end

namespace Service

/-- A service whose program obeys a rule. -/
def Obeys (permits : List Deed → Action → Prop) (accepts : List Deed → Except Fault α → Prop)
    (past : List Deed) (s : Service α) : Prop :=
  s.run.Obeys permits accepts past

variable {permits : List Deed → Action → Prop} {accepts : List Deed → Except Fault α → Prop}
  {past : List Deed}

theorem obeys_bind {s : Service β} {next : β → Service α}
    (h : s.Obeys permits (fun past result =>
      match result with
      | .ok value => (next value).Obeys permits accepts past
      | .error fault => accepts past (.error fault)) past) :
    (s >>= next).Obeys permits accepts past := by
  refine (Program.obeys_bind s.run (ExceptT.bindCont next)).mpr (h.mono fun past result hr => ?_)
  cases result with
  | ok value => exact hr
  | error fault => exact hr

theorem obeys_require_bind {condition : Bool} {fault : Fault} {next : Unit → Service α}
    (hfalse : condition = false → accepts past (.error fault))
    (htrue : condition = true → (next ()).Obeys permits accepts past) :
    (require condition fault >>= next).Obeys permits accepts past := by
  apply obeys_bind
  cases condition with
  | true => exact htrue rfl
  | false => exact hfalse rfl

theorem obeys_device {call : DeviceCall} {accepts : List Deed → Except Fault call.Value → Prop}
    (hp : permits past (.call call))
    (h : ∀ answer, accepts (past ++ [⟨.call call, answer⟩]) answer) :
    (device call).Obeys permits accepts past :=
  ⟨hp, h⟩

theorem obeys_device_bind {call : DeviceCall} {next : call.Value → Service α}
    (hp : permits past (.call call))
    (herror : ∀ fault, accepts (past ++ [⟨.call call, .error fault⟩]) (.error fault))
    (hok : ∀ value, (next value).Obeys permits accepts (past ++ [⟨.call call, .ok value⟩])) :
    (device call >>= next).Obeys permits accepts past := by
  refine obeys_bind (obeys_device hp fun answer => ?_)
  cases answer with
  | ok value => exact hok value
  | error fault => exact herror fault

theorem obeys_lookup_bind {cls : ResourceClass} {id : RemoteId} {next : cls.Entry → Service α}
    (hp : permits past (.find cls id))
    (hnone : accepts (past ++ [⟨.find cls id, none⟩]) (.error .invalidParam))
    (hsome : ∀ entry, (next entry).Obeys permits accepts (past ++ [⟨.find cls id, some entry⟩])) :
    (lookup cls id >>= next).Obeys permits accepts past := by
  refine obeys_bind ⟨hp, fun answer => ?_⟩
  cases answer with
  | none => exact hnone
  | some entry => exact hsome entry

/-- A claim is refused, or it is granted and settled by what comes of the destruction. -/
theorem obeys_teardown {cls : ResourceClass} {id : RemoteId} {destroy : cls.Entry → Service Unit}
    {accepts : List Deed → Except Fault Unit → Prop} (hp : permits past (.claim cls id))
    (habsent : accepts (past ++ [⟨.claim cls id, .error .absent⟩]) (.error .invalidParam))
    (hbusy : accepts (past ++ [⟨.claim cls id, .error .busy⟩]) (.error .busy))
    (hgranted : ∀ entry, (destroy entry).Obeys permits
      (fun past result =>
        permits past (.settle cls id (if result.isOk then .commit else .release)) ∧
        ∀ settled, accepts
          (past ++ [⟨.settle cls id (if result.isOk then .commit else .release), settled⟩]) result)
      (past ++ [⟨.claim cls id, .ok entry⟩])) :
    (teardown cls id destroy).Obeys permits accepts past := by
  refine ⟨hp, fun answer => ?_⟩
  rcases answer with (_ | _) | entry
  · exact habsent
  · exact hbusy
  · refine (Program.obeys_bind (destroy entry).run _).mpr ((hgranted entry).mono ?_)
    intro past result h
    cases result with
    | ok _ => exact h
    | error fault => exact h

theorem obeys_registerOrUndo {cls : ResourceClass} {entry : cls.Entry} {undo : DeviceCall}
    {accepts : List Deed → Except Fault RemoteId → Prop} (hp : permits past (.register cls entry))
    (hsome : ∀ id, accepts (past ++ [⟨.register cls entry, some id⟩]) (.ok id))
    (hundo : permits (past ++ [⟨.register cls entry, none⟩]) (.call undo))
    (hnone : ∀ answer, accepts (past ++ [⟨.register cls entry, none⟩] ++ [⟨.call undo, answer⟩])
      (.error .exception)) :
    (registerOrUndo cls entry undo).Obeys permits accepts past := by
  refine ⟨hp, fun answer => ?_⟩
  cases answer with
  | some id => exact hsome id
  | none => exact ⟨hundo, hnone⟩

end Service

end DeviceBroker
