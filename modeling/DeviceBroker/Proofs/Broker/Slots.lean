import DeviceBroker.Proofs.Broker.Turns

/-!
# What an action does to a slot

Of all actions only a few can change the slot of one identifier in the map of
one class: a claim that is granted, the settlement of a claim that is held, an
entry that is registered, and the removal of what an owner owns. This is
`SlotChange`, the inversion of `Broker.perform` from which every invariant
about claims and live identifiers is derived.
-/

namespace DeviceBroker

variable {cards : Nat}

/-- The identifier that a deed has put under a class. -/
def Deed.creates? : Deed → Option (ResourceClass × RemoteId)
  | ⟨.register cls _, some id⟩ => some (cls, id)
  | ⟨.intern _, some (.inserted id)⟩ => some (.token, id)
  | _ => none

namespace Deed

variable {cls : ResourceClass} {id : RemoteId}

@[simp] theorem creates?_find (answer : Option cls.Entry) :
    (⟨.find cls id, answer⟩ : Deed).creates? = none := rfl

@[simp] theorem creates?_claim (answer : Except ClaimRefusal cls.Entry) :
    (⟨.claim cls id, answer⟩ : Deed).creates? = none := rfl

@[simp] theorem creates?_settle (how : Settlement) (settled : Bool) :
    (⟨.settle cls id how, settled⟩ : Deed).creates? = none := rfl

@[simp] theorem creates?_removeOwned (gone : List (RemoteId × cls.Entry)) :
    (⟨.removeOwned cls id, gone⟩ : Deed).creates? = none := rfl

@[simp] theorem creates?_call (call : DeviceCall) (answer : Except Fault call.Value) :
    (⟨.call call, answer⟩ : Deed).creates? = none := rfl

@[simp] theorem creates?_existing (token : NativeToken) (id : RemoteId) :
    (⟨.intern token, some (.existing id)⟩ : Deed).creates? = none := rfl

end Deed

theorem Deed.issued?_eq (deed : Deed) :
    deed.action.issued? deed.answer = deed.creates?.map Prod.snd := by
  obtain ⟨action, answer⟩ := deed
  cases action with
  | register cls entry => cases answer <;> rfl
  | intern token => rcases answer with _ | ⟨_ | _⟩ <;> rfl
  | find | claim | settle | removeOwned | call => rfl

/-- A deed that has no effect on the slot of an identifier: it was granted no
claim on it and has put no entry under it; and if it was to settle a claim or to
remove what an owner owns, there was no claim, or another owner. -/
structure Untouched (cls : ResourceClass) (id : RemoteId) (deed : Deed) (slot : Option (Slot cls)) :
    Prop where
  unclaimed : ∀ entry, deed ≠ ⟨.claim cls id, .ok entry⟩
  uncreated : deed.creates? ≠ some (cls, id)
  unsettled : ∀ entry how settled, slot = some ⟨entry, true⟩ → deed ≠ ⟨.settle cls id how, settled⟩
  unowned : ∀ s owner gone, slot = some s → cls.owner? s.entry = some owner →
    deed ≠ ⟨.removeOwned cls owner, gone⟩

namespace Untouched

variable {cls other : ResourceClass} {id id' : RemoteId} {slot : Option (Slot cls)}

theorem of_claim {answer : Except ClaimRefusal other.Entry} (h : cls = other → id ≠ id') :
    Untouched cls id ⟨.claim other id', answer⟩ slot := by
  refine ⟨fun entry heq => ?_, by simp, by simp, by simp⟩
  obtain ⟨hcls, hid⟩ := Action.claim.inj (congrArg Deed.action heq)
  exact h hcls.symm hid.symm

theorem of_settle {how : Settlement} {settled : Bool} (h : cls = other → id ≠ id') :
    Untouched cls id ⟨.settle other id' how, settled⟩ slot := by
  refine ⟨by simp, by simp, fun entry how' settled' _ heq => ?_, by simp⟩
  obtain ⟨hcls, hid, -⟩ := Action.settle.inj (congrArg Deed.action heq)
  exact h hcls.symm hid.symm

theorem of_removeOwned {owner : RemoteId} {gone : List (RemoteId × other.Entry)}
    (h : cls = other → ∀ s, slot = some s → cls.owner? s.entry ≠ some owner) :
    Untouched cls id ⟨.removeOwned other owner, gone⟩ slot := by
  refine ⟨by simp, by simp, by simp, fun s owner' gone' hs howner heq => ?_⟩
  obtain ⟨hcls, rfl⟩ := Action.removeOwned.inj (congrArg Deed.action heq)
  exact h hcls.symm s hs howner

theorem of_register {entry : other.Entry} {answer : Option RemoteId}
    (h : (⟨.register other entry, answer⟩ : Deed).creates? ≠ some (cls, id)) :
    Untouched cls id ⟨.register other entry, answer⟩ slot :=
  ⟨by simp, h, by simp, by simp⟩

theorem of_intern {token : NativeToken} {answer : Option Registration}
    (h : (⟨.intern token, answer⟩ : Deed).creates? ≠ some (cls, id)) :
    Untouched cls id ⟨.intern token, answer⟩ slot :=
  ⟨by simp, h, by simp, by simp⟩

end Untouched

/-- What a deed does to the slot of an identifier in the map of a class. -/
inductive SlotChange (cls : ResourceClass) (id : RemoteId) :
    Deed → Option (Slot cls) → Option (Slot cls) → Prop
  | same {deed : Deed} {slot : Option (Slot cls)} (untouched : Untouched cls id deed slot) :
      SlotChange cls id deed slot slot
  | claimed (entry : cls.Entry) :
      SlotChange cls id ⟨.claim cls id, .ok entry⟩ (some ⟨entry, false⟩) (some ⟨entry, true⟩)
  | released (entry : cls.Entry) :
      SlotChange cls id ⟨.settle cls id .release, true⟩ (some ⟨entry, true⟩) (some ⟨entry, false⟩)
  | committed (entry : cls.Entry) :
      SlotChange cls id ⟨.settle cls id .commit, true⟩ (some ⟨entry, true⟩) none
  | created {deed : Deed} (entry : cls.Entry) (creates : deed.creates? = some (cls, id))
      (registered : ∀ entry', deed = ⟨.register cls entry', some id⟩ → entry' = entry) :
      SlotChange cls id deed none (some ⟨entry, false⟩)
  | cascaded (slot : Slot cls) (owner : RemoteId) (gone : List (RemoteId × cls.Entry))
      (owned : cls.owner? slot.entry = some owner) (listed : (id, slot.entry) ∈ gone) :
      SlotChange cls id ⟨.removeOwned cls owner, gone⟩ (some slot) none

namespace SlotChange

variable {cls : ResourceClass} {id : RemoteId} {entry : cls.Entry} {slot slot' : Option (Slot cls)}

/-- A claim is granted on what is live and not claimed. -/
theorem of_granted (h : SlotChange cls id ⟨.claim cls id, .ok entry⟩ slot slot') :
    slot = some ⟨entry, false⟩ ∧ slot' = some ⟨entry, true⟩ := by
  cases h with
  | same untouched => exact absurd rfl (untouched.unclaimed entry)
  | claimed => exact ⟨rfl, rfl⟩
  | created _ creates => cases creates

theorem of_release {settled : Bool}
    (h : SlotChange cls id ⟨.settle cls id .release, settled⟩ (some ⟨entry, true⟩) slot') :
    slot' = some ⟨entry, false⟩ := by
  cases h with
  | same untouched => exact absurd rfl (untouched.unsettled entry .release settled rfl)
  | released => rfl

theorem of_commit {settled : Bool}
    (h : SlotChange cls id ⟨.settle cls id .commit, settled⟩ (some ⟨entry, true⟩) slot') :
    slot' = none := by
  cases h with
  | same untouched => exact absurd rfl (untouched.unsettled entry .commit settled rfl)
  | committed => rfl

end SlotChange

namespace IdentityMap

variable {cls : ResourceClass} (m : IdentityMap cls) (id : RemoteId)

theorem slotChange_claim (id' : RemoteId) :
    SlotChange cls id ⟨.claim cls id', (m.claim id').1⟩ (m.slots.find? id)
      ((m.claim id').2.slots.find? id) := by
  rcases m.claim_cases id' with ⟨-, h⟩ | ⟨_, -, h⟩ | ⟨entry, -, hs, h⟩
  · rw [h]
    exact .same ⟨by rintro _ ⟨⟩, by simp, by simp, by simp⟩
  · rw [h]
    exact .same ⟨by rintro _ ⟨⟩, by simp, by simp, by simp⟩
  · rw [h, slots_find?_mark]
    by_cases hi : id = id'
    · subst hi
      rw [if_pos rfl, hs]
      exact .claimed entry
    · rw [if_neg hi]
      exact .same (.of_claim fun _ => hi)

theorem slotChange_settle (id' : RemoteId) (how : Settlement) :
    SlotChange cls id ⟨.settle cls id' how, (m.settle id' how).1⟩ (m.slots.find? id)
      ((m.settle id' how).2.slots.find? id) := by
  by_cases hi : id = id'
  · subst hi
    unfold settle
    cases hs : m.slots.find? id with
    | none =>
      simp only [hs]
      exact .same (by constructor <;> simp)
    | some slot =>
      obtain ⟨entry, claimed⟩ := slot
      cases claimed with
      | false =>
        simp only [Bool.false_eq_true, if_false, hs]
        exact .same (by constructor <;> simp)
      | true =>
        cases how with
        | commit =>
          simp only [slots_find?_drop, if_true]
          exact .committed entry
        | release =>
          simp only [slots_find?_mark, hs, if_true, Option.map_some]
          exact .released entry
  · have hkept : (m.settle id' how).2.slots.find? id = m.slots.find? id := by
      unfold settle
      split
      · rfl
      split
      · cases how with
        | commit => simp [slots_find?_drop, hi]
        | release => simp [slots_find?_mark, hi]
      · rfl
    rw [hkept]
    exact .same (.of_settle fun _ => hi)

theorem slotChange_removeOwnedBy (owner : RemoteId) :
    SlotChange cls id ⟨.removeOwned cls owner, (m.removeOwnedBy owner).1⟩ (m.slots.find? id)
      ((m.removeOwnedBy owner).2.slots.find? id) := by
  rw [slots_find?_removeOwnedBy]
  cases hs : m.slots.find? id with
  | none => exact .same (by constructor <;> simp)
  | some slot =>
    by_cases ho : cls.owner? slot.entry = some owner
    · have hgone : (some slot).filter (fun slot => cls.owner? slot.entry != some owner) = none := by
        simp [Option.filter_some, ho]
      rw [hgone]
      exact .cascaded slot owner _ ho
        ((m.mem_ownedBy owner id slot.entry).mpr ⟨⟨slot, hs, rfl⟩, ho⟩)
    · have hkept : (some slot).filter (fun slot => cls.owner? slot.entry != some owner) =
          some slot := by
        simp [Option.filter_some, ho]
      rw [hkept]
      refine .same (.of_removeOwned fun _ s hs => ?_)
      cases hs
      exact ho

/-- An entry that is added comes under an identifier that had no slot. -/
theorem slotChange_add {deed : Deed} (new : RemoteId) (entry : cls.Entry)
    (untouched : deed.creates? ≠ some (cls, id) → Untouched cls id deed (m.slots.find? id))
    (creates : deed.creates? = if (m.add new entry).1 then some (cls, new) else none)
    (registered : ∀ id entry', deed = ⟨.register cls entry', some id⟩ → entry' = entry) :
    SlotChange cls id deed (m.slots.find? id) ((m.add new entry).2.slots.find? id) := by
  unfold add at creates ⊢
  split
  · rename_i ha
    rw [if_pos ha] at creates
    change SlotChange cls id deed _ ((m.put new entry).slots.find? id)
    rw [slots_find?_put]
    by_cases hi : id = new
    · subst hi
      obtain ⟨-, hnew, -⟩ := (m.admits_iff id entry).mp ha
      rw [if_pos rfl, hnew]
      exact .created entry creates (registered id)
    · rw [if_neg hi]
      refine .same (untouched fun h => hi ?_)
      rw [creates] at h
      cases h
      rfl
  · rename_i ha
    rw [if_neg ha] at creates
    exact .same (untouched (by simp [creates]))

end IdentityMap

/-- A deed that concerns the map of another class changes no slot. -/
theorem Registry.slotChange_of_ne {r : Registry} {cls other : ResourceClass} {id : RemoteId}
    {deed : Deed} {m : IdentityMap other} (h : cls ≠ other)
    (untouched : Untouched cls id deed ((r.map cls).slots.find? id)) :
    SlotChange cls id deed ((r.map cls).slots.find? id)
      (((r.withMap other m).map cls).slots.find? id) := by
  rw [map_withMap_of_ne _ _ h]
  exact .same untouched

/-- What every action does to a slot. -/
theorem Broker.slotChange_perform (b : Broker cards) (a : Action) (cls : ResourceClass)
    (id : RemoteId) :
    SlotChange cls id ⟨a, (b.perform a).1⟩ ((b.registry.map cls).slots.find? id)
      (((b.perform a).2.registry.map cls).slots.find? id) := by
  cases a with
  | find => exact .same (by constructor <;> simp)
  | call => exact .same (by constructor <;> simp)
  | claim other id' =>
    by_cases hc : cls = other
    · subst hc
      have h := (b.registry.map cls).slotChange_claim id id'
      simpa [perform, Registry.update] using h
    · exact Registry.slotChange_of_ne hc (.of_claim fun h => absurd h hc)
  | settle other id' how =>
    by_cases hc : cls = other
    · subst hc
      have h := (b.registry.map cls).slotChange_settle id id' how
      simpa [perform, Registry.update] using h
    · exact Registry.slotChange_of_ne hc (.of_settle fun h => absurd h hc)
  | removeOwned other owner =>
    by_cases hc : cls = other
    · subst hc
      have h := (b.registry.map cls).slotChange_removeOwnedBy id owner
      simpa [perform, Registry.update] using h
    · exact Registry.slotChange_of_ne hc (.of_removeOwned fun h => absurd h hc)
  | register other entry =>
    have hdeed : ∀ added : Bool, (⟨.register other entry,
        if added then some b.registry.source.next.1 else none⟩ : Deed).creates? =
        if added then some (other, b.registry.source.next.1) else none := by
      intro added
      cases added <;> rfl
    simp only [perform, Registry.register_eq, Registry.map_withSource]
    by_cases hc : cls = other
    · subst hc
      rw [Registry.map_withMap_self]
      refine IdentityMap.slotChange_add _ id _ entry .of_register (hdeed _)
        fun id' entry' h => ?_
      have haction : Action.register cls entry = .register cls entry' := congrArg Deed.action h
      cases haction
      rfl
    · refine Registry.slotChange_of_ne hc (.of_register fun h => hc ?_)
      rw [hdeed] at h
      split at h
      · cases h
        rfl
      · cases h
  | intern token =>
    simp only [perform]
    cases ht : (b.registry.map .token).tracked? ⟨token⟩ with
    | some tracked =>
      rw [Registry.intern_of_tracked ht]
      exact .same (by constructor <;> simp)
    | none =>
      have hdeed : ∀ added : Bool, (⟨.intern token,
          if added then some (.inserted b.registry.source.next.1) else none⟩ : Deed).creates? =
          if added then some (.token, b.registry.source.next.1) else none := by
        intro added
        cases added <;> rfl
      simp only [Registry.intern_of_untracked ht, Registry.map_withSource]
      by_cases hc : cls = .token
      · subst hc
        rw [Registry.map_withMap_self]
        exact (b.registry.map .token).slotChange_add id _ ⟨token⟩
          .of_intern (hdeed _) (by simp)
      · refine Registry.slotChange_of_ne hc (.of_intern fun h => hc ?_)
        rw [hdeed] at h
        split at h
        · cases h
          rfl
        · cases h

namespace Workload

/-- The slot of an identifier in the map of a class. -/
def slot? (w : Workload cards) (cls : ResourceClass) (id : RemoteId) : Option (Slot cls) :=
  (w.registry.map cls).slots.find? id

theorem slot?_start (source : IdSource) (device : Simulator cards) (limit : UInt64)
    (cls : ResourceClass) (id : RemoteId) : (start source device limit).slot? cls id = none := by
  cases cls <;> rfl

/-- Only a turn changes a slot, in one of the ways of its deed. -/
theorem slot?_step (w : Workload cards) (event : Event) (cls : ResourceClass) (id : RemoteId) :
    (w.turnBy event = [] ∧ (w.step event).slot? cls id = w.slot? cls id) ∨
    ∃ turn next, w.turnBy event = [turn] ∧ w.Takes turn next ∧
      SlotChange cls id turn.deed (w.slot? cls id) ((w.step event).slot? cls id) := by
  obtain ⟨turn, next, -, hby, htakes, hstep⟩ | ⟨hby, hstep⟩ := w.step_cases event
  · refine .inr ⟨turn, next, hby, htakes, ?_⟩
    have hchange := w.broker.slotChange_perform turn.deed.action cls id
    rw [← htakes.answer] at hchange
    rw [hstep]
    exact hchange
  · refine .inl ⟨hby, ?_⟩
    obtain ⟨request, hstep⟩ | ⟨d, -, hstep⟩ | hstep := hstep
    · rw [hstep]
      rfl
    · rw [hstep]
      rfl
    · rw [hstep]

theorem slotChange_of_turnBy {w : Workload cards} {event : Event} {turn : Turn}
    (h : w.turnBy event = [turn]) (cls : ResourceClass) (id : RemoteId) :
    SlotChange cls id turn.deed (w.slot? cls id) ((w.step event).slot? cls id) := by
  obtain ⟨hnil, -⟩ | ⟨other, next, hother, -, hchange⟩ := w.slot?_step event cls id
  · cases hnil.symm.trans h
  · cases hother.symm.trans h
    exact hchange

end Workload

end DeviceBroker
