import DeviceBroker.Proofs.Broker.Freshness
import DeviceBroker.Proofs.Broker.Slots
import Mathlib.Algebra.BigOperators.Group.Finset.Piecewise
import Mathlib.Algebra.Order.BigOperators.Group.Finset

/-!
# Teardowns have a single winner

The map of a class grants a claim on an identifier only for an entry that is
new or was given back, and a request uses up a claim that it was granted once
at most: by giving it back, or by a call of the driver that succeeds. Counting
both sides over the turns of a schedule, nothing is destroyed more often than
it was issued, and no more requests hold a claim than there were entries to
claim. For identifiers that are issued once this means a single winner.

The one way to lose a claim is the removal of the entry along with its owner.
The request does not notice: it still calls the driver, and what it gives back
is gone.
-/

namespace DeviceBroker

variable {cards : Nat}

/-! ## Counting claims -/

namespace Deed

/-- A claim on an identifier is granted. -/
def grants (cls : ResourceClass) (id : RemoteId) : Deed → Bool
  | ⟨.claim cls' id', .ok _⟩ => cls' = cls ∧ id' = id
  | _ => false

/-- A claim on an identifier is given back. -/
def releases (cls : ResourceClass) (id : RemoteId) : Deed → Bool
  | ⟨.settle cls' id' .release, _⟩ => cls' = cls ∧ id' = id
  | _ => false

/-- A call of the driver succeeds. -/
def succeeds : Deed → Bool
  | ⟨.call _, .ok _⟩ => true
  | _ => false

end Deed

/-- Whether an entry is live and not claimed, as a number. -/
def free {cls : ResourceClass} (slot : Option (Slot cls)) : Nat :=
  (slot.any fun slot => !slot.claimed).toNat

/-- The identifiers that were put under a class, in order. -/
def created (turns : List Turn) : List (ResourceClass × RemoteId) :=
  turns.filterMap fun turn => turn.deed.creates?

/-- What was destroyed on behalf of teardowns, in order: the targets of those
whose call of the driver has succeeded. -/
def destroyed (turns : List Turn) : List (ResourceClass × RemoteId) :=
  turns.filterMap fun turn => if turn.deed.succeeds then turn.request.target? else none

/-- A map grants a claim for an entry that is new or was given back. -/
theorem SlotChange.grants_add_free_le {cls : ResourceClass} {id : RemoteId} {deed : Deed}
    {slot slot' : Option (Slot cls)} (h : SlotChange cls id deed slot slot') :
    (if deed.grants cls id then 1 else 0) + free slot' ≤
      (if deed.creates? = some (cls, id) then 1 else 0) + (if deed.releases cls id then 1 else 0) +
        free slot := by
  cases h with
  | same untouched =>
    have hgrants : deed.grants cls id = false := by
      unfold Deed.grants
      split
      · rename_i cls' id' entry
        rw [decide_eq_false_iff_not]
        rintro ⟨rfl, rfl⟩
        exact untouched.unclaimed entry rfl
      · rfl
    simp [hgrants]
  | claimed entry => simp [Deed.grants, free]
  | released entry => simp [Deed.grants, Deed.releases, free]
  | committed entry => simp [Deed.grants, free]
  | created entry creates registered =>
    have hgrants : deed.grants cls id = false := by
      unfold Deed.grants
      split
      · cases creates
      · rfl
    simp [hgrants, creates, free]
  | cascaded slot owner gone owned listed => simp [Deed.grants, free]

namespace Workload

/-- Along a schedule the map of a class grants no more claims on an identifier
than there were entries put under it and claims given back. -/
theorem countP_grants_add_free_le (w : Workload cards) (events : List Event) (cls : ResourceClass)
    (id : RemoteId) :
    (w.turns events).countP (fun turn => turn.deed.grants cls id) +
        free ((w.after events).slot? cls id) ≤
      (created (w.turns events)).count (cls, id) +
        (w.turns events).countP (fun turn => turn.deed.releases cls id) +
        free (w.slot? cls id) := by
  induction events generalizing w with
  | nil => simp [created]
  | cons event rest ih =>
    have hrest := ih (w.step event)
    rw [turns_cons, after_cons]
    obtain ⟨hby, hslot⟩ | ⟨turn, next, hby, -, hchange⟩ := w.slot?_step event cls id
    · rw [hslot] at hrest
      rw [hby, List.nil_append]
      exact hrest
    · have hturn := hchange.grants_add_free_le
      have hcreated : (created (turn :: (w.step event).turns rest)).count (cls, id) =
          (created ((w.step event).turns rest)).count (cls, id) +
            if turn.deed.creates? = some (cls, id) then 1 else 0 := by
        unfold created
        cases hc : turn.deed.creates? with
        | none => simp [hc]
        | some target => simp [hc, List.count_cons]
      rw [hby, List.singleton_append, hcreated, List.countP_cons, List.countP_cons]
      omega

end Workload

/-! ## Spending claims -/

/-- A turn uses up a claim: the claim is given back, or the call of the driver
that it allowed has succeeded. -/
def Turn.spends (cls : ResourceClass) (id : RemoteId) (turn : Turn) : Bool :=
  turn.deed.releases cls id || (turn.deed.succeeds && turn.request.target? == some (cls, id))

theorem Deed.grants_iff {cls : ResourceClass} {id : RemoteId} {deed : Deed} :
    deed.grants cls id = true ↔ ∃ entry, deed = ⟨.claim cls id, .ok entry⟩ := by
  constructor
  · intro h
    unfold grants at h
    split at h
    · obtain ⟨rfl, rfl⟩ := of_decide_eq_true h
      exact ⟨_, rfl⟩
    · cases h
  · rintro ⟨entry, rfl⟩
    simp [grants]

theorem Deed.releases_iff {cls : ResourceClass} {id : RemoteId} {deed : Deed} :
    deed.releases cls id = true ↔ ∃ settled, deed = ⟨.settle cls id .release, settled⟩ := by
  constructor
  · intro h
    unfold releases at h
    split at h
    · obtain ⟨rfl, rfl⟩ := of_decide_eq_true h
      exact ⟨_, rfl⟩
    · cases h
  · rintro ⟨settled, rfl⟩
    simp [releases]

theorem Deed.succeeds_iff {deed : Deed} :
    deed.succeeds = true ↔ ∃ call value, deed = ⟨.call call, .ok value⟩ := by
  constructor
  · intro h
    unfold succeeds at h
    split at h
    · exact ⟨_, _, rfl⟩
    · cases h
  · rintro ⟨call, value, rfl⟩
    rfl

section Spending

variable {cls : ResourceClass} {id : RemoteId} {turns : List Turn} {place : Nat} {entry : cls.Entry}

theorem Turn.holding_of_spends {past : List Deed} {turn : Turn}
    (h : turn.request.Permits past turn.deed.action) (hs : turn.spends cls id = true) :
    (∃ entry, Holding past cls id entry) ∧ ¬ Succeeded past := by
  rcases Bool.or_eq_true _ _ ▸ hs with hr | hc
  · obtain ⟨settled, hdeed⟩ := Deed.releases_iff.mp hr
    rw [hdeed] at h
    exact ⟨h.2.1, fun hsucceeded => nomatch h.2.2.mpr hsucceeded⟩
  · obtain ⟨hc, ht⟩ := (Bool.and_eq_true _ _).mp hc
    obtain ⟨call, value, hdeed⟩ := Deed.succeeds_iff.mp hc
    rw [hdeed] at h
    obtain ⟨hidle, entry, hholding, -⟩ := h.2.2 cls id (eq_of_beq ht)
    exact ⟨⟨entry, hholding⟩, hidle.not_succeeded⟩

/-- Who holds a claim has been granted it. -/
theorem Holding.countP_grants_pos (h : Holding (deedsAt turns place) cls id entry) :
    0 < turns.countP fun turn => turn.place = place && turn.deed.grants cls id := by
  obtain ⟨turn, hm, hp, hdeed⟩ := mem_deedsAt.mp h.granted
  rw [List.countP_pos_iff]
  exact ⟨turn, hm, by simp [hp, Deed.grants_iff.mpr ⟨entry, hdeed⟩]⟩

/-- Who holds a claim has not given it back. -/
theorem Holding.countP_releases (h : Holding (deedsAt turns place) cls id entry) :
    (turns.countP fun turn => turn.place = place && turn.deed.releases cls id) = 0 := by
  rw [List.countP_eq_zero]
  intro turn hm hr
  obtain ⟨hp, hr⟩ := (Bool.and_eq_true _ _).mp hr
  obtain ⟨settled, hdeed⟩ := Deed.releases_iff.mp hr
  exact h.unsettled .release settled (mem_deedsAt.mpr ⟨turn, hm, of_decide_eq_true hp, hdeed⟩)

theorem Holding.countP_spends (h : Holding (deedsAt turns place) cls id entry)
    (hs : ¬ Succeeded (deedsAt turns place)) :
    (turns.countP fun turn => turn.place = place && turn.spends cls id) = 0 := by
  rw [List.countP_eq_zero]
  intro turn hm hspends
  obtain ⟨hp, hspends⟩ := (Bool.and_eq_true _ _).mp hspends
  have hp := of_decide_eq_true hp
  rcases Bool.or_eq_true _ _ ▸ hspends with hr | hc
  · obtain ⟨settled, hdeed⟩ := Deed.releases_iff.mp hr
    exact h.unsettled .release settled (mem_deedsAt.mpr ⟨turn, hm, hp, hdeed⟩)
  · obtain ⟨call, value, hdeed⟩ := Deed.succeeds_iff.mp ((Bool.and_eq_true _ _).mp hc).1
    exact hs ⟨call, value, mem_deedsAt.mpr ⟨turn, hm, hp, hdeed⟩⟩

/-- A claim that is held was granted just now or is held for longer. -/
theorem Holding.of_concat {turn : Turn}
    (h : Holding (deedsAt (turns ++ [turn]) place) cls id entry) :
    (turn.place = place ∧ turn.deed = ⟨.claim cls id, .ok entry⟩) ∨
      Holding (deedsAt turns place) cls id entry := by
  obtain ⟨other, hm, hp, hdeed⟩ := mem_deedsAt.mp h.granted
  rcases List.mem_append.mp hm with hm | hm
  · refine .inr ⟨mem_deedsAt.mpr ⟨other, hm, hp, hdeed⟩, fun how settled hs => ?_⟩
    refine h.unsettled how settled ?_
    rw [deedsAt_append]
    exact List.mem_append_left _ hs
  · obtain rfl := List.mem_singleton.mp hm
    exact .inl ⟨hp, hdeed⟩

/-- A request uses up no more claims than it was granted. -/
theorem Lawful.countP_spends_le (h : Lawful turns) (cls : ResourceClass) (id : RemoteId)
    (place : Nat) :
    (turns.countP fun turn => turn.place = place && turn.spends cls id) ≤
      turns.countP fun turn => turn.place = place && turn.deed.grants cls id := by
  induction turns using List.reverseRecOn with
  | nil => exact Nat.le_refl 0
  | append_singleton turns turn ih =>
    have hturns := ih h.of_append
    rw [List.countP_append, List.countP_append, List.countP_singleton, List.countP_singleton]
    by_cases hs : (turn.place = place && turn.spends cls id) = true
    · -- A claim is used up only while it is held, and then nothing was used up before.
      obtain ⟨hp, hspends⟩ := (Bool.and_eq_true _ _).mp hs
      obtain ⟨⟨entry, hholding⟩, hsucceeded⟩ := Turn.holding_of_spends h.last hspends
      rw [of_decide_eq_true hp] at hholding hsucceeded
      have hzero := hholding.countP_spends hsucceeded
      have hpos := hholding.countP_grants_pos
      rw [if_pos hs]
      omega
    · rw [if_neg hs]
      omega

/-- Turns are counted place by place. -/
theorem countP_eq_sum (p : Turn → Bool) {bound : Nat} (h : ∀ turn ∈ turns, turn.place < bound) :
    turns.countP p =
      ∑ place ∈ Finset.range bound, turns.countP fun turn => turn.place = place && p turn := by
  induction turns with
  | nil => simp
  | cons turn rest ih =>
    have hlt : turn.place < bound := h turn List.mem_cons_self
    simp only [List.countP_cons, Finset.sum_add_distrib]
    rw [ih fun other hm => h other (List.mem_cons_of_mem _ hm)]
    congr 1
    rw [Finset.sum_eq_single_of_mem turn.place (Finset.mem_range.mpr hlt) fun other _ hne => ?_]
    · simp
    · simp [hne.symm]

/-- Every holder of a claim has been granted one that is not given back. -/
theorem Lawful.card_add_countP_le (h : Lawful turns) {bound : Nat}
    (hb : ∀ turn ∈ turns, turn.place < bound) (holders : Finset Nat)
    (hh : ∀ place ∈ holders, ∃ entry, Holding (deedsAt turns place) cls id entry) :
    holders.card + turns.countP (fun turn => turn.deed.releases cls id) ≤
      turns.countP fun turn => turn.deed.grants cls id := by
  have hsub : holders ⊆ Finset.range bound := by
    intro place hp
    obtain ⟨entry, hholding⟩ := hh place hp
    obtain ⟨turn, hm, rfl, -⟩ := mem_deedsAt.mp hholding.granted
    exact Finset.mem_range.mpr (hb turn hm)
  have hcard : holders.card = ∑ place ∈ Finset.range bound, if place ∈ holders then 1 else 0 := by
    rw [Finset.sum_ite_mem, Finset.inter_eq_right.mpr hsub, Finset.card_eq_sum_ones]
  rw [hcard, countP_eq_sum _ hb, countP_eq_sum _ hb, ← Finset.sum_add_distrib]
  apply Finset.sum_le_sum
  intro place _
  by_cases hp : place ∈ holders
  · obtain ⟨entry, hholding⟩ := hh place hp
    rw [if_pos hp, hholding.countP_releases]
    exact hholding.countP_grants_pos
  · rw [if_neg hp, Nat.zero_add]
    refine Nat.le_trans (List.countP_mono_left fun turn _ hr => ?_)
      (h.countP_spends_le cls id place)
    obtain ⟨hp, hr⟩ := (Bool.and_eq_true _ _).mp hr
    simp [hp, Turn.spends, hr]

/-- What was destroyed and what was given back has used up a claim. -/
theorem count_destroyed_add_le (turns : List Turn) (cls : ResourceClass) (id : RemoteId) :
    (destroyed turns).count (cls, id) + turns.countP (fun turn => turn.deed.releases cls id) ≤
      turns.countP fun turn => turn.spends cls id := by
  induction turns with
  | nil => exact Nat.le_refl 0
  | cons turn rest ih =>
    have hcons : (destroyed (turn :: rest)).count (cls, id) = (destroyed rest).count (cls, id) +
        if (turn.deed.succeeds && turn.request.target? == some (cls, id)) = true then 1 else 0 := by
      unfold destroyed
      cases hs : turn.deed.succeeds with
      | false => simp [hs]
      | true =>
        cases ht : turn.request.target? with
        | none => simp [hs, ht]
        | some target => simp [hs, ht, List.count_cons]
    rw [hcons, List.countP_cons, List.countP_cons]
    -- A settlement is no call, so no turn is counted on both sides.
    have hturn : (if (turn.deed.succeeds && turn.request.target? == some (cls, id)) = true
          then 1 else 0) + (if turn.deed.releases cls id = true then 1 else 0) ≤
        if turn.spends cls id = true then 1 else 0 := by
      cases hr : turn.deed.releases cls id with
      | false => simp [Turn.spends, hr]
      | true =>
        obtain ⟨settled, hdeed⟩ := Deed.releases_iff.mp hr
        have hs : turn.deed.succeeds = false := by
          rw [hdeed]
          rfl
        simp [Turn.spends, hr, hs]
    omega

theorem Lawful.count_destroyed_add_le (h : Lawful turns) {bound : Nat}
    (hb : ∀ turn ∈ turns, turn.place < bound) (cls : ResourceClass) (id : RemoteId) :
    (destroyed turns).count (cls, id) + turns.countP (fun turn => turn.deed.releases cls id) ≤
      turns.countP fun turn => turn.deed.grants cls id := by
  refine Nat.le_trans (DeviceBroker.count_destroyed_add_le turns cls id) ?_
  rw [countP_eq_sum _ hb, countP_eq_sum _ hb]
  exact Finset.sum_le_sum fun place _ => h.countP_spends_le cls id place

end Spending

/-- An identifier was removed along with its owner, when that was torn down. -/
def Cascaded (turns : List Turn) (cls : ResourceClass) (id : RemoteId) : Prop :=
  ∃ turn ∈ turns, ∃ owner entry gone, turn.request.target? = some (.handle, owner) ∧
    turn.deed = ⟨.removeOwned cls owner, gone⟩ ∧ (id, entry) ∈ gone

theorem Cascaded.append {turns : List Turn} {cls : ResourceClass} {id : RemoteId}
    (h : Cascaded turns cls id) (more : List Turn) : Cascaded (turns ++ more) cls id := by
  obtain ⟨turn, hm, hturn⟩ := h
  exact ⟨turn, List.mem_append_left _ hm, hturn⟩

namespace Workload

theorem Orderly.lt_length {w : Workload cards} {turns : List Turn} (h : w.Orderly turns) :
    ∀ turn ∈ turns, turn.place < w.tasks.length := by
  intro turn hm
  obtain ⟨rest, hget⟩ := h.known turn hm
  exact (List.getElem?_eq_some_iff.mp hget).1

/-- What was destroyed on behalf of an identifier was put under it before. -/
theorem count_destroyed_le (source : IdSource) (device : Simulator cards) (limit : UInt64)
    (events : List Event) (target : ResourceClass × RemoteId) :
    (destroyed ((start source device limit).turns events)).count target ≤
      (created ((start source device limit).turns events)).count target := by
  obtain ⟨cls, id⟩ := target
  have horderly := orderly_after source device limit events
  have hspent := horderly.lawful.count_destroyed_add_le horderly.lt_length cls id
  have hgranted := (start source device limit).countP_grants_add_free_le events cls id
  rw [slot?_start] at hgranted
  have hfree : free (none : Option (Slot cls)) = 0 := rfl
  omega

/-- The requests that hold a claim on an identifier are no more than the
entries that were put under it. -/
theorem card_holders_le (source : IdSource) (device : Simulator cards) (limit : UInt64)
    (events : List Event) (cls : ResourceClass) (id : RemoteId) (holders : Finset Nat)
    (hh : ∀ place ∈ holders,
      ∃ entry, Holding (deedsAt ((start source device limit).turns events) place) cls id entry) :
    holders.card ≤ (created ((start source device limit).turns events)).count (cls, id) := by
  have horderly := orderly_after source device limit events
  have hheld := horderly.lawful.card_add_countP_le horderly.lt_length holders hh
  have hgranted := (start source device limit).countP_grants_add_free_le events cls id
  rw [slot?_start] at hgranted
  have hfree : free (none : Option (Slot cls)) = 0 := rfl
  omega

/-! ## Identifiers of one sequence -/

section Sequence

variable {salt limit : UInt64} {device : Simulator cards} {events : List Event}

/-- A sequence that lasts issues no identifier twice. -/
theorem nodup_issued (drawn : ((start (.seeded salt) device limit).after events).registry.drawn <
    2 ^ 64) : ((start (.seeded salt) device limit).issued events).Nodup := by
  have hsound := sound_start salt device limit
  obtain ⟨count, hcount, hsub⟩ := issued_sublist_take events hsound drawn
  have hsource : (start (.seeded salt) device limit).registry.source =
      .sequence (IdSource.effectiveSalt salt) 0 := rfl
  have hzero : (start (.seeded salt) device limit).registry.drawn = 0 := rfl
  rw [hzero, Nat.zero_add] at hcount
  rw [hsource] at hsub
  exact (IdSource.nodup_take_sequence _ count (hcount ▸ drawn)).sublist hsub

theorem map_snd_created (w : Workload cards) (events : List Event) :
    (created (w.turns events)).map Prod.snd = w.issued events := by
  rw [issued_eq, created, List.map_filterMap]
  exact congrArg (fun f => (w.turns events).filterMap f)
    (funext fun turn => turn.deed.issued?_eq.symm)

theorem count_created_le_one (drawn : ((start (.seeded salt) device limit).after
    events).registry.drawn < 2 ^ 64) (target : ResourceClass × RemoteId) :
    (created ((start (.seeded salt) device limit).turns events)).count target ≤ 1 := by
  have hnodup := nodup_issued drawn
  rw [← map_snd_created] at hnodup
  exact List.nodup_iff_count_le_one.mp (List.Nodup.of_map _ hnodup) target

/-- Two requests do not hold a claim on one identifier. -/
theorem holding_unique (drawn : ((start (.seeded salt) device limit).after events).registry.drawn <
    2 ^ 64) {cls : ResourceClass} {id : RemoteId} {one two : Nat} {entry entry' : cls.Entry}
    (hone : Holding (deedsAt ((start (.seeded salt) device limit).turns events) one) cls id entry)
    (htwo : Holding (deedsAt ((start (.seeded salt) device limit).turns events) two) cls id
      entry') : one = two := by
  have hcard := card_holders_le (.seeded salt) device limit events cls id {one, two}
    fun place hp => by
    rcases Finset.mem_insert.mp hp with rfl | hp
    · exact ⟨entry, hone⟩
    · obtain rfl := Finset.mem_singleton.mp hp
      exact ⟨entry', htwo⟩
  have hle := Nat.le_trans hcard (count_created_le_one drawn (cls, id))
  exact Finset.card_le_one.mp hle one (by simp) two (by simp)

/-- While a request holds a claim, the entry is live and claimed, unless it was
removed along with its owner. -/
theorem slot?_of_holding (drawn : ((start (.seeded salt) device limit).after
    events).registry.drawn < 2 ^ 64) {cls : ResourceClass} {id : RemoteId} {place : Nat}
    {entry : cls.Entry}
    (h : Holding (deedsAt ((start (.seeded salt) device limit).turns events) place) cls id entry) :
    ((start (.seeded salt) device limit).after events).slot? cls id = some ⟨entry, true⟩ ∨
      Cascaded ((start (.seeded salt) device limit).turns events) cls id := by
  induction events using List.reverseRecOn with
  | nil => exact absurd h.granted List.not_mem_nil
  | append_singleton events event ih =>
    have hbefore := Nat.lt_of_le_of_lt (drawn_le_concat _ events event) drawn
    have hlawful := (orderly_after (.seeded salt) device limit (events ++ [event])).lawful
    have hchange := slot?_step ((start (.seeded salt) device limit).after events) event cls id
    rw [← after_concat] at hchange
    rw [turns_concat] at h hlawful ⊢
    obtain ⟨hby, hslot⟩ | ⟨turn, next, hby, -, hchange⟩ := hchange
    · rw [hby, List.append_nil] at h ⊢
      rw [hslot]
      exact ih hbefore h
    rw [hby] at h hlawful ⊢
    rcases h.of_concat with ⟨rfl, hdeed⟩ | hheld
    · -- The claim has just been granted.
      rw [hdeed] at hchange
      exact .inl hchange.of_granted.2
    rcases ih hbefore hheld with hslot | hcascaded
    · -- Only the holder can settle the claim, and it has not.
      have hkept : ∀ how settled, turn.deed ≠ ⟨.settle cls id how, settled⟩ := by
        intro how settled hdeed
        have hpermits := hlawful.last
        rw [hdeed] at hpermits
        obtain ⟨-, ⟨entry', hholding⟩, -⟩ := hpermits
        have hplace := holding_unique hbefore hheld hholding
        exact h.unsettled how settled (mem_deedsAt.mpr ⟨turn, by simp, hplace.symm, hdeed⟩)
      have hpermits := hlawful.last
      rw [hslot] at hchange
      generalize
        ((start (.seeded salt) device limit).after (events ++ [event])).slot? cls id = slot'
        at hchange ⊢
      generalize hd : turn.deed = deed at hchange hkept hpermits
      cases hchange with
      | same => exact .inl rfl
      | released => exact absurd rfl (hkept _ _)
      | committed => exact absurd rfl (hkept _ _)
      | cascaded _ owner gone _ listed =>
        exact .inr ⟨turn, by simp, owner, entry, gone, hpermits.1, hd, listed⟩
    · exact .inr (hcascaded.append _)

/-- What is given back can be claimed again, unless it was removed along with its owner. -/
theorem claim_of_released {event : Event} (drawn : ((start (.seeded salt) device limit).after
      (events ++ [event])).registry.drawn < 2 ^ 64) {turn : Turn} {cls : ResourceClass}
    {id : RemoteId} {settled : Bool}
    (hby : ((start (.seeded salt) device limit).after events).turnBy event = [turn])
    (hd : turn.deed = ⟨.settle cls id .release, settled⟩) :
    (∃ entry, ⟨.claim cls id, .ok entry⟩ ∈
        deedsAt ((start (.seeded salt) device limit).turns events) turn.place ∧
      (((start (.seeded salt) device limit).after (events ++ [event])).broker.perform
        (.claim cls id)).1 = .ok entry) ∨
      Cascaded ((start (.seeded salt) device limit).turns events) cls id := by
  have hbefore := Nat.lt_of_le_of_lt (drawn_le_concat _ events event) drawn
  have hlawful := (orderly_after (.seeded salt) device limit (events ++ [event])).lawful
  rw [turns_concat, hby] at hlawful
  have hpermits := hlawful.last
  rw [hd] at hpermits
  obtain ⟨-, ⟨entry, hholding⟩, -⟩ := hpermits
  rcases slot?_of_holding hbefore hholding with hslot | hcascaded
  · refine .inl ⟨entry, hholding.granted, ?_⟩
    have hchange := slotChange_of_turnBy hby cls id
    rw [← after_concat, hslot, hd] at hchange
    have hfree := hchange.of_release
    have hsound := (after_sound (events ++ [event]) (sound_start salt device limit) drawn).1
    have hvalid : id ≠ .sentinel := by
      rintro rfl
      exact absurd ((hsound.wellFormed cls).sentinel.symm.trans hfree) nofun
    exact congrArg Prod.fst (IdentityMap.claim_of_unclaimed hvalid hfree rfl)
  · exact .inr hcascaded

end Sequence

/-- Teardowns have a single winner after a schedule: what it has done so far,
what its requests do next, and how they have ended. -/
structure SingleWinner (w : Workload cards) (events : List Event) : Prop where
  /-- Nothing is destroyed more often than it was issued. -/
  count_le : ∀ id, ((destroyed (w.turns events)).map Prod.snd).count id ≤ (w.issued events).count id
  /-- While the sequence of identifiers lasts, nothing is destroyed twice. -/
  once : (w.after events).registry.drawn < 2 ^ 64 →
    ((destroyed (w.turns events)).map Prod.snd).Nodup
  /-- A teardown calls the driver while it holds the claim that it was granted,
  to destroy what the claim is on, and only once. -/
  call : ∀ event turn cls id call answer, (w.after events).turnBy event = [turn] →
    turn.request.target? = some (cls, id) → turn.deed = ⟨.call call, answer⟩ →
    Idle (deedsAt (w.turns events) turn.place) ∧
      ∃ entry, Holding (deedsAt (w.turns events) turn.place) cls id entry ∧
        call.Destroys cls entry
  /-- A teardown reports success exactly if its call has succeeded; it is refused
  for a reason if it has made none; and by then its claim is settled. -/
  ends : ∀ (place : Nat) (request : Request) reply cls id,
    (w.after events).tasks[place]? = some ⟨request, .done reply⟩ →
    request.target? = some (cls, id) → request.Ends (deedsAt (w.turns events) place) cls id reply
  /-- While a claim is held nobody else can be granted one: the entry is live and
  claimed, unless it was removed along with its owner. -/
  held : (w.after events).registry.drawn < 2 ^ 64 → ∀ place cls id entry,
    Holding (deedsAt (w.turns events) place) cls id entry →
    (w.after events).slot? cls id = some ⟨entry, true⟩ ∨ Cascaded (w.turns events) cls id
  /-- What is given back is granted to whoever claims it next, unless it was
  removed along with its owner. -/
  reclaimed : ∀ event turn cls id settled, (w.after (events ++ [event])).registry.drawn < 2 ^ 64 →
    (w.after events).turnBy event = [turn] → turn.deed = ⟨.settle cls id .release, settled⟩ →
    (∃ entry, ⟨.claim cls id, .ok entry⟩ ∈ deedsAt (w.turns events) turn.place ∧
      ((w.after (events ++ [event])).broker.perform (.claim cls id)).1 = .ok entry) ∨
      Cascaded (w.turns events) cls id

/-- Along every schedule of a broker that draws its identifiers from a sequence,
teardowns have a single winner. -/
theorem singleWinner (salt limit : UInt64) (device : Simulator cards) (events : List Event) :
    (start (.seeded salt) device limit).SingleWinner events := by
  have horderly := orderly_after (.seeded salt) device limit events
  have hsub : ((destroyed ((start (.seeded salt) device limit).turns events)).map Prod.snd).Subperm
      ((start (.seeded salt) device limit).issued events) := by
    obtain ⟨kept, hperm, hkept⟩ := List.subperm_ext_iff.mpr fun target _ =>
      count_destroyed_le (.seeded salt) device limit events target
    rw [← map_snd_created]
    exact ⟨kept.map Prod.snd, hperm.map Prod.snd, hkept.map Prod.snd⟩
  constructor
  · exact fun id => hsub.count_le id
  · intro drawn
    obtain ⟨kept, hperm, hkept⟩ := hsub
    exact hperm.nodup_iff.mp ((nodup_issued drawn).sublist hkept)
  · intro event turn cls id call answer hby ht hd
    have hlawful := (orderly_after (.seeded salt) device limit (events ++ [event])).lawful
    rw [turns_concat, hby] at hlawful
    have hpermits := hlawful.last
    rw [hd] at hpermits
    exact hpermits.2.2 cls id ht
  · intro place request reply cls id hget ht
    exact horderly.obeys place _ hget cls id ht
  · exact fun drawn place cls id entry h => slot?_of_holding drawn h
  · exact fun event turn cls id settled drawn hby hd => claim_of_released drawn hby hd

/-- One request to close a handle finds it claimed by another, whose call of the
driver fails; a third one succeeds. -/
def closeRetried : List Event :=
  opening ++ [.disturb (.arm .closeHandle .noDaemon), .accept (.closeHandle ⟨7, 3⟩),
    .accept (.closeHandle ⟨7, 3⟩), .advance 2, .advance 3, .advance 2, .advance 2,
    .accept (.closeHandle ⟨7, 3⟩)] ++ .replicate 5 (.advance 4)

theorem singleWinner_closeRetried :
    solo.SingleWinner closeRetried ∧
    destroyed (solo.turns closeRetried) = [(.handle, ⟨7, 3⟩)] ∧
    (solo.after closeRetried).tasks.drop 2 =
      [⟨.closeHandle ⟨7, 3⟩, .done (.ofResult .closeHandle (.error .noDaemon))⟩,
        ⟨.closeHandle ⟨7, 3⟩, .done (.ofResult .closeHandle (.error .busy))⟩,
        ⟨.closeHandle ⟨7, 3⟩, .done (.ofResult .closeHandle (.ok ()))⟩] :=
  ⟨singleWinner 7 4096 _ closeRetried, rfl, rfl⟩

/-- A mapping is claimed to be unmapped, and its handle is closed meanwhile. -/
def unmapDuringClose : List Event :=
  opening ++ .accept (.mapMmio ⟨7, 3⟩ 0) :: .replicate 3 (.advance 2) ++
    [.accept (.unmapMmio ⟨7, 3⟩ ⟨7, 4⟩ 0), .advance 3, .advance 3] ++
    .accept (.closeHandle ⟨7, 3⟩) :: .replicate 5 (.advance 4)

/-- What was removed along with its owner is not claimable again when the call
that was to destroy it has failed: the claim was not kept, the call is made all
the same and fails, and giving the claim back has no effect. -/
theorem claim_absent_of_unmapDuringClose :
    (solo.after unmapDuringClose).slot? .mapping ⟨7, 4⟩ = none ∧
    (∃ turn, (solo.after unmapDuringClose).turnBy (.advance 3) = [turn] ∧
      turn.deed = ⟨.call (.unmapMmio ⟨0x20000000⟩ 0), .error .invalidParam⟩) ∧
    (∃ turn, (solo.after (unmapDuringClose ++ [.advance 3])).turnBy (.advance 3) = [turn] ∧
      turn.deed = ⟨.settle .mapping ⟨7, 4⟩ .release, false⟩) ∧
    ((solo.after (unmapDuringClose ++ [.advance 3, .advance 3])).broker.perform
      (.claim .mapping ⟨7, 4⟩)).1 = .error .absent :=
  ⟨rfl, ⟨_, rfl, rfl⟩, ⟨_, rfl, rfl⟩, rfl⟩

end Workload

end DeviceBroker
