import DeviceBroker.Proofs.Broker.Freshness
import DeviceBroker.Proofs.Broker.Slots

/-!
# Where live identifiers come from

A slot is there because an earlier turn has put an entry under its identifier,
and what a request has resolved was live when it did. Under any class but that
of the tokens this turn is a registration of the very entry, and no
registration is in vain while the sequence of identifiers lasts.
-/

namespace DeviceBroker

variable {cards : Nat}

theorem Deed.eq_register {deed : Deed} {cls : ResourceClass} {id : RemoteId} (hcls : cls ≠ .token)
    (h : deed.creates? = some (cls, id)) : ∃ entry, deed = ⟨.register cls entry, some id⟩ := by
  unfold creates? at h
  split at h
  · cases h
    exact ⟨_, rfl⟩
  · cases h
    exact absurd rfl hcls
  · cases h

namespace Workload

section

variable {source : IdSource} {device : Simulator cards} {limit : UInt64} {events : List Event}
  {cls : ResourceClass} {id : RemoteId}

/-- The entry of a slot was registered under the identifier, and what its owner
owns was not removed since. -/
theorem exists_register_of_slot? (hcls : cls ≠ .token) {slot : Slot cls}
    (h : ((start source device limit).after events).slot? cls id = some slot) :
    ∃ before turn later, (start source device limit).turns events = before ++ turn :: later ∧
      turn.deed = ⟨.register cls slot.entry, some id⟩ ∧
      ∀ other ∈ later, ∀ owner gone, cls.owner? slot.entry = some owner →
        other.deed ≠ ⟨.removeOwned cls owner, gone⟩ := by
  induction events using List.reverseRecOn generalizing slot with
  | nil =>
    rw [after_nil, slot?_start] at h
    cases h
  | append_singleton events event ih =>
    have hstep := ((start source device limit).after events).slot?_step event cls id
    rw [← after_concat, h] at hstep
    rw [turns_concat]
    obtain ⟨hby, hsame⟩ | ⟨turn, next, hby, -, hchange⟩ := hstep
    · rw [hby, List.append_nil]
      exact ih hsame.symm
    rw [hby]
    -- A slot with the same entry was there before, unless this turn has put it there.
    have hkept : ∀ old : Slot cls, old.entry = slot.entry →
        ((start source device limit).after events).slot? cls id = some old →
        (∀ owner gone, cls.owner? slot.entry = some owner →
          turn.deed ≠ ⟨.removeOwned cls owner, gone⟩) →
        ∃ before first later,
          (start source device limit).turns events ++ [turn] = before ++ first :: later ∧
          first.deed = ⟨.register cls slot.entry, some id⟩ ∧
          ∀ other ∈ later, ∀ owner gone, cls.owner? slot.entry = some owner →
            other.deed ≠ ⟨.removeOwned cls owner, gone⟩ := by
      intro old he hold hturn
      obtain ⟨before, first, later, hturns, hd, hlater⟩ := ih hold
      rw [he] at hd hlater
      refine ⟨before, first, later ++ [turn], by rw [hturns]; simp, hd, fun other hm => ?_⟩
      rcases List.mem_append.mp hm with hm | hm
      · exact hlater other hm
      · rw [List.mem_singleton.mp hm]
        exact hturn
    generalize hs : ((start source device limit).after events).slot? cls id = before,
      hd : turn.deed = deed at hchange
    cases hchange with
    | same untouched =>
      exact hkept slot rfl hs fun owner gone ho => hd ▸ untouched.unowned slot owner gone rfl ho
    | claimed entry => exact hkept ⟨entry, false⟩ rfl hs fun _ _ _ h => nomatch hd.symm.trans h
    | released entry => exact hkept ⟨entry, true⟩ rfl hs fun _ _ _ h => nomatch hd.symm.trans h
    | created entry creates registered =>
      obtain ⟨entry', hdeed⟩ := Deed.eq_register hcls creates
      obtain rfl := registered entry' hdeed
      exact ⟨_, turn, [], rfl, hd.trans hdeed, fun _ hm => absurd hm List.not_mem_nil⟩

/-- What a request has looked up was live when it did. -/
theorem slot?_of_find {before later : List Turn} {turn : Turn} {entry : cls.Entry}
    (h : (start source device limit).turns events = before ++ turn :: later)
    (hd : turn.deed = ⟨.find cls id, some entry⟩) :
    ∃ early late claimed, events = early ++ late ∧
      (start source device limit).turns early = before ∧
      ((start source device limit).after early).slot? cls id = some ⟨entry, claimed⟩ := by
  obtain ⟨early, late, next, rfl, hearly, htakes, -⟩ := exists_of_turns_eq h
  have hanswer := htakes.answer
  rw [hd] at hanswer
  obtain ⟨-, ⟨entry, claimed⟩, hs, rfl⟩ := IdentityMap.slots_of_find? hanswer.symm
  exact ⟨early, _, claimed, rfl, hearly, hs⟩

/-- What a request has claimed was live when it did. -/
theorem slot?_of_claim {before later : List Turn} {turn : Turn} {entry : cls.Entry}
    (h : (start source device limit).turns events = before ++ turn :: later)
    (hd : turn.deed = ⟨.claim cls id, .ok entry⟩) :
    ∃ early late, events = early ++ late ∧ (start source device limit).turns early = before ∧
      ((start source device limit).after early).slot? cls id = some ⟨entry, false⟩ := by
  obtain ⟨early, late, next, rfl, hearly, htakes, -⟩ := exists_of_turns_eq h
  have hchange := slotChange_of_turnBy htakes.turnBy cls id
  rw [hd] at hchange
  exact ⟨early, _, rfl, hearly, hchange.of_granted.1⟩

/-- What a request has resolved was registered. -/
theorem exists_register_of_resolved {place : Nat} {entry : HandleEntry}
    (h : Resolved (deedsAt ((start source device limit).turns events) place) id entry) :
    ∃ turn ∈ (start source device limit).turns events,
      turn.deed = ⟨.register .handle entry, some id⟩ := by
  have hearly : ∀ early late slot, events = early ++ late →
      ((start source device limit).after early).slot? .handle id = some slot →
      slot.entry = entry → ∃ turn ∈ (start source device limit).turns events,
        turn.deed = ⟨.register .handle entry, some id⟩ := by
    rintro early late slot rfl hs rfl
    obtain ⟨before, turn, later, hturns, hd, -⟩ := exists_register_of_slot? (by decide) hs
    rw [turns_append, hturns]
    exact ⟨turn, by simp, hd⟩
  rcases h with h | h
  · obtain ⟨turn, hm, -, hd⟩ := mem_deedsAt.mp h
    obtain ⟨before, later, hsplit⟩ := List.append_of_mem hm
    obtain ⟨early, late, claimed, hevents, -, hs⟩ := slot?_of_find hsplit hd
    exact hearly early late _ hevents hs rfl
  · obtain ⟨turn, hm, -, hd⟩ := mem_deedsAt.mp h
    obtain ⟨before, later, hsplit⟩ := List.append_of_mem hm
    obtain ⟨early, late, hevents, -, hs⟩ := slot?_of_claim hsplit hd
    exact hearly early late _ hevents hs rfl

end

/-- While the sequence lasts, an entry without a native key gets an identifier. -/
theorem register_ne_none {salt limit : UInt64} {device : Simulator cards} {events : List Event}
    (drawn : ((start (.seeded salt) device limit).after events).registry.drawn < 2 ^ 64)
    {turn : Turn} (hm : turn ∈ (start (.seeded salt) device limit).turns events)
    {cls : ResourceClass} {entry : cls.Entry} (hk : cls.nativeKey? entry = none) :
    turn.deed ≠ ⟨.register cls entry, none⟩ := by
  intro hd
  obtain ⟨before, later, hsplit⟩ := List.append_of_mem hm
  obtain ⟨early, late, next, rfl, -, htakes, hbroker⟩ := exists_of_turns_eq hsplit
  have hanswer := htakes.answer
  rw [hd] at hanswer hbroker
  have hlate : ((start (.seeded salt) device limit).after
      (early ++ [.advance turn.place])).registry.drawn < 2 ^ 64 := by
    refine Nat.lt_of_le_of_lt (drawn_le_after _ late) ?_
    rw [← after_append, List.append_assoc]
    exact drawn
  have hsound := (after_sound early (sound_start salt device limit)
    (Nat.lt_of_le_of_lt (drawn_le_concat _ early (.advance turn.place)) hlate)).1
  unfold registry at hlate
  rw [hbroker] at hlate
  obtain ⟨id, hid, -⟩ := hsound.register hk hlate
  have hnone : (((start (.seeded salt) device limit).after early).registry.register cls entry).1 =
      none := hanswer.symm
  rw [hnone] at hid
  cases hid

end Workload

end DeviceBroker
