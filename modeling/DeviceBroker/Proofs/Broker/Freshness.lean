import DeviceBroker.Proofs.Broker.Workload

/-!
# Identifiers are issued once

Along every schedule of a broker that draws from a sequence, the identifiers
it issues are some of those that the sequence yields, in order. A live
identifier was issued, lives in one class, and keeps its entry; and once it
has left its map it is never live again. The argument is the one of
`Registry.Sound`: the number of draws dominates every live identifier, and
whatever a later registry holds is either old or beyond that number.
-/

namespace DeviceBroker

variable {cards : Nat}

namespace IdSource

theorem take_add (source : IdSource) (first second : Nat) :
    (source.take (first + second)).1 =
      (source.take first).1 ++ ((source.take first).2.take second).1 := by
  induction first generalizing source with
  | zero => rw [Nat.zero_add, take_zero, List.nil_append]
  | succ first ih => rw [Nat.succ_add, take_succ, take_succ, ih, List.cons_append]

end IdSource

namespace Registry

/-- What a change issues is among what it draws. -/
theorem Step.draws {salt : UInt64} {r r' : Registry} {issued : Option RemoteId}
    (step : Step r issued r') (h : r.Sound salt) :
    ∃ count, r'.drawn = r.drawn + count ∧ r'.source = (r.source.take count).2 ∧
      issued.toList.Sublist (r.source.take count).1 := by
  cases step with
  | shrink _ => exact ⟨0, by simp, by simp, by simp⟩
  | waste _ =>
      refine ⟨1, drawn_of_next h _, rfl, ?_⟩
      exact List.nil_sublist _
  | issue _ _ _ _ =>
      refine ⟨1, drawn_of_next h _, rfl, ?_⟩
      exact List.Sublist.refl _

/-- What is live after a change was live before it or was issued by it. -/
theorem Step.slots {r r' : Registry} {issued : Option RemoteId} (step : Step r issued r')
    {cls : ResourceClass} {id : RemoteId} {slot : Slot cls}
    (hs : (r'.map cls).slots.find? id = some slot) :
    (∃ old, (r.map cls).slots.find? id = some old) ∨ issued = some id := by
  cases step with
  | shrink within =>
      obtain ⟨old, hold, -⟩ := slots_of_within within hs
      exact .inl ⟨old, hold⟩
  | waste within =>
      rw [map_withSource] at hs
      obtain ⟨old, hold, -⟩ := slots_of_within within hs
      exact .inl ⟨old, hold⟩
  | issue entry admitted slots natives =>
      rw [map_withSource] at hs
      rcases slots_of_put slots hs with ⟨hid, -⟩ | hold
      · exact .inr (congrArg some hid.symm)
      · exact .inl ⟨slot, hold⟩

section Live

variable {salt : UInt64} {r later last : Registry} {cls other : ResourceClass} {id : RemoteId}
  {entry : cls.Entry}

theorem Sound.high_low_of_find? (h : r.Sound salt) (hf : (r.map cls).find? id = some entry) :
    id.high = salt ∧ id.low.toNat ≤ r.drawn := by
  obtain ⟨-, slot, hs, -⟩ := IdentityMap.slots_of_find? hf
  exact h.issued cls id slot hs

theorem Sound.class_eq (h : r.Sound salt) {entry' : other.Entry}
    (hf : (r.map cls).find? id = some entry) (hf' : (r.map other).find? id = some entry') :
    cls = other := by
  obtain ⟨-, slot, hs, -⟩ := IdentityMap.slots_of_find? hf
  obtain ⟨-, slot', hs', -⟩ := IdentityMap.slots_of_find? hf'
  exact h.disjoint cls other id slot slot' hs hs'

theorem Sound.find?_eq_none_of_high (h : r.Sound salt) (hne : id.high ≠ salt) :
    (r.map cls).find? id = none := by
  cases hf : (r.map cls).find? id with
  | none => rfl
  | some entry => exact absurd (h.high_low_of_find? hf).1 hne

/-- A live identifier is old, so what a later registry has under it was there before. -/
theorem Extends.find?_of_live (h : r.Sound salt) (hext : later.Extends r)
    (hf : (r.map cls).find? id = some entry) {entry' : other.Entry}
    (hf' : (later.map other).find? id = some entry') :
    (r.map other).find? id = some entry' := by
  rcases hext.entry other id entry' hf' with hbefore | hlt
  · exact hbefore
  · exact absurd (h.high_low_of_find? hf).2 (Nat.not_le.mpr hlt)

theorem Extends.find?_eq_none_of_gone (h : r.Sound salt) (hext : later.Extends r)
    (hext' : last.Extends later) (hf : (r.map cls).find? id = some entry)
    (hgone : (later.map cls).find? id = none) : (last.map other).find? id = none := by
  cases hlast : (last.map other).find? id with
  | none => rfl
  | some entry' =>
      -- An entry of the last registry under this identifier would have been there all along.
      rcases hext'.entry other id entry' hlast with hlater | hlt
      · obtain rfl := h.class_eq (hext.find?_of_live h hf hlater) hf
        rw [hgone] at hlater
        cases hlater
      · have hle := (h.high_low_of_find? hf).2
        have := hext.drawn_le
        omega

end Live

end Registry

namespace Workload

/-- What a schedule issues is among what it draws, in the same order. -/
theorem issued_sublist_take {salt : UInt64} {w : Workload cards} (events : List Event)
    (h : w.registry.Sound salt) (hb : (w.after events).registry.drawn < 2 ^ 64) :
    ∃ count, (w.after events).registry.drawn = w.registry.drawn + count ∧
      (w.issued events).Sublist (w.registry.source.take count).1 := by
  induction events generalizing w with
  | nil => exact ⟨0, rfl, List.Sublist.refl _⟩
  | cons event rest ih =>
      obtain ⟨issued, hissued, hstep⟩ := w.step_registry event
      have hmid : (w.step event).registry.drawn < 2 ^ 64 :=
        Nat.lt_of_le_of_lt ((w.step event).drawn_le_after rest) hb
      obtain ⟨first, hfirst, hsource, hsub⟩ := hstep.draws h
      obtain ⟨second, hsecond, hrest⟩ := ih (hstep.sound h hmid) hb
      refine ⟨first + second, ?_, ?_⟩
      · rw [after_cons, hsecond, hfirst, Nat.add_assoc]
      · rw [issued_cons, hissued, IdSource.take_add]
        rw [hsource] at hrest
        exact hsub.append hrest

theorem live_or_issued {w : Workload cards} (events : List Event) {cls : ResourceClass}
    {id : RemoteId} {slot : Slot cls}
    (hs : ((w.after events).registry.map cls).slots.find? id = some slot) :
    (∃ old, (w.registry.map cls).slots.find? id = some old) ∨ id ∈ w.issued events := by
  induction events generalizing w with
  | nil => exact .inl ⟨slot, hs⟩
  | cons event rest ih =>
      obtain ⟨issued, hissued, hstep⟩ := w.step_registry event
      rw [issued_cons, List.mem_append, hissued]
      rcases ih hs with ⟨old, hold⟩ | hrest
      · rcases hstep.slots hold with hbefore | rfl
        · exact .inl hbefore
        · exact .inr (.inl (by simp))
      · exact .inr (.inr hrest)

/-- Identifiers are neither forged nor shared nor resurrected along a schedule
that consists of an early, a middle and a late part. -/
structure IssuesOnce (w : Workload cards) (salt : UInt64) (early middle late : List Event) :
    Prop where
  /-- No identifier is issued twice. -/
  nodup : (w.issued (early ++ middle ++ late)).Nodup
  /-- The sentinel is not issued. -/
  ne_sentinel : RemoteId.sentinel ∉ w.issued (early ++ middle ++ late)
  /-- A live identifier was issued. -/
  issued : ∀ cls id entry, ((w.after early).registry.map cls).find? id = some entry →
    id ∈ w.issued early
  /-- A live identifier has the salt of the broker, where zero counts as one. -/
  high : ∀ cls id entry, ((w.after early).registry.map cls).find? id = some entry →
    id.high.toNat = max salt.toNat 1
  /-- What a sequence under another salt yields does not resolve. -/
  foreign : ∀ (other : UInt64) (count : Nat), max other.toNat 1 ≠ max salt.toNat 1 →
    ∀ id ∈ ((IdSource.seeded other).take count).1, ∀ cls,
      ((w.after early).registry.map cls).find? id = none
  /-- An identifier is live in one class only. -/
  oneClass : ∀ cls other id entry entry',
    ((w.after early).registry.map cls).find? id = some entry →
    ((w.after early).registry.map other).find? id = some entry' → cls = other
  /-- An identifier that is live at two moments has the same entry at both. -/
  entryFixed : ∀ cls id entry entry',
    ((w.after early).registry.map cls).find? id = some entry →
    ((w.after (early ++ middle)).registry.map cls).find? id = some entry' → entry' = entry
  /-- An identifier that has left its map is not live again in any map. -/
  gone : ∀ cls id entry, ((w.after early).registry.map cls).find? id = some entry →
    ((w.after (early ++ middle)).registry.map cls).find? id = none →
    ∀ other, ((w.after (early ++ middle ++ late)).registry.map other).find? id = none

/-- The registry of a broker that has not served anything is sound. -/
theorem sound_start (salt : UInt64) (device : Simulator cards) (limit : UInt64) :
    (start (.seeded salt) device limit).registry.Sound (IdSource.effectiveSalt salt) :=
  Registry.sound_empty (IdSource.effectiveSalt_ne_zero salt)

/-- Every schedule that draws fewer than `2 ^ 64` identifiers issues each of
them once and for all. -/
theorem issuesOnce_of_drawn_lt (salt limit : UInt64) (device : Simulator cards)
    (early middle late : List Event)
    (drawn : ((start (.seeded salt) device limit).after
      (early ++ middle ++ late)).registry.drawn < 2 ^ 64) :
    (start (.seeded salt) device limit).IssuesOnce salt early middle late := by
  have hstart := sound_start salt device limit
  generalize hw : start (.seeded salt) device limit = w at drawn hstart
  -- The bound at the end holds at the two moments before it, since draws only advance.
  have hlate : ((w.after (early ++ middle)).after late).registry.drawn < 2 ^ 64 := by
    rwa [← after_append]
  have hmid : ((w.after early).after middle).registry.drawn < 2 ^ 64 := by
    rw [← after_append]
    exact Nat.lt_of_le_of_lt (drawn_le_after _ late) hlate
  obtain ⟨early_sound, -⟩ := after_sound early hstart
    (Nat.lt_of_le_of_lt (drawn_le_after _ middle) hmid)
  obtain ⟨middle_sound, middle_extends⟩ := after_sound middle early_sound hmid
  rw [← after_append] at middle_sound middle_extends
  obtain ⟨-, late_extends⟩ := after_sound late middle_sound hlate
  rw [← after_append] at late_extends
  obtain ⟨count, hcount, hsub⟩ := issued_sublist_take (early ++ middle ++ late) hstart drawn
  have hsource : w.registry.source = .sequence (IdSource.effectiveSalt salt) 0 := by
    rw [← hw]
    rfl
  have hzero : w.registry.drawn = 0 := by
    rw [Registry.drawn, hsource]
    rfl
  rw [hzero, Nat.zero_add] at hcount
  rw [hsource] at hsub
  constructor
  · exact (IdSource.nodup_take_sequence _ count (hcount ▸ drawn)).sublist hsub
  · intro hmem
    have hhigh := IdSource.high_of_mem_take (hsub.subset hmem)
    exact IdSource.effectiveSalt_ne_zero salt hhigh.symm
  · intro cls id entry hf
    obtain ⟨-, slot, hs, -⟩ := IdentityMap.slots_of_find? hf
    rcases live_or_issued early hs with ⟨old, hold⟩ | hissued
    · rw [← hw] at hold
      cases cls <;> cases hold
    · exact hissued
  · intro cls id entry hf
    rw [(early_sound.high_low_of_find? hf).1, IdSource.toNat_effectiveSalt]
  · intro other count hne id hmem cls
    rw [IdSource.seeded_eq] at hmem
    apply early_sound.find?_eq_none_of_high
    intro heq
    rw [IdSource.high_of_mem_take hmem] at heq
    rw [← IdSource.toNat_effectiveSalt, ← IdSource.toNat_effectiveSalt, heq] at hne
    exact hne rfl
  · intro cls other id entry entry' hf hf'
    exact early_sound.class_eq hf hf'
  · intro cls id entry entry' hf hf'
    have hbefore := middle_extends.find?_of_live early_sound hf hf'
    rw [hf] at hbefore
    exact (Option.some.inj hbefore).symm
  · intro cls id entry hf hgone other
    exact middle_extends.find?_eq_none_of_gone early_sound late_extends hf hgone

/-- A token is listed, taken back by a second request, and listed again. -/
theorem issuesOnce_of_token_listed_twice :
    ((start (.seeded 7) (.start 1 fun _ => none) 4096).after
      ([.accept (.enumerate [] 2), .advance 0, .accept (.destroyToken ⟨7, 1⟩), .advance 0,
          .advance 0] ++ .replicate 3 (.advance 1) ++
        [.accept (.enumerate [] 1), .advance 2, .advance 2])).registry.drawn < 2 ^ 64 ∧
    (start (.seeded 7) (.start 1 fun _ => none) 4096).IssuesOnce 7
      [.accept (.enumerate [] 2), .advance 0, .accept (.destroyToken ⟨7, 1⟩), .advance 0,
        .advance 0]
      (.replicate 3 (.advance 1)) [.accept (.enumerate [] 1), .advance 2, .advance 2] :=
  ⟨by decide, issuesOnce_of_drawn_lt _ _ _ _ _ _ (by decide)⟩

end Workload

end DeviceBroker
