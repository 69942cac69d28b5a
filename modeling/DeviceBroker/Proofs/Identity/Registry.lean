import DeviceBroker.Proofs.Identity.Issue

/-!
# Changes of a registry

A registry changes in three ways only: the map of one class comes to hold
less, an identifier is drawn in vain, or an identifier is drawn and issued for
a new entry. This is `Registry.Step`, and everything below is read off it. In
a `Sound` registry the number of draws dominates the identifiers in all five
maps, so an identifier that is issued is new in every one of them.
-/

namespace DeviceBroker.Registry

def drawn (r : Registry) : Nat := r.source.drawn

@[simp] theorem withMap_map_self (r : Registry) (cls : ResourceClass) :
    r.withMap cls (r.map cls) = r := by
  cases cls <;> rfl

@[simp] theorem withMap_withMap (r : Registry) (cls : ResourceClass) (m m' : IdentityMap cls) :
    (r.withMap cls m).withMap cls m' = r.withMap cls m' := by
  cases cls <;> rfl

@[simp] theorem map_withSource (r : Registry) (source : IdSource) (cls : ResourceClass) :
    ({ r with source := source } : Registry).map cls = r.map cls := by
  cases cls <;> rfl

@[simp] theorem drawn_withMap (r : Registry) (cls : ResourceClass) (m : IdentityMap cls) :
    (r.withMap cls m).drawn = r.drawn := by
  simp [drawn]

/-- What one change does, and the identifier that it issues, if any. -/
inductive Step : Registry → Option RemoteId → Registry → Prop
  /-- A map comes to hold less. -/
  | shrink {r : Registry} {cls : ResourceClass} {m : IdentityMap cls}
      (within : m.Within (r.map cls)) : Step r none (r.withMap cls m)
  /-- An identifier is drawn and not used. -/
  | waste {r : Registry} {cls : ResourceClass} {m : IdentityMap cls}
      (within : m.Within (r.map cls)) :
      Step r none { r.withMap cls m with source := r.source.next.2 }
  /-- An identifier is drawn for a new entry. -/
  | issue {r : Registry} {cls : ResourceClass} {m : IdentityMap cls} (entry : cls.Entry)
      (admitted : (r.map cls).admits r.source.next.1 entry = true)
      (slots : m.slots = ((r.map cls).put r.source.next.1 entry).slots)
      (natives : m.natives = ((r.map cls).put r.source.next.1 entry).natives) :
      Step r (some r.source.next.1) { r.withMap cls m with source := r.source.next.2 }

/-- What a map that holds less has in a slot was in a slot before. -/
theorem slots_of_within {r : Registry} {cls other : ResourceClass} {m : IdentityMap other}
    (within : m.Within (r.map other)) {id : RemoteId} {slot : Slot cls}
    (hs : ((r.withMap other m).map cls).slots.find? id = some slot) :
    ∃ old, (r.map cls).slots.find? id = some old ∧ old.entry = slot.entry := by
  by_cases ho : cls = other
  · subst ho
    rw [map_withMap_self] at hs
    exact within.entry id slot hs
  · rw [map_withMap_of_ne _ _ ho] at hs
    exact ⟨slot, hs, rfl⟩

/-- A slot of a map with one more entry is the new one or was there before. -/
theorem slots_of_put {r : Registry} {cls other : ResourceClass} {m : IdentityMap other}
    {new : RemoteId} {entry : other.Entry} (slots : m.slots = ((r.map other).put new entry).slots)
    {id : RemoteId} {slot : Slot cls}
    (hs : ((r.withMap other m).map cls).slots.find? id = some slot) :
    (id = new ∧ cls = other) ∨ (r.map cls).slots.find? id = some slot := by
  by_cases ho : cls = other
  · subst ho
    rw [map_withMap_self, slots, IdentityMap.slots_find?_put] at hs
    split at hs
    · rename_i hid
      exact .inl ⟨hid, rfl⟩
    · exact .inr hs
  · rw [map_withMap_of_ne _ _ ho] at hs
    exact .inr hs

theorem Step.refl (r : Registry) : Step r none r := by
  have h : Step r none (r.withMap .token (r.map .token)) := .shrink (.refl _)
  rwa [withMap_map_self] at h

theorem step_add (r : Registry) (cls : ResourceClass) (entry : cls.Entry) :
    Step r (if ((r.map cls).add r.source.next.1 entry).1 then some r.source.next.1 else none)
      { r.withMap cls ((r.map cls).add r.source.next.1 entry).2 with
        source := r.source.next.2 } := by
  unfold IdentityMap.add
  split
  · rename_i h
    exact .issue entry h rfl rfl
  · exact .waste ((IdentityMap.Within.refl _).of_eq rfl rfl)

theorem register_eq (r : Registry) (cls : ResourceClass) (entry : cls.Entry) :
    r.register cls entry =
      (if ((r.map cls).add r.source.next.1 entry).1 then some r.source.next.1 else none,
        { r.withMap cls ((r.map cls).add r.source.next.1 entry).2 with
          source := r.source.next.2 }) := by
  simp only [register, draw, update, map_withSource]
  cases cls <;> rfl

theorem step_register (r : Registry) (cls : ResourceClass) (entry : cls.Entry) :
    Step r (r.register cls entry).1 (r.register cls entry).2 := by
  rw [register_eq]
  exact step_add r cls entry

/-- The identifier that a registration issued, if it issued one. -/
def issuedBy : Option Registration → Option RemoteId
  | some (.inserted id) => some id
  | _ => none

theorem intern_of_tracked {r : Registry} {cls : ResourceClass} {entry : cls.Entry}
    {id : RemoteId} (h : (r.map cls).tracked? entry = some id) :
    r.intern cls entry = (some (.existing id), r) := by
  unfold intern IdentityMap.findOrAdd
  rw [h]
  cases cls <;> rfl

theorem intern_of_untracked {r : Registry} {cls : ResourceClass} {entry : cls.Entry}
    (h : (r.map cls).tracked? entry = none) :
    r.intern cls entry =
      (if ((r.map cls).add r.source.next.1 entry).1 then some (.inserted r.source.next.1)
        else none,
        { r.withMap cls ((r.map cls).add r.source.next.1 entry).2 with
          source := r.source.next.2 }) := by
  unfold intern IdentityMap.findOrAdd
  rw [h]

theorem step_intern (r : Registry) (cls : ResourceClass) (entry : cls.Entry) :
    Step r (issuedBy (r.intern cls entry).1) (r.intern cls entry).2 := by
  cases h : (r.map cls).tracked? entry with
  | some id =>
      rw [intern_of_tracked h]
      exact .refl r
  | none =>
      have hadd := step_add r cls entry
      rw [intern_of_untracked h]
      cases ha : ((r.map cls).add r.source.next.1 entry).1 with
      | true => simpa [ha, issuedBy] using hadd
      | false => simpa [ha, issuedBy] using hadd

theorem Step.drawn_le {r r' : Registry} {issued : Option RemoteId} (h : Step r issued r') :
    r.drawn ≤ r'.drawn := by
  cases h with
  | shrink _ => simp
  | waste _ => exact r.source.drawn_le_next
  | issue _ _ _ _ => exact r.source.drawn_le_next

/-- A registry whose identifiers all come from one sequence, with every map in
order and no identifier in two maps. -/
structure Sound (salt : UInt64) (r : Registry) : Prop where
  salt_ne_zero : salt ≠ 0
  source : r.source = .sequence salt r.drawn
  wellFormed : ∀ cls, (r.map cls).WellFormed
  issued : ∀ cls id slot, (r.map cls).slots.find? id = some slot →
    id.high = salt ∧ id.low.toNat ≤ r.drawn
  disjoint : ∀ cls other id slot slot', (r.map cls).slots.find? id = some slot →
    (r.map other).slots.find? id = some slot' → cls = other

theorem sound_empty {salt : UInt64} (h : salt ≠ 0) :
    (empty (.sequence salt 0)).Sound salt where
  salt_ne_zero := h
  source := rfl
  wellFormed cls := by cases cls <;> exact IdentityMap.wellFormed_empty
  issued cls id slot hs := by cases cls <;> cases hs
  disjoint cls other id slot slot' hs := by cases cls <;> cases hs

theorem Sound.next_eq {salt : UInt64} {r : Registry} (h : r.Sound salt) :
    r.source.next = (⟨salt, UInt64.ofNat (r.drawn + 1)⟩, .sequence salt (r.drawn + 1)) := by
  rw [h.source, IdSource.next_sequence]

/-- The next identifier lies beyond all that were drawn, unless the count wraps. -/
theorem Sound.toNat_low_next {salt : UInt64} {r : Registry} (h : r.Sound salt)
    (hb : r.drawn + 1 < 2 ^ 64) : r.source.next.1.low.toNat = r.drawn + 1 := by
  rw [h.next_eq]
  change (UInt64.ofNat (r.drawn + 1)).toNat = _
  rw [UInt64.toNat_ofNat', Nat.mod_eq_of_lt hb]

/-- An identifier that was not drawn yet has no slot in any map. -/
theorem Sound.slots_next {salt : UInt64} {r : Registry} (h : r.Sound salt)
    (hb : r.drawn + 1 < 2 ^ 64) (cls : ResourceClass) :
    (r.map cls).slots.find? r.source.next.1 = none := by
  cases hs : (r.map cls).slots.find? r.source.next.1 with
  | none => rfl
  | some slot =>
      have hle := (h.issued cls _ slot hs).2
      rw [h.toNat_low_next hb] at hle
      omega

theorem Sound.next_ne_sentinel {salt : UInt64} {r : Registry} (h : r.Sound salt) :
    r.source.next.1 ≠ .sentinel := by
  rw [h.next_eq]
  intro heq
  exact h.salt_ne_zero (congrArg RemoteId.high heq)

theorem drawn_of_next {salt : UInt64} {r : Registry} (h : r.Sound salt)
    {cls : ResourceClass} (m : IdentityMap cls) :
    ({ r.withMap cls m with source := r.source.next.2 } : Registry).drawn = r.drawn + 1 := by
  rw [h.next_eq]
  rfl

/-- A map that holds less, while draws only advance, keeps a registry sound. -/
theorem Sound.of_within {salt : UInt64} {r : Registry} (h : r.Sound salt) {cls : ResourceClass}
    {m : IdentityMap cls} (within : m.Within (r.map cls)) {n : Nat} (hn : r.drawn ≤ n) :
    ({ r.withMap cls m with source := .sequence salt n } : Registry).Sound salt := by
  refine ⟨h.salt_ne_zero, rfl, fun other => ?_, fun other id slot hs => ?_,
    fun one two id slot slot' hs hs' => ?_⟩
  · rw [map_withSource]
    by_cases ho : other = cls
    · subst ho
      rw [map_withMap_self]
      exact within.wellFormed (h.wellFormed other)
    · rw [map_withMap_of_ne _ _ ho]
      exact h.wellFormed other
  · rw [map_withSource] at hs
    obtain ⟨old, hold, -⟩ := slots_of_within within hs
    obtain ⟨hhigh, hlow⟩ := h.issued other id old hold
    exact ⟨hhigh, Nat.le_trans hlow hn⟩
  · rw [map_withSource] at hs hs'
    obtain ⟨old, hold, -⟩ := slots_of_within within hs
    obtain ⟨old', hold', -⟩ := slots_of_within within hs'
    exact h.disjoint one two id old old' hold hold'

/-- Issuing the next identifier of a sequence that is not exhausted. -/
theorem Sound.of_issue {salt : UInt64} {r : Registry} (h : r.Sound salt)
    (hb : r.drawn + 1 < 2 ^ 64) {cls : ResourceClass} {m : IdentityMap cls} {entry : cls.Entry}
    (admitted : (r.map cls).admits r.source.next.1 entry = true)
    (slots : m.slots = ((r.map cls).put r.source.next.1 entry).slots)
    (natives : m.natives = ((r.map cls).put r.source.next.1 entry).natives) :
    ({ r.withMap cls m with source := r.source.next.2 } : Registry).Sound salt := by
  refine ⟨h.salt_ne_zero, ?_, fun other => ?_, fun other id slot hs => ?_,
    fun one two id slot slot' hs hs' => ?_⟩
  · rw [drawn_of_next h, h.next_eq]
  · rw [map_withSource]
    by_cases ho : other = cls
    · subst ho
      have hput := (h.wellFormed other).put admitted
      rw [map_withMap_self]
      exact ⟨by rw [slots]; exact hput.sentinel, by rw [slots, natives]; exact hput.indexed⟩
    · rw [map_withMap_of_ne _ _ ho]
      exact h.wellFormed other
  · rw [map_withSource] at hs
    rw [drawn_of_next h]
    rcases slots_of_put slots hs with ⟨rfl, -⟩ | hs
    · exact ⟨by rw [h.next_eq], Nat.le_of_eq (h.toNat_low_next hb)⟩
    · obtain ⟨hhigh, hlow⟩ := h.issued other id slot hs
      exact ⟨hhigh, by omega⟩
  · rw [map_withSource] at hs hs'
    rcases slots_of_put slots hs with ⟨rfl, rfl⟩ | hs
    · rcases slots_of_put slots hs' with ⟨-, rfl⟩ | hs'
      · rfl
      · rw [h.slots_next hb two] at hs'
        cases hs'
    · rcases slots_of_put slots hs' with ⟨rfl, -⟩ | hs'
      · rw [h.slots_next hb one] at hs
        cases hs
      · exact h.disjoint one two id slot slot' hs hs'

theorem Step.sound {salt : UInt64} {r r' : Registry} {issued : Option RemoteId}
    (step : Step r issued r') (h : r.Sound salt) (hb : r'.drawn < 2 ^ 64) : r'.Sound salt := by
  cases step with
  | @shrink cls m within =>
      have hs := h.of_within within (Nat.le_refl r.drawn)
      rw [← h.source] at hs
      have heq : ({ r.withMap cls m with source := r.source } : Registry) = r.withMap cls m := by
        cases cls <;> rfl
      rwa [heq] at hs
  | waste within =>
      rw [h.next_eq]
      exact h.of_within within (Nat.le_succ _)
  | issue entry admitted slots natives =>
      rw [drawn_of_next h] at hb
      exact h.of_issue hb admitted slots natives

/-- What a later registry may hold: entries of the earlier one under the same
identifiers, and new entries under identifiers that were drawn in between. -/
structure Extends (later earlier : Registry) : Prop where
  drawn_le : earlier.drawn ≤ later.drawn
  entry : ∀ cls id entry, (later.map cls).find? id = some entry →
    (earlier.map cls).find? id = some entry ∨ earlier.drawn < id.low.toNat

theorem Extends.refl (r : Registry) : r.Extends r := ⟨Nat.le_refl _, fun _ _ _ h => .inl h⟩

theorem Extends.trans {one two three : Registry} (h : three.Extends two) (h' : two.Extends one) :
    three.Extends one := by
  refine ⟨Nat.le_trans h'.drawn_le h.drawn_le, fun cls id entry hf => ?_⟩
  rcases h.entry cls id entry hf with hf | hlt
  · exact h'.entry cls id entry hf
  · exact .inr (Nat.lt_of_le_of_lt h'.drawn_le hlt)

theorem Step.extends {salt : UInt64} {r r' : Registry} {issued : Option RemoteId}
    (step : Step r issued r') (h : r.Sound salt) (hb : r'.drawn < 2 ^ 64) : r'.Extends r := by
  have hsound := step.sound h hb
  have hle := step.drawn_le
  refine ⟨hle, fun other id entry hf => ?_⟩
  rw [(hsound.wellFormed other).find?_eq] at hf
  obtain ⟨slot, hs, rfl⟩ := Option.map_eq_some_iff.mp hf
  rw [(h.wellFormed other).find?_eq]
  cases step with
  | shrink within =>
      obtain ⟨old, hold, heq⟩ := slots_of_within within hs
      rw [hold, Option.map_some, heq]
      exact .inl rfl
  | waste within =>
      rw [map_withSource] at hs
      obtain ⟨old, hold, heq⟩ := slots_of_within within hs
      rw [hold, Option.map_some, heq]
      exact .inl rfl
  | issue entry admitted slots natives =>
      rw [map_withSource] at hs
      rcases slots_of_put slots hs with ⟨hid, -⟩ | hold
      · rw [drawn_of_next h] at hb
        rw [hid, h.toNat_low_next hb]
        exact .inr (Nat.lt_succ_self _)
      · rw [hold, Option.map_some]
        exact .inl rfl

end DeviceBroker.Registry
