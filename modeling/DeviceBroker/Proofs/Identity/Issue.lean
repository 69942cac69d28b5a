import DeviceBroker.Identity.Registry
import DeviceBroker.Proofs.Identity.Map
import Mathlib.Algebra.Group.Nat.Defs
import Mathlib.Data.List.Nodup

/-!
# Shrinking maps and sequences of identifiers

Claiming, settling and removing leave a map `Within` the one before: it holds
no entry that was not there, under the same identifier. What a sequence under
a salt yields is distinct as long as the sequence lasts, has that salt, and is
never the sentinel, since a salt of zero counts as one.
-/

namespace DeviceBroker

namespace IdentityMap

variable {cls : ResourceClass}

/-- A map that holds no entry that another one does not hold, under the same
identifiers. Claims may differ. -/
structure Within (after before : IdentityMap cls) : Prop where
  wellFormed : before.WellFormed → after.WellFormed
  entry : ∀ id slot, after.slots.find? id = some slot →
    ∃ old, before.slots.find? id = some old ∧ old.entry = slot.entry

theorem Within.refl (m : IdentityMap cls) : m.Within m :=
  ⟨fun h => h, fun _ slot hs => ⟨slot, hs, rfl⟩⟩

/-- The counters of a map do not matter for what it holds. -/
theorem Within.of_eq {after before counted : IdentityMap cls} (h : after.Within before)
    (hs : counted.slots = after.slots) (hn : counted.natives = after.natives) :
    counted.Within before := by
  refine ⟨fun hw => ?_, fun id slot hf => ?_⟩
  · have ha := h.wellFormed hw
    exact ⟨by rw [hs]; exact ha.sentinel, by rw [hs, hn]; exact ha.indexed⟩
  · rw [hs] at hf
    exact h.entry id slot hf

theorem within_mark (m : IdentityMap cls) (id : RemoteId) (claimed : Bool) :
    (m.mark id claimed).Within m := by
  refine ⟨fun h => h.mark id claimed, fun other slot hs => ?_⟩
  rw [slots_find?_mark] at hs
  split at hs
  · rename_i ho
    subst ho
    obtain ⟨old, hold, rfl⟩ := Option.map_eq_some_iff.mp hs
    exact ⟨old, hold, rfl⟩
  · exact ⟨slot, hs, rfl⟩

theorem within_drop (m : IdentityMap cls) (id : RemoteId) : (m.drop id).Within m := by
  refine ⟨fun h => h.drop id, fun other slot hs => ?_⟩
  rw [slots_find?_drop] at hs
  split at hs
  · cases hs
  · exact ⟨slot, hs, rfl⟩

theorem within_claim (m : IdentityMap cls) (id : RemoteId) : (m.claim id).2.Within m := by
  rcases claim_cases m id with ⟨-, h⟩ | ⟨_, -, h⟩ | ⟨_, -, -, h⟩
  · rw [h]
    exact .refl m
  · rw [h]
    exact .refl m
  · rw [h]
    exact within_mark m id true

theorem within_settle (m : IdentityMap cls) (id : RemoteId) (how : Settlement) :
    (m.settle id how).2.Within m := by
  unfold settle
  split
  · exact .refl m
  · split
    · cases how with
      | commit => exact (within_drop m id).of_eq rfl rfl
      | release => exact within_mark m id false
    · exact .refl m

theorem within_removeOwnedBy (m : IdentityMap cls) (owner : RemoteId) :
    (m.removeOwnedBy owner).2.Within m := by
  refine ⟨fun h => h.removeOwnedBy owner, fun id slot hs => ?_⟩
  rw [slots_find?_removeOwnedBy] at hs
  obtain ⟨hf, -⟩ := Option.filter_eq_some_iff.mp hs
  exact ⟨slot, hf, rfl⟩

end IdentityMap

namespace IdSource

/-- How many identifiers a sequence has yielded. -/
def drawn : IdSource → Nat
  | .sequence _ issued => issued
  | .script _ => 0

theorem drawn_le_next (source : IdSource) : source.drawn ≤ source.next.2.drawn := by
  cases source with
  | sequence salt issued => simp [drawn]
  | script ids => simp [drawn]

@[simp] theorem take_zero (source : IdSource) : source.take 0 = ([], source) := rfl

theorem take_succ (count : Nat) (source : IdSource) :
    source.take (count + 1) =
      (source.next.1 :: (source.next.2.take count).1, (source.next.2.take count).2) := rfl

/-- A sequence yields its salt with the numbers that follow those already issued. -/
theorem take_sequence (salt : UInt64) (issued count : Nat) :
    (sequence salt issued).take count =
      ((List.range' (issued + 1) count).map fun n => ⟨salt, UInt64.ofNat n⟩,
        .sequence salt (issued + count)) := by
  induction count generalizing issued with
  | zero => simp
  | succ count ih =>
      have hc : issued + 1 + count = issued + (count + 1) := by omega
      rw [take_succ, next_sequence, ih, List.range'_succ, List.map_cons, hc]

/-- Below the capacity of a word a sequence repeats nothing. -/
theorem nodup_take_sequence (salt : UInt64) (count : Nat) (h : count < 2 ^ 64) :
    ((sequence salt 0).take count).1.Nodup := by
  rw [take_sequence]
  refine List.Nodup.map_on ?_ (List.nodup_range' 1)
  intro m hm n hn heq
  have hm' := List.mem_range'_1.mp hm
  have hn' := List.mem_range'_1.mp hn
  have hlow : UInt64.ofNat m = UInt64.ofNat n := (RemoteId.mk.inj heq).2
  have htoNat := congrArg UInt64.toNat hlow
  rwa [UInt64.toNat_ofNat', UInt64.toNat_ofNat', Nat.mod_eq_of_lt (by omega),
    Nat.mod_eq_of_lt (by omega)] at htoNat

theorem high_of_mem_take {salt : UInt64} {issued count : Nat} {id : RemoteId}
    (h : id ∈ ((sequence salt issued).take count).1) : id.high = salt := by
  rw [take_sequence] at h
  obtain ⟨n, -, rfl⟩ := List.mem_map.mp h
  rfl

/-- The salt of the sequence that is seeded with a word: zero counts as one. -/
def effectiveSalt (salt : UInt64) : UInt64 := if salt = 0 then 1 else salt

theorem seeded_eq (salt : UInt64) : seeded salt = .sequence (effectiveSalt salt) 0 := rfl

theorem toNat_effectiveSalt (salt : UInt64) :
    (effectiveSalt salt).toNat = max salt.toNat 1 := by
  unfold effectiveSalt
  split
  · rename_i h
    simp [h]
  · rename_i h
    have hne : salt.toNat ≠ 0 := fun hz => h (UInt64.toNat_inj.mp hz)
    omega

theorem effectiveSalt_ne_zero (salt : UInt64) : effectiveSalt salt ≠ 0 := by
  intro h
  have hn := toNat_effectiveSalt salt
  rw [h] at hn
  have hz : (0 : UInt64).toNat = 0 := rfl
  omega

end IdSource

end DeviceBroker
