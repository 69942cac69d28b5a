import DeviceBroker.Proofs.Table

/-!
# Tables revised entry by entry

A revision gives a verdict on every entry of a table by itself: the entry gets
another value, or it goes. The verdicts do not look at the rest of the table,
so two revisions commute if no entry concerns both of them. That is the case
where every value stands at some place, each revision lets alone what stands
elsewhere than at its own place, and the two places differ.
-/

namespace DeviceBroker.Table

variable {κ ν π : Type}

/-- The table after a verdict on each of its entries. -/
def revise (t : Table κ ν) (verdict : κ → ν → Option ν) : Table κ ν where
  pairs := t.pairs.filterMap fun p => (verdict p.1 p.2).map (Prod.mk p.1)
  nodup := by
    have hsub : ((t.pairs.filterMap fun p => (verdict p.1 p.2).map (Prod.mk p.1)).map
        Prod.fst).Sublist (t.pairs.map Prod.fst) := by
      induction t.pairs with
      | nil => exact List.Sublist.slnil
      | cons p rest ih =>
        rw [List.filterMap_cons]
        cases verdict p.1 p.2 with
        | none => exact ih.cons _
        | some value => exact ih.cons_cons _
    exact t.nodup.sublist hsub

theorem revise_some (t : Table κ ν) : t.revise (fun _ value => some value) = t := by
  apply Table.ext
  exact List.filterMap_some

theorem revise_revise (t : Table κ ν) (first second : κ → ν → Option ν) :
    (t.revise first).revise second =
      t.revise fun key value => (first key value).bind (second key) := by
  apply Table.ext
  change (t.pairs.filterMap _).filterMap _ = t.pairs.filterMap _
  rw [List.filterMap_filterMap]
  congr 1
  funext p
  dsimp only
  cases first p.1 p.2 <;> rfl

theorem filter_eq_revise (t : Table κ ν) (keep : κ → ν → Bool) :
    t.filter keep = t.revise fun key value => if keep key value then some value else none := by
  apply Table.ext
  change t.pairs.filter _ = t.pairs.filterMap _
  induction t.pairs with
  | nil => rfl
  | cons p rest ih =>
    rw [List.filterMap_cons, List.filter_cons, ih]
    dsimp only
    cases keep p.1 p.2 <;> rfl

section

variable [DecidableEq κ]

theorem revise_congr {t : Table κ ν} {first second : κ → ν → Option ν}
    (h : ∀ key value, t.find? key = some value → first key value = second key value) :
    t.revise first = t.revise second := by
  apply Table.ext
  refine List.filterMap_congr fun p hp => ?_
  rw [h p.1 p.2 ((t.mem_pairs_iff _ _).mp hp)]

theorem find?_revise (t : Table κ ν) (verdict : κ → ν → Option ν) (key : κ) :
    (t.revise verdict).find? key = (t.find? key).bind (verdict key) := by
  refine Option.ext fun value => ?_
  rw [← mem_pairs_iff, Option.bind_eq_some_iff]
  constructor
  · intro hm
    obtain ⟨p, hp, heq⟩ := List.mem_filterMap.mp hm
    obtain ⟨w, hw, heq⟩ := Option.map_eq_some_iff.mp heq
    obtain ⟨rfl, rfl⟩ := Prod.mk.inj heq
    exact ⟨p.2, (t.mem_pairs_iff _ _).mp hp, hw⟩
  · rintro ⟨old, ho, hv⟩
    refine List.mem_filterMap.mpr ⟨(key, old), (t.mem_pairs_iff _ _).mpr ho, ?_⟩
    exact congrArg (Option.map (Prod.mk key)) hv

end

/-! ## Places -/

/-- Verdicts that concern what stands at one place, and move nothing elsewhere. -/
structure Local (place : ν → π) (c : π) (verdict : κ → ν → Option ν) : Prop where
  kept : ∀ key value, place value ≠ c → verdict key value = some value
  placed : ∀ key value changed, verdict key value = some changed → place changed = place value

variable {place : ν → π} {c d : π}

theorem local_some : Local place c fun (_ : κ) value => some value where
  kept _ _ _ := rfl
  placed _ _ _ h := congrArg place (Option.some.inj h).symm

theorem Local.bind {first second : κ → ν → Option ν} (h : Local place c first)
    (h' : Local place c second) :
    Local place c fun key value => (first key value).bind (second key) where
  kept key value hp := by
    rw [h.kept key value hp]
    exact h'.kept key value hp
  placed key value changed hv := by
    obtain ⟨between, hb, hc⟩ := Option.bind_eq_some_iff.mp hv
    exact (h'.placed key between changed hc).trans (h.placed key value between hb)

/-- Revisions at two places commute. -/
theorem Local.revise_comm {first second : κ → ν → Option ν} (h : Local place c first)
    (h' : Local place d second) (hne : c ≠ d) (t : Table κ ν) :
    (t.revise first).revise second = (t.revise second).revise first := by
  rw [revise_revise, revise_revise]
  congr 1
  funext key value
  by_cases hp : place value = c
  · -- What stands at the first place still stands there, so the second verdict keeps it.
    rw [h'.kept key value (hp ▸ hne)]
    cases hv : first key value with
    | none => exact hv.symm
    | some changed =>
      have hplace : place changed = c := (h.placed key value changed hv).trans hp
      exact (h'.kept key changed (hplace ▸ hne)).trans hv.symm
  · rw [h.kept key value hp]
    cases hv : second key value with
    | none => exact hv
    | some changed =>
      have hplace : place changed ≠ c := fun heq =>
        hp ((h'.placed key value changed hv).symm.trans heq)
      exact hv.trans (h.kept key changed hplace).symm

/-- The verdict that concerns one key, if what is there stands at a place. -/
def amend [DecidableEq κ] [DecidableEq π] (place : ν → π) (c : π) (key : κ)
    (change : ν → Option ν) : κ → ν → Option ν :=
  fun other value => if other = key ∧ place value = c then change value else some value

section

variable [DecidableEq κ]

/-- Whatever a table has under a key stands at a place. -/
def Inside (place : ν → π) (c : π) (t : Table κ ν) (key : κ) : Prop :=
  ∀ value, t.find? key = some value → place value = c

theorem Inside.revise {t : Table κ ν} {key : κ} (h : Inside place c t key)
    {verdict : κ → ν → Option ν} (hv : Local place d verdict) :
    Inside place c (t.revise verdict) key := by
  intro changed hf
  rw [find?_revise] at hf
  obtain ⟨value, ho, hc⟩ := Option.bind_eq_some_iff.mp hf
  exact (hv.placed key value changed hc).trans (h value ho)

section

variable [DecidableEq π]

theorem local_amend (key : κ) {change : ν → Option ν}
    (h : ∀ value changed, change value = some changed → place changed = place value) :
    Local place c (amend place c key change) where
  kept other value hp := if_neg fun hboth => hp hboth.2
  placed other value changed hv := by
    unfold amend at hv
    split at hv
    · exact h value changed hv
    · exact congrArg place (Option.some.inj hv).symm

theorem Inside.erase_eq {t : Table κ ν} {key : κ} (h : Inside place c t key) :
    t.erase key = t.revise (amend place c key fun _ => none) := by
  refine (filter_eq_revise _ _).trans (revise_congr fun other value hf => ?_)
  by_cases hk : other = key
  · subst hk
    simp [amend, h value hf]
  · simp [amend, hk]

theorem Inside.modify_eq {t : Table κ ν} {key : κ} (h : Inside place c t key)
    (change : ν → ν) :
    t.modify key change = t.revise (amend place c key fun value => some (change value)) := by
  have hmodify : t.modify key change =
      t.revise fun other value => some (if other = key then change value else value) := by
    apply Table.ext
    change t.pairs.map _ = t.pairs.filterMap fun p => some _
    rw [List.filterMap_eq_map']
    refine List.map_congr_left fun p _ => ?_
    split <;> rfl
  refine hmodify.trans (revise_congr fun other value hf => ?_)
  unfold amend
  by_cases hk : other = key
  · subst hk
    rw [if_pos rfl, if_pos ⟨rfl, h value hf⟩]
  · rw [if_neg hk, if_neg fun hboth => hk hboth.1]

end

/-- A table with everything that another has at a place, and nothing new. -/
structure Agrees (place : ν → π) (c : π) (t u : Table κ ν) : Prop where
  found : ∀ key value, t.find? key = some value → place value = c → u.find? key = some value
  missing : ∀ key, t.find? key = none → u.find? key = none

theorem Agrees.refl (t : Table κ ν) : Agrees place c t t where
  found _ _ h _ := h
  missing _ h := h

theorem Agrees.find?_eq {t u : Table κ ν} (h : Agrees place c t u) {key : κ}
    (hk : Inside place c t key) : u.find? key = t.find? key := by
  cases hf : t.find? key with
  | none => exact h.missing key hf
  | some value => exact h.found key value hf (hk value hf)

theorem Agrees.inside {t u : Table κ ν} (h : Agrees place c t u) {key : κ}
    (hk : Inside place c t key) : Inside place c u key :=
  fun value hf => hk value ((h.find?_eq hk).symm.trans hf)

/-- Tables that agree on a place still do after the same revision there. -/
theorem Agrees.revise {t u : Table κ ν} (h : Agrees place c t u)
    {verdict : κ → ν → Option ν} (hv : Local place c verdict) :
    Agrees place c (t.revise verdict) (u.revise verdict) where
  found key changed hf hp := by
    rw [find?_revise] at hf ⊢
    obtain ⟨value, ho, hc⟩ := Option.bind_eq_some_iff.mp hf
    have hplace : place value = c := (hv.placed key value changed hc).symm.trans hp
    rw [h.found key value ho hplace]
    exact hc
  missing key hf := by
    rw [find?_revise] at hf ⊢
    cases ho : t.find? key with
    | none =>
      rw [h.missing key ho]
      rfl
    | some value =>
      rw [ho] at hf
      -- A verdict removes only what stands at the place, and there the tables agree.
      by_cases hp : place value = c
      · rw [h.found key value ho hp]
        exact hf
      · exact nomatch (hv.kept key value hp).symm.trans hf

/-- A revision elsewhere does not show at a place. -/
theorem Local.agrees {verdict : κ → ν → Option ν} (h : Local place d verdict) (hne : c ≠ d)
    (t : Table κ ν) : Agrees place c t (t.revise verdict) where
  found key value hf hp := by
    rw [find?_revise, hf]
    exact h.kept key value (hp ▸ hne)
  missing key hf := by
    rw [find?_revise, hf]
    rfl

end

end DeviceBroker.Table
