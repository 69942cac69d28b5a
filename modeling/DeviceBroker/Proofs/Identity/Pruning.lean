import DeviceBroker.Proofs.Identity.Registry
import DeviceBroker.Proofs.Revision

/-!
# Pruning the registry

To remove an identifier and to remove all that an owner owns are two cases of
one operation: to strike every entry that meets a condition on it and its
identifier. Striking twice is striking what meets either condition, so the
order in which conditions are struck shows nowhere, neither in the native keys
that are left nor in the count of removals.
-/

namespace DeviceBroker

namespace IdentityMap

variable {cls : ResourceClass}

/-- The slots whose entries meet a condition. -/
def struck (m : IdentityMap cls) (condition : RemoteId → cls.Entry → Bool) :
    Table RemoteId (Slot cls) :=
  m.slots.filter fun id slot => condition id slot.entry

/-- The map without the entries that meet a condition, their native keys
forgotten and their removal counted. -/
def prune (m : IdentityMap cls) (condition : RemoteId → cls.Entry → Bool) : IdentityMap cls :=
  { m with
    slots := m.slots.filter fun id slot => !condition id slot.entry
    natives := m.natives.filter fun key _ =>
      !(m.struck condition).pairs.any fun p => cls.nativeKey? p.2.entry == some key
    removes := m.removes + (m.struck condition).size }

theorem prune_congr {m : IdentityMap cls} {one other : RemoteId → cls.Entry → Bool}
    (h : ∀ id slot, m.slots.find? id = some slot → one id slot.entry = other id slot.entry) :
    m.prune one = m.prune other := by
  have hpairs : ∀ p ∈ m.slots.pairs, one p.1 p.2.entry = other p.1 p.2.entry :=
    fun p hp => h p.1 p.2 ((m.slots.mem_pairs_iff _ _).mp hp)
  have hstruck : m.struck one = m.struck other := Table.ext (List.filter_congr hpairs)
  have hkept : (m.slots.filter fun id slot => !one id slot.entry) =
      m.slots.filter fun id slot => !other id slot.entry :=
    Table.ext (List.filter_congr fun p hp => congrArg (!·) (hpairs p hp))
  rw [prune, prune, hstruck, hkept]

@[simp] theorem prune_false (m : IdentityMap cls) : m.prune (fun _ _ => false) = m := by
  have hstruck : m.struck (fun _ _ => false) = .empty :=
    Table.ext (List.filter_eq_nil_iff.mpr fun _ _ => by simp)
  have hslots : (m.slots.filter fun _ _ => !false) = m.slots :=
    Table.ext (List.filter_eq_self.mpr fun _ _ => rfl)
  have hnatives : (m.natives.filter fun _ _ => !false) = m.natives :=
    Table.ext (List.filter_eq_self.mpr fun _ _ => rfl)
  unfold prune
  rw [hstruck, hslots]
  exact congrArg (IdentityMap.mk m.slots · m.adds m.removes m.rejectedAdds) hnatives

/-- Of what is left after one condition is struck, another strikes the rest of
what meets either. -/
theorem prune_prune (m : IdentityMap cls) (one other : RemoteId → cls.Entry → Bool) :
    (m.prune one).prune other = m.prune fun id entry => one id entry || other id entry := by
  apply IdentityMap.ext
  case slots =>
    apply Table.ext
    simp only [prune, Table.filter, List.filter_filter]
    exact List.filter_congr fun p _ => by rw [Bool.not_or, Bool.and_comm]
  case natives =>
    apply Table.ext
    simp only [prune, struck, Table.filter, List.filter_filter, List.any_filter]
    refine List.filter_congr fun q _ => ?_
    rw [← Bool.not_or]
    refine congrArg (!·) ?_
    induction m.slots.pairs with
    | nil => rfl
    | cons p rest ih =>
      simp only [List.any_cons, ← ih]
      cases one p.1 p.2.entry <;> cases other p.1 p.2.entry <;>
        cases cls.nativeKey? p.2.entry == some q.1 <;> simp
  case removes =>
    simp only [prune, struck, Table.filter, Table.size, List.filter_filter, Nat.add_assoc]
    refine congrArg (m.removes + ·) ?_
    induction m.slots.pairs with
    | nil => rfl
    | cons p rest ih =>
      cases ho : one p.1 p.2.entry <;> cases ht : other p.1 p.2.entry <;>
        simp [ho, ht, ← ih] <;> omega
  all_goals rfl

theorem prune_comm (m : IdentityMap cls) (one other : RemoteId → cls.Entry → Bool) :
    (m.prune one).prune other = (m.prune other).prune one := by
  rw [prune_prune, prune_prune]
  exact prune_congr fun id slot _ => Bool.or_comm _ _

/-! ## Removals -/

theorem struck_of_slot {m : IdentityMap cls} {id : RemoteId} {slot : Slot cls}
    (hs : m.slots.find? id = some slot) :
    (m.struck fun other _ => other == id).pairs = [(id, slot)] := by
  refine Eq.trans (List.filter_congr fun p _ => ?_) (Table.filter_pairs_eq hs)
  exact beq_eq_decide _ _

theorem prune_of_absent {m : IdentityMap cls} {id : RemoteId} (hs : m.slots.find? id = none) :
    m.prune (fun other _ => other == id) = m := by
  refine (prune_congr fun other slot hother => ?_).trans m.prune_false
  exact beq_eq_false_iff_ne.mpr fun heq => nomatch (heq ▸ hother).symm.trans hs

/-- Up to the count, dropping an identifier strikes its entry. -/
theorem drop_eq_prune (m : IdentityMap cls) (id : RemoteId) :
    m.drop id = { m.prune (fun other _ => other == id) with removes := m.removes } := by
  unfold drop
  cases hs : m.slots.find? id with
  | none => rw [prune_of_absent hs]
  | some slot =>
    dsimp only
    rw [prune]
    congr 1
    rw [struck_of_slot hs]
    cases hk : cls.nativeKey? slot.entry with
    | none => exact (Table.ext (List.filter_eq_self.mpr fun _ _ => by simp [hk])).symm
    | some key =>
      refine Table.ext (List.filter_congr fun q _ => ?_)
      simp [bne, hk, eq_comm]

/-- Removing an identifier strikes its entry. -/
theorem remove_eq_prune (m : IdentityMap cls) (id : RemoteId) :
    (m.remove id).2 = m.prune fun other _ => other == id := by
  unfold remove
  rw [Table.contains_eq]
  cases hs : m.slots.find? id with
  | none => exact (prune_of_absent hs).symm
  | some slot =>
    have hone : (m.struck fun other _ => other == id).size = 1 :=
      congrArg List.length (struck_of_slot hs)
    rw [Option.isSome_some, if_pos rfl, drop_eq_prune, prune, hone]

theorem foldl_drop_eq_prune (owned : List (RemoteId × cls.Entry)) (m : IdentityMap cls) :
    owned.foldl (fun m p => m.drop p.1) m =
      { m.prune (fun id _ => decide (id ∈ owned.map Prod.fst)) with removes := m.removes } := by
  induction owned generalizing m with
  | nil =>
    have hprune : m.prune (fun id _ => decide (id ∈ ([] : List (RemoteId × cls.Entry)).map
        Prod.fst)) = m := by simp
    rw [hprune]
    rfl
  | cons p rest ih =>
    rw [List.foldl_cons, ih, drop_eq_prune]
    have hboth := m.prune_prune (fun id _ => id == p.1) fun id _ =>
      decide (id ∈ rest.map Prod.fst)
    have hcondition : m.prune (fun id _ => id == p.1 || decide (id ∈ rest.map Prod.fst)) =
        m.prune fun id _ => decide (id ∈ (p :: rest).map Prod.fst) := by
      refine prune_congr fun id _ _ => ?_
      rw [Bool.eq_iff_iff, Bool.or_eq_true, decide_eq_true_iff, decide_eq_true_iff, beq_iff_eq]
      exact List.mem_cons.symm
    rw [← hcondition, ← hboth]
    rfl

/-- Removing what an owner owns strikes its entries. -/
theorem removeOwnedBy_eq_prune (m : IdentityMap cls) (owner : RemoteId) :
    (m.removeOwnedBy owner).2 = m.prune fun _ entry => cls.owner? entry == some owner := by
  have hlisted : m.prune (fun id _ => decide (id ∈ (m.ownedBy owner).map Prod.fst)) =
      m.prune fun _ entry => cls.owner? entry == some owner := by
    refine prune_congr fun id slot hs => ?_
    rw [beq_eq_decide, decide_eq_decide, mem_ids_ownedBy, hs]
    simp
  have hcount : (m.ownedBy owner).length =
      (m.struck fun _ entry => cls.owner? entry == some owner).size := List.length_map _
  rw [removeOwnedBy, foldl_drop_eq_prune, hlisted, hcount]
  rfl

/-- The verdict on a slot whose entry may be struck. -/
def strike (condition : RemoteId → cls.Entry → Bool) : RemoteId → Slot cls → Option (Slot cls) :=
  fun id slot => if !condition id slot.entry then some slot else none

theorem slots_prune (m : IdentityMap cls) (condition : RemoteId → cls.Entry → Bool) :
    (m.prune condition).slots = m.slots.revise (strike condition) :=
  m.slots.filter_eq_revise fun id slot => !condition id slot.entry

/-- Striking only entries of one place concerns that place. -/
theorem local_strike {π : Type} {place : cls.Entry → π} {c : π}
    {condition : RemoteId → cls.Entry → Bool}
    (h : ∀ id entry, condition id entry = true → place entry = c) :
    Table.Local (fun slot : Slot cls => place slot.entry) c (strike condition) where
  kept id slot hp := by
    unfold strike
    cases hc : condition id slot.entry with
    | true => exact absurd (h id slot.entry hc) hp
    | false => rfl
  placed id slot changed hv := by
    unfold strike at hv
    split at hv
    · exact congrArg (fun slot : Slot cls => place slot.entry) (Option.some.inj hv).symm
    · cases hv

end IdentityMap

/-- Which entries of a registry are struck. -/
abbrev Pruning : Type := (cls : ResourceClass) → RemoteId → cls.Entry → Bool

namespace Pruning

def nothing : Pruning := fun _ _ _ => false

/-- Strike entries of one class only. -/
def only (cls : ResourceClass) (condition : RemoteId → cls.Entry → Bool) : Pruning :=
  Function.update nothing cls condition

/-- Strike what either strikes. -/
def or (one other : Pruning) : Pruning := fun cls id entry => one cls id entry || other cls id entry

end Pruning

@[simp] theorem IdentityMap.prune_nothing {cls : ResourceClass} (m : IdentityMap cls) :
    m.prune (Pruning.nothing cls) = m :=
  m.prune_false

namespace Registry

/-- The registry without the entries that are struck. -/
def prune (r : Registry) (p : Pruning) : Registry where
  tokens := r.tokens.prune (p .token)
  handles := r.handles.prune (p .handle)
  mappings := r.mappings.prune (p .mapping)
  buffers := r.buffers.prune (p .buffer)
  objects := r.objects.prune (p .object)
  source := r.source

@[simp] theorem map_prune (r : Registry) (p : Pruning) (cls : ResourceClass) :
    (r.prune p).map cls = (r.map cls).prune (p cls) := by
  cases cls <;> rfl

@[simp] theorem prune_nothing (r : Registry) : r.prune .nothing = r := by
  simp [prune]

theorem prune_prune (r : Registry) (one other : Pruning) :
    (r.prune one).prune other = r.prune (one.or other) := by
  simp only [prune, IdentityMap.prune_prune]
  rfl

theorem prune_comm (r : Registry) (one other : Pruning) :
    (r.prune one).prune other = (r.prune other).prune one := by
  simp only [prune, IdentityMap.prune_comm _ (one _)]

theorem withMap_prune (r : Registry) (cls : ResourceClass)
    (condition : RemoteId → cls.Entry → Bool) :
    r.withMap cls ((r.map cls).prune condition) = r.prune (.only cls condition) := by
  cases cls <;> simp [withMap, map, prune, Pruning.only]

end Registry

end DeviceBroker
