import DeviceBroker.Proofs.Identity.Issue

/-!
# Claims that several callers hold

A claim is a value in the hands of a caller, and it can be settled long after
the entry that it names has been removed. A `SharedMap` is an identity map with
the claims that are held on it, whoever holds them, and the list of identifiers
that have left it; an event is one use of the map by one caller, so a list of
events is an interleaving of any number of callers. As long as no identifier
comes back once it has left, `Consistent` relates the flags of the map to the
claims that are held: a flag stands for exactly one of them.
-/

namespace DeviceBroker

variable {cls : ResourceClass}

/-- A claim that was granted and is not settled yet. -/
structure Claim (cls : ResourceClass) where
  id : RemoteId
  /-- The entry that the claim was granted on. -/
  entry : cls.Entry
  /-- How many identifiers had left the map when the claim was granted. -/
  taken : Nat

/-- How a caller lets go of a claim. -/
inductive Ending where
  | commit
  | release
  /-- The claim is dropped without being settled. -/
  | drop
  deriving DecidableEq, Repr

/-- A claim that is dropped is given back. -/
def Ending.settlement : Ending → Settlement
  | .commit => .commit
  | .release => .release
  | .drop => .release

/-- An identity map with the claims that its callers hold. -/
structure SharedMap (cls : ResourceClass) where
  map : IdentityMap cls
  held : List (Claim cls)
  /-- The identifiers that have left the map, in the order in which they did. -/
  left : List RemoteId

namespace SharedMap

def start : SharedMap cls := ⟨.empty, [], []⟩

/-- One use of the map by one of its callers. -/
inductive Event (cls : ResourceClass) where
  | add (id : RemoteId) (entry : cls.Entry)
  | find (id : RemoteId)
  | remove (id : RemoteId)
  | removeOwnedBy (owner : RemoteId)
  | claim (id : RemoteId)
  /-- The caller that holds the claim at a place lets go of it. -/
  | settle (place : Nat) (ending : Ending)

/-- The number of claims on an identifier that are held. -/
def claimsOn (s : SharedMap cls) (id : RemoteId) : Nat := s.held.countP fun c => c.id == id

/-- The identifiers that have left the map since a claim was granted. -/
def since (s : SharedMap cls) (c : Claim cls) : List RemoteId := s.left.drop c.taken

def step (s : SharedMap cls) : Event cls → SharedMap cls
  | .add id entry => { s with map := (s.map.add id entry).2 }
  | .find _ => s
  | .remove id =>
    let (removed, m) := s.map.remove id
    { s with map := m, left := if removed then s.left ++ [id] else s.left }
  | .removeOwnedBy owner =>
    let (owned, m) := s.map.removeOwnedBy owner
    { s with map := m, left := s.left ++ owned.map Prod.fst }
  | .claim id =>
    match s.map.claim id with
    | (.ok entry, m) => { s with map := m, held := s.held ++ [⟨id, entry, s.left.length⟩] }
    | (.error _, m) => { s with map := m }
  | .settle place ending =>
    match s.held[place]? with
    | none => s
    | some c =>
      let (settled, m) := s.map.settle c.id ending.settlement
      { map := m
        held := s.held.eraseIdx place
        left := if settled && ending == .commit then s.left ++ [c.id] else s.left }

def after (s : SharedMap cls) (events : List (Event cls)) : SharedMap cls := events.foldl step s

/-- The identifier of the claim that an event commits, if the commit answers true. -/
def committedBy (s : SharedMap cls) : Event cls → List RemoteId
  | .settle place .commit =>
    match s.held[place]? with
    | none => []
    | some c => if (s.map.settle c.id .commit).1 then [c.id] else []
  | _ => []

/-- The identifiers whose commits answer true, in the order of the commits. -/
def commits (s : SharedMap cls) : List (Event cls) → List RemoteId
  | [] => []
  | event :: rest => s.committedBy event ++ (s.step event).commits rest

/-- Whether an event adds an identifier that has left the map before. -/
def returns (s : SharedMap cls) : Event cls → Bool
  | .add id entry => (s.map.add id entry).1 && s.left.contains id
  | _ => false

/-- Whether no identifier is added again after it has left the map. -/
def neverReturns (s : SharedMap cls) : List (Event cls) → Bool
  | [] => true
  | event :: rest => !s.returns event && (s.step event).neverReturns rest

/-! ## What the steps do -/

section

variable {s : SharedMap cls} {place : Nat} {c : Claim cls}

theorem slots_find?_remove {id : RemoteId} (hc : s.map.slots.contains id = true)
    (other : RemoteId) :
    (s.map.remove id).2.slots.find? other =
      if other = id then none else s.map.slots.find? other := by
  rw [IdentityMap.remove, if_pos hc]
  exact IdentityMap.slots_find?_drop s.map id other

theorem step_remove {id : RemoteId} (hc : s.map.slots.contains id = true) :
    s.step (.remove id) = { s with map := (s.map.remove id).2, left := s.left ++ [id] } := by
  simp [step, IdentityMap.remove, hc]

/-- A claim whose identifier has left the map is settled without a trace in it. -/
theorem step_settle_stale (hc : s.held[place]? = some c) (hn : s.map.slots.find? c.id = none)
    (ending : Ending) :
    s.step (.settle place ending) = { s with held := s.held.eraseIdx place } := by
  simp [step, hc, IdentityMap.settle, hn]

/-- A commit on a flagged slot removes the identifier. -/
theorem step_commit (hc : s.held[place]? = some c)
    (hs : s.map.slots.find? c.id = some ⟨c.entry, true⟩) :
    s.step (.settle place .commit) =
      { map := (s.map.remove c.id).2
        held := s.held.eraseIdx place
        left := s.left ++ [c.id] } := by
  have hlive : s.map.slots.contains c.id = true := (Table.contains_iff _ _).mpr ⟨_, hs⟩
  simp [step, hc, Ending.settlement, IdentityMap.settle, hs, IdentityMap.remove, hlive]

/-- A release or a drop on a flagged slot clears the flag. -/
theorem step_giveBack (hc : s.held[place]? = some c)
    (hs : s.map.slots.find? c.id = some ⟨c.entry, true⟩) {ending : Ending}
    (he : ending ≠ .commit) :
    s.step (.settle place ending) =
      { s with map := s.map.mark c.id false, held := s.held.eraseIdx place } := by
  cases ending with
  | commit => exact absurd rfl he
  | release | drop => simp [step, hc, Ending.settlement, IdentityMap.settle, hs]

end

/-- The claims that are held account for the flags of the map. -/
structure Consistent (s : SharedMap cls) : Prop where
  wellFormed : s.map.WellFormed
  /-- What has left the map has left it once and is not in it. -/
  nodup : s.left.Nodup
  gone : ∀ id ∈ s.left, s.map.slots.find? id = none
  /-- A flag stands for one claim, and no flag for none. -/
  counted : ∀ id slot, s.map.slots.find? id = some slot →
    s.claimsOn id = if slot.claimed then 1 else 0
  taken : ∀ c ∈ s.held, c.taken ≤ s.left.length
  /-- What a claim was granted on is still there and flagged, or it has left since. -/
  standing : ∀ c ∈ s.held,
    s.map.slots.find? c.id = some ⟨c.entry, true⟩ ∨ c.id ∈ s.since c

theorem consistent_start : (start : SharedMap cls).Consistent where
  wellFormed := IdentityMap.wellFormed_empty
  nodup := List.nodup_nil
  gone id h := by cases h
  counted id slot h := by cases h
  taken c h := by cases h
  standing c h := by cases h

namespace Consistent

variable {s : SharedMap cls}

/-- An identifier that is live has not left the map. -/
theorem not_mem_left (h : s.Consistent) {id : RemoteId} {slot : Slot cls}
    (hs : s.map.slots.find? id = some slot) : id ∉ s.left := by
  intro hmem
  rw [h.gone id hmem] at hs
  cases hs

theorem mem_since_iff (h : s.Consistent) {c : Claim cls} (hc : c ∈ s.held) :
    c.id ∈ s.since c ↔ s.map.slots.find? c.id = none := by
  constructor
  · intro hmem
    exact h.gone c.id (List.mem_of_mem_drop hmem)
  · intro hn
    rcases h.standing c hc with hs | hmem
    · rw [hn] at hs
      cases hs
    · exact hmem

/-- An identifier on which a claim is held is flagged or has left the map. -/
theorem claimsOn_eq_zero (h : s.Consistent) {id : RemoteId} (hn : s.map.slots.find? id = none)
    (hl : id ∉ s.left) : s.claimsOn id = 0 := by
  rw [claimsOn, List.countP_eq_zero]
  intro c hc hid
  obtain rfl : c.id = id := by simpa using hid
  exact hl (List.mem_of_mem_drop ((h.mem_since_iff hc).mpr hn))

theorem claimsOn_pos_iff (s : SharedMap cls) (id : RemoteId) :
    0 < s.claimsOn id ↔ ∃ c ∈ s.held, c.id = id := by
  simp [claimsOn, List.countP_pos_iff]

/-- Identifiers leave the map, and nothing else changes in it. -/
theorem leave (h : s.Consistent) {ids : List RemoteId} {m : IdentityMap cls} (hw : m.WellFormed)
    (hnodup : ids.Nodup) (hlive : ∀ id ∈ ids, s.map.slots.contains id = true)
    (hm : ∀ id, m.slots.find? id = if id ∈ ids then none else s.map.slots.find? id) :
    Consistent { s with map := m, left := s.left ++ ids } where
  wellFormed := hw
  nodup := by
    refine List.nodup_append.mpr ⟨h.nodup, hnodup, fun a ha b hb => ?_⟩
    rintro rfl
    obtain ⟨slot, hs⟩ := (Table.contains_iff _ _).mp (hlive a hb)
    exact h.not_mem_left hs ha
  gone id hid := by
    dsimp only
    rw [hm]
    rcases List.mem_append.mp hid with hold | hnew
    · rw [h.gone id hold, ite_self]
    · rw [if_pos hnew]
  counted id slot hs := by
    dsimp only at hs
    rw [hm] at hs
    split at hs
    · cases hs
    · exact h.counted id slot hs
  taken c hc := by
    rw [List.length_append]
    exact Nat.le_add_right_of_le (h.taken c hc)
  standing c hc := by
    -- What was granted before is still there, has left before, or leaves now.
    change m.slots.find? c.id = _ ∨ c.id ∈ (s.left ++ ids).drop c.taken
    rw [List.drop_append_of_le_length (h.taken c hc), List.mem_append, hm]
    rcases h.standing c hc with hs | hmem
    · by_cases hid : c.id ∈ ids
      · exact .inr (.inr hid)
      · rw [if_neg hid]
        exact .inl hs
    · exact .inr (.inl hmem)

/-- A map with the same slots is as consistent with the claims. -/
theorem of_slots_eq (h : s.Consistent) {m : IdentityMap cls} (hw : m.WellFormed)
    (hm : m.slots = s.map.slots) : Consistent { s with map := m } where
  wellFormed := hw
  nodup := h.nodup
  gone id hid := by rw [hm]; exact h.gone id hid
  counted id slot hs := by
    rw [hm] at hs
    exact h.counted id slot hs
  taken := h.taken
  standing c hc := by rw [hm]; exact h.standing c hc

/-- An entry comes to the map under an identifier that has not left it. -/
theorem put (h : s.Consistent) {id : RemoteId} {entry : cls.Entry}
    (ha : s.map.admits id entry = true) (hl : id ∉ s.left) :
    Consistent { s with map := s.map.put id entry } where
  wellFormed := h.wellFormed.put ha
  nodup := h.nodup
  gone other hother := by
    have hne : other ≠ id := by
      rintro rfl
      exact hl hother
    rw [IdentityMap.slots_find?_put, if_neg hne]
    exact h.gone other hother
  counted other slot hs := by
    obtain ⟨-, hnew, -⟩ := (IdentityMap.admits_iff _ _ _).mp ha
    rw [IdentityMap.slots_find?_put] at hs
    by_cases ho : other = id
    · subst ho
      rw [if_pos rfl] at hs
      obtain rfl := Option.some.inj hs
      exact h.claimsOn_eq_zero hnew hl
    · rw [if_neg ho] at hs
      exact h.counted other slot hs
  taken := h.taken
  standing c hc := by
    obtain ⟨-, hnew, -⟩ := (IdentityMap.admits_iff _ _ _).mp ha
    rcases h.standing c hc with hs | hmem
    · have hne : c.id ≠ id := by
        rintro rfl
        rw [hnew] at hs
        cases hs
      rw [IdentityMap.slots_find?_put, if_neg hne]
      exact .inl hs
    · exact .inr hmem

/-- A claim is granted on a slot without a flag, which has the flag from then on. -/
theorem grant (h : s.Consistent) {id : RemoteId} {entry : cls.Entry}
    (hs : s.map.slots.find? id = some ⟨entry, false⟩) :
    Consistent { s with
      map := s.map.mark id true
      held := s.held ++ [⟨id, entry, s.left.length⟩] } where
  wellFormed := h.wellFormed.mark id true
  nodup := h.nodup
  gone other hother := by
    have hne : other ≠ id := by
      rintro rfl
      exact h.not_mem_left hs hother
    rw [IdentityMap.slots_find?_mark, if_neg hne]
    exact h.gone other hother
  counted other slot hother := by
    have hcount : ∀ i, claimsOn { s with held := s.held ++ [⟨id, entry, s.left.length⟩] } i =
        s.claimsOn i + if id = i then 1 else 0 := by
      intro i
      simp [claimsOn, List.countP_append, List.countP_singleton]
    refine (hcount other).trans ?_
    rw [IdentityMap.slots_find?_mark] at hother
    by_cases ho : other = id
    · subst ho
      rw [if_pos rfl, hs, Option.map_some] at hother
      obtain rfl := Option.some.inj hother
      rw [h.counted other _ hs]
      simp
    · rw [if_neg ho] at hother
      rw [h.counted other slot hother, if_neg (Ne.symm ho), Nat.add_zero]
  taken c hc := by
    rcases List.mem_append.mp hc with hold | hnew
    · exact h.taken c hold
    · obtain rfl := List.mem_singleton.mp hnew
      exact Nat.le_refl _
  standing c hc := by
    dsimp only
    rw [IdentityMap.slots_find?_mark]
    rcases List.mem_append.mp hc with hold | hnew
    · rcases h.standing c hold with hstand | hmem
      · refine .inl ?_
        by_cases ho : c.id = id
        · rw [ho, hs] at hstand
          cases hstand
        · rw [if_neg ho]
          exact hstand
      · exact .inr hmem
    · obtain rfl := List.mem_singleton.mp hnew
      refine .inl ?_
      rw [if_pos rfl, hs]
      rfl

/-! ## Letting go of a claim -/

theorem claimsOn_eraseIdx {place : Nat} {c : Claim cls} (hc : s.held[place]? = some c)
    (id : RemoteId) :
    claimsOn { s with held := s.held.eraseIdx place } id + (if c.id = id then 1 else 0) =
      s.claimsOn id := by
  obtain ⟨hlt, rfl⟩ := List.getElem?_eq_some_iff.mp hc
  have hperm := (List.getElem_cons_eraseIdx_perm hlt).countP_eq fun c => c.id == id
  rw [List.countP_cons] at hperm
  simpa [claimsOn] using hperm

/-- A claim on an identifier that has left the map is forgotten. -/
theorem forget (h : s.Consistent) {place : Nat} {c : Claim cls} (hc : s.held[place]? = some c)
    (hn : s.map.slots.find? c.id = none) :
    Consistent { s with held := s.held.eraseIdx place } where
  wellFormed := h.wellFormed
  nodup := h.nodup
  gone := h.gone
  counted id slot hs := by
    have hne : c.id ≠ id := by
      rintro rfl
      rw [hn] at hs
      cases hs
    have hcount := claimsOn_eraseIdx hc id
    rw [if_neg hne, Nat.add_zero] at hcount
    exact hcount.trans (h.counted id slot hs)
  taken other hother := h.taken other (List.mem_of_mem_eraseIdx hother)
  standing other hother := h.standing other (List.mem_of_mem_eraseIdx hother)

/-- A claim on an entry that is still there is given back, and the flag with it. -/
theorem giveBack (h : s.Consistent) {place : Nat} {c : Claim cls} (hc : s.held[place]? = some c)
    (hs : s.map.slots.find? c.id = some ⟨c.entry, true⟩) :
    Consistent { s with map := s.map.mark c.id false, held := s.held.eraseIdx place } where
  wellFormed := h.wellFormed.mark c.id false
  nodup := h.nodup
  gone other hother := by
    have hne : other ≠ c.id := by
      rintro rfl
      exact h.not_mem_left hs hother
    rw [IdentityMap.slots_find?_mark, if_neg hne]
    exact h.gone other hother
  counted other slot hother := by
    have hcount := claimsOn_eraseIdx hc other
    rw [IdentityMap.slots_find?_mark] at hother
    by_cases ho : other = c.id
    · subst ho
      rw [if_pos rfl, hs, Option.map_some] at hother
      obtain rfl := Option.some.inj hother
      rw [h.counted _ _ hs, if_pos rfl, if_pos rfl] at hcount
      exact Nat.succ.inj hcount
    · rw [if_neg ho] at hother
      rw [if_neg (Ne.symm ho), Nat.add_zero, h.counted other slot hother] at hcount
      exact hcount
  taken other hother := h.taken other (List.mem_of_mem_eraseIdx hother)
  standing other hother := by
    rcases h.standing other (List.mem_of_mem_eraseIdx hother) with hstand | hmem
    · -- Another claim on the same entry would make two claims for one flag.
      have hne : other.id ≠ c.id := by
        intro heq
        have hcount := claimsOn_eraseIdx hc c.id
        rw [if_pos rfl, h.counted _ _ hs] at hcount
        have hpos := (claimsOn_pos_iff { s with held := s.held.eraseIdx place } c.id).mpr
          ⟨other, hother, heq⟩
        simp only [if_true] at hcount
        omega
      refine .inl ?_
      rw [IdentityMap.slots_find?_mark, if_neg hne]
      exact hstand
    · exact .inr hmem

/-- The entry that a claim stands on, if it has not left the map. -/
theorem slot_of_held (h : s.Consistent) {c : Claim cls} (hc : c ∈ s.held) {slot : Slot cls}
    (hs : s.map.slots.find? c.id = some slot) : slot = ⟨c.entry, true⟩ := by
  rcases h.standing c hc with hstand | hmem
  · exact Option.some.inj (hs.symm.trans hstand)
  · exact absurd (List.mem_of_mem_drop hmem) (h.not_mem_left hs)

/-! ## One event after another -/

theorem step (h : s.Consistent) (event : Event cls) (hr : s.returns event = false) :
    (s.step event).Consistent := by
  cases event with
  | find id => exact h
  | add id entry =>
    change Consistent { s with map := (s.map.add id entry).2 }
    by_cases ha : s.map.admits id entry = true
    · have hl : id ∉ s.left := by simpa [returns, IdentityMap.add, ha] using hr
      rw [IdentityMap.add, if_pos ha]
      exact (h.put ha hl).of_slots_eq ⟨(h.wellFormed.put ha).1, (h.wellFormed.put ha).2⟩ rfl
    · rw [IdentityMap.add, if_neg ha]
      exact h.of_slots_eq ⟨h.wellFormed.1, h.wellFormed.2⟩ rfl
  | remove id =>
    by_cases hc : s.map.slots.contains id = true
    · rw [step_remove hc]
      exact h.leave (h.wellFormed.remove id) (List.nodup_singleton id) (by simpa using hc)
        (by simpa using slots_find?_remove hc)
    · have hs : s.step (.remove id) = s := by simp [SharedMap.step, IdentityMap.remove, hc]
      rwa [hs]
  | removeOwnedBy owner =>
    refine h.leave (h.wellFormed.removeOwnedBy owner) (s.map.nodup_ownedBy owner) ?_
      (IdentityMap.slots_find?_foldl_drop (s.map.ownedBy owner) s.map)
    intro id hid
    obtain ⟨⟨_, entry⟩, hp, rfl⟩ := List.mem_map.mp hid
    obtain ⟨⟨slot, hs, -⟩, -⟩ := (IdentityMap.mem_ownedBy s.map owner _ entry).mp hp
    exact (Table.contains_iff _ _).mpr ⟨slot, hs⟩
  | claim id =>
    rcases IdentityMap.claim_cases s.map id with ⟨-, hc⟩ | ⟨_, -, hc⟩ | ⟨entry, -, hs, hc⟩
    · simpa [SharedMap.step, hc] using h
    · simpa [SharedMap.step, hc] using h
    · simpa [SharedMap.step, hc] using h.grant hs
  | settle place ending =>
    cases hc : s.held[place]? with
    | none => simpa [SharedMap.step, hc] using h
    | some c =>
      cases hs : s.map.slots.find? c.id with
      | none =>
        -- A stale claim: settling it finds nothing.
        rw [step_settle_stale hc hs]
        exact h.forget hc hs
      | some slot =>
        obtain rfl := h.slot_of_held (List.mem_of_getElem? hc) hs
        by_cases he : ending = .commit
        · rw [he, step_commit hc hs]
          have hlive : s.map.slots.contains c.id = true := (Table.contains_iff _ _).mpr ⟨_, hs⟩
          have hleft := h.leave (h.wellFormed.remove c.id) (List.nodup_singleton c.id)
            (by simpa using hlive) (by simpa using slots_find?_remove hlive)
          have hgone := slots_find?_remove hlive c.id
          rw [if_pos rfl] at hgone
          exact hleft.forget hc hgone
        · rw [step_giveBack hc hs he]
          exact h.giveBack hc hs

theorem after (h : s.Consistent) (events : List (Event cls)) (hr : s.neverReturns events = true) :
    (s.after events).Consistent := by
  induction events generalizing s with
  | nil => exact h
  | cons event rest ih =>
    simp only [neverReturns, Bool.and_eq_true, Bool.not_eq_true'] at hr
    exact ih (h.step event hr.1) hr.2

end Consistent

/-! ## Committed claims -/

/-- What has left the map is only added to, and what an event commits is added. -/
theorem committedBy_sublist (s : SharedMap cls) (event : Event cls) :
    ∃ more, (s.step event).left = s.left ++ more ∧ (s.committedBy event).Sublist more := by
  cases event with
  | add id entry | find id => exact ⟨[], by simp [step], List.nil_sublist _⟩
  | remove id =>
    by_cases hc : s.map.slots.contains id = true
    · exact ⟨[id], by rw [step_remove hc], List.nil_sublist _⟩
    · exact ⟨[], by simp [step, IdentityMap.remove, hc], List.nil_sublist _⟩
  | removeOwnedBy owner => exact ⟨_, rfl, List.nil_sublist _⟩
  | claim id =>
    refine ⟨[], ?_, List.nil_sublist _⟩
    rcases IdentityMap.claim_cases s.map id with ⟨-, hc⟩ | ⟨_, -, hc⟩ | ⟨entry, -, -, hc⟩ <;>
      simp [step, hc]
  | settle place ending =>
    cases hc : s.held[place]? with
    | none => cases ending <;> exact ⟨[], by simp [step, hc], by simp [committedBy, hc]⟩
    | some c =>
      cases ending with
      | release | drop => exact ⟨[], by simp [step, hc], List.nil_sublist _⟩
      | commit =>
        refine ⟨if (s.map.settle c.id .commit).1 then [c.id] else [], ?_, ?_⟩
        · by_cases hs : (s.map.settle c.id .commit).1 <;> simp [step, hc, Ending.settlement, hs]
        · simp [committedBy, hc]

theorem commits_sublist (s : SharedMap cls) (events : List (Event cls)) :
    ∃ more, (s.after events).left = s.left ++ more ∧ (s.commits events).Sublist more := by
  induction events generalizing s with
  | nil => exact ⟨[], (List.append_nil _).symm, List.nil_sublist _⟩
  | cons event rest ih =>
    obtain ⟨first, hfirst, hcommitted⟩ := s.committedBy_sublist event
    obtain ⟨more, hmore, hcommits⟩ := ih (s.step event)
    refine ⟨first ++ more, ?_, hcommitted.append hcommits⟩
    rw [← List.append_assoc, ← hfirst]
    exact hmore

/-! ## What callers can rely on -/

/-- Claims are exclusive, and what settling one of them does. -/
structure Exclusive (s : SharedMap cls) : Prop where
  /-- A slot is flagged exactly if one claim on it is held. -/
  flagged_iff : ∀ id slot, s.map.slots.find? id = some slot →
    (slot.claimed = true ↔ s.claimsOn id = 1)
  /-- No two claims on a live identifier are held. -/
  atMostOne : ∀ id, s.map.contains id = true → s.claimsOn id ≤ 1
  absent_iff : ∀ id, (s.map.claim id).1 = .error .absent ↔ s.map.contains id = false
  busy_iff : ∀ id, (s.map.claim id).1 = .error .busy ↔
    s.map.contains id = true ∧ ∃ c ∈ s.held, c.id = id
  /-- The entry of a claim resolves until its identifier leaves the map. -/
  resolves : ∀ c ∈ s.held, c.id ∉ s.since c → s.map.find? c.id = some c.entry
  /-- A commit answers true unless the identifier has left since the claim was granted. -/
  commit_iff : ∀ c ∈ s.held, (s.map.settle c.id .commit).1 = true ↔ c.id ∉ s.since c
  /-- A commit that answers true removes the identifier of the claim and no other one. -/
  committed : ∀ place c, s.held[place]? = some c → c.id ∉ s.since c →
    ∀ other, (s.step (.settle place .commit)).map.slots.find? other =
      if other = c.id then none else s.map.slots.find? other
  /-- A release or a drop clears the flag of an identifier that is still live. -/
  givenBack : ∀ place c ending, s.held[place]? = some c → c.id ∉ s.since c → ending ≠ .commit →
    s.step (.settle place ending) =
      { s with map := s.map.mark c.id false, held := s.held.eraseIdx place }
  /-- Whichever way a claim ends whose identifier has left, the map stays as it is. -/
  voided : ∀ place c ending, s.held[place]? = some c → c.id ∈ s.since c →
    s.step (.settle place ending) = { s with held := s.held.eraseIdx place }

namespace Consistent

variable {s : SharedMap cls}

theorem contains_iff (h : s.Consistent) (id : RemoteId) :
    s.map.contains id = true ↔ ∃ slot, s.map.slots.find? id = some slot := by
  rw [IdentityMap.contains, Bool.and_eq_true, Table.contains_iff, RemoteId.isValid_iff]
  refine and_iff_right_of_imp ?_
  rintro ⟨slot, hs⟩ rfl
  rw [h.wellFormed.sentinel] at hs
  cases hs

/-- A claim whose identifier has not left stands on its entry. -/
theorem slot_of_not_mem_since (h : s.Consistent) {c : Claim cls} (hc : c ∈ s.held)
    (hl : c.id ∉ s.since c) : s.map.slots.find? c.id = some ⟨c.entry, true⟩ :=
  (h.standing c hc).resolve_right hl

theorem claim_eq (h : s.Consistent) (id : RemoteId) :
    (s.map.claim id).1 =
      match s.map.slots.find? id with
      | none => .error .absent
      | some slot => if slot.claimed then .error .busy else .ok slot.entry := by
  cases hs : s.map.slots.find? id with
  | none => rw [IdentityMap.claim_of_absent (IdentityMap.find?_eq_none_of_slots hs)]
  | some slot =>
    have hv : id ≠ .sentinel := by
      rintro rfl
      rw [h.wellFormed.sentinel] at hs
      cases hs
    cases hc : slot.claimed with
    | true => simp [IdentityMap.claim_of_claimed hv hs hc, hc]
    | false => simp [IdentityMap.claim_of_unclaimed hv hs hc, hc]

theorem exclusive (h : s.Consistent) : s.Exclusive where
  flagged_iff id slot hs := by
    rw [h.counted id slot hs]
    cases slot.claimed <;> simp
  atMostOne id hid := by
    obtain ⟨slot, hs⟩ := (h.contains_iff id).mp hid
    rw [h.counted id slot hs]
    split <;> omega
  absent_iff id := by
    rw [h.claim_eq, ← Bool.not_eq_true, h.contains_iff]
    cases s.map.slots.find? id with
    | none => simp
    | some slot => cases hf : slot.claimed <;> simp [hf]
  busy_iff id := by
    rw [h.claim_eq, h.contains_iff, ← claimsOn_pos_iff]
    cases hs : s.map.slots.find? id with
    | none => simp
    | some slot =>
      rw [h.counted id slot hs]
      cases hf : slot.claimed <;> simp [hf]
  resolves c hc hl := by
    rw [h.wellFormed.find?_eq, h.slot_of_not_mem_since hc hl]
    rfl
  commit_iff c hc := by
    rw [h.mem_since_iff hc]
    cases hs : s.map.slots.find? c.id with
    | none => simp [IdentityMap.settle, hs]
    | some slot =>
      obtain rfl := h.slot_of_held hc hs
      simp [IdentityMap.settle, hs]
  committed place c hc hl other := by
    have hs := h.slot_of_not_mem_since (List.mem_of_getElem? hc) hl
    rw [step_commit hc hs]
    exact slots_find?_remove ((Table.contains_iff _ _).mpr ⟨_, hs⟩) other
  givenBack place c ending hc hl he :=
    step_giveBack hc (h.slot_of_not_mem_since (List.mem_of_getElem? hc) hl) he
  voided place c ending hc hl :=
    step_settle_stale hc ((h.mem_since_iff (List.mem_of_getElem? hc)).mp hl) ending

end Consistent

/-- However the callers take turns on a map that starts empty, as long as no
identifier comes back to it after it has left, claims are exclusive at every
moment, and no two commits on one identifier answer true. -/
theorem exclusive_of_neverReturns (events : List (Event cls))
    (h : (start : SharedMap cls).neverReturns events = true) :
    ((start : SharedMap cls).after events).Exclusive ∧
      ∀ id, ((start : SharedMap cls).commits events).count id ≤ 1 := by
  have hafter := consistent_start.after events h
  obtain ⟨more, hleft, hsub⟩ := (start : SharedMap cls).commits_sublist events
  have hnodup : more.Nodup := by
    rw [← List.nil_append more]
    exact hleft ▸ hafter.nodup
  exact ⟨hafter.exclusive, List.nodup_iff_count_le_one.mp (hnodup.sublist hsub)⟩

/-- Two callers want to unmap one region. The owner of the region is closed
before the first of them is done, so its commit comes too late; a second region
is given up once and unmapped then. -/
def lateCommit : List (Event .mapping) :=
  [.add ⟨9, 1⟩ ⟨⟨9, 0⟩, 0, 4096⟩, .claim ⟨9, 1⟩, .claim ⟨9, 1⟩, .removeOwnedBy ⟨9, 0⟩,
    .settle 0 .commit, .add ⟨9, 2⟩ ⟨⟨9, 3⟩, 1, 8192⟩, .claim ⟨9, 2⟩, .settle 0 .drop,
    .claim ⟨9, 2⟩, .settle 0 .commit]

theorem exclusive_of_lateCommit :
    (start : SharedMap .mapping).neverReturns lateCommit = true ∧
      (start : SharedMap .mapping).commits lateCommit = [⟨9, 2⟩] ∧
      ((start : SharedMap .mapping).after lateCommit).Exclusive ∧
      ∀ id, ((start : SharedMap .mapping).commits lateCommit).count id ≤ 1 :=
  ⟨by decide, by decide, exclusive_of_neverReturns lateCommit (by decide)⟩

end SharedMap

end DeviceBroker
