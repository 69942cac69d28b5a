import DeviceBroker.Proofs.Broker.Undone

/-!
# Tokens on their way in and out

The parents of filters come in as identifiers and are looked up, which changes
nothing. The tokens that the driver has handed out go out as identifiers: they
are interned in their order, up to the first one that no identifier can be had
for. `internAll` is that pass over the registry alone. Whatever the identifiers
are drawn from, the tokens before the rejected one are tracked after it, each
under its identifier, and no others are new; tokens that are tracked already
keep their identifiers and the registry. From a sequence that lasts no token is
rejected.
-/

namespace DeviceBroker

variable {cards : Nat}

namespace Registry

/-- The identifier that a token is tracked under. -/
def tokenId? (r : Registry) (token : NativeToken) : Option RemoteId :=
  (r.map .token).tracked? ⟨token⟩

/-- Every map is in order, wherever the identifiers come from. -/
def WellFormed (r : Registry) : Prop := ∀ cls, (r.map cls).WellFormed

theorem wellFormed_empty (source : IdSource) : (empty source).WellFormed := by
  intro cls
  cases cls <;> exact IdentityMap.wellFormed_empty

theorem WellFormed.withMap {r : Registry} (h : r.WellFormed) {cls : ResourceClass}
    {m : IdentityMap cls} (hm : m.WellFormed) : (r.withMap cls m).WellFormed := by
  intro other
  by_cases ho : other = cls
  · subst ho
    rwa [map_withMap_self]
  · rw [map_withMap_of_ne _ _ ho]
    exact h other

theorem WellFormed.withSource {r : Registry} (h : r.WellFormed) (source : IdSource) :
    ({ r with source := source } : Registry).WellFormed := by
  intro cls
  rw [map_withSource]
  exact h cls

theorem Step.wellFormed {r r' : Registry} {issued : Option RemoteId} (step : Step r issued r')
    (h : r.WellFormed) : r'.WellFormed := by
  cases step with
  | shrink within => exact h.withMap (within.wellFormed (h _))
  | waste within => exact (h.withMap (within.wellFormed (h _))).withSource _
  | @issue cls m entry admitted slots natives =>
    have hput := (h cls).put admitted
    refine (h.withMap ?_).withSource _
    exact ⟨by rw [slots]; exact hput.sentinel, by rw [slots, natives]; exact hput.indexed⟩

theorem Step.drawn_le_succ {r r' : Registry} {issued : Option RemoteId} (step : Step r issued r') :
    r'.drawn ≤ r.drawn + 1 := by
  have hnext : r.source.next.2.drawn ≤ r.source.drawn + 1 := by
    cases r.source with
    | sequence salt issued => exact Nat.le_refl _
    | script ids => cases ids <;> exact Nat.zero_le _
  cases step with
  | shrink _ =>
    rw [drawn_withMap]
    exact Nat.le_succ _
  | waste _ => exact hnext
  | issue _ _ _ _ => exact hnext

/-- The reverse index says what the identifiers resolve to. -/
theorem WellFormed.tokenId?_eq_some_iff {r : Registry} (h : r.WellFormed) {token : NativeToken}
    {id : RemoteId} :
    r.tokenId? token = some id ↔ (r.map .token).find? id = some ⟨token⟩ := by
  rw [(h .token).find?_eq]
  refine ((h .token).indexed token.raw id).trans ?_
  rw [Option.map_eq_some_iff]
  refine exists_congr fun slot => and_congr_right fun _ => ?_
  constructor
  · intro hk
    exact TokenEntry.ext (NativeToken.ext (Option.some.inj hk))
  · intro he
    rw [he]
    rfl

/-- Some identifier names the token. -/
def Tracks (r : Registry) (token : NativeToken) : Prop :=
  ∃ id, (r.map .token).find? id = some ⟨token⟩

theorem WellFormed.tracks_iff {r : Registry} (h : r.WellFormed) {token : NativeToken} :
    r.Tracks token ↔ r.tokenId? token ≠ none := by
  rw [Option.ne_none_iff_exists']
  exact exists_congr fun id => h.tokenId?_eq_some_iff.symm

/-! ## One token -/

theorem intern_of_tokenId? {r : Registry} {token : NativeToken} {id : RemoteId}
    (h : r.tokenId? token = some id) : r.intern .token ⟨token⟩ = (some (.existing id), r) :=
  intern_of_tracked h

/-- A token is tracked from then on under the identifier that interning gives it. -/
theorem tokenId?_of_intern {r r' : Registry} {token : NativeToken} {registration : Registration}
    (h : r.intern .token ⟨token⟩ = (some registration, r')) :
    r'.tokenId? = override r.tokenId? token (some registration.id) := by
  cases ht : r.tokenId? token with
  | some id =>
    rw [intern_of_tokenId? ht] at h
    cases h
    change r.tokenId? = override r.tokenId? token (some id)
    rw [← ht, override_eq_self]
  | none =>
    rw [intern_of_untracked ht] at h
    obtain ⟨hregistration, rfl⟩ := Prod.mk.inj h
    unfold IdentityMap.add at hregistration ⊢
    split at hregistration
    · rename_i hadmits
      cases hregistration
      rw [if_pos hadmits]
      funext other
      refine ((r.map .token).natives_find?_put _ ⟨token⟩ other.raw).trans ?_
      by_cases ho : other = token
      · rw [ho, override_self]
        exact if_pos rfl
      · rw [override_of_ne _ _ ho]
        exact if_neg fun hkey => ho (NativeToken.ext (Option.some.inj hkey).symm)
    · cases hregistration

theorem tokenId?_rejecting (r : Registry) : (r.rejecting .token).tokenId? = r.tokenId? := by
  funext token
  exact congrArg (fun natives => natives.find? token.raw) (r.natives_rejecting .token .token)

/-- Only a token that is not tracked is rejected. -/
theorem rejects_of_intern {r r' : Registry} {token : NativeToken}
    (h : r.intern .token ⟨token⟩ = (none, r')) :
    r.Rejects .token ⟨token⟩ ∧ r' = r.rejecting .token := by
  cases ht : r.tokenId? token with
  | some id =>
    rw [intern_of_tokenId? ht] at h
    cases h
  | none =>
    have hrejects : r.Rejects .token ⟨token⟩ := by
      refine ⟨ht, Bool.eq_false_iff.mpr fun hadmits => ?_⟩
      rw [intern_of_untracked ht, IdentityMap.add, if_pos hadmits] at h
      cases h
    rw [hrejects.intern] at h
    exact ⟨hrejects, (Prod.mk.inj h).2.symm⟩

/-! ## A list of tokens -/

/-- Intern tokens in order until one is rejected: the identifiers of those before it, and
the registry in the end. -/
def internAll (r : Registry) : List NativeToken → List RemoteId × Registry
  | [] => ([], r)
  | token :: rest =>
    match r.intern .token ⟨token⟩ with
    | (some registration, r) => (registration.id :: (r.internAll rest).1, (r.internAll rest).2)
    | (none, r) => ([], r)

@[simp] theorem internAll_nil (r : Registry) : r.internAll [] = ([], r) := rfl

theorem internAll_cons_of_some {r r' : Registry} {token : NativeToken}
    {registration : Registration} (h : r.intern .token ⟨token⟩ = (some registration, r'))
    (rest : List NativeToken) :
    r.internAll (token :: rest) =
      (registration.id :: (r'.internAll rest).1, (r'.internAll rest).2) := by
  rw [internAll, h]

theorem internAll_cons_of_none {r r' : Registry} {token : NativeToken}
    (h : r.intern .token ⟨token⟩ = (none, r')) (rest : List NativeToken) :
    r.internAll (token :: rest) = ([], r') := by
  rw [internAll, h]

/-- Tokens keep the identifiers that they are tracked under. -/
theorem tokenId?_internAll_of_some {r : Registry} {token : NativeToken} {id : RemoteId}
    (h : r.tokenId? token = some id) (tokens : List NativeToken) :
    (r.internAll tokens).2.tokenId? token = some id := by
  induction tokens generalizing r with
  | nil => exact h
  | cons first rest ih =>
    rcases hintern : r.intern .token ⟨first⟩ with ⟨_ | registration, r'⟩
    · rw [internAll_cons_of_none hintern, (rejects_of_intern hintern).2, tokenId?_rejecting]
      exact h
    · rw [internAll_cons_of_some hintern]
      refine ih ?_
      rw [tokenId?_of_intern hintern]
      by_cases ht : token = first
      · subst ht
        rw [intern_of_tokenId? h] at hintern
        cases hintern
        exact override_self _ _ _
      · rwa [override_of_ne _ _ ht]

/-- The tokens before the rejected one are tracked under their identifiers. -/
theorem map_tokenId?_internAll (r : Registry) (tokens : List NativeToken) :
    (tokens.take (r.internAll tokens).1.length).map (r.internAll tokens).2.tokenId? =
      (r.internAll tokens).1.map some := by
  induction tokens generalizing r with
  | nil => rfl
  | cons token rest ih =>
    rcases hintern : r.intern .token ⟨token⟩ with ⟨_ | registration, r'⟩
    · rw [internAll_cons_of_none hintern]
      rfl
    · have hfirst : r'.tokenId? token = some registration.id := by
        rw [tokenId?_of_intern hintern, override_self]
      rw [internAll_cons_of_some hintern, List.length_cons, List.take_succ_cons, List.map_cons,
        List.map_cons, ih r', tokenId?_internAll_of_some hfirst]

/-- A token that is tracked in the end was tracked before or stands before the rejected one. -/
theorem tokenId?_internAll_eq_none_iff (r : Registry) (tokens : List NativeToken)
    (token : NativeToken) :
    (r.internAll tokens).2.tokenId? token = none ↔
      r.tokenId? token = none ∧ token ∉ tokens.take (r.internAll tokens).1.length := by
  induction tokens generalizing r with
  | nil => simp
  | cons first rest ih =>
    rcases hintern : r.intern .token ⟨first⟩ with ⟨_ | registration, r'⟩
    · rw [internAll_cons_of_none hintern, (rejects_of_intern hintern).2, tokenId?_rejecting]
      simp
    · rw [internAll_cons_of_some hintern, List.length_cons, List.take_succ_cons, ih r',
        tokenId?_of_intern hintern, List.mem_cons, not_or, and_left_comm, ← and_assoc]
      refine and_congr_left fun _ => ?_
      by_cases ht : token = first
      · simp [ht]
      · simp [ht, override_of_ne]

/-- A shorter list gets the first identifiers of a longer one. -/
theorem internAll_take (r : Registry) (tokens : List NativeToken) (n : Nat) :
    (r.internAll (tokens.take n)).1 = (r.internAll tokens).1.take n := by
  induction tokens generalizing r n with
  | nil => simp
  | cons token rest ih =>
    cases n with
    | zero => simp
    | succ n =>
      rcases hintern : r.intern .token ⟨token⟩ with ⟨_ | registration, r'⟩
      · rw [List.take_succ_cons, internAll_cons_of_none hintern, internAll_cons_of_none hintern]
        rfl
      · rw [List.take_succ_cons, internAll_cons_of_some hintern, internAll_cons_of_some hintern,
          List.take_succ_cons, ih r']

/-- Tokens that are tracked get their identifiers, and nothing changes. -/
theorem internAll_of_tracked {r : Registry} {tokens : List NativeToken} {ids : List RemoteId}
    (h : tokens.map r.tokenId? = ids.map some) : r.internAll tokens = (ids, r) := by
  induction tokens generalizing ids with
  | nil =>
    obtain rfl : ids = [] := List.map_eq_nil_iff.mp h.symm
    rfl
  | cons token rest ih =>
    cases ids with
    | nil => cases h
    | cons id others =>
      obtain ⟨hfirst, hrest⟩ := List.cons.inj h
      rw [internAll_cons_of_some (intern_of_tokenId? hfirst), ih hrest]
      rfl

/-- What interning one token preserves, interning a list preserves. -/
theorem internAll_preserves {I : Registry → Prop} {r : Registry}
    (hI : ∀ r token, I r → I (r.intern .token ⟨token⟩).2) (h : I r) (tokens : List NativeToken) :
    I (r.internAll tokens).2 := by
  induction tokens generalizing r with
  | nil => exact h
  | cons token rest ih =>
    have hstep := hI r token h
    rcases hintern : r.intern .token ⟨token⟩ with ⟨_ | registration, r'⟩
    · rw [hintern] at hstep
      rw [internAll_cons_of_none hintern]
      exact hstep
    · rw [hintern] at hstep
      rw [internAll_cons_of_some hintern]
      exact ih hstep

theorem drawn_le_internAll (r : Registry) (tokens : List NativeToken) :
    r.drawn ≤ (r.internAll tokens).2.drawn :=
  internAll_preserves (fun r' token h => Nat.le_trans h (step_intern r' .token ⟨token⟩).drawn_le)
    (Nat.le_refl _) tokens

/-- Each token costs one identifier at most. -/
theorem drawn_internAll_le (r : Registry) (tokens : List NativeToken) :
    (r.internAll tokens).2.drawn ≤ r.drawn + tokens.length := by
  induction tokens generalizing r with
  | nil => exact Nat.le_refl _
  | cons token rest ih =>
    have hstep := (step_intern r .token ⟨token⟩).drawn_le_succ
    rcases hintern : r.intern .token ⟨token⟩ with ⟨_ | registration, r'⟩
    · rw [hintern] at hstep
      rw [internAll_cons_of_none hintern, List.length_cons]
      dsimp only at hstep ⊢
      omega
    · rw [hintern] at hstep
      rw [internAll_cons_of_some hintern, List.length_cons]
      have hrest := ih r'
      dsimp only at hstep hrest ⊢
      omega

/-- Handles are left alone. -/
theorem handles_internAll (r : Registry) (tokens : List NativeToken) :
    (r.internAll tokens).2.map .handle = r.map .handle := by
  refine internAll_preserves (I := fun r' => r'.map .handle = r.map .handle)
    (fun r' token h => ?_) rfl tokens
  have hother : ResourceClass.handle ≠ .token := nofun
  unfold intern
  rw [map_withSource, map_withMap_of_ne _ _ hother, h]

theorem wellFormed_internAll {r : Registry} (h : r.WellFormed) (tokens : List NativeToken) :
    (r.internAll tokens).2.WellFormed :=
  internAll_preserves (fun r' token => (step_intern r' .token ⟨token⟩).wellFormed) h tokens

/-- While the sequence lasts, every token of the list gets an identifier. -/
theorem Sound.length_internAll {salt : UInt64} {r : Registry} (h : r.Sound salt)
    {tokens : List NativeToken} (hb : (r.internAll tokens).2.drawn < 2 ^ 64) :
    (r.internAll tokens).1.length = tokens.length := by
  induction tokens generalizing r with
  | nil => rfl
  | cons token rest ih =>
    have hstep := step_intern r .token ⟨token⟩
    rcases hintern : r.intern .token ⟨token⟩ with ⟨_ | registration, r'⟩
    · rw [internAll_cons_of_none hintern] at hb
      have hdrawn : (r.intern .token ⟨token⟩).2.drawn < 2 ^ 64 := by
        rw [hintern]
        exact hb
      obtain ⟨registration, hsome, -⟩ := h.intern hdrawn
      rw [hintern] at hsome
      cases hsome
    · rw [hintern] at hstep
      rw [internAll_cons_of_some hintern] at hb ⊢
      have hmid : r'.drawn < 2 ^ 64 := Nat.lt_of_le_of_lt (r'.drawn_le_internAll rest) hb
      exact congrArg Nat.succ (ih (hstep.sound h hmid) hb)

end Registry

/-! ## Services -/

open Service

/-- A list is converted if each element is, in place. -/
theorem mapM_eq_some_iff {α β : Type} {f : α → Option β} {l : List α} {l' : List β} :
    l.mapM f = some l' ↔ List.Forall₂ (fun a b => f a = some b) l l' := by
  induction l generalizing l' with
  | nil =>
    rw [List.forall₂_nil_left_iff]
    exact ⟨fun h => (Option.some.inj h).symm, fun h => h ▸ rfl⟩
  | cons a rest ih =>
    rw [List.mapM_cons, List.forall₂_cons_left_iff]
    simp only [Option.bind_eq_bind, Option.bind_eq_some_iff, Option.pure_def, Option.some.injEq]
    constructor
    · rintro ⟨b, hb, others, hothers, rfl⟩
      exact ⟨b, others, hb, ih.mp hothers, rfl⟩
    · rintro ⟨b, others, hb, hothers, rfl⟩
      exact ⟨b, hb, others, ih.mpr hothers, rfl⟩

/-- The filter with its parent named by its native token, if its identifier is live. -/
def Registry.importFilter? (r : Registry) (filter : Properties RemoteId) :
    Option (Properties NativeToken) :=
  filter.mapParentM fun id => ((r.map .token).find? id).map TokenEntry.token

theorem Service.exec_importFilter (filter : Properties RemoteId) (b : Broker cards) :
    exec (importFilter filter) b =
      match b.registry.importFilter? filter with
      | some native => (.ok native, b)
      | none => (.error .invalidParam, b) := by
  unfold importFilter Registry.importFilter? Properties.mapParentM
  cases filter.parent with
  | none => rfl
  | some id =>
    dsimp only
    cases hf : (b.registry.map .token).find? id with
    | none =>
      have hlook : exec (do return (← lookup .token id).token) b = (.error .invalidParam, b) :=
        exec_bind_of_error _ (exec_lookup_of_none hf)
      exact exec_bind_of_error _ hlook
    | some entry =>
      have hlook : exec (do return (← lookup .token id).token) b = (.ok entry.token, b) :=
        exec_bind_of_ok _ (exec_lookup_of_some hf)
      exact exec_bind_of_ok _ hlook

/-- Importing filters leaves the broker as it is. -/
theorem Service.exec_importFilters (filters : List (Properties RemoteId)) (b : Broker cards) :
    exec (filters.mapM importFilter) b =
      match filters.mapM b.registry.importFilter? with
      | some natives => (.ok natives, b)
      | none => (.error .invalidParam, b) := by
  induction filters with
  | nil => rfl
  | cons filter rest ih =>
    rw [List.mapM_cons, List.mapM_cons, exec_bind, exec_importFilter]
    cases b.registry.importFilter? filter with
    | none => rfl
    | some native =>
      dsimp only
      rw [exec_bind, ih]
      cases rest.mapM b.registry.importFilter? with
      | none => rfl
      | some natives => rfl

/-- Exporting is to intern, and to give the rejected token back if there is one. -/
theorem Service.exec_exportTokens (natives : List NativeHeader) (b : Broker cards) :
    exec (natives.mapM exportToken) b =
      match natives.drop (b.registry.internAll (natives.map NativeHeader.token)).1.length with
      | [] =>
        (.ok (List.zipWith (fun id native => ⟨id, native.header⟩)
            (b.registry.internAll (natives.map NativeHeader.token)).1 natives),
          { b with registry := (b.registry.internAll (natives.map NativeHeader.token)).2 })
      | native :: _ =>
        (.error .exception,
          { b with
            registry := (b.registry.internAll (natives.map NativeHeader.token)).2
            device := (b.device.call (.destroyToken native.token)).2 }) := by
  induction natives generalizing b with
  | nil => rfl
  | cons native rest ih =>
    have hfirst := exec_exportToken native b
    rw [List.mapM_cons, List.map_cons]
    rcases hintern : b.registry.intern .token ⟨native.token⟩ with ⟨_ | registration, r'⟩
    · rw [hintern] at hfirst
      rw [exec_bind_of_error _ hfirst, Registry.internAll_cons_of_none hintern]
      rfl
    · rw [hintern] at hfirst
      rw [exec_bind_of_ok _ hfirst, exec_bind, ih, Registry.internAll_cons_of_some hintern,
        List.length_cons, List.drop_succ_cons]
      dsimp only
      cases rest.drop (r'.internAll (rest.map NativeHeader.token)).1.length with
      | nil => rfl
      | cons rejected others => rfl

theorem Service.registry_exec_exportTokens (natives : List NativeHeader) (b : Broker cards) :
    (exec (natives.mapM exportToken) b).2.registry =
      (b.registry.internAll (natives.map NativeHeader.token)).2 := by
  rw [exec_exportTokens]
  split <;> rfl

/-- If there is an identifier for every token, the driver is left alone. -/
theorem Service.exec_exportTokens_of_issued (natives : List NativeHeader) (b : Broker cards)
    (h : (b.registry.internAll (natives.map NativeHeader.token)).1.length = natives.length) :
    exec (natives.mapM exportToken) b =
      (.ok (List.zipWith (fun id native => ⟨id, native.header⟩)
          (b.registry.internAll (natives.map NativeHeader.token)).1 natives),
        { b with registry := (b.registry.internAll (natives.map NativeHeader.token)).2 }) := by
  rw [exec_exportTokens, List.drop_of_length_le (Nat.le_of_eq h.symm)]

theorem Service.exec_exportProperties (p : Properties NativeToken) (b : Broker cards) :
    exec (exportProperties p) b =
      match p.parent.toList.drop (b.registry.internAll p.parent.toList).1.length with
      | [] =>
        (.ok (p.withParent (b.registry.internAll p.parent.toList).1.head?),
          { b with registry := (b.registry.internAll p.parent.toList).2 })
      | _ :: _ =>
        (.error .exception,
          { b with registry := (b.registry.internAll p.parent.toList).2 }) := by
  unfold exportProperties Properties.mapParentM
  cases p.parent with
  | none => rfl
  | some token =>
    dsimp only [Option.toList]
    rcases hintern : b.registry.intern .token ⟨token⟩ with ⟨_ | registration, r'⟩
    · have hexec := exec_intern token b
      rw [hintern] at hexec
      rw [exec_bind_of_error _ hexec, Registry.internAll_cons_of_none hintern]
      rfl
    · have hexec := exec_intern token b
      rw [hintern] at hexec
      rw [exec_bind_of_ok _ hexec, Registry.internAll_cons_of_some hintern]
      rfl

/-! ## Histories -/

namespace Broker

theorem wellFormed_step {b : Broker cards} (event : Event) (h : b.registry.WellFormed) :
    (b.step event).registry.WellFormed := by
  cases event with
  | serve request =>
    exact (request.program b.payloadLimit).run_preserves (I := fun b' => b'.registry.WellFormed)
      (fun b' a hb => (b'.step_perform a).wellFormed hb) h
  | disturb d => exact h

theorem wellFormed_after {b : Broker cards} (events : List Event) (h : b.registry.WellFormed) :
    (b.after events).registry.WellFormed := by
  induction events generalizing b with
  | nil => exact h
  | cons event rest ih => exact ih (wellFormed_step event h)

end Broker

end DeviceBroker
