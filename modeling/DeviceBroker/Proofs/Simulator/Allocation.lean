import DeviceBroker.Proofs.Simulator.Armed
import DeviceBroker.Proofs.Simulator.Holdings

/-!
# Values that are given out once

The values of cloned tokens, of objects and of workspaces are counted up and
never given out twice. What is live therefore lies below the counter that it
came from; this is `Allocated`, which every call keeps. The tokens of the
resources themselves lie below all clones, as long as the cards are not too
many to be told apart.
-/

namespace DeviceBroker

variable {cards : Nat} {α : Type}

/-! ## Objects and workspaces -/

namespace Holdings

/-- Live objects and workspaces lie below the counters behind them. -/
structure Bounded (h : Holdings) : Prop where
  object : ∀ object, h.object object = true → object.raw < Simulator.firstObject + h.nextObject
  workspace : ∀ place, (h.buffer place).isSome = true → place.2 < h.nextWorkspace

variable {h : Holdings}

theorem Bounded.track (bounded : h.Bounded) (token : NativeToken) : (h.track token).Bounded :=
  ⟨bounded.object, bounded.workspace⟩

theorem Bounded.foldl_track (bounded : h.Bounded) (tokens : List NativeToken) :
    (tokens.foldl Holdings.track h).Bounded := by
  induction tokens generalizing h with
  | nil => exact bounded
  | cons token rest ih => exact ih (bounded.track token)

theorem Bounded.elim_track (bounded : h.Bounded) (token? : Option NativeToken) :
    (token?.elim h h.track).Bounded := by
  cases token? with
  | none => exact bounded
  | some token => exact bounded.track token

theorem Bounded.openNext (bounded : h.Bounded) {object : NativeObject}
    (hobject : object = ⟨Simulator.firstObject + h.nextObject⟩) : (h.openNext object).Bounded := by
  refine ⟨fun other hother => ?_, bounded.workspace⟩
  change other.raw < Simulator.firstObject + (h.nextObject + 1)
  by_cases ho : other = object
  · rw [ho, hobject]
    exact Nat.lt_succ_self _
  · have hlive : h.object other = true := (override_of_ne h.object true ho).symm.trans hother
    exact Nat.lt_succ_of_lt (bounded.object other hlive)

/-- What leaves is no longer live, and what comes is the value of the counter. -/
theorem Bounded.after (bounded : h.Bounded) {call : DeviceCall} {value : call.Value}
    (grants : h.Grants call value) : (h.after call value).Bounded := by
  cases call with
  | enumerate => exact bounded.foldl_track _
  | cloneToken => exact bounded.track _
  | getProperties | updateProperties | getHandleProperties => exact bounded.elim_track _
  | tokenGetObject | handleGetObject | objectGetObject | objectGetObjectAt =>
    exact bounded.openNext grants
  | destroyToken | openHandle => exact ⟨bounded.object, bounded.workspace⟩
  | destroyObject object =>
    refine ⟨fun other hother => ?_, bounded.workspace⟩
    change override h.object object false other = true at hother
    by_cases ho : other = object
    · rw [ho, override_self] at hother
      cases hother
    · rw [override_of_ne _ _ ho] at hother
      exact bounded.object other hother
  | closeHandle handle =>
    refine ⟨bounded.object, fun place hplace => ?_⟩
    change (if place.1 = handle then none else h.buffer place).isSome = true at hplace
    split at hplace
    · cases hplace
    · exact bounded.workspace place hplace
  | prepareBuffer handle length address flags =>
    refine ⟨bounded.object, fun place hplace => ?_⟩
    change (override h.buffer (handle, value.workspace) (some length.toNat) place).isSome = true
      at hplace
    change place.2 < h.nextWorkspace + 1
    by_cases hp : place = (handle, value.workspace)
    · rw [hp, grants.2]
      exact Nat.lt_succ_self _
    · rw [override_of_ne _ _ hp] at hplace
      exact Nat.lt_succ_of_lt (bounded.workspace place hplace)
  | releaseBuffer handle workspace =>
    refine ⟨bounded.object, fun place hplace => ?_⟩
    change (override h.buffer (handle, workspace) none place).isSome = true at hplace
    by_cases hp : place = (handle, workspace)
    · rw [hp, override_self] at hplace
      cases hplace
    · rw [override_of_ne _ _ hp] at hplace
      exact bounded.workspace place hplace
  | _ => exact bounded

end Holdings

/-! ## Tokens -/

/-- Whether a call can change which tokens are live. -/
def DeviceCall.mints : DeviceCall → Bool
  | .enumerate _ _ | .destroyToken _ | .cloneToken _ | .getProperties _ | .updateProperties _
  | .getHandleProperties _ => true
  | _ => false

namespace Simulator

variable {s t : Simulator cards}

/-- The live tokens, and the counter behind new ones. -/
def minting (s : Simulator cards) : Table NativeToken (Site cards) × Nat := (s.tokens, s.nextToken)

theorem Retouches.minting_eq (h : s.Retouches t) : t.minting = s.minting := by
  obtain ⟨resources, rfl⟩ := h
  rfl

theorem minting_of_openObject {object : NativeObject}
    (h : ∃ site path, s.openObject site path = .ok (object, t)) : t.minting = s.minting := by
  obtain ⟨site, path, h⟩ := h
  obtain ⟨-, rfl⟩ := openObject_ok h
  rfl

theorem minting_commit {result : Except Fault (α × Simulator cards)}
    (h : ∀ value t, result = .ok (value, t) → t.minting = s.minting) :
    (s.commit result).2.minting = s.minting :=
  commit_preserves (I := fun t => t.minting = s.minting) rfl h

theorem minting_serve (s : Simulator cards) {call : DeviceCall} (h : call.mints = false) :
    (s.serve call).2.minting = s.minting := by
  cases call with
  | enumerate | destroyToken | cloneToken | getProperties | updateProperties
  | getHandleProperties => cases h
  | openHandle => exact minting_commit fun _ _ h => by obtain ⟨_, -, -, rfl⟩ := openHandle_ok h; rfl
  | closeHandle => exact minting_commit fun _ _ h => by obtain ⟨_, -, rfl⟩ := closeHandle_ok h; rfl
  | mapMmio => exact minting_commit fun _ _ h => by obtain ⟨-, rfl⟩ := mapMmio_ok h; rfl
  | unmapMmio => exact minting_commit fun _ _ h => by obtain ⟨-, rfl⟩ := unmapMmio_ok h; rfl
  | prepareBuffer =>
    exact minting_commit fun _ _ h => by obtain ⟨_, _, -, -, -, rfl⟩ := prepareBuffer_ok h; rfl
  | releaseBuffer =>
    exact minting_commit fun _ _ h => by obtain ⟨-, rfl⟩ := releaseBuffer_ok h; rfl
  | bufferWrite =>
    exact minting_commit fun _ _ h => by obtain ⟨_, _, -, -, rfl⟩ := writeBuffer_ok h; rfl
  | tokenGetObject => exact minting_commit fun _ _ h => minting_of_openObject (tokenObject_ok h)
  | handleGetObject => exact minting_commit fun _ _ h => minting_of_openObject (handleObject_ok h)
  | objectGetObject => exact minting_commit fun _ _ h => minting_of_openObject (childObject_ok h)
  | objectGetObjectAt =>
    exact minting_commit fun _ _ h => minting_of_openObject (childObjectAt_ok h)
  | destroyObject => exact minting_commit fun _ _ h => by obtain rfl := destroyObject_ok h; rfl
  | resetHandle => exact minting_commit fun _ _ h => (resetHandle_ok h).minting_eq
  | writeMmio32 | writeMmio64 | writeMmio512 =>
    exact minting_commit fun _ _ h => (writeRegister_ok h).minting_eq
  | clearError => exact minting_commit fun _ _ h => (clearError_ok h).minting_eq
  | clearAllErrors => exact minting_commit fun _ _ h => (clearAllErrors_ok h).minting_eq
  | objectWrite64 => exact minting_commit fun _ _ h => (writeObject64_ok h).minting_eq
  | setUserClock => exact minting_commit fun _ _ h => (setUserClock_ok h).minting_eq
  | reconfigureSlot => exact minting_commit fun _ _ h => (reconfigureSlot_ok h).minting_eq
  | getMetricsByIndex | getMetricsByName => exact (s.retouches_sampleMetrics _ _).minting_eq
  | _ => rfl

/-- Live tokens lie below the next clone. -/
def TokensBelow (s : Simulator cards) : Prop :=
  ∀ token, s.tokens.contains token = true → token.raw < firstClone + s.nextToken

theorem TokensBelow.of_minting (h : s.TokensBelow) (ht : t.minting = s.minting) :
    t.TokensBelow := by
  obtain ⟨htokens, hnext⟩ := Prod.mk.inj ht
  unfold TokensBelow
  rw [htokens, hnext]
  exact h

theorem TokensBelow.publish (h : s.TokensBelow) {token : NativeToken} (site : Site cards)
    (ht : token.raw < firstClone + s.nextToken) : (s.publish token site).TokensBelow := by
  intro other hother
  change (s.tokens.insert token site).contains other = true at hother
  rw [Table.contains_insert] at hother
  by_cases ho : other = token
  · rw [ho]
    exact ht
  · rw [override_of_ne _ _ ho] at hother
    exact h other hother

/-- The token of a resource lies below all clones. -/
theorem canonical_lt (hcards : cards ≤ maxCards) (site : Site cards) :
    site.canonical.raw < firstClone := by
  have hcard : site.card.val < cards := site.card.isLt
  have hindex : site.index ≤ 2 * site.card.val + 1 := by
    unfold Site.index
    cases site.kind <;> simp
  have hmax : maxCards = 162 := rfl
  change Site.firstToken + site.index < firstClone
  unfold Site.firstToken firstClone
  omega

theorem TokensBelow.publish_canonical (h : s.TokensBelow) (hcards : cards ≤ maxCards)
    (site : Site cards) : (s.publish site.canonical site).TokensBelow :=
  h.publish site (Nat.lt_add_right _ (canonical_lt hcards site))

theorem TokensBelow.enumerate (h : s.TokensBelow) (hcards : cards ≤ maxCards)
    (filters : List (Properties NativeToken)) (maxTokens : UInt32) :
    (s.enumerate filters maxTokens).2.TokensBelow := by
  have hpublished : ∀ (sites : List (Site cards)) (u : Simulator cards), u.TokensBelow →
      (sites.foldl (fun u site => u.publish site.canonical site) u).TokensBelow := by
    intro sites
    induction sites with
    | nil => exact fun u hu => hu
    | cons site rest ih => exact fun u hu => ih _ (hu.publish_canonical hcards site)
  exact hpublished _ s h

theorem TokensBelow.propertiesAt (h : s.TokensBelow) (hcards : cards ≤ maxCards)
    (site : Site cards) : (s.propertiesAt site).2.TokensBelow := by
  obtain ⟨card, kind⟩ := site
  cases kind with
  | device => exact h
  | accelerator => exact h.publish_canonical hcards _

theorem TokensBelow.commit (h : s.TokensBelow) {result : Except Fault (α × Simulator cards)}
    (hok : ∀ value t, result = .ok (value, t) → t.TokensBelow) :
    (s.commit result).2.TokensBelow :=
  commit_preserves h hok

theorem TokensBelow.serve (h : s.TokensBelow) (hcards : cards ≤ maxCards) (call : DeviceCall) :
    (s.serve call).2.TokensBelow := by
  cases hm : call.mints with
  | false => exact h.of_minting (s.minting_serve hm)
  | true =>
  cases call with
  | enumerate filters maxTokens => exact h.enumerate hcards filters maxTokens
  | destroyToken token =>
    refine h.commit fun value t ht => ?_
    obtain rfl := destroyToken_ok ht
    intro other hother
    change (s.tokens.erase token).contains other = true at hother
    rw [Table.contains_erase] at hother
    by_cases ho : other = token
    · rw [ho, override_self] at hother
      cases hother
    · rw [override_of_ne _ _ ho] at hother
      exact h other hother
  | cloneToken token =>
    refine h.commit fun clone t ht => ?_
    obtain ⟨site, -, rfl⟩ := cloneToken_ok ht
    have hlater : ({ s with nextToken := s.nextToken + 1 } : Simulator cards).TokensBelow :=
      fun other hother => Nat.lt_succ_of_lt (h other hother)
    exact hlater.publish site (Nat.lt_succ_self _)
  | getProperties token | updateProperties token =>
    refine h.commit fun properties t ht => ?_
    obtain ⟨site, hsite⟩ := tokenProperties_ok ht
    have hparent := h.propertiesAt hcards site
    rwa [hsite] at hparent
  | getHandleProperties handle =>
    refine h.commit fun properties t ht => ?_
    obtain ⟨site, hsite⟩ := handleProperties_ok ht
    have hparent := h.propertiesAt hcards site
    rwa [hsite] at hparent
  | _ => cases hm

/-! ## All of it -/

/-- What is live lies below the counter that it came from. -/
structure Allocated (s : Simulator cards) : Prop where
  tokens : s.TokensBelow
  holdings : s.holdings.Bounded

theorem allocated_start (cards : Nat) (images : String → Option (List UInt8)) :
    (start cards images).Allocated where
  tokens _ htoken := by cases htoken
  holdings := by
    constructor
    · intro object hobject
      cases hobject
    · intro place hplace
      cases hplace

theorem bounded_call (h : s.holdings.Bounded) (call : DeviceCall) :
    (s.call call).2.holdings.Bounded := by
  have hserves := s.serves_call call
  generalize s.call call = outcome at hserves ⊢
  obtain ⟨_ | value, t⟩ := outcome
  · rw [show t.holdings = s.holdings from hserves]
    exact h
  · rw [hserves.2]
    exact h.after hserves.1

theorem Allocated.call (h : s.Allocated) (hcards : cards ≤ maxCards) (call : DeviceCall) :
    (s.call call).2.Allocated where
  tokens := by
    cases ha : s.armed call.kind with
    | some fault =>
      rw [call_of_armed ha]
      exact h.tokens.of_minting rfl
    | none =>
      rw [call_of_unarmed ha]
      exact (h.tokens.serve hcards call).of_minting rfl
  holdings := bounded_call h.holdings call

end Simulator

end DeviceBroker
