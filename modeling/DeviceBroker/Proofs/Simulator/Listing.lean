import DeviceBroker.Proofs.Simulator.Allocation
import Mathlib.Data.List.Nodup

/-!
# What a listing hands out

The resources stand in card order, each at its own place, and the tokens that a
listing hands out are as distinct as they are. After a listing the tokens in it
name their resources, and other tokens name what they named before; to list
again what is listed already changes nothing.

Clones have values of their own. So whatever the cards are called for, a token
that a listing hands out for a resource never names another one, and to hand it
out takes no live token its meaning.
-/

namespace DeviceBroker

variable {cards : Nat}

namespace Site

theorem index_div_two (site : Site cards) : site.index / 2 = site.card := by
  obtain ⟨card, kind⟩ := site
  cases kind with
  | device => exact Nat.mul_div_cancel_left _ (by decide)
  | accelerator => exact Nat.mul_add_div (by decide) card.val 1

/-- The resources are in order, the management device of a card before its accelerator. -/
theorem pairwise_all (cards : Nat) : (all cards).Pairwise fun a b => a.index < b.index := by
  rw [all, List.pairwise_flatMap]
  constructor
  · intro card _
    simp [index]
  · refine (List.pairwise_lt_finRange cards).imp fun {c d} hcd a ha b hb => ?_
    have hcard (e : Fin cards) (site : Site cards)
        (hsite : site ∈ [⟨e, .device⟩, ⟨e, .accelerator⟩]) : site.index / 2 = e := by
      rw [index_div_two]
      simp only [List.mem_cons, List.not_mem_nil, or_false] at hsite
      rcases hsite with rfl | rfl <;> rfl
    have hlt : c.val < d.val := hcd
    have ha := hcard c a ha
    have hb := hcard d b hb
    omega

theorem mem_all (site : Site cards) : site ∈ all cards := by
  obtain ⟨card, kind⟩ := site
  rw [all, List.mem_flatMap]
  exact ⟨card, List.mem_finRange card, by cases kind <;> simp⟩

theorem index_injective : Function.Injective (index : Site cards → Nat) := by
  intro a b h
  have hcard := congrArg (· / 2) h
  simp only [index_div_two] at hcard
  obtain ⟨card, kind⟩ := a
  obtain ⟨card', kind'⟩ := b
  obtain rfl := Fin.ext hcard
  have hkind := Nat.add_left_cancel h
  cases kind <;> cases kind' <;> first | rfl | cases hkind

theorem canonical_injective : Function.Injective (canonical : Site cards → NativeToken) := by
  intro a b h
  exact index_injective (Nat.add_left_cancel (congrArg NativeToken.raw h))

theorem nodup_all (cards : Nat) : (all cards).Nodup :=
  (pairwise_all cards).imp fun h heq => absurd (heq ▸ h) (Nat.lt_irrefl _)

end Site

namespace Simulator

variable {s : Simulator cards}

/-- The sites that a listing is made of. -/
def listed (s : Simulator cards) (filters : List (Properties NativeToken)) (maxTokens : UInt32) :
    List (Site cards) :=
  ((Site.all cards).filter (s.selects filters)).take maxTokens.toNat

/-- Hand out the tokens of some sites. -/
def publishAll (s : Simulator cards) (sites : List (Site cards)) : Simulator cards :=
  sites.foldl (fun s site => s.publish site.canonical site) s

theorem enumerate_eq (s : Simulator cards) (filters : List (Properties NativeToken))
    (maxTokens : UInt32) :
    s.enumerate filters maxTokens =
      (⟨(s.listed filters maxTokens).map fun site => s.headed site.canonical site,
          UInt32.ofNat ((Site.all cards).filter (s.selects filters)).length⟩,
        s.publishAll (s.listed filters maxTokens)) := rfl

theorem nodup_listed (s : Simulator cards) (filters : List (Properties NativeToken))
    (maxTokens : UInt32) : (s.listed filters maxTokens).Nodup :=
  ((Site.nodup_all cards).filter _).sublist (List.take_sublist _ _)

/-- The tokens of a listing are distinct. -/
theorem nodup_tokens_enumerate (s : Simulator cards) (filters : List (Properties NativeToken))
    (maxTokens : UInt32) :
    ((s.enumerate filters maxTokens).1.tokens.map NativeHeader.token).Nodup := by
  have htokens : (s.enumerate filters maxTokens).1.tokens.map NativeHeader.token =
      (s.listed filters maxTokens).map Site.canonical := by
    rw [enumerate_eq, List.map_map]
    rfl
  rw [htokens]
  exact (s.nodup_listed filters maxTokens).map Site.canonical_injective

/-- Handing out tokens changes nothing but what tokens name. -/
theorem publishAll_eq (s : Simulator cards) (sites : List (Site cards)) :
    s.publishAll sites = { s with tokens := (s.publishAll sites).tokens } := by
  induction sites generalizing s with
  | nil => rfl
  | cons site rest ih => exact ih (s.publish site.canonical site)

theorem resources_publishAll (s : Simulator cards) (sites : List (Site cards)) :
    (s.publishAll sites).resources = s.resources := by
  rw [publishAll_eq]

theorem armed_publishAll (s : Simulator cards) (sites : List (Site cards)) :
    (s.publishAll sites).armed = s.armed := by
  rw [publishAll_eq]

theorem handles_publishAll (s : Simulator cards) (sites : List (Site cards)) :
    (s.publishAll sites).handles = s.handles := by
  rw [publishAll_eq]

theorem find?_publish (s : Simulator cards) (token other : NativeToken) (site : Site cards) :
    (s.publish token site).tokens.find? other =
      if other = token then some site else s.tokens.find? other :=
  s.tokens.find?_insert token other site

/-- Tokens outside the list name what they named before. -/
theorem find?_publishAll_of_not_mem {sites : List (Site cards)} {token : NativeToken}
    (h : token ∉ sites.map Site.canonical) :
    (s.publishAll sites).tokens.find? token = s.tokens.find? token := by
  induction sites generalizing s with
  | nil => rfl
  | cons site rest ih =>
    rw [List.map_cons, List.mem_cons, not_or] at h
    refine (ih h.2).trans ?_
    rw [find?_publish, if_neg h.1]

/-- The token of a site in the list names the site. -/
theorem find?_publishAll_of_mem {sites : List (Site cards)} {site : Site cards}
    (h : site ∈ sites) : (s.publishAll sites).tokens.find? site.canonical = some site := by
  induction sites generalizing s with
  | nil => cases h
  | cons first rest ih =>
    by_cases hrest : site ∈ rest
    · exact ih hrest
    · obtain rfl : site = first := (List.mem_cons.mp h).resolve_right hrest
      have hlater : site.canonical ∉ rest.map Site.canonical :=
        fun hm => hrest ((List.mem_map_of_injective Site.canonical_injective).mp hm)
      refine (find?_publishAll_of_not_mem hlater).trans ?_
      rw [find?_publish, if_pos rfl]

theorem publish_eq_self {token : NativeToken} {site : Site cards}
    (h : s.tokens.find? token = some site) : s.publish token site = s := by
  unfold publish
  rw [Table.insert_eq_self h]

/-- What names its site already can be handed out again. -/
theorem publishAll_eq_self {sites : List (Site cards)}
    (h : ∀ site ∈ sites, s.tokens.find? site.canonical = some site) :
    s.publishAll sites = s := by
  induction sites with
  | nil => rfl
  | cons site rest ih =>
    rw [List.forall_mem_cons] at h
    unfold publishAll at ih ⊢
    rw [List.foldl_cons, publish_eq_self h.1]
    exact ih h.2

/-! ## Tokens that name their own resource -/

/-- A live token of a listing names the resource that it was made for. -/
def Placed (s : Simulator cards) : Prop :=
  ∀ site other, s.tokens.find? (Site.canonical site) = some other → other = site

theorem placed_start (cards : Nat) (images : String → Option (List UInt8)) :
    (start cards images).Placed := fun _ _ h => nomatch h

variable {t : Simulator cards}

theorem Placed.of_tokens_eq (h : s.Placed) (ht : t.tokens = s.tokens) : t.Placed := by
  unfold Placed
  rw [ht]
  exact h

theorem Placed.publish_canonical (h : s.Placed) (site : Site cards) :
    (s.publish site.canonical site).Placed := by
  intro one other hfind
  rw [find?_publish] at hfind
  split at hfind
  · rename_i heq
    rw [← Option.some.inj hfind]
    exact (Site.canonical_injective heq).symm
  · exact h one other hfind

theorem Placed.publishAll (h : s.Placed) (sites : List (Site cards)) :
    (s.publishAll sites).Placed := by
  induction sites generalizing s with
  | nil => exact h
  | cons site rest ih => exact ih (h.publish_canonical site)

/-- Clones lie above the tokens of listings. -/
theorem Placed.publish_clone (h : s.Placed) (hcards : cards ≤ maxCards) (n : Nat)
    (site : Site cards) : (s.publish ⟨firstClone + n⟩ site).Placed := by
  intro one other hfind
  rw [find?_publish] at hfind
  split at hfind
  · rename_i heq
    have hlt := canonical_lt hcards one
    rw [heq] at hlt
    exact absurd hlt (Nat.not_lt.mpr (Nat.le_add_right _ _))
  · exact h one other hfind

theorem Placed.propertiesAt (h : s.Placed) (site : Site cards) :
    (s.propertiesAt site).2.Placed := by
  obtain ⟨card, kind⟩ := site
  cases kind with
  | device => exact h
  | accelerator => exact h.publish_canonical _

theorem Placed.commit {α : Type} (h : s.Placed) {result : Except Fault (α × Simulator cards)}
    (hok : ∀ value t, result = .ok (value, t) → t.Placed) : (s.commit result).2.Placed :=
  commit_preserves h hok

theorem Placed.serve (h : s.Placed) (hcards : cards ≤ maxCards) (call : DeviceCall) :
    (s.serve call).2.Placed := by
  cases hm : call.mints with
  | false => exact h.of_tokens_eq (congrArg Prod.fst (s.minting_serve hm))
  | true =>
  cases call with
  | enumerate filters maxTokens => exact h.publishAll _
  | destroyToken token =>
    refine h.commit fun value t ht => ?_
    obtain rfl := destroyToken_ok ht
    intro one other hfind
    rw [Table.find?_erase] at hfind
    split at hfind
    · cases hfind
    · exact h one other hfind
  | cloneToken token =>
    refine h.commit fun clone t ht => ?_
    obtain ⟨site, -, rfl⟩ := cloneToken_ok ht
    exact publish_clone (h.of_tokens_eq rfl) hcards _ site
  | getProperties token | updateProperties token =>
    refine h.commit fun properties t ht => ?_
    obtain ⟨site, hsite⟩ := tokenProperties_ok ht
    have hparent := h.propertiesAt site
    rwa [hsite] at hparent
  | getHandleProperties handle =>
    refine h.commit fun properties t ht => ?_
    obtain ⟨site, hsite⟩ := handleProperties_ok ht
    have hparent := h.propertiesAt site
    rwa [hsite] at hparent
  | _ => cases hm

theorem Placed.call (h : s.Placed) (hcards : cards ≤ maxCards) (call : DeviceCall) :
    (s.call call).2.Placed := by
  cases ha : s.armed call.kind with
  | some fault =>
    rw [call_of_armed ha]
    exact h.of_tokens_eq rfl
  | none =>
    rw [call_of_unarmed ha]
    exact (h.serve hcards call).of_tokens_eq rfl

/-- No live token comes to name anything else. -/
theorem Placed.find?_publishAll (h : s.Placed) {token : NativeToken} {site : Site cards}
    (live : s.tokens.find? token = some site) (sites : List (Site cards)) :
    (s.publishAll sites).tokens.find? token = some site := by
  by_cases hm : token ∈ sites.map Site.canonical
  · obtain ⟨other, hother, rfl⟩ := List.mem_map.mp hm
    rw [h other site live]
    exact find?_publishAll_of_mem hother
  · rw [find?_publishAll_of_not_mem hm, live]

end Simulator

end DeviceBroker
