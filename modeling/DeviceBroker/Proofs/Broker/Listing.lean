import DeviceBroker.Proofs.Broker.Exchanges
import DeviceBroker.Proofs.Broker.Mappings
import DeviceBroker.Proofs.Broker.Tokens
import DeviceBroker.Proofs.Properties
import DeviceBroker.Proofs.Simulator.Listing
import DeviceBroker.Proofs.Simulator.Texts

/-!
# Listings

A listing selects resources by what its filters say about them, where the parent
in a filter stands for the resource that it names, whichever of its tokens is
used. It answers with the first of the selected resources in card order, each
under an identifier of its own that names it from then on. Fewer tokens are the
first of more, and to list again is to get the same tokens again.
-/

namespace DeviceBroker

open Service

variable {cards : Nat}

namespace Site

/-- The properties of a resource, with its parent given by where it stands. -/
def description (site : Site cards) (r : Resource) : Properties (Site cards) :=
  (site.properties r).withParent
    (match site.kind with
      | .device => none
      | .accelerator => some site.management)

theorem properties_eq (site : Site cards) (r : Resource) :
    site.properties r = (site.description r).mapParent canonical := by
  obtain ⟨card, kind⟩ := site
  cases kind with
  | device => rfl
  | accelerator => rfl

end Site

namespace Broker

variable {b : Broker cards}

/-- The resource that a live identifier of a token names. -/
def tokenSite? (b : Broker cards) (id : RemoteId) : Option (Site cards) :=
  ((b.registry.map .token).find? id).bind fun entry => b.device.tokens.find? entry.token

/-- The filter with its parent given by the resource that it names. -/
def aimed (b : Broker cards) (filter : Properties RemoteId) : Properties (Site cards) :=
  filter.withParent (filter.parent.bind b.tokenSite?)

/-- There is no filter, or the resource has everything that some filter asks for. -/
def Selects (b : Broker cards) (filters : List (Properties RemoteId)) (site : Site cards) : Prop :=
  filters = [] ∨
    ∃ filter ∈ filters, (site.description (b.device.resources site)).Meets (b.aimed filter)

instance (b : Broker cards) (filters : List (Properties RemoteId)) (site : Site cards) :
    Decidable (b.Selects filters site) :=
  inferInstanceAs (Decidable (_ ∨ _))

/-- The resources that are selected, in card order. -/
def selection (b : Broker cards) (filters : List (Properties RemoteId)) : List (Site cards) :=
  (Site.all cards).filter fun site => b.Selects filters site

/-- The first of them, as many as are asked for. -/
def listed (b : Broker cards) (filters : List (Properties RemoteId)) (maxTokens : UInt32) :
    List (Site cards) :=
  (b.selection filters).take maxTokens.toNat

/-- Every parent in the filters is live. -/
def Resolves (b : Broker cards) (filters : List (Properties RemoteId)) : Prop :=
  ∀ filter ∈ filters, ∀ id, filter.parent = some id → (b.registry.map .token).find? id ≠ none

end Broker

/-! ## What is selected -/

namespace Broker

variable {b : Broker cards}

/-- A live token is held by the driver, for some resource. -/
theorem Agrees.exists_site (h : b.Agrees) {id : RemoteId} {entry : TokenEntry}
    (live : (b.registry.map .token).find? id = some entry) :
    ∃ site, b.device.tokens.find? entry.token = some site :=
  (b.device.tokens.contains_iff entry.token).mp
    (h.token.holds id entry.token (congrArg (Option.map TokenEntry.token) live))

/-- The driver compares parents by resource, as the filter means them. -/
theorem canonicalFilter_of_importFilter (h : b.Agrees) {filter : Properties RemoteId}
    {native : Properties NativeToken} (imported : b.registry.importFilter? filter = some native) :
    b.device.canonicalFilter native = (b.aimed filter).mapParent Site.canonical := by
  unfold Registry.importFilter? Properties.mapParentM at imported
  unfold aimed
  cases hp : filter.parent with
  | none =>
    rw [hp] at imported
    obtain rfl := Option.some.inj imported
    rfl
  | some id =>
    rw [hp] at imported
    dsimp only at imported
    cases hf : (b.registry.map .token).find? id with
    | none =>
      rw [hf] at imported
      cases imported
    | some entry =>
      rw [hf] at imported
      obtain rfl := Option.some.inj imported
      obtain ⟨site, hsite⟩ := h.exists_site hf
      have hnamed : b.tokenSite? id = some site := by
        rw [tokenSite?, hf]
        exact hsite
      rw [Option.bind_some, hnamed]
      simp only [Simulator.canonicalFilter, Properties.mapParent, Properties.parent_withParent,
        Option.map_some, hsite, Properties.withParent_withParent]

theorem exists_importFilters {filters : List (Properties RemoteId)} (h : b.Resolves filters) :
    ∃ natives, filters.mapM b.registry.importFilter? = some natives := by
  induction filters with
  | nil => exact ⟨[], rfl⟩
  | cons filter rest ih =>
    obtain ⟨hfilter, hrest⟩ := List.forall_mem_cons.mp h
    obtain ⟨natives, hnatives⟩ := ih hrest
    have hnative : ∃ native, b.registry.importFilter? filter = some native := by
      unfold Registry.importFilter? Properties.mapParentM
      cases hp : filter.parent with
      | none => exact ⟨_, rfl⟩
      | some id =>
        obtain ⟨entry, hentry⟩ := Option.ne_none_iff_exists'.mp (hfilter id hp)
        exact ⟨filter.withParent (some entry.token), by dsimp only; rw [hentry]; rfl⟩
    obtain ⟨native, hnative⟩ := hnative
    exact ⟨native :: natives, by rw [List.mapM_cons, hnative, hnatives]; rfl⟩

theorem satisfies_iff_aimed (h : b.Agrees) {filter : Properties RemoteId}
    {native : Properties NativeToken} (imported : b.registry.importFilter? filter = some native)
    (site : Site cards) :
    (site.properties (b.device.resources site)).satisfies (b.device.canonicalFilter native) = true ↔
      (site.description (b.device.resources site)).Meets (b.aimed filter) := by
  rw [Properties.satisfies_iff_meets, canonicalFilter_of_importFilter h imported,
    Site.properties_eq, Properties.meets_mapParent Site.canonical_injective]

/-- The driver selects what the filters ask for. -/
theorem selects_iff (h : b.Agrees) {filters : List (Properties RemoteId)}
    {natives : List (Properties NativeToken)}
    (imported : filters.mapM b.registry.importFilter? = some natives) (site : Site cards) :
    b.device.selects natives site = true ↔ b.Selects filters site := by
  have hpairs := mapM_eq_some_iff.mp imported
  have hempty : natives = [] ↔ filters = [] := by
    rw [← List.length_eq_zero_iff, ← List.length_eq_zero_iff, hpairs.length_eq]
  have hany : (∃ native ∈ natives, (site.properties (b.device.resources site)).satisfies
      (b.device.canonicalFilter native) = true) ↔
      ∃ filter ∈ filters, (site.description (b.device.resources site)).Meets (b.aimed filter) := by
    clear hempty imported
    induction hpairs with
    | nil => simp
    | cons hnative _ ih =>
      rw [List.exists_mem_cons_iff, List.exists_mem_cons_iff, ih, satisfies_iff_aimed h hnative]
  rw [Simulator.selects, Bool.or_eq_true, List.isEmpty_iff, List.any_eq_true, hempty, hany]
  rfl

/-- The selection is what the driver selects. -/
theorem selection_eq (h : b.Agrees) {filters : List (Properties RemoteId)}
    {natives : List (Properties NativeToken)}
    (imported : filters.mapM b.registry.importFilter? = some natives) :
    (Site.all cards).filter (b.device.selects natives) = b.selection filters := by
  refine congrArg (fun keep => (Site.all cards).filter keep) (funext fun site => ?_)
  rw [Bool.eq_iff_iff, selects_iff h imported, decide_eq_true_eq]

/-! ## One listing -/

/-- The headers of some sites under given identifiers. -/
def headers (b : Broker cards) (ids : List RemoteId) (sites : List (Site cards)) :
    List TokenHeader :=
  List.zipWith (fun id site => ⟨id, site.header (b.device.resources site)⟩) ids sites

/-- The identifiers that a listing gives to some sites. -/
def idsOf (b : Broker cards) (sites : List (Site cards)) : List RemoteId :=
  (b.registry.internAll (sites.map Site.canonical)).1

/-- The broker after a listing of some sites. -/
def listing (b : Broker cards) (sites : List (Site cards)) : Broker cards :=
  { b with
    registry := (b.registry.internAll (sites.map Site.canonical)).2
    device := (b.device.publishAll sites).recount (b.device.calls + 1) }

theorem call_enumerate {s : Simulator cards} (unarmed : s.armed .enumerate = none)
    (natives : List (Properties NativeToken)) (maxTokens : UInt32) :
    s.call (.enumerate natives maxTokens) =
      (.ok (s.enumerate natives maxTokens).1,
        (s.publishAll (s.listed natives maxTokens)).recount (s.calls + 1)) := by
  have hcall : s.call (.enumerate natives maxTokens) = _ := Simulator.call_of_unarmed unarmed
  rw [hcall, Simulator.recount, Simulator.armed_publishAll]
  rfl

section

variable {filters : List (Properties RemoteId)} {maxTokens : UInt32}

/-- A listing exports the first of the selected resources. -/
theorem exec_serve_enumerate (h : b.Agrees) (resolves : b.Resolves filters)
    (unarmed : b.device.armed .enumerate = none) :
    exec (Request.serve b.payloadLimit (.enumerate filters maxTokens)) b =
      exec (do
        let tokens ← ((b.listed filters maxTokens).map fun site =>
          b.device.headed site.canonical site).mapM exportToken
        return ⟨tokens, UInt32.ofNat (b.selection filters).length⟩)
      { b with
        device := (b.device.publishAll (b.listed filters maxTokens)).recount
          (b.device.calls + 1) } := by
  obtain ⟨natives, himported⟩ := exists_importFilters resolves
  have himport := exec_importFilters filters b
  rw [himported] at himport
  have hdevice := exec_device (.enumerate natives maxTokens) b
  rw [call_enumerate unarmed] at hdevice
  have hlisted : b.device.listed natives maxTokens = b.listed filters maxTokens :=
    congrArg (List.take maxTokens.toNat) (selection_eq h himported)
  rw [Request.serve, exec_bind_of_ok _ himport, exec_bind_of_ok _ hdevice, Simulator.enumerate_eq,
    hlisted, selection_eq h himported]
  rw [List.take_of_length_le]
  rw [List.length_map]
  exact List.length_take_le _ _

/-- Whatever becomes of it, a listing leaves the registry that its tokens were interned in. -/
theorem registry_handle_enumerate (h : b.Agrees) (resolves : b.Resolves filters)
    (unarmed : b.device.armed .enumerate = none) :
    (b.handle (.enumerate filters maxTokens)).2.registry =
      (b.listing (b.listed filters maxTokens)).registry := by
  rw [handle_eq, exec_serve_enumerate h resolves unarmed, exec_bind_pure_snd,
    registry_exec_exportTokens, List.map_map]
  rfl

/-- A listing that has an identifier for each of its tokens. -/
theorem handle_enumerate (h : b.Agrees) (resolves : b.Resolves filters)
    (unarmed : b.device.armed .enumerate = none)
    (issued : (b.idsOf (b.listed filters maxTokens)).length =
      (b.listed filters maxTokens).length) :
    b.handle (.enumerate filters maxTokens) =
      (.ofResult .enumerate (.ok
          ⟨b.headers (b.idsOf (b.listed filters maxTokens))
              (b.listed filters maxTokens),
            UInt32.ofNat (b.selection filters).length⟩),
        b.listing (b.listed filters maxTokens)) := by
  rw [handle_eq, exec_serve_enumerate h resolves unarmed]
  generalize b.listed filters maxTokens = sites at issued ⊢
  have hexport := exec_exportTokens_of_issued
    (sites.map fun site => b.device.headed site.canonical site)
    { b with device := (b.device.publishAll sites).recount (b.device.calls + 1) }
    (by rw [List.map_map, List.length_map]; exact issued)
  rw [List.map_map, List.zipWith_map_right] at hexport
  rw [exec_bind_of_ok _ hexport]
  rfl

end

/-! ## Names after a listing -/

/-- What the registry and the driver have in common while the sequence of identifiers lasts. -/
structure Coherent (salt : UInt64) (b : Broker cards) : Prop where
  sound : b.registry.Sound salt
  agrees : b.Agrees
  placed : b.device.Placed

theorem tokenSite?_eq_some_iff {id : RemoteId} {site : Site cards} :
    b.tokenSite? id = some site ↔ ∃ entry, (b.registry.map .token).find? id = some entry ∧
      b.device.tokens.find? entry.token = some site :=
  Option.bind_eq_some_iff

/-- An identifier names what its token names. -/
theorem tokenSite?_of_tokenId? (well : b.registry.WellFormed) {token : NativeToken}
    {id : RemoteId} (h : b.registry.tokenId? token = some id) :
    b.tokenSite? id = b.device.tokens.find? token := by
  rw [tokenSite?, well.tokenId?_eq_some_iff.mp h]
  rfl

theorem wellFormed_listing (well : b.registry.WellFormed) (sites : List (Site cards)) :
    (b.listing sites).registry.WellFormed :=
  Registry.wellFormed_internAll well _

section

variable {salt : UInt64} {sites : List (Site cards)}

/-- An identifier names the same resource after a listing as before. -/
theorem Coherent.tokenSite?_listing (h : b.Coherent salt) {id : RemoteId} {site : Site cards}
    (hs : b.tokenSite? id = some site) (sites : List (Site cards)) :
    (b.listing sites).tokenSite? id = some site := by
  have well : b.registry.WellFormed := h.sound.wellFormed
  obtain ⟨⟨token⟩, hf, hsite⟩ := tokenSite?_eq_some_iff.mp hs
  have hid := Registry.tokenId?_internAll_of_some (well.tokenId?_eq_some_iff.mpr hf)
    (sites.map Site.canonical)
  rw [tokenSite?_of_tokenId? (wellFormed_listing well sites) hid]
  exact h.placed.find?_publishAll hsite sites

/-- The sites of a listing are tracked, each under its identifier. -/
theorem map_tokenId?_listing (issued : (b.idsOf sites).length = sites.length) :
    (sites.map Site.canonical).map (b.listing sites).registry.tokenId? =
      (b.idsOf sites).map some := by
  have hids := b.registry.map_tokenId?_internAll (sites.map Site.canonical)
  rwa [List.take_of_length_le] at hids
  rw [List.length_map]
  exact Nat.le_of_eq issued.symm

/-- A listing gives each of its sites an identifier that names it. -/
theorem map_tokenSite?_listing (well : b.registry.WellFormed)
    (issued : (b.idsOf sites).length = sites.length) :
    (b.idsOf sites).map (b.listing sites).tokenSite? = sites.map some := by
  have hids := map_tokenId?_listing issued
  have hnames : ∀ site ∈ sites,
      ((b.listing sites).registry.tokenId? site.canonical).bind (b.listing sites).tokenSite? =
        some site := by
    intro site hsite
    have hmem : (b.listing sites).registry.tokenId? site.canonical ∈ (b.idsOf sites).map some := by
      rw [← hids, List.map_map]
      exact List.mem_map_of_mem hsite
    obtain ⟨id, -, hid⟩ := List.mem_map.mp hmem
    rw [← hid, Option.bind_some,
      tokenSite?_of_tokenId? (wellFormed_listing well sites) hid.symm]
    exact Simulator.find?_publishAll_of_mem hsite
  have hbind := congrArg (List.map fun id? => id?.bind (b.listing sites).tokenSite?) hids
  rw [List.map_map, List.map_map, List.map_map] at hbind
  exact hbind.symm.trans (List.map_congr_left hnames)

/-- Sites that are distinct get identifiers that are. -/
theorem nodup_idsOf (well : b.registry.WellFormed)
    (issued : (b.idsOf sites).length = sites.length) (distinct : sites.Nodup) :
    (b.idsOf sites).Nodup := by
  refine List.Nodup.of_map (b.listing sites).tokenSite? ?_
  rw [map_tokenSite?_listing well issued]
  exact distinct.map fun _ _ => Option.some.inj

/-! ## Listing again -/

variable {filters : List (Properties RemoteId)}

theorem Coherent.aimed_listing (h : b.Coherent salt) (resolves : b.Resolves filters)
    (sites : List (Site cards)) {filter : Properties RemoteId} (hf : filter ∈ filters) :
    (b.listing sites).aimed filter = b.aimed filter := by
  unfold aimed
  cases hp : filter.parent with
  | none => rfl
  | some id =>
    obtain ⟨entry, hentry⟩ := Option.ne_none_iff_exists'.mp (resolves filter hf id hp)
    obtain ⟨site, hsite⟩ := h.agrees.exists_site hentry
    have hnamed : b.tokenSite? id = some site := tokenSite?_eq_some_iff.mpr ⟨entry, hentry, hsite⟩
    rw [Option.bind_some, Option.bind_some, h.tokenSite?_listing hnamed, hnamed]

theorem Coherent.resolves_listing (h : b.Coherent salt) (resolves : b.Resolves filters)
    (sites : List (Site cards)) : (b.listing sites).Resolves filters := by
  intro filter hf id hp
  obtain ⟨entry, hentry⟩ := Option.ne_none_iff_exists'.mp (resolves filter hf id hp)
  obtain ⟨site, hsite⟩ := h.agrees.exists_site hentry
  have hnamed := h.tokenSite?_listing (tokenSite?_eq_some_iff.mpr ⟨entry, hentry, hsite⟩) sites
  obtain ⟨later, hlater, -⟩ := tokenSite?_eq_some_iff.mp hnamed
  exact Option.ne_none_iff_exists'.mpr ⟨later, hlater⟩

theorem resources_listing (b : Broker cards) (sites : List (Site cards)) :
    (b.listing sites).device.resources = b.device.resources :=
  Simulator.resources_publishAll b.device sites

theorem armed_listing (b : Broker cards) (sites : List (Site cards)) :
    (b.listing sites).device.armed = b.device.armed :=
  Simulator.armed_publishAll b.device sites

/-- A listing does not change what is selected. -/
theorem Coherent.selection_listing (h : b.Coherent salt) (resolves : b.Resolves filters)
    (sites : List (Site cards)) : (b.listing sites).selection filters = b.selection filters := by
  refine List.filter_congr fun site _ => decide_eq_decide.mpr (or_congr_right ?_)
  rw [resources_listing]
  refine exists_congr fun filter => and_congr_right fun hf => ?_
  rw [h.aimed_listing resolves sites hf]

/-- What is listed already has its identifiers, and to list it changes nothing. -/
theorem listing_again {sites again : List (Site cards)} {ids : List RemoteId}
    (tracked : (again.map Site.canonical).map (b.listing sites).registry.tokenId? = ids.map some)
    (within : ∀ site ∈ again, site ∈ sites) :
    (b.listing sites).idsOf again = ids ∧
      (b.listing sites).listing again =
        (b.listing sites).recount ((b.listing sites).device.calls + 1) := by
  have hintern := Registry.internAll_of_tracked tracked
  have hpublish : (b.listing sites).device.publishAll again = (b.listing sites).device :=
    Simulator.publishAll_eq_self fun site hsite =>
      Simulator.find?_publishAll_of_mem (within site hsite)
  constructor
  · rw [idsOf, hintern]
  · conv_lhs => rw [listing]
    rw [hintern, hpublish]
    rfl

end

/-! ## Histories -/

theorem placed_disturb {s : Simulator cards} (h : s.Placed) (d : Disturbance) :
    (s.disturb d).Placed := by
  cases d with
  | arm kind fault => exact h.of_tokens_eq rfl
  | recycle => exact h.of_tokens_eq rfl
  | raise token number bits =>
    exact h.of_tokens_eq (congrArg Prod.fst (s.retouches_raiseError token number bits).minting_eq)

section

variable {salt : UInt64}

theorem Coherent.step (h : b.Coherent salt) (hcards : cards ≤ Simulator.maxCards) (event : Event)
    (drawn : (b.step event).registry.drawn < 2 ^ 64) : (b.step event).Coherent salt where
  sound := sound_step event h.sound drawn
  agrees := agrees_step event h.sound h.agrees drawn
  placed := by
    cases event with
    | serve request =>
      exact device_handle_preserves (fun _ call hs => hs.call hcards call) h.placed request
    | disturb d => exact placed_disturb h.placed d

theorem Coherent.after (h : b.Coherent salt) (hcards : cards ≤ Simulator.maxCards)
    {events : List Event} (drawn : (b.after events).registry.drawn < 2 ^ 64) :
    (b.after events).Coherent salt := by
  induction events generalizing b with
  | nil => exact h
  | cons event rest ih =>
    have hmid := Nat.lt_of_le_of_lt ((b.step event).drawn_le_after rest) drawn
    exact ih (h.step hcards event hmid) drawn

/-- Along every history the registry and the driver are coherent. -/
theorem coherent_after {images : String → Option (List UInt8)} {device : Simulator cards}
    {salt limit : UInt64} {events : List Event}
    (boot : Simulator.boot? cards images = some device)
    (drawn : ((start (.seeded salt) device limit).after events).registry.drawn < 2 ^ 64) :
    ((start (.seeded salt) device limit).after events).Coherent (IdSource.effectiveSalt salt) ∧
      cards ≤ Simulator.maxCards := by
  unfold Simulator.boot? at boot
  split at boot
  · rename_i hcards
    cases boot
    have hstart : (start (.seeded salt) (.start cards images) limit).Coherent
        (IdSource.effectiveSalt salt) :=
      ⟨Registry.sound_empty (IdSource.effectiveSalt_ne_zero salt), agrees_start _ images limit,
        Simulator.placed_start cards images⟩
    exact ⟨hstart.after hcards drawn, hcards⟩
  · cases boot

end

/-! ## Listings along a history -/

/-- How a listing answers, and what comes of asking again. -/
structure Lists (b : Broker cards) (filters : List (Properties RemoteId)) (maxTokens : UInt32)
    (tokens : List TokenHeader) (num : UInt32) : Prop where
  reply : (b.handle (.enumerate filters maxTokens)).1 = .ofResult .enumerate (.ok ⟨tokens, num⟩)
  counts : num.toNat = (b.selection filters).length
  /-- The tokens are live afterwards and name the first of the selected resources. -/
  named : (tokens.map TokenHeader.tokenId).map
      (b.handle (.enumerate filters maxTokens)).2.tokenSite? =
    (b.listed filters maxTokens).map some
  headers : tokens.map TokenHeader.header =
    (b.listed filters maxTokens).map fun site =>
      site.header (b.device.resources site)
  distinct : (tokens.map TokenHeader.tokenId).Nodup
  /-- Whoever asks for fewer, instead or afterwards, gets the first of these tokens. -/
  shorter : ∀ fewer ≤ maxTokens,
    (b.handle (.enumerate filters fewer)).1 =
        .ofResult .enumerate (.ok ⟨tokens.take fewer.toNat, num⟩) ∧
      ((b.handle (.enumerate filters maxTokens)).2.handle (.enumerate filters fewer)).1 =
        .ofResult .enumerate (.ok ⟨tokens.take fewer.toNat, num⟩)
  /-- The same listing again, however often, changes the number of calls alone. -/
  again : ∀ n, ((b.handle (.enumerate filters maxTokens)).2.recount n).handle
      (.enumerate filters maxTokens) =
    ((b.handle (.enumerate filters maxTokens)).1,
      (b.handle (.enumerate filters maxTokens)).2.recount (n + 1))

section

variable {salt : UInt64} {filters : List (Properties RemoteId)} {sites : List (Site cards)}
  {ids : List RemoteId} {maxTokens : UInt32}

theorem map_tokenId_headers (h : ids.length = sites.length) :
    (b.headers ids sites).map TokenHeader.tokenId = ids := by
  rw [headers, List.map_zipWith, ← List.map_uncurry_zip_eq_zipWith]
  exact List.map_fst_zip (Nat.le_of_eq h)

theorem map_header_headers (h : ids.length = sites.length) :
    (b.headers ids sites).map TokenHeader.header =
      sites.map fun site => site.header (b.device.resources site) := by
  rw [headers, List.map_zipWith, ← List.map_uncurry_zip_eq_zipWith]
  conv_rhs => rw [← List.map_snd_zip (Nat.le_of_eq h.symm), List.map_map]
  rfl

/-- After a listing the first of its sites have their identifiers. -/
theorem listing_take (issued : (b.idsOf sites).length = sites.length) (n : Nat) :
    (b.listing sites).idsOf (sites.take n) = (b.idsOf sites).take n ∧
      (b.listing sites).listing (sites.take n) =
        (b.listing sites).recount ((b.listing sites).device.calls + 1) := by
  refine listing_again ?_ fun site hsite => List.mem_of_mem_take hsite
  rw [List.map_take, List.map_take, map_tokenId?_listing issued, List.map_take]

theorem length_selection_lt (hcards : cards ≤ Simulator.maxCards)
    (filters : List (Properties RemoteId)) : (b.selection filters).length < 2 ^ 32 := by
  have hle : (b.selection filters).length ≤ (Site.all cards).length := List.length_filter_le _ _
  rw [Site.length_all] at hle
  have hmax : Simulator.maxCards = 162 := rfl
  omega

/-- What a broker does again without a change, it does again however many calls it made. -/
theorem handle_recount_of_steady {request : Request} {reply : Reply}
    (h : b.handle request = (reply, b.recount (b.device.calls + 1))) (n : Nat) :
    (b.recount n).handle request = (reply, b.recount (n + 1)) := by
  have hcalls := (request.program b.payloadLimit).calls_run b
  have hstate : ((request.program b.payloadLimit).run b).2 = b.recount (b.device.calls + 1) :=
    congrArg Prod.snd h
  rw [hstate] at hcalls
  have hone : ((request.program b.payloadLimit).calls b).length = 1 :=
    (Nat.add_left_cancel hcalls).symm
  rw [handle_recount, h, hone]
  rfl

theorem listed_of_le {fewer : UInt32} (h : fewer ≤ maxTokens) :
    b.listed filters fewer = (b.listed filters maxTokens).take fewer.toNat := by
  rw [listed, listed, List.take_take, Nat.min_eq_left (UInt32.le_iff_toNat_le.mp h)]

theorem headers_take (b : Broker cards) (ids : List RemoteId) (sites : List (Site cards))
    (n : Nat) : b.headers (ids.take n) (sites.take n) = (b.headers ids sites).take n :=
  List.take_zipWith.symm

theorem nodup_listed (b : Broker cards) (filters : List (Properties RemoteId))
    (maxTokens : UInt32) : (b.listed filters maxTokens).Nodup :=
  ((Site.nodup_all cards).filter _).sublist (List.take_sublist _ _)

section

variable (h : b.Coherent salt) (resolves : b.Resolves filters)
  (unarmed : b.device.armed .enumerate = none)
  (issued : (b.idsOf (b.listed filters maxTokens)).length = (b.listed filters maxTokens).length)

include h resolves unarmed issued

/-- A listing of fewer tokens. -/
theorem Coherent.handle_enumerate_of_le {fewer : UInt32} (hle : fewer ≤ maxTokens) :
    (b.handle (.enumerate filters fewer)).1 = .ofResult .enumerate (.ok
      ⟨(b.headers (b.idsOf (b.listed filters maxTokens)) (b.listed filters maxTokens)).take
          fewer.toNat,
        UInt32.ofNat (b.selection filters).length⟩) := by
  have hids : b.idsOf (b.listed filters fewer) =
      (b.idsOf (b.listed filters maxTokens)).take fewer.toNat := by
    rw [listed_of_le hle, idsOf, List.map_take, Registry.internAll_take]
    rfl
  have hfewer : (b.idsOf (b.listed filters fewer)).length = (b.listed filters fewer).length := by
    rw [hids, listed_of_le hle, List.length_take, List.length_take, issued]
  rw [handle_enumerate h.agrees resolves unarmed hfewer, hids, listed_of_le hle, headers_take]

/-- A listing of as many or fewer tokens that are listed already. -/
theorem Coherent.handle_enumerate_listing
    (later : (b.listing (b.listed filters maxTokens)).Coherent salt) {fewer : UInt32}
    (hle : fewer ≤ maxTokens) :
    (b.listing (b.listed filters maxTokens)).handle (.enumerate filters fewer) =
      (.ofResult .enumerate (.ok
          ⟨(b.headers (b.idsOf (b.listed filters maxTokens)) (b.listed filters maxTokens)).take
              fewer.toNat,
            UInt32.ofNat (b.selection filters).length⟩),
        (b.listing (b.listed filters maxTokens)).recount
          ((b.listing (b.listed filters maxTokens)).device.calls + 1)) := by
  obtain ⟨hids, hstate⟩ := listing_take issued fewer.toNat
  have hselection := h.selection_listing resolves (b.listed filters maxTokens)
  have hlisted : (b.listing (b.listed filters maxTokens)).listed filters fewer =
      (b.listed filters maxTokens).take fewer.toNat := by
    rw [listed, hselection]
    exact listed_of_le hle
  have hunarmed : (b.listing (b.listed filters maxTokens)).device.armed .enumerate = none := by
    rw [armed_listing, unarmed]
  rw [handle_enumerate later.agrees (h.resolves_listing resolves _) hunarmed, hlisted, hids, hstate,
    headers_take, hselection, headers, resources_listing]
  · rfl
  · rw [hlisted, hids, List.length_take, List.length_take, issued]

end

theorem Coherent.lists (h : b.Coherent salt) (hcards : cards ≤ Simulator.maxCards)
    (resolves : b.Resolves filters) (unarmed : b.device.armed .enumerate = none)
    (drawn : (b.handle (.enumerate filters maxTokens)).2.registry.drawn < 2 ^ 64) :
    ∃ tokens num, b.Lists filters maxTokens tokens num := by
  have hissued := drawn
  rw [registry_handle_enumerate h.agrees resolves unarmed] at hissued
  have issued := h.sound.length_internAll hissued
  rw [List.length_map] at issued
  have hhandle := handle_enumerate h.agrees resolves unarmed issued
  have hlater : (b.listing (b.listed filters maxTokens)).Coherent salt := by
    have hstep := h.step hcards (.serve (.enumerate filters maxTokens)) drawn
    change (b.handle (.enumerate filters maxTokens)).2.Coherent salt at hstep
    rwa [hhandle] at hstep
  have hids : (b.headers (b.idsOf (b.listed filters maxTokens)) (b.listed filters maxTokens)).map
      TokenHeader.tokenId = b.idsOf (b.listed filters maxTokens) := map_tokenId_headers issued
  refine ⟨b.headers (b.idsOf (b.listed filters maxTokens)) (b.listed filters maxTokens),
    UInt32.ofNat (b.selection filters).length, ?_⟩
  constructor
  case reply => rw [hhandle]
  case counts => exact Nat.mod_eq_of_lt (length_selection_lt hcards filters)
  case named =>
    rw [hids, hhandle]
    exact map_tokenSite?_listing h.sound.wellFormed issued
  case headers => exact map_header_headers issued
  case distinct =>
    rw [hids]
    exact nodup_idsOf h.sound.wellFormed issued (b.nodup_listed filters maxTokens)
  case shorter =>
    intro fewer hle
    refine ⟨h.handle_enumerate_of_le resolves unarmed issued hle, ?_⟩
    rw [hhandle, h.handle_enumerate_listing resolves unarmed issued hlater hle]
  case again =>
    have hall : (b.headers (b.idsOf (b.listed filters maxTokens))
        (b.listed filters maxTokens)).length ≤ maxTokens.toNat := by
      rw [← List.length_map (f := TokenHeader.tokenId), hids]
      exact issued ▸ List.length_take_le _ _
    have hagain := h.handle_enumerate_listing resolves unarmed issued hlater (UInt32.le_refl _)
    rw [List.take_of_length_le hall] at hagain
    rw [hhandle]
    exact handle_recount_of_steady hagain

end

/-- Along every history in which no failure of listings is armed: a listing whose filters name
live parents is exact, its tokens are named once and for all, and fewer are the first of more. -/
theorem lists_of_drawn_lt {images : String → Option (List UInt8)} {device : Simulator cards}
    {salt limit : UInt64} {events : List Event} {filters : List (Properties RemoteId)}
    {maxTokens : UInt32} (boot : Simulator.boot? cards images = some device)
    (resolves : ((start (.seeded salt) device limit).after events).Resolves filters)
    (unarmed : ((start (.seeded salt) device limit).after events).device.armed .enumerate = none)
    (drawn : (((start (.seeded salt) device limit).after events).handle
      (.enumerate filters maxTokens)).2.registry.drawn < 2 ^ 64) :
    ∃ tokens num,
      ((start (.seeded salt) device limit).after events).Lists filters maxTokens tokens num := by
  have hbefore := Nat.lt_of_le_of_lt
    (drawn_le_step _ (.serve (.enumerate filters maxTokens))) drawn
  obtain ⟨hcoherent, hcards⟩ := coherent_after boot hbefore
  exact hcoherent.lists hcards resolves unarmed drawn

/-- Two cards, of which all but the last accelerator are listed, and the token of the first
management device is cloned. -/
def twofold : Broker 2 :=
  (start (.seeded 7) (.start 2 fun _ => none) 4096).after
    [.serve (.enumerate [] 3), .serve (.cloneToken ⟨7, 1⟩)]

/-- The accelerators of both cards are asked for, one by the clone. -/
theorem lists_of_drawn_lt_twofold :
    Simulator.boot? 2 (fun _ => none) = some (.start 2 fun _ => none) ∧
    twofold.Resolves [{ parent := some ⟨7, 4⟩ }, { parent := some ⟨7, 3⟩ }] ∧
    twofold.device.armed .enumerate = none ∧
    (twofold.handle (.enumerate [{ parent := some ⟨7, 4⟩ }, { parent := some ⟨7, 3⟩ }]
      5)).2.registry.drawn < 2 ^ 64 ∧
    ∃ tokens num,
      twofold.Lists [{ parent := some ⟨7, 4⟩ }, { parent := some ⟨7, 3⟩ }] 5 tokens num :=
  have resolves :
      twofold.Resolves [{ parent := some ⟨7, 4⟩ }, { parent := some ⟨7, 3⟩ }] := by
    have hclone : (twofold.registry.map .token).find? ⟨7, 4⟩ = some ⟨⟨0x100000⟩⟩ := rfl
    have hlisted : (twofold.registry.map .token).find? ⟨7, 3⟩ = some ⟨⟨0x1002⟩⟩ := rfl
    unfold Resolves
    rw [List.forall_mem_cons, List.forall_mem_singleton]
    constructor
    · rintro id ⟨⟩
      simp [hclone]
    · rintro id ⟨⟩
      simp [hlisted]
  have drawn : (twofold.handle (.enumerate
    [{ parent := some ⟨7, 4⟩ }, { parent := some ⟨7, 3⟩ }] 5)).2.registry.drawn < 2 ^ 64 := by
    decide +kernel
  ⟨rfl, resolves, rfl, drawn, lists_of_drawn_lt rfl resolves rfl drawn⟩

end Broker

end DeviceBroker
