import DeviceBroker.Proofs.Broker.Listing
import DeviceBroker.Proofs.Broker.Registers

/-!
# Parents of accelerators

The properties of an accelerator tell its parent, which is an identifier of the
management device of the same card. To read them, by whatever token or handle,
has the effects of a listing of that device: its token is handed out and
interned. So the parent is one identifier for all who read, it is live, and it
can be put into a filter, which then selects the accelerator alone.
-/

namespace DeviceBroker

open Service

variable {cards : Nat}

/-! ## Reading properties -/

namespace Simulator

variable {s : Simulator cards} {site : Site cards}

theorem propertiesAt_accelerator (s : Simulator cards) (h : site.kind = .accelerator) :
    s.propertiesAt site =
      (site.properties (s.resources site), s.publishAll [site.management]) := by
  rw [propertiesAt, h]
  rfl

theorem armed_propertiesAt (s : Simulator cards) (site : Site cards) :
    (s.propertiesAt site).2.armed = s.armed := by
  obtain ⟨card, kind⟩ := site
  cases kind <;> rfl

theorem call_of_propertiesAt {call : DeviceCall} {value : call.Value}
    (unarmed : s.armed call.kind = none)
    (served : s.serve call = (.ok value, (s.propertiesAt site).2)) :
    s.call call = (.ok value, (s.propertiesAt site).2.recount (s.calls + 1)) := by
  rw [call_of_unarmed unarmed, served, recount, armed_propertiesAt]

theorem tokenProperties_of_find? {token : NativeToken} (h : s.tokens.find? token = some site) :
    s.tokenProperties token = .ok (s.propertiesAt site) := by
  rw [tokenProperties, siteOf, h]
  rfl

theorem handleProperties_of_siteAt {handle : NativeHandle} (h : s.siteAt handle = some site) :
    s.handleProperties handle = .ok (s.propertiesAt site) := by
  obtain ⟨state, hs, rfl⟩ := Option.map_eq_some_iff.mp h
  rw [handleProperties, handleOf, hs]
  rfl

end Simulator

namespace Broker

variable {b : Broker cards}

/-- The requests that read the properties of a resource, and the replies that tell them. -/
inductive Reads (b : Broker cards) (site : Site cards) (p : Properties RemoteId) :
    Request → Reply → Prop
  | token {id : RemoteId} (names : b.tokenSite? id = some site) :
      Reads b site p (.getProperties id) (.ofResult .getProperties (.ok p))
  | refreshed {id : RemoteId} (names : b.tokenSite? id = some site) :
      Reads b site p (.updateProperties id) (.ofResult .updateProperties (.ok p))
  | handle {id : RemoteId} (names : b.site? id = some site) :
      Reads b site p (.getHandleProperties id) (.ofResult .getHandleProperties (.ok p))

section

variable {site : Site cards} {parent : RemoteId}

/-- Properties of an accelerator go out with the identifier of its parent. -/
theorem exec_exportProperties_accelerator (accelerator : site.kind = .accelerator)
    (issued : b.idsOf [site.management] = [parent]) {read : Service (Properties NativeToken)}
    (hread : exec read b = (.ok (b.device.propertiesAt site).1,
      { b with
        device := (b.device.propertiesAt site).2.recount (b.device.calls + 1) })) :
    exec (read >>= exportProperties) b =
      (.ok ((b.device.propertiesAt site).1.withParent (some parent)),
        b.listing [site.management]) := by
  have hparent : (b.device.propertiesAt site).1.parent.toList =
      [site.management].map Site.canonical := by
    rw [b.device.propertiesAt_accelerator accelerator, Site.properties_eq, Properties.mapParent,
      Properties.parent_withParent, Site.description, Properties.parent_withParent, accelerator]
    rfl
  have hids : (b.registry.internAll ([site.management].map Site.canonical)).1 = [parent] := issued
  rw [exec_bind_of_ok _ hread, exec_exportProperties, hparent]
  dsimp only
  rw [hids, b.device.propertiesAt_accelerator accelerator]
  rfl

theorem exec_device_of_propertiesAt (call : DeviceCall) {value : call.Value}
    (unarmed : b.device.armed call.kind = none)
    (served : b.device.serve call = (.ok value, (b.device.propertiesAt site).2)) :
    exec (Service.device call) b =
      (.ok value,
        { b with device := (b.device.propertiesAt site).2.recount (b.device.calls + 1) }) := by
  rw [exec_device, Simulator.call_of_propertiesAt unarmed served]

/-- To read the properties of an accelerator is to list its management device. -/
theorem Reads.answer {p : Properties RemoteId} {request : Request} {reply : Reply}
    (h : b.Reads site p request reply) (unarmed : ∀ kind, b.device.armed kind = none)
    (accelerator : site.kind = .accelerator) (issued : b.idsOf [site.management] = [parent])
    (hp : p = (b.device.propertiesAt site).1.withParent (some parent)) :
    b.handle request = (reply, b.listing [site.management]) := by
  have hexport {read : Service (Properties NativeToken)} (hread : exec read b = _) :
      exec (read >>= exportProperties) b = (.ok p, b.listing [site.management]) :=
    hp ▸ exec_exportProperties_accelerator accelerator issued hread
  cases h with
  | @token id names =>
    obtain ⟨entry, hf, hsite⟩ := tokenSite?_eq_some_iff.mp names
    have hread := exec_device_of_propertiesAt (.getProperties entry.token) (unarmed _)
      (congrArg b.device.commit (Simulator.tokenProperties_of_find? hsite))
    have hexec : exec (Request.serve b.payloadLimit (.getProperties id)) b = _ :=
      (exec_bind_of_ok _ (exec_lookup_of_some hf)).trans (hexport hread)
    rw [handle_eq, hexec]
  | @refreshed id names =>
    obtain ⟨entry, hf, hsite⟩ := tokenSite?_eq_some_iff.mp names
    have hread := exec_device_of_propertiesAt (.updateProperties entry.token) (unarmed _)
      (congrArg b.device.commit (Simulator.tokenProperties_of_find? hsite))
    have hexec : exec (Request.serve b.payloadLimit (.updateProperties id)) b = _ :=
      (exec_bind_of_ok _ (exec_lookup_of_some hf)).trans (hexport hread)
    rw [handle_eq, hexec]
  | @handle id names =>
    obtain ⟨native, hnative, hsite⟩ := Option.bind_eq_some_iff.mp names
    obtain ⟨entry, hf, rfl⟩ := Option.map_eq_some_iff.mp hnative
    have hread := exec_device_of_propertiesAt (.getHandleProperties entry.handle) (unarmed _)
      (congrArg b.device.commit (Simulator.handleProperties_of_siteAt hsite))
    have hexec : exec (Request.serve b.payloadLimit (.getHandleProperties id)) b = _ :=
      (exec_bind_of_ok _ (exec_lookup_of_some hf)).trans (hexport hread)
    rw [handle_eq, hexec]

end

/-! ## After a read -/

section

variable {salt : UInt64} {site : Site cards} {parent : RemoteId}

/-- While the sequence lasts, there is an identifier for each of some sites. -/
theorem Coherent.length_idsOf (h : b.Coherent salt) {sites : List (Site cards)}
    (drawn : b.registry.drawn + sites.length < 2 ^ 64) :
    (b.idsOf sites).length = sites.length := by
  have hle := b.registry.drawn_internAll_le (sites.map Site.canonical)
  rw [List.length_map] at hle
  have hissued := h.sound.length_internAll (Nat.lt_of_le_of_lt hle drawn)
  rwa [List.length_map] at hissued

theorem site?_listing (b : Broker cards) (sites : List (Site cards)) (id : RemoteId) :
    (b.listing sites).site? id = b.site? id := by
  have hnative : (b.listing sites).native? id = b.native? id :=
    congrArg (fun m => (m.find? id).map HandleEntry.handle)
      (b.registry.handles_internAll (sites.map Site.canonical))
  have hsite : (b.listing sites).device.siteAt = b.device.siteAt := by
    funext handle
    exact congrArg (fun handles => (handles.find? handle).map OpenHandle.site)
      (b.device.handles_publishAll sites)
  rw [site?, site?, hnative, hsite]

/-- What could be read before a listing can be read after it. -/
theorem Reads.listing {p : Properties RemoteId} {request : Request} {reply : Reply}
    (hr : b.Reads site p request reply) (h : b.Coherent salt) (sites : List (Site cards)) :
    (b.listing sites).Reads site p request reply := by
  cases hr with
  | token names => exact .token (h.tokenSite?_listing names sites)
  | refreshed names => exact .refreshed (h.tokenSite?_listing names sites)
  | handle names => exact .handle ((b.site?_listing sites _).trans names)

theorem Coherent.recount (h : b.Coherent salt) (n : Nat) : (b.recount n).Coherent salt :=
  ⟨h.sound, h.agrees, h.placed⟩

/-- The management device of a card is the parent of its accelerator alone. -/
theorem parent_description_iff {other : Site cards} (r : Resource) :
    (other.description r).parent = some site.management ↔ other = site.accelerator := by
  obtain ⟨card, kind⟩ := other
  cases kind with
  | device => exact iff_of_false nofun nofun
  | accelerator =>
    change some (Site.management ⟨card, .accelerator⟩) = _ ↔ _
    rw [Option.some_inj]
    constructor
    · intro h
      have hcard : card = site.card := congrArg Site.card h
      rw [hcard]
      rfl
    · intro h
      rw [h]
      rfl

/-- A filter that sets the parent alone selects the accelerator of that card alone. -/
theorem selection_parent (named : b.tokenSite? parent = some site.management) :
    b.selection [{ parent := some parent }] = [site.accelerator] := by
  have haimed : b.aimed { parent := some parent } = { parent := some site.management } := by
    rw [aimed, Option.bind_some, named]
    rfl
  have hselects (other : Site cards) :
      b.Selects [{ parent := some parent }] other ↔ other = site.accelerator := by
    unfold Selects
    simp only [List.mem_singleton, exists_eq_left, haimed, Properties.meets_parent_iff,
      parent_description_iff, List.cons_ne_nil, false_or]
  have hone := List.count_eq_one_of_mem (Site.nodup_all cards) (Site.mem_all site.accelerator)
  unfold selection
  simp only [hselects]
  rw [List.filter_eq, hone]
  rfl

/-- Whoever lists by the parent alone gets the accelerator alone, under an identifier of it. -/
theorem Coherent.exists_enumerate_parent (h : b.Coherent salt) (site : Site cards)
    (hcards : cards ≤ Simulator.maxCards) (unarmed : b.device.armed .enumerate = none)
    (drawn : b.registry.drawn + 1 < 2 ^ 64) (named : b.tokenSite? parent = some site.management)
    {maxTokens : UInt32} (hmax : 0 < maxTokens) :
    ∃ id, (b.handle (.enumerate [{ parent := some parent }] maxTokens)).1 =
        .ofResult .enumerate (.ok
          ⟨[⟨id, site.accelerator.header (b.device.resources site.accelerator)⟩], 1⟩) ∧
      (b.handle (.enumerate [{ parent := some parent }] maxTokens)).2.tokenSite? id =
        some site.accelerator := by
  have resolves : b.Resolves [{ parent := some parent }] := by
    rw [Resolves, List.forall_mem_singleton]
    rintro _ ⟨⟩
    obtain ⟨entry, hf, -⟩ := tokenSite?_eq_some_iff.mp named
    exact Option.ne_none_iff_exists'.mpr ⟨entry, hf⟩
  have hselection := selection_parent named
  have hlisted : b.listed [{ parent := some parent }] maxTokens = [site.accelerator] := by
    rw [listed, hselection]
    exact List.take_of_length_le (UInt32.lt_iff_toNat_lt.mp hmax)
  have hdrawn : (b.handle (.enumerate [{ parent := some parent }] maxTokens)).2.registry.drawn <
      2 ^ 64 := by
    rw [registry_handle_enumerate h.agrees resolves unarmed, hlisted]
    exact Nat.lt_of_le_of_lt (b.registry.drawn_internAll_le _) drawn
  obtain ⟨tokens, num, lists⟩ := h.lists hcards resolves unarmed hdrawn
  have hnamed := lists.named
  rw [hlisted, List.map_map] at hnamed
  obtain ⟨token, rfl, htoken⟩ := List.map_eq_singleton_iff.mp hnamed
  have hheader : token.header = site.accelerator.header (b.device.resources site.accelerator) := by
    have hheaders := lists.headers
    rw [hlisted] at hheaders
    exact List.singleton_inj.mp hheaders
  have hnum : num = 1 := by
    have hcounts := lists.counts
    rw [hselection] at hcounts
    exact UInt32.toNat.inj hcounts
  refine ⟨token.tokenId, ?_, htoken⟩
  rw [lists.reply, hnum, ← hheader]

/-- How reads of the properties of an accelerator answer, and what comes of its parent. -/
structure NamesParent (b : Broker cards) (card : Fin cards) (parent : RemoteId)
    (b' : Broker cards) : Prop where
  /-- Every read answers what the driver has, with the parent under the identifier. -/
  reads : ∀ request reply, b.Reads ⟨card, .accelerator⟩
      ((b.device.propertiesAt ⟨card, .accelerator⟩).1.withParent (some parent)) request reply →
    b.handle request = (reply, b')
  named : b'.tokenSite? parent = some ⟨card, .device⟩
  /-- Another read, after however many, answers the same and changes the number of calls alone. -/
  again : ∀ n request reply, b.Reads ⟨card, .accelerator⟩
      ((b.device.propertiesAt ⟨card, .accelerator⟩).1.withParent (some parent)) request reply →
    (b'.recount n).handle request = (reply, b'.recount (n + 1))
  /-- A listing by the parent then answers with the accelerator alone. -/
  alone : ∀ n maxTokens, 0 < maxTokens → ∃ id,
    ((b'.recount n).handle (.enumerate [{ parent := some parent }] maxTokens)).1 =
        .ofResult .enumerate (.ok ⟨[⟨id, Site.header ⟨card, .accelerator⟩
          (b.device.resources ⟨card, .accelerator⟩)⟩], 1⟩) ∧
      ((b'.recount n).handle (.enumerate [{ parent := some parent }] maxTokens)).2.tokenSite? id =
        some ⟨card, .accelerator⟩

/-- Some live token or handle is for the resource. -/
def Reaches (b : Broker cards) (site : Site cards) : Prop :=
  ∃ id, b.tokenSite? id = some site ∨ b.site? id = some site

theorem Coherent.exists_namesParent (h : b.Coherent salt) (hcards : cards ≤ Simulator.maxCards)
    (unarmed : ∀ kind, b.device.armed kind = none) (drawn : b.registry.drawn + 2 < 2 ^ 64)
    {card : Fin cards} (reaches : b.Reaches ⟨card, .accelerator⟩) :
    ∃ parent b', b.NamesParent card parent b' := by
  have issued : (b.idsOf [⟨card, .device⟩]).length = 1 :=
    h.length_idsOf (Nat.lt_of_succ_lt drawn)
  obtain ⟨parent, hparent⟩ := List.length_eq_one_iff.mp issued
  have hreads (request : Request) (reply : Reply) (hr : b.Reads ⟨card, .accelerator⟩
      ((b.device.propertiesAt ⟨card, .accelerator⟩).1.withParent (some parent)) request reply) :
      b.handle request = (reply, b.listing [⟨card, .device⟩]) :=
    hr.answer unarmed rfl hparent rfl
  have hdrawn : (b.listing [⟨card, .device⟩]).registry.drawn ≤ b.registry.drawn + 1 :=
    b.registry.drawn_internAll_le _
  -- Some read is possible, so the state after it is one that requests lead to.
  have hlater : (b.listing [⟨card, .device⟩]).Coherent salt := by
    have hread : ∃ request reply, b.handle request = (reply, b.listing [⟨card, .device⟩]) := by
      obtain ⟨id, names | names⟩ := reaches
      · exact ⟨_, _, hreads _ _ (.token names)⟩
      · exact ⟨_, _, hreads _ _ (.handle names)⟩
    obtain ⟨request, reply, hhandle⟩ := hread
    have hstep : b.step (.serve request) = b.listing [⟨card, .device⟩] :=
      congrArg Prod.snd hhandle
    rw [← hstep]
    refine h.step hcards (.serve request) ?_
    rw [hstep]
    omega
  have hunarmed (kind : CallKind) : (b.listing [⟨card, .device⟩]).device.armed kind = none := by
    rw [armed_listing, unarmed]
  have hnamed : (b.listing [⟨card, .device⟩]).tokenSite? parent = some ⟨card, .device⟩ := by
    have hmap := map_tokenSite?_listing h.sound.wellFormed issued
    rw [hparent] at hmap
    exact List.singleton_inj.mp hmap
  refine ⟨parent, b.listing [⟨card, .device⟩], ?_⟩
  constructor
  case reads => exact hreads
  case named => exact hnamed
  case again =>
    intro n request reply hr
    obtain ⟨hids, hstate⟩ := listing_take issued 1
    rw [hparent] at hids
    have hagain := (hr.listing h [⟨card, .device⟩]).answer hunarmed rfl hids
      (by
        rw [Simulator.propertiesAt_accelerator _ rfl, Simulator.propertiesAt_accelerator _ rfl,
          resources_listing])
    exact handle_recount_of_steady (hagain.trans (congrArg _ hstate)) n
  case alone =>
    intro n maxTokens hmax
    have halone := (hlater.recount n).exists_enumerate_parent ⟨card, .accelerator⟩
      hcards (hunarmed .enumerate) (Nat.lt_of_le_of_lt (Nat.succ_le_succ hdrawn) drawn) hnamed hmax
    rwa [← b.resources_listing [⟨card, .device⟩]]

end

/-- Along every history, with no failure armed: reads of the properties of an accelerator, by
whatever token or handle, tell one parent, which names the management device of the card and
selects the accelerator again. -/
theorem namesParent_of_drawn_lt {images : String → Option (List UInt8)}
    {device : Simulator cards} {salt limit : UInt64} {events : List Event} {card : Fin cards}
    (boot : Simulator.boot? cards images = some device)
    (unarmed : ∀ kind, ((start (.seeded salt) device limit).after events).device.armed kind = none)
    (reaches : ((start (.seeded salt) device limit).after events).Reaches ⟨card, .accelerator⟩)
    (drawn : ((start (.seeded salt) device limit).after events).registry.drawn + 2 < 2 ^ 64) :
    ∃ parent b',
      ((start (.seeded salt) device limit).after events).NamesParent card parent b' := by
  have hbefore : ((start (.seeded salt) device limit).after events).registry.drawn < 2 ^ 64 :=
    Nat.lt_of_add_right_lt drawn
  obtain ⟨hcoherent, hcards⟩ := coherent_after boot hbefore
  exact hcoherent.exists_namesParent hcards unarmed drawn reaches

/-- An accelerator is open, and the tokens of its card are destroyed. -/
def untold : Broker 1 :=
  (start (.seeded 7) (.start 1 fun _ => none) 4096).after
    [.serve (.enumerate [] 2), .serve (.openHandle ⟨7, 2⟩ 0), .serve (.destroyToken ⟨7, 1⟩),
      .serve (.destroyToken ⟨7, 2⟩)]

theorem namesParent_of_drawn_lt_untold :
    Simulator.boot? 1 (fun _ => none) = some (.start 1 fun _ => none) ∧
    (∀ kind, untold.device.armed kind = none) ∧ untold.Reaches ⟨0, .accelerator⟩ ∧
    untold.registry.drawn + 2 < 2 ^ 64 ∧
    ∃ parent b', untold.NamesParent 0 parent b' :=
  have reaches : untold.Reaches ⟨0, .accelerator⟩ := ⟨⟨7, 3⟩, .inr rfl⟩
  ⟨rfl, fun _ => rfl, reaches, by decide,
    namesParent_of_drawn_lt rfl (fun _ => rfl) reaches (by decide)⟩

end Broker

end DeviceBroker
