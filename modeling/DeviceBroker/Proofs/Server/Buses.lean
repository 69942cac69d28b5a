import DeviceBroker.Proofs.Broker.Listing
import DeviceBroker.Server.Host

/-!
# Cards told apart

A card has its place among the cards in two bytes, as the number of its socket
and, counted from a first one, as that of its bus. The settings of a broker ask
for any positive count of cards. The sum for the bus leaves its byte from the
163rd card on, and the bytes repeat after 256. A count that the cards start
with is below both: then no two cards have a number in common, and a listing
by the bus of a card finds the two resources of the card and no other.
-/

namespace DeviceBroker

variable {cards : Nat}

/-- No sum or product that the numbers of the cards come from leaves its width.
The accelerator of a card has the larger ones. -/
structure NoOverflow (cards : Nat) : Prop where
  resources : cards * 2 < 2 ^ 64
  token : ∀ card : Fin cards, Site.firstToken + (2 * card + 1) < 2 ^ 64
  objectId : ∀ card : Fin cards, 0xf50001 + (UInt64.ofNat card * 256).toNat < 2 ^ 64
  bus : ∀ card : Fin cards, Site.firstBus + (UInt8.ofNat card).toNat < 2 ^ 8

/-- The resources of different cards differ in their bus and in their socket. -/
def Distinguishable (cards : Nat) : Prop :=
  ∀ (first second : Site cards) (r r' : Resource), first.card ≠ second.card →
    (first.properties r).bus ≠ (second.properties r').bus ∧
      (first.properties r).socketId ≠ (second.properties r').socketId

/-! ## The numbers of a card -/

theorem Simulator.boot?_eq_some_iff {images : String → Option (List UInt8)}
    {device : Simulator cards} :
    boot? cards images = some device ↔ cards ≤ maxCards ∧ device = start cards images := by
  unfold boot?
  split <;> rename_i hcards
  · simp [hcards, eq_comm]
  · simp [hcards]

theorem noOverflow_iff : NoOverflow cards ↔ cards ≤ Simulator.maxCards := by
  have hmax : Simulator.maxCards = 162 := rfl
  rw [hmax]
  constructor
  · intro h
    by_contra hmany
    have hbus : 94 + 162 < 2 ^ 8 := h.bus ⟨162, by omega⟩
    omega
  · intro hcards
    constructor
    case resources => omega
    case token =>
      intro card
      unfold Site.firstToken
      omega
    case objectId =>
      intro card
      rw [UInt64.toNat_mul, UInt64.toNat_ofNat']
      change 0xf50001 + card.val % 2 ^ 64 * 256 % 2 ^ 64 < 2 ^ 64
      omega
    case bus =>
      intro card
      rw [UInt8.toNat_ofNat']
      unfold Site.firstBus
      omega

/-- Without an overflow the numbers are what the sums are meant to be. -/
theorem NoOverflow.toNat_bus (h : NoOverflow cards) (site : Site cards) :
    site.bus.toNat = Site.firstBus + site.card := by
  have hmany : cards ≤ 162 := noOverflow_iff.mp h
  rw [Site.bus, UInt8.toNat_ofNat']
  unfold Site.firstBus
  omega

theorem NoOverflow.toNat_objectId (h : NoOverflow cards) (site : Site cards) :
    site.objectId.toNat = 0xf50000 + 256 * site.card + site.index % 2 := by
  have hmany : cards ≤ 162 := noOverflow_iff.mp h
  obtain ⟨card, kind⟩ := site
  cases kind <;>
  · simp only [Site.objectId, Site.index, UInt64.toNat_add, UInt64.toNat_mul, UInt64.toNat_ofNat',
      UInt64.reduceToNat]
    omega

namespace Site

theorem bus_properties (site : Site cards) (r : Resource) :
    (site.properties r).bus = some site.bus := by
  obtain ⟨card, kind⟩ := site
  cases kind <;> rfl

theorem socketId_properties (site : Site cards) (r : Resource) :
    (site.properties r).socketId = some (UInt8.ofNat site.card) := by
  obtain ⟨card, kind⟩ := site
  cases kind <;> rfl

end Site

/-- A byte does not tell numbers apart that are a multiple of 256 apart. -/
theorem byte_add_eq_iff (base m n : Nat) :
    UInt8.ofNat (base + m) = UInt8.ofNat (base + n) ↔ m % 256 = n % 256 := by
  rw [← UInt8.toNat_inj, UInt8.toNat_ofNat', UInt8.toNat_ofNat']
  omega

theorem bus_eq_bus_iff {first second : Site cards} :
    first.bus = second.bus ↔ first.card.val % 256 = second.card.val % 256 :=
  byte_add_eq_iff _ _ _

theorem distinguishable_iff : Distinguishable cards ↔ cards ≤ 256 := by
  constructor
  · intro h
    by_contra hmany
    have hfirst : 0 < cards := by omega
    have hlast : 256 < cards := by omega
    have hcard : (⟨0, hfirst⟩ : Fin cards) ≠ ⟨256, hlast⟩ :=
      Fin.ne_of_val_ne (by decide : 0 ≠ 256)
    have hbus : Site.bus ⟨⟨0, hfirst⟩, .device⟩ = Site.bus ⟨⟨256, hlast⟩, .device⟩ :=
      bus_eq_bus_iff.mpr (by decide : 0 % 256 = 256 % 256)
    refine (h ⟨_, .device⟩ ⟨_, .device⟩ .management .management hcard).1 ?_
    rw [Site.bus_properties, Site.bus_properties, hbus]
  · intro hcards first second r r' hne
    have hmod : first.card.val % 256 ≠ second.card.val % 256 := by
      have hval := Fin.val_ne_of_ne hne
      omega
    rw [Site.bus_properties, Site.bus_properties, Site.socketId_properties,
      Site.socketId_properties]
    constructor
    · exact fun h => hmod (bus_eq_bus_iff.mp (Option.some.inj h))
    · refine fun h => hmod ((byte_add_eq_iff 0 _ _).mp ?_)
      rw [Nat.zero_add, Nat.zero_add]
      exact Option.some.inj h

/-! ## Listings by bus -/

/-- The resources of a card, in order. -/
def Site.ofCard (card : Fin cards) : List (Site cards) := [⟨card, .device⟩, ⟨card, .accelerator⟩]

/-- The filter that asks for the bus of a card alone. -/
def busFilter (card : Fin cards) : Properties RemoteId :=
  { bus := some (Site.bus ⟨card, .device⟩) }

theorem Site.filter_all_card (card : Fin cards) :
    ((all cards).filter fun site => site.card = card) = ofCard card := by
  have hgroups (places : List (Fin cards)) :
      ((places.flatMap ofCard).filter fun site => site.card = card) =
        (places.filter fun place => place = card).flatMap ofCard := by
    induction places with
    | nil => rfl
    | cons place rest ih =>
      rw [List.flatMap_cons, List.filter_append, ih]
      by_cases h : place = card
      · simp [h, ofCard]
      · simp [h, ofCard]
  have hone := List.count_eq_one_of_mem (List.nodup_finRange cards) (List.mem_finRange card)
  refine (hgroups (List.finRange cards)).trans ?_
  rw [List.filter_eq, hone]
  rfl

namespace Broker

theorem selects_busFilter_iff {b : Broker cards} {card : Fin cards} {site : Site cards} :
    b.Selects [busFilter card] site ↔ site.card.val % 256 = card.val % 256 := by
  have haimed : b.aimed (busFilter card) = { bus := some (Site.bus ⟨card, .device⟩) } := rfl
  have hbus : (site.description (b.device.resources site)).bus = some site.bus :=
    site.bus_properties _
  unfold Selects
  simp only [List.mem_singleton, exists_eq_left, haimed, Properties.meets_bus_iff, hbus,
    Option.some.injEq, bus_eq_bus_iff, List.cons_ne_nil, false_or]

theorem selection_busFilter (b : Broker cards) (hcards : cards ≤ 256) (card : Fin cards) :
    b.selection [busFilter card] = Site.ofCard card := by
  have hselects (site : Site cards) : b.Selects [busFilter card] site ↔ site.card = card := by
    rw [selects_busFilter_iff, Fin.ext_iff]
    omega
  unfold selection
  simp only [hselects]
  exact Site.filter_all_card card

/-- A listing by the bus of a card counts two resources, and answers with those
of the card, as many as are asked for. -/
structure FindsCard (b : Broker cards) (card : Fin cards) (maxTokens : UInt32)
    (tokens : List TokenHeader) : Prop where
  reply : (b.handle (.enumerate [busFilter card] maxTokens)).1 =
    .ofResult .enumerate (.ok ⟨tokens, 2⟩)
  named : (tokens.map TokenHeader.tokenId).map
      (b.handle (.enumerate [busFilter card] maxTokens)).2.tokenSite? =
    ((Site.ofCard card).take maxTokens.toNat).map some
  headers : tokens.map TokenHeader.header = ((Site.ofCard card).take maxTokens.toNat).map
    fun site => site.header (b.device.resources site)

theorem Lists.findsCard {b : Broker cards} (hcards : cards ≤ 256) {card : Fin cards}
    {maxTokens num : UInt32} {tokens : List TokenHeader}
    (lists : b.Lists [busFilter card] maxTokens tokens num) :
    b.FindsCard card maxTokens tokens := by
  have hselection := b.selection_busFilter hcards card
  have hlisted : b.listed [busFilter card] maxTokens = (Site.ofCard card).take maxTokens.toNat :=
    congrArg (List.take maxTokens.toNat) hselection
  have hnum : num = 2 := by
    have hcounts := lists.counts
    rw [hselection] at hcounts
    exact UInt32.toNat.inj hcounts
  refine ⟨hnum ▸ lists.reply, ?_, ?_⟩
  · rw [lists.named, hlisted]
  · rw [lists.headers, hlisted]

end Broker

/-! ## Settings -/

namespace BrokerConfig

/-- How the cards that some settings ask for can be told apart. -/
structure TellsApart (config : BrokerConfig) (images : String → Option (List UInt8)) : Prop where
  computed : NoOverflow config.simDevices.toNat ↔ config.simDevices ≤ 162
  /-- The cards start exactly if their numbers can be computed. -/
  starts : (∃ device, Simulator.boot? config.simDevices.toNat images = some device) ↔
    NoOverflow config.simDevices.toNat
  sums : NoOverflow config.simDevices.toNat → ∀ site : Site config.simDevices.toNat,
    site.bus.toNat = Site.firstBus + site.card ∧
      site.objectId.toNat = 0xf50000 + 256 * site.card + site.index % 2
  distinguishable : Distinguishable config.simDevices.toNat ↔ config.simDevices ≤ 256
  /-- Cards that have started can be served, and a listing by the bus of a card
  finds the card and no other one. -/
  found : ∀ device, Simulator.boot? config.simDevices.toNat images = some device → ∀ salt,
    ∃ server, Server.boot config (.seeded salt) device = .ok server ∧
      ∀ events card, (server.broker.after events).selection [busFilter card] = Site.ofCard card ∧
        ∀ maxTokens, (server.broker.after events).device.armed .enumerate = none →
          ((server.broker.after events).handle
            (.enumerate [busFilter card] maxTokens)).2.registry.drawn < 2 ^ 64 →
          ∃ tokens, (server.broker.after events).FindsCard card maxTokens tokens

theorem boot_of_validate {config : BrokerConfig} (valid : config.validate = .ok ())
    (source : IdSource) (device : Simulator cards) :
    Server.boot config source device =
      .ok ⟨config.server, .start source device config.dispatcher.maxPayloadBytes, .empty⟩ := by
  have hserver := ((validate_eq_ok_iff config).mp valid).1
  rw [Server.boot, valid]
  change Server.bind _ _ = _
  rw [Server.bind, hserver]

/-- Accepted settings may ask for more cards than can be told apart. For those
that do not, the cards start, and every one of them is found by its bus. -/
theorem tellsApart_of_validate {config : BrokerConfig} (valid : config.validate = .ok ())
    (images : String → Option (List UInt8)) : config.TellsApart images := by
  constructor
  case computed =>
    rw [noOverflow_iff, UInt64.le_iff_toNat_le]
    rfl
  case starts =>
    simp only [Simulator.boot?_eq_some_iff, exists_and_left, exists_eq, and_true, noOverflow_iff]
  case sums => exact fun h site => ⟨h.toNat_bus site, h.toNat_objectId site⟩
  case distinguishable =>
    rw [distinguishable_iff, UInt64.le_iff_toNat_le]
    rfl
  case found =>
    intro device boot salt
    have hcards : config.simDevices.toNat ≤ 256 :=
      Nat.le_trans (Simulator.boot?_eq_some_iff.mp boot).1 (by decide)
    refine ⟨_, boot_of_validate valid (.seeded salt) device, fun events card =>
      ⟨Broker.selection_busFilter _ hcards card, fun maxTokens unarmed drawn => ?_⟩⟩
    have hresolves : ((Broker.start (.seeded salt) device
        config.dispatcher.maxPayloadBytes).after events).Resolves [busFilter card] := by
      rw [Broker.Resolves, List.forall_mem_singleton]
      exact nofun
    obtain ⟨tokens, num, lists⟩ := Broker.lists_of_drawn_lt boot hresolves unarmed drawn
    exact ⟨tokens, lists.findsCard hcards⟩

/-- As many cards as can be started. -/
def fullRack : BrokerConfig := { simDevices := 162 }

/-- The last of the cards is listed by its bus, which is the last byte. -/
theorem tellsApart_of_validate_fullRack :
    fullRack.validate = .ok () ∧
    ∃ server, Server.boot fullRack (.seeded 7) (.start 162 fun _ => none) = .ok server ∧
      ∃ tokens, server.broker.FindsCard (161 : Fin 162) 5 tokens := by
  have valid : fullRack.validate = .ok () := by decide
  obtain ⟨server, hboot, hfound⟩ :=
    (tellsApart_of_validate valid fun _ => none).found (.start 162 fun _ => none) rfl 7
  obtain rfl := Except.ok.inj ((boot_of_validate valid _ _).symm.trans hboot)
  exact ⟨valid, _, hboot, (hfound [] (161 : Fin 162)).2 5 rfl (by decide +kernel)⟩

/-- One card more than can be started, and one more than bytes can number. -/
def overfullRack : BrokerConfig := { simDevices := 163 }

def crowdedRack : BrokerConfig := { simDevices := 257 }

/-- The checks accept cards whose numbers overflow, and cards that share their
numbers: a listing by the bus of the first of them selects the last one too. -/
theorem indistinct_of_crowdedRack :
    overfullRack.validate = .ok () ∧ ¬ NoOverflow 163 ∧
    Simulator.boot? 163 (fun _ => none) = none ∧
    crowdedRack.validate = .ok () ∧ ¬ Distinguishable 257 ∧
    (Broker.start (.seeded 7) (.start 257 fun _ => none)
      crowdedRack.dispatcher.maxPayloadBytes).Selects [busFilter (0 : Fin 257)] ⟨256, .device⟩ :=
  ⟨by decide, fun h => absurd (noOverflow_iff.mp h) (by decide), rfl, by decide,
    fun h => absurd (distinguishable_iff.mp h) (by decide),
    Broker.selects_busFilter_iff.mpr (by decide)⟩

end BrokerConfig

end DeviceBroker
