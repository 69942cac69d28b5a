import DeviceBroker.Properties
import Mathlib.Data.Set.Function

/-!
# What it is to meet a filter

A description meets a filter if every field that the filter sets has the same
value in the description. Matching decides this. It orders property sets by how
much they tell: the empty one tells nothing, and two that meet each other are
equal. How parents are named does not matter, as long as distinct parents have
distinct names, and a translation of parents that may fail does what one that
cannot fail does wherever it succeeds.
-/

namespace DeviceBroker

/-- A field that is asked for has the value that it is asked for with. -/
def FieldMeets {α : Type} (actual wanted : Option α) : Prop :=
  ∀ w, wanted = some w → actual = some w

namespace FieldMeets

variable {α β : Type} {x y z : Option α}

theorem refl (x : Option α) : FieldMeets x x := fun _ h => h

theorem trans (h : FieldMeets x y) (h' : FieldMeets y z) : FieldMeets x z :=
  fun w hw => h w (h' w hw)

theorem antisymm (h : FieldMeets x y) (h' : FieldMeets y x) : x = y :=
  Option.ext fun w => ⟨h' w, h w⟩

/-- Values may be renamed, as long as the two fields at hand are kept apart. -/
theorem map_iff {f : α → β} (hf : Set.InjOn f {w | x = some w ∨ y = some w}) :
    FieldMeets (x.map f) (y.map f) ↔ FieldMeets x y := by
  constructor
  · rintro h w rfl
    obtain ⟨v, rfl, hv⟩ := Option.map_eq_some_iff.mp (h (f w) rfl)
    exact congrArg some (hf (.inl rfl) (.inr rfl) hv)
  · intro h w hw
    obtain ⟨v, rfl, rfl⟩ := Option.map_eq_some_iff.mp hw
    exact congrArg (Option.map f) (h v rfl)

end FieldMeets

namespace Properties

variable {ρ σ ε : Type}

/-- Every field that the filter sets has the same value in the description. -/
structure Meets (p filter : Properties ρ) : Prop where
  parent : FieldMeets p.parent filter.parent
  kind : FieldMeets p.kind filter.kind
  segment : FieldMeets p.segment filter.segment
  bus : FieldMeets p.bus filter.bus
  device : FieldMeets p.device filter.device
  function : FieldMeets p.function filter.function
  socketId : FieldMeets p.socketId filter.socketId
  vendorId : FieldMeets p.vendorId filter.vendorId
  deviceId : FieldMeets p.deviceId filter.deviceId
  subsystemVendorId : FieldMeets p.subsystemVendorId filter.subsystemVendorId
  subsystemDeviceId : FieldMeets p.subsystemDeviceId filter.subsystemDeviceId
  objectId : FieldMeets p.objectId filter.objectId
  guid : FieldMeets p.guid filter.guid
  numErrors : FieldMeets p.numErrors filter.numErrors
  interface : FieldMeets p.interface filter.interface
  numSlots : FieldMeets p.numSlots filter.numSlots
  imageId : FieldMeets p.imageId filter.imageId
  imageVersion : FieldMeets p.imageVersion filter.imageVersion
  assignment : FieldMeets p.assignment filter.assignment
  numMmio : FieldMeets p.numMmio filter.numMmio
  numInterrupts : FieldMeets p.numInterrupts filter.numInterrupts

theorem satisfies_iff_meets [DecidableEq ρ] (p filter : Properties ρ) :
    p.satisfies filter = true ↔ p.Meets filter := by
  simp only [satisfies, Bool.and_eq_true, fieldMatches_iff]
  constructor
  · rintro ⟨⟨⟨⟨⟨⟨⟨⟨⟨⟨⟨⟨⟨⟨⟨⟨⟨⟨⟨⟨parent, kind⟩, segment⟩, bus⟩, device⟩, function⟩, socketId⟩,
      vendorId⟩, deviceId⟩, subsystemVendorId⟩, subsystemDeviceId⟩, objectId⟩, guid⟩, numErrors⟩,
      interface⟩, numSlots⟩, imageId⟩, imageVersion⟩, assignment⟩, numMmio⟩, numInterrupts⟩
    exact ⟨parent, kind, segment, bus, device, function, socketId, vendorId, deviceId,
      subsystemVendorId, subsystemDeviceId, objectId, guid, numErrors, interface, numSlots,
      imageId, imageVersion, assignment, numMmio, numInterrupts⟩
  · intro h
    exact ⟨⟨⟨⟨⟨⟨⟨⟨⟨⟨⟨⟨⟨⟨⟨⟨⟨⟨⟨⟨h.parent, h.kind⟩, h.segment⟩, h.bus⟩, h.device⟩, h.function⟩,
      h.socketId⟩, h.vendorId⟩, h.deviceId⟩, h.subsystemVendorId⟩, h.subsystemDeviceId⟩,
      h.objectId⟩, h.guid⟩, h.numErrors⟩, h.interface⟩, h.numSlots⟩, h.imageId⟩,
      h.imageVersion⟩, h.assignment⟩, h.numMmio⟩, h.numInterrupts⟩

instance [DecidableEq ρ] (p filter : Properties ρ) : Decidable (p.Meets filter) :=
  decidable_of_iff _ (satisfies_iff_meets p filter)

/-! ## The order -/

section

variable {p q r : Properties ρ}

theorem Meets.refl (p : Properties ρ) : p.Meets p := by
  constructor <;> exact FieldMeets.refl _

theorem meets_empty (p : Properties ρ) : p.Meets {} := by
  constructor <;> exact nofun

theorem Meets.trans (h : p.Meets q) (h' : q.Meets r) : p.Meets r where
  parent := h.parent.trans h'.parent
  kind := h.kind.trans h'.kind
  segment := h.segment.trans h'.segment
  bus := h.bus.trans h'.bus
  device := h.device.trans h'.device
  function := h.function.trans h'.function
  socketId := h.socketId.trans h'.socketId
  vendorId := h.vendorId.trans h'.vendorId
  deviceId := h.deviceId.trans h'.deviceId
  subsystemVendorId := h.subsystemVendorId.trans h'.subsystemVendorId
  subsystemDeviceId := h.subsystemDeviceId.trans h'.subsystemDeviceId
  objectId := h.objectId.trans h'.objectId
  guid := h.guid.trans h'.guid
  numErrors := h.numErrors.trans h'.numErrors
  interface := h.interface.trans h'.interface
  numSlots := h.numSlots.trans h'.numSlots
  imageId := h.imageId.trans h'.imageId
  imageVersion := h.imageVersion.trans h'.imageVersion
  assignment := h.assignment.trans h'.assignment
  numMmio := h.numMmio.trans h'.numMmio
  numInterrupts := h.numInterrupts.trans h'.numInterrupts

theorem Meets.antisymm (h : p.Meets q) (h' : q.Meets p) : p = q := by
  apply Properties.ext
  case parent => exact h.parent.antisymm h'.parent
  case kind => exact h.kind.antisymm h'.kind
  case segment => exact h.segment.antisymm h'.segment
  case bus => exact h.bus.antisymm h'.bus
  case device => exact h.device.antisymm h'.device
  case function => exact h.function.antisymm h'.function
  case socketId => exact h.socketId.antisymm h'.socketId
  case vendorId => exact h.vendorId.antisymm h'.vendorId
  case deviceId => exact h.deviceId.antisymm h'.deviceId
  case subsystemVendorId => exact h.subsystemVendorId.antisymm h'.subsystemVendorId
  case subsystemDeviceId => exact h.subsystemDeviceId.antisymm h'.subsystemDeviceId
  case objectId => exact h.objectId.antisymm h'.objectId
  case guid => exact h.guid.antisymm h'.guid
  case numErrors => exact h.numErrors.antisymm h'.numErrors
  case interface => exact h.interface.antisymm h'.interface
  case numSlots => exact h.numSlots.antisymm h'.numSlots
  case imageId => exact h.imageId.antisymm h'.imageId
  case imageVersion => exact h.imageVersion.antisymm h'.imageVersion
  case assignment => exact h.assignment.antisymm h'.assignment
  case numMmio => exact h.numMmio.antisymm h'.numMmio
  case numInterrupts => exact h.numInterrupts.antisymm h'.numInterrupts

end

/-! ## Translating parents -/

/-- Naming parents differently does not matter if the two at hand are told apart. -/
theorem meets_mapParent_of_injOn {f : ρ → σ} {p filter : Properties ρ}
    (hf : Set.InjOn f {parent | p.parent = some parent ∨ filter.parent = some parent}) :
    (p.mapParent f).Meets (filter.mapParent f) ↔ p.Meets filter := by
  have hparent : FieldMeets (p.parent.map f) (filter.parent.map f) ↔
      FieldMeets p.parent filter.parent := FieldMeets.map_iff hf
  constructor
  · exact fun h => { h with parent := hparent.mp h.parent }
  · exact fun h => { h with parent := hparent.mpr h.parent }

/-- Naming parents differently does not matter. -/
theorem meets_mapParent {f : ρ → σ} (hf : Function.Injective f) (p filter : Properties ρ) :
    (p.mapParent f).Meets (filter.mapParent f) ↔ p.Meets filter :=
  meets_mapParent_of_injOn hf.injOn

/-- Two property sets say the same of everything but the parent. -/
structure SameBesidesParent (p : Properties ρ) (q : Properties σ) : Prop where
  kind : q.kind = p.kind
  segment : q.segment = p.segment
  bus : q.bus = p.bus
  device : q.device = p.device
  function : q.function = p.function
  socketId : q.socketId = p.socketId
  vendorId : q.vendorId = p.vendorId
  deviceId : q.deviceId = p.deviceId
  subsystemVendorId : q.subsystemVendorId = p.subsystemVendorId
  subsystemDeviceId : q.subsystemDeviceId = p.subsystemDeviceId
  objectId : q.objectId = p.objectId
  guid : q.guid = p.guid
  numErrors : q.numErrors = p.numErrors
  interface : q.interface = p.interface
  numSlots : q.numSlots = p.numSlots
  imageId : q.imageId = p.imageId
  imageVersion : q.imageVersion = p.imageVersion
  assignment : q.assignment = p.assignment
  numMmio : q.numMmio = p.numMmio
  numInterrupts : q.numInterrupts = p.numInterrupts

theorem sameBesidesParent_withParent (p : Properties ρ) (parent : Option σ) :
    p.SameBesidesParent (p.withParent parent) := by
  constructor <;> rfl

/-- A translation that may fail succeeds if there is nothing to translate, or with what it
succeeds on. -/
theorem mapParentM_eq_ok_iff {f : ρ → Except ε σ} {p : Properties ρ} {q : Properties σ} :
    p.mapParentM f = .ok q ↔
      (p.parent = none ∧ q = p.withParent none) ∨
        ∃ parent image, p.parent = some parent ∧ f parent = .ok image ∧
          q = p.withParent (some image) := by
  unfold mapParentM
  cases hp : p.parent with
  | none =>
    simp only [pure, Except.pure, Except.ok.injEq, true_and, reduceCtorEq, false_and,
      exists_false, or_false]
    exact eq_comm
  | some parent =>
    simp only [reduceCtorEq, false_and, false_or, Option.some.injEq]
    cases hf : f parent with
    | error e => simp [bind, Except.bind, hf]
    | ok image =>
      simp only [bind, Except.bind, pure, Except.pure, Except.ok.injEq]
      constructor
      · rintro rfl
        exact ⟨parent, image, rfl, hf, rfl⟩
      · rintro ⟨_, other, rfl, hother, rfl⟩
        rw [Except.ok.inj (hf.symm.trans hother)]

/-- Where it succeeds, a translation that may fail changes the parent alone, and as one
that cannot fail does. -/
theorem eq_mapParent_of_mapParentM {f : ρ → Except ε σ} {p : Properties ρ} {q : Properties σ}
    (h : p.mapParentM f = .ok q) {g : ρ → σ}
    (hg : ∀ parent, p.parent = some parent → f parent = .ok (g parent)) : q = p.mapParent g := by
  unfold mapParent
  rcases mapParentM_eq_ok_iff.mp h with ⟨hp, rfl⟩ | ⟨parent, image, hp, hf, rfl⟩
  · rw [hp]
    rfl
  · rw [hp, Except.ok.inj (hf.symm.trans (hg parent hp))]
    rfl

theorem sameBesidesParent_of_mapParentM {f : ρ → Except ε σ} {p : Properties ρ}
    {q : Properties σ} (h : p.mapParentM f = .ok q) : p.SameBesidesParent q := by
  rcases mapParentM_eq_ok_iff.mp h with ⟨-, rfl⟩ | ⟨_, _, -, -, rfl⟩
  · exact p.sameBesidesParent_withParent _
  · exact p.sameBesidesParent_withParent _

/-- A filter may set the parent alone. -/
theorem meets_parent_iff {p : Properties ρ} {parent : ρ} :
    p.Meets { parent := some parent } ↔ p.parent = some parent := by
  refine ⟨fun h => h.parent parent rfl, fun h => ?_⟩
  constructor
  case parent =>
    rintro _ ⟨⟩
    exact h
  all_goals exact nofun

/-- A filter may set the bus alone. -/
theorem meets_bus_iff {p : Properties ρ} {bus : UInt8} :
    p.Meets { bus := some bus } ↔ p.bus = some bus := by
  refine ⟨fun h => h.bus bus rfl, fun h => ?_⟩
  constructor
  case bus =>
    rintro _ ⟨⟩
    exact h
  all_goals exact nofun

/-- Matching orders property sets, with the empty one at the far end, and translating
parents respects the order, whether or not the translation can fail. -/
theorem satisfies_order [DecidableEq ρ] [DecidableEq σ] (p q r : Properties ρ) (g : ρ → σ)
    (f : ρ → Except ε σ) :
    (p.satisfies p = true ∧ p.satisfies {} = true) ∧
    (p.satisfies q = true → q.satisfies r = true → p.satisfies r = true) ∧
    (p.satisfies q = true → q.satisfies p = true → p = q) ∧
    (Set.InjOn g {parent | p.parent = some parent ∨ q.parent = some parent} →
      ((p.mapParent g).satisfies (q.mapParent g) = true ↔ p.satisfies q = true)) ∧
    ((∃ p', p.mapParentM f = .ok p') ↔
      p.parent = none ∨ ∃ parent image, p.parent = some parent ∧ f parent = .ok image) ∧
    (∀ p', p.mapParentM f = .ok p' → p.SameBesidesParent p' ∧
      ((∀ parent, p.parent = some parent → f parent = .ok (g parent)) → p' = p.mapParent g)) := by
  simp only [satisfies_iff_meets]
  refine ⟨⟨.refl p, p.meets_empty⟩, .trans, fun h => h.antisymm, meets_mapParent_of_injOn, ?_,
    fun p' h => ⟨sameBesidesParent_of_mapParentM h, eq_mapParent_of_mapParentM h⟩⟩
  simp only [mapParentM_eq_ok_iff]
  constructor
  · rintro ⟨_, ⟨hp, -⟩ | ⟨parent, image, hp, hf, -⟩⟩
    · exact .inl hp
    · exact .inr ⟨parent, image, hp, hf⟩
  · rintro (hp | ⟨parent, image, hp, hf⟩)
    · exact ⟨_, .inl ⟨hp, rfl⟩⟩
    · exact ⟨_, .inr ⟨parent, image, hp, hf, rfl⟩⟩

/-- An accelerator of the device that is numbered three. -/
def portOfThree : Properties Nat := { parent := some 3, kind := some .accelerator, bus := some 94 }

/-- A translation of all numbers but zero, which keeps three and six apart. -/
def remainder (n : Nat) : Except String Nat := if n = 0 then .error "parent" else .ok (n % 4)

theorem satisfies_order_portOfThree :
    (portOfThree.satisfies { parent := some 3, bus := some 94 } = true ∧
      Properties.satisfies { parent := some 3, bus := some 94 } { bus := some 94 } = true ∧
      portOfThree.satisfies { bus := some 94 } = true) ∧
    (portOfThree.satisfies portOfThree = true ∧ portOfThree = portOfThree) ∧
    (Set.InjOn (· % 4) {n | portOfThree.parent = some n ∨
        (Properties.parent { parent := some 6 }) = some n} ∧
      ((portOfThree.mapParent (· % 4)).satisfies
          (({ parent := some 6 } : Properties Nat).mapParent (· % 4)) = true ↔
        portOfThree.satisfies { parent := some 6 } = true)) ∧
    portOfThree.mapParentM remainder = .ok (portOfThree.withParent (some 3)) ∧
    (∀ n, portOfThree.parent = some n → remainder n = .ok (n % 4)) ∧
    portOfThree.withParent (some 3) = portOfThree.mapParent (· % 4) := by
  have hinj : Set.InjOn (· % 4) {n | portOfThree.parent = some n ∨
      (Properties.parent { parent := some 6 }) = some n} := by
    intro m hm n hn h
    simp only [portOfThree, Set.mem_ofPred_eq, Option.some.injEq] at hm hn
    dsimp only at h
    omega
  have hremainder : ∀ n, portOfThree.parent = some n → remainder n = .ok (n % 4) := by
    rintro _ ⟨⟩
    rfl
  obtain ⟨-, htrans, -⟩ := satisfies_order portOfThree { parent := some 3, bus := some 94 }
    { bus := some 94 } (· % 4) remainder
  obtain ⟨-, -, hantisymm, -⟩ :=
    satisfies_order portOfThree portOfThree portOfThree (· % 4) remainder
  obtain ⟨-, -, -, hmap, -, hresult⟩ :=
    satisfies_order portOfThree { parent := some 6 } portOfThree (· % 4) remainder
  exact ⟨⟨rfl, rfl, htrans rfl rfl⟩, ⟨rfl, hantisymm rfl rfl⟩, ⟨hinj, hmap hinj⟩, rfl, hremainder,
    (hresult _ rfl).2 hremainder⟩

end Properties

end DeviceBroker
