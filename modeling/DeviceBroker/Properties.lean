/-!
# Property sets

A `Properties ρ` describes a device or an accelerator and doubles as a filter:
every field may be absent, and an absent field of a filter matches anything.
The parent is a reference of any type `ρ`, a native token inside the broker
and a remote identifier outside; `mapParent` and `mapParentM` convert it and
keep the other twenty fields.
-/

namespace DeviceBroker

/-- Sixteen bytes that name a function. -/
abbrev Guid := Vector UInt8 16

/-- What a token or an enumerated resource is. -/
inductive ResourceKind where
  /-- The management function of a card. -/
  | device
  /-- A port that users program. -/
  | accelerator
  deriving DecidableEq, Repr

/-- Whether somebody has an accelerator open. -/
inductive Assignment where
  | assigned
  | unassigned
  deriving DecidableEq, Repr

/-- A version of a management image. -/
@[ext] structure ImageVersion where
  major : UInt8
  minor : UInt8
  patch : UInt16
  deriving DecidableEq, Repr

/-- A description of a resource, or a filter on descriptions. -/
@[ext] structure Properties (ρ : Type) where
  /-- The device that an accelerator belongs to. -/
  parent : Option ρ := none
  kind : Option ResourceKind := none
  segment : Option UInt16 := none
  bus : Option UInt8 := none
  device : Option UInt8 := none
  function : Option UInt8 := none
  socketId : Option UInt8 := none
  vendorId : Option UInt16 := none
  deviceId : Option UInt16 := none
  subsystemVendorId : Option UInt16 := none
  subsystemDeviceId : Option UInt16 := none
  objectId : Option UInt64 := none
  guid : Option Guid := none
  numErrors : Option UInt32 := none
  interface : Option String := none
  numSlots : Option UInt32 := none
  imageId : Option UInt64 := none
  imageVersion : Option ImageVersion := none
  assignment : Option Assignment := none
  numMmio : Option UInt32 := none
  numInterrupts : Option UInt32 := none
  deriving DecidableEq

/-- A wanted field matches when it is absent or equal to the field at hand. -/
def fieldMatches {α : Type} [DecidableEq α] (wanted actual : Option α) : Bool :=
  match wanted with
  | none => true
  | some w => actual == some w

theorem fieldMatches_iff {α : Type} [DecidableEq α] (wanted actual : Option α) :
    fieldMatches wanted actual = true ↔ ∀ w, wanted = some w → actual = some w := by
  cases wanted <;> simp [fieldMatches]

namespace Properties

variable {ρ σ ε : Type}

/-- Whether the properties have every field that the filter sets. -/
def satisfies [DecidableEq ρ] (p filter : Properties ρ) : Bool :=
  fieldMatches filter.parent p.parent
    && fieldMatches filter.kind p.kind
    && fieldMatches filter.segment p.segment
    && fieldMatches filter.bus p.bus
    && fieldMatches filter.device p.device
    && fieldMatches filter.function p.function
    && fieldMatches filter.socketId p.socketId
    && fieldMatches filter.vendorId p.vendorId
    && fieldMatches filter.deviceId p.deviceId
    && fieldMatches filter.subsystemVendorId p.subsystemVendorId
    && fieldMatches filter.subsystemDeviceId p.subsystemDeviceId
    && fieldMatches filter.objectId p.objectId
    && fieldMatches filter.guid p.guid
    && fieldMatches filter.numErrors p.numErrors
    && fieldMatches filter.interface p.interface
    && fieldMatches filter.numSlots p.numSlots
    && fieldMatches filter.imageId p.imageId
    && fieldMatches filter.imageVersion p.imageVersion
    && fieldMatches filter.assignment p.assignment
    && fieldMatches filter.numMmio p.numMmio
    && fieldMatches filter.numInterrupts p.numInterrupts

def withParent (p : Properties ρ) (parent : Option σ) : Properties σ where
  parent := parent
  kind := p.kind
  segment := p.segment
  bus := p.bus
  device := p.device
  function := p.function
  socketId := p.socketId
  vendorId := p.vendorId
  deviceId := p.deviceId
  subsystemVendorId := p.subsystemVendorId
  subsystemDeviceId := p.subsystemDeviceId
  objectId := p.objectId
  guid := p.guid
  numErrors := p.numErrors
  interface := p.interface
  numSlots := p.numSlots
  imageId := p.imageId
  imageVersion := p.imageVersion
  assignment := p.assignment
  numMmio := p.numMmio
  numInterrupts := p.numInterrupts

/-- Convert the parent, if there is one. -/
def mapParent (f : ρ → σ) (p : Properties ρ) : Properties σ :=
  p.withParent (p.parent.map f)

/-- Convert the parent by a computation, which runs only if there is one. -/
def mapParentM {m : Type → Type} [Monad m] (f : ρ → m σ) (p : Properties ρ) : m (Properties σ) :=
  match p.parent with
  | none => pure (p.withParent none)
  | some parent => do return p.withParent (some (← f parent))

@[simp] theorem parent_withParent (p : Properties ρ) (parent : Option σ) :
    (p.withParent parent).parent = parent := rfl

@[simp] theorem withParent_parent (p : Properties ρ) : p.withParent p.parent = p := rfl

@[simp] theorem withParent_withParent {τ : Type} (p : Properties ρ) (a : Option σ)
    (b : Option τ) : (p.withParent a).withParent b = p.withParent b := rfl

end Properties

end DeviceBroker
