import DeviceBroker.Outcome
import DeviceBroker.Override
import DeviceBroker.Simulator.Call
import DeviceBroker.Simulator.Resource
import DeviceBroker.Table

/-!
# State of the simulated cards

A `Simulator cards` is a driver over that many cards. Its resources stand at
sites, two to a card; a live token, handle or object names a site. The state
also holds the counters that new native values come from, the calls received,
the failures armed for later calls and the image files of the host.

Bus numbers are bytes that count up from a first one, so only so many cards
can be told apart: `boot?` refuses more.
-/

namespace DeviceBroker

/-- The place of a resource: its card and which of the two it is. -/
@[ext] structure Site (cards : Nat) where
  card : Fin cards
  kind : ResourceKind
  deriving DecidableEq, Repr

namespace Site

variable {cards : Nat}

/-- Every site in card order, the management device before the accelerator. -/
def all (cards : Nat) : List (Site cards) :=
  (List.finRange cards).flatMap fun card => [⟨card, .device⟩, ⟨card, .accelerator⟩]

def index (site : Site cards) : Nat :=
  2 * site.card + match site.kind with | .device => 0 | .accelerator => 1

def firstToken : Nat := 0x1000

/-- The token that enumeration hands out for a site. -/
def canonical (site : Site cards) : NativeToken := ⟨firstToken + site.index⟩

def management (site : Site cards) : Site cards := ⟨site.card, .device⟩

/-- The accelerator of the same card. -/
def accelerator (site : Site cards) : Site cards := ⟨site.card, .accelerator⟩

def firstBus : Nat := 0x5e

def bus (site : Site cards) : UInt8 := UInt8.ofNat (firstBus + site.card)

def vendorId : UInt16 := 0x8086

def deviceId : UInt16 := 0x0b30

def objectId (site : Site cards) : UInt64 :=
  0xf50000 + UInt64.ofNat site.card * 256 +
    match site.kind with | .device => 0 | .accelerator => 1

/-- The slots of a management device that can be reconfigured. -/
def numSlots : UInt32 := 1

def properties (site : Site cards) (r : Resource) : Properties NativeToken :=
  let shared : Properties NativeToken :=
    { kind := some site.kind
      segment := some 0
      bus := some site.bus
      device := some 0
      function := some 0
      socketId := some (UInt8.ofNat site.card)
      vendorId := some vendorId
      deviceId := some deviceId
      subsystemVendorId := some vendorId
      subsystemDeviceId := some 0
      objectId := some site.objectId
      guid := some r.guid
      interface := some "dfl" }
  match site.kind with
  | .device =>
    { shared with
      numErrors := some 4
      numSlots := some numSlots
      imageId := some 0x63000023000000
      imageVersion := some ⟨1, 2, 3⟩ }
  | .accelerator =>
    { shared with
      parent := some site.management.canonical
      numErrors := some 2
      assignment := some (if r.openCount > 0 then .assigned else .unassigned)
      numMmio := some 2
      numInterrupts := some 0 }

def header (site : Site cards) (r : Resource) : DeviceHeader where
  vendorId := vendorId
  deviceId := deviceId
  segment := 0
  bus := site.bus
  device := 0
  function := 0
  interface := "dfl"
  kind := site.kind
  objectId := site.objectId
  guid := r.guid
  subsystemVendorId := vendorId
  subsystemDeviceId := 0

end Site

/-- A buffer of the driver. -/
@[ext] structure Buffer where
  data : Memory
  address : UInt64
  ioAddress : UInt64

/-- An open handle of the driver. -/
@[ext] structure OpenHandle (cards : Nat) where
  site : Site cards
  exclusive : Bool
  mapped : UInt32 → Bool
  buffers : Table Nat Buffer

/-- A live object of the driver. -/
@[ext] structure OpenObject (cards : Nat) where
  site : Site cards
  path : List String

/-- A driver over simulated cards. -/
@[ext] structure Simulator (cards : Nat) where
  resources : Site cards → Resource
  tokens : Table NativeToken (Site cards)
  handles : Table NativeHandle (OpenHandle cards)
  objects : Table NativeObject (OpenObject cards)
  nextToken : Nat
  nextHandle : Nat
  nextObject : Nat
  nextWorkspace : Nat
  /-- Whether the values of closed handles are given out again. -/
  recycling : Bool
  calls : Nat
  /-- The failure that the next call of a kind is to report. -/
  armed : CallKind → Option Fault
  /-- The readable image files of the host. -/
  images : String → Option (List UInt8)

namespace Simulator

variable {cards : Nat}

/-- The most cards whose bus numbers are distinct bytes. -/
def maxCards : Nat := 256 - Site.firstBus

/-- Cards that have just started. -/
def start (cards : Nat) (images : String → Option (List UInt8)) : Simulator cards where
  resources site := .initial site.kind
  tokens := .empty
  handles := .empty
  objects := .empty
  nextToken := 0
  nextHandle := 0
  nextObject := 0
  nextWorkspace := 1
  recycling := false
  calls := 0
  armed _ := none
  images := images

/-- Cards that have just started, unless a bus number does not fit a byte. -/
def boot? (cards : Nat) (images : String → Option (List UInt8)) : Option (Simulator cards) :=
  if cards ≤ maxCards then some (start cards images) else none

def arm (s : Simulator cards) (kind : CallKind) (fault : Fault) : Simulator cards :=
  { s with armed := override s.armed kind (some fault) }

/-- Give out the values of closed handles again from now on. -/
def recycle (s : Simulator cards) : Simulator cards := { s with recycling := true }

def openHandles (s : Simulator cards) : Nat := s.handles.size

def updateResource (s : Simulator cards) (site : Site cards) (change : Resource → Resource) :
    Simulator cards :=
  { s with resources := override s.resources site (change (s.resources site)) }

def siteOf (s : Simulator cards) (token : NativeToken) : Except Fault (Site cards) :=
  match s.tokens.find? token with
  | some site => .ok site
  | none => .error .invalidParam

def handleOf (s : Simulator cards) (handle : NativeHandle) : Except Fault (OpenHandle cards) :=
  match s.handles.find? handle with
  | some state => .ok state
  | none => .error .invalidParam

def objectOf (s : Simulator cards) (object : NativeObject) : Except Fault (OpenObject cards) :=
  match s.objects.find? object with
  | some state => .ok state
  | none => .error .invalidParam

def bufferOf (s : Simulator cards) (handle : NativeHandle) (workspace : Nat) :
    Except Fault Buffer :=
  match s.handleOf handle with
  | .error fault => .error fault
  | .ok state =>
    match state.buffers.find? workspace with
    | some buffer => .ok buffer
    | none => .error .invalidParam

def nodeOf (s : Simulator cards) (object : OpenObject cards) : Except Fault TreeNode :=
  match (s.resources object.site).tree.find? object.path with
  | some node => .ok node
  | none => .error .notFound

end Simulator

end DeviceBroker
