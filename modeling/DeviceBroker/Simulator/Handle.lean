import DeviceBroker.Simulator.Telemetry
import DeviceBroker.Simulator.Token

/-!
# Handles of the simulated cards

Opening and closing, clocks, metrics and reconfiguration. A resource is open
either through one exclusive handle or through any number of shared ones. The
value of a new handle is the least free one from a starting point on: from
zero when closed values are recycled, else from beyond every earlier value.
-/

namespace DeviceBroker.Simulator

variable {cards : Nat}

def firstHandle : Nat := 0x20000000

def handleAt (slot : Nat) : NativeHandle := ⟨firstHandle + slot⟩

/-- The least free slot from a starting point on. Among one slot more than there
are open handles, one is free. -/
def freeSlot (s : Simulator cards) : Nat :=
  let first := if s.recycling then 0 else s.nextHandle
  ((List.range' first (s.handles.size + 1)).find? fun slot =>
    !s.handles.contains (handleAt slot)).getD (first + s.handles.size)

def openHandle (s : Simulator cards) (token : NativeToken) (flags : UInt32) :
    Except Fault (NativeHandle × Simulator cards) :=
  match s.siteOf token with
  | .error fault => .error fault
  | .ok site =>
    let shared := Flags.has flags Flags.openShared
    let r := s.resources site
    if r.exclusive || (!shared && r.openCount > 0) then .error .busy
    else
      let slot := s.freeSlot
      let opened := s.updateResource site fun r =>
        { r with openCount := r.openCount + 1, exclusive := !shared }
      .ok (handleAt slot,
        { opened with
          nextHandle := max s.nextHandle (slot + 1)
          handles := s.handles.insert (handleAt slot) ⟨site, !shared, fun _ => false, .empty⟩ })

/-- Close a handle, with its mappings and buffers. -/
def closeHandle (s : Simulator cards) (handle : NativeHandle) :
    Except Fault (Unit × Simulator cards) :=
  match s.handleOf handle with
  | .error fault => .error fault
  | .ok closed =>
    .ok ((), { s with handles := s.handles.erase handle }.updateResource closed.site fun r =>
      { r with
        openCount := r.openCount - 1
        exclusive := if closed.exclusive then false else r.exclusive })

def resetHandle (s : Simulator cards) (handle : NativeHandle) :
    Except Fault (Unit × Simulator cards) :=
  match s.handleOf handle with
  | .error fault => .error fault
  | .ok state => .ok ((), s.updateResource state.site (Resource.reset state.site.kind))

def handleProperties (s : Simulator cards) (handle : NativeHandle) :
    Except Fault (Properties NativeToken × Simulator cards) :=
  (s.handleOf handle).map fun state => s.propertiesAt state.site

/-- Set the clocks; an absent low frequency is half the high one. -/
def setUserClock (s : Simulator cards) (handle : NativeHandle) (highHz lowHz : UInt64) :
    Except Fault (Unit × Simulator cards) :=
  if highHz = 0 then .error .invalidParam
  else
    match s.handleOf handle with
    | .error fault => .error fault
    | .ok state =>
      match (s.resources state.site).clock with
      | none => .error .notSupported
      | some _ =>
        .ok ((), s.updateResource state.site fun r =>
          { r with clock := some ⟨highHz, if lowHz = 0 then highHz / 2 else lowHz⟩ })

def userClock (s : Simulator cards) (handle : NativeHandle) : Except Fault UserClock :=
  match s.handleOf handle with
  | .error fault => .error fault
  | .ok state =>
    match (s.resources state.site).clock with
    | some clock => .ok clock
    | none => .error .notSupported

/-- Sample metrics of a handle's resource; absent numbers are unknown names. -/
def sampleMetrics (s : Simulator cards) (handle : NativeHandle) (numbers : List (Option UInt64)) :
    Except Fault (List Metric) × Simulator cards :=
  match s.handleOf handle with
  | .error fault => (.error fault, s)
  | .ok state =>
    let (result, r) := Telemetry.sampleAll state.site.card numbers (s.resources state.site)
    (result, s.updateResource state.site fun _ => r)

/-- Load the accelerator of a card from an image file. The first sixteen bytes of
the image are the guid of the function. -/
def reconfigureSlot (s : Simulator cards) (handle : NativeHandle) (slot : UInt32) (path : String) :
    Except Fault (Unit × Simulator cards) :=
  match s.images path with
  | none => .error .notFound
  | some image =>
    match s.handleOf handle with
    | .error fault => .error fault
    | .ok state =>
      match state.site.kind with
      | .accelerator => .error .invalidParam
      | .device =>
        if Site.numSlots ≤ slot then .error .invalidParam
        else if h : (image.take 16).length = 16 then
          let accelerator := state.site.accelerator
          if (s.resources accelerator).openCount > 0 then .error .busy
          else
            .ok ((), s.updateResource accelerator
              (Resource.load ⟨(image.take 16).toArray, by simpa using h⟩))
        else .error .reconfiguration

end DeviceBroker.Simulator
