import DeviceBroker.Simulator.State

/-!
# Registers of the simulated cards

Mapping of register regions, and reads and writes of 4, 8 or 64 bytes. All
widths share the bytes of one region, least significant byte first; an access
has to be aligned to its width and lie inside the region. Access does not
depend on a mapping.
-/

namespace DeviceBroker.Simulator

variable {cards : Nat}

/-- The address at which the first region of the first resource is mapped. -/
def mappingBase : UInt64 := 0x40000000

/-- The state with the mapping of a region of a handle set to a value. -/
def setMapped (s : Simulator cards) (handle : NativeHandle) (region : UInt32) (mapped : Bool) :
    Simulator cards :=
  { s with
    handles := s.handles.modify handle fun state =>
      { state with mapped := override state.mapped region mapped } }

/-- Map a region; mapping it again is no error. -/
def mapMmio (s : Simulator cards) (handle : NativeHandle) (region : UInt32) :
    Except Fault (UInt64 × Simulator cards) :=
  match s.handleOf handle with
  | .error fault => .error fault
  | .ok state =>
    if (s.resources state.site).regions.length ≤ region.toNat then .error .invalidParam
    else
      .ok (mappingBase + UInt64.ofNat state.site.index * 0x100000
          + UInt64.ofNat region.toNat * UInt64.ofNat Resource.regionSize,
        s.setMapped handle region true)

def unmapMmio (s : Simulator cards) (handle : NativeHandle) (region : UInt32) :
    Except Fault (Unit × Simulator cards) :=
  match s.handleOf handle with
  | .error fault => .error fault
  | .ok state =>
    if state.mapped region then .ok ((), s.setMapped handle region false)
    else .error .invalidParam

/-- The region for an access of a width, with the site of its resource. -/
def regionFor (s : Simulator cards) (handle : NativeHandle) (region : UInt32) (offset : UInt64)
    (width : Nat) : Except Fault (Site cards × Memory) :=
  match s.handleOf handle with
  | .error fault => .error fault
  | .ok state =>
    match (s.resources state.site).regions[region.toNat]? with
    | none => .error .invalidParam
    | some memory =>
      if offset.toNat % width = 0 && memory.hasRange offset.toNat width then
        .ok (state.site, memory)
      else .error .invalidParam

def readRegister (s : Simulator cards) (handle : NativeHandle) (region : UInt32) (offset : UInt64)
    (width : Nat) : Except Fault Memory :=
  (s.regionFor handle region offset width).map fun found => found.2.slice offset.toNat width

def writeRegister (s : Simulator cards) (handle : NativeHandle) (region : UInt32) (offset : UInt64)
    (data : Memory) : Except Fault (Unit × Simulator cards) :=
  match s.regionFor handle region offset data.size with
  | .error fault => .error fault
  | .ok (site, _) =>
    .ok ((), s.updateResource site fun r =>
      { r with
        regions := r.regions.modify region.toNat fun memory => memory.write offset.toNat data })

def readMmio32 (s : Simulator cards) (handle : NativeHandle) (region : UInt32) (offset : UInt64) :
    Except Fault UInt32 :=
  (s.readRegister handle region offset 4).map fun data => UInt32.ofNat (data.word 0 4)

def readMmio64 (s : Simulator cards) (handle : NativeHandle) (region : UInt32) (offset : UInt64) :
    Except Fault UInt64 :=
  (s.readRegister handle region offset 8).map fun data => UInt64.ofNat (data.word 0 8)

def readMmio512 (s : Simulator cards) (handle : NativeHandle) (region : UInt32) (offset : UInt64) :
    Except Fault Word512 :=
  (s.readRegister handle region offset 64).map fun data => Vector.ofFn fun i => data.byte i

end DeviceBroker.Simulator
