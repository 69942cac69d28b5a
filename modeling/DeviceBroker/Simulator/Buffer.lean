import DeviceBroker.Simulator.State

/-!
# Buffers of the simulated cards

Shared buffers belong to the handle they were prepared through and are named
by workspace numbers that are never given out twice. Every workspace number
has its own stretch of input/output addresses, as long as the largest buffer.
-/

namespace DeviceBroker.Simulator

variable {cards : Nat}

def maxBufferBytes : UInt64 := 0x4000000

def ioBase : UInt64 := 0x100000000

/-- The first address of a buffer that the driver allocates. -/
def virtualBase : UInt64 := 0x7f0000000000

/-- Where the addresses of a workspace start, counted from a first address. -/
def workspaceOffset (workspace : Nat) : UInt64 := UInt64.ofNat workspace <<< 26

def changeBuffers (s : Simulator cards) (handle : NativeHandle)
    (change : Table Nat Buffer → Table Nat Buffer) : Simulator cards :=
  { s with
    handles := s.handles.modify handle fun state =>
      { state with buffers := change state.buffers } }

/-- Set up a buffer of zeros. An address is supplied exactly when the flag for it
is set. -/
def prepareBuffer (s : Simulator cards) (handle : NativeHandle) (length : UInt64)
    (address : Option UInt64) (flags : UInt32) :
    Except Fault (PreparedBuffer × Simulator cards) :=
  if length = 0 then .error .invalidParam
  else if Flags.has flags Flags.preallocated != address.isSome then .error .invalidParam
  else if maxBufferBytes < length then .error .noMemory
  else
    match s.handleOf handle with
    | .error fault => .error fault
    | .ok _ =>
      let workspace := s.nextWorkspace
      let start := address.getD (virtualBase + workspaceOffset workspace)
      let buffer : Buffer := ⟨.zeros length.toNat, start, ioBase + workspaceOffset workspace⟩
      .ok (⟨workspace, start⟩,
        { s with nextWorkspace := workspace + 1 }.changeBuffers handle fun buffers =>
          buffers.insert workspace buffer)

def releaseBuffer (s : Simulator cards) (handle : NativeHandle) (workspace : Nat) :
    Except Fault (Unit × Simulator cards) :=
  match s.bufferOf handle workspace with
  | .error fault => .error fault
  | .ok _ => .ok ((), s.changeBuffers handle fun buffers => buffers.erase workspace)

def ioAddress (s : Simulator cards) (handle : NativeHandle) (workspace : Nat) :
    Except Fault UInt64 :=
  (s.bufferOf handle workspace).map Buffer.ioAddress

def readBuffer (s : Simulator cards) (handle : NativeHandle) (workspace : Nat)
    (offset count : UInt64) : Except Fault Memory :=
  match s.bufferOf handle workspace with
  | .error fault => .error fault
  | .ok buffer =>
    if buffer.data.hasRange offset.toNat count.toNat then
      .ok (buffer.data.slice offset.toNat count.toNat)
    else .error .invalidParam

def writeBuffer (s : Simulator cards) (handle : NativeHandle) (workspace : Nat) (offset : UInt64)
    (data : Memory) : Except Fault (Unit × Simulator cards) :=
  match s.bufferOf handle workspace with
  | .error fault => .error fault
  | .ok buffer =>
    if buffer.data.hasRange offset.toNat data.size then
      .ok ((), s.changeBuffers handle fun buffers =>
        buffers.modify workspace fun buffer =>
          { buffer with data := buffer.data.write offset.toNat data })
    else .error .invalidParam

end DeviceBroker.Simulator
