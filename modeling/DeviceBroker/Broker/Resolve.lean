import DeviceBroker.Broker.Program

/-!
# Resolving identifiers

The steps that every request is made of. Looking an identifier up fails with
`invalidParam` before the driver is called; naming a child through a handle
that does not own it fails with `notFound`. What the driver has created is
registered, or destroyed again if no identifier can be had for it. What is to
be destroyed is claimed first, and only a destruction that succeeded removes
its identifier.
-/

namespace DeviceBroker.Service

variable {α : Type}

def device (call : DeviceCall) : Service call.Value := ExceptT.mk (.perform (.call call))

/-- Go on only if the condition holds. -/
def require (condition : Bool) (fault : Fault) : Service Unit :=
  ExceptT.mk (.done (if condition then .ok () else .error fault))

def lookup (cls : ResourceClass) (id : RemoteId) : Service cls.Entry := ExceptT.mk do
  match ← Program.perform (.find cls id) with
  | some entry => return .ok entry
  | none => return .error .invalidParam

/-- The entry of a live identifier that the given handle owns. -/
def lookupOwned (cls : ResourceClass) (id owner : RemoteId) : Service cls.Entry := do
  let entry ← lookup cls id
  require (cls.owner? entry == some owner) .notFound
  return entry

/-- A handle and a buffer of it that covers a range. -/
def bufferRange (handleId bufferId : RemoteId) (offset count : UInt64) :
    Service (HandleEntry × BufferEntry) := do
  let handle ← lookup .handle handleId
  let buffer ← lookupOwned .buffer bufferId handleId
  require (buffer.covers offset count) .invalidParam
  return (handle, buffer)

/-- Claim an entry, destroy what is behind it, and remove it if that succeeded.
Otherwise the claim is given back and the entry stays. -/
def teardown (cls : ResourceClass) (id : RemoteId) (destroy : cls.Entry → Service Unit) :
    Service Unit := ExceptT.mk do
  match ← Program.perform (.claim cls id) with
  | .error .absent => return .error .invalidParam
  | .error .busy => return .error .busy
  | .ok entry =>
    match ← (destroy entry).run with
    | .ok () =>
      let _ ← Program.perform (.settle cls id .commit)
      return .ok ()
    | .error fault =>
      let _ ← Program.perform (.settle cls id .release)
      return .error fault

/-- Register what the driver has just created. If no identifier can be had for
it, the call that destroys it is made, whatever that answers. -/
def registerOrUndo (cls : ResourceClass) (entry : cls.Entry) (undo : DeviceCall) :
    Service RemoteId := ExceptT.mk do
  match ← Program.perform (.register cls entry) with
  | some id => return .ok id
  | none =>
    let _ ← Program.perform (.call undo)
    return .error .exception

/-- The identifier of a token, which is tracked from now on. -/
def intern (token : NativeToken) : Service RemoteId := ExceptT.mk do
  match ← Program.perform (.intern token) with
  | some registration => return .ok registration.id
  | none => return .error .exception

/-- Track a token that the driver has handed out. If no identifier can be had
for it, the token is given back. -/
def exportToken (native : NativeHeader) : Service TokenHeader := ExceptT.mk do
  match ← (intern native.token).run with
  | .ok id => return .ok ⟨id, native.header⟩
  | .error fault =>
    let _ ← Program.perform (.call (.destroyToken native.token))
    return .error fault

/-- The properties with their parent named by its identifier. -/
def exportProperties (properties : Properties NativeToken) : Service (Properties RemoteId) :=
  properties.mapParentM intern

/-- The filter with its parent named by its native token. -/
def importFilter (filter : Properties RemoteId) : Service (Properties NativeToken) :=
  filter.mapParentM fun id => do
    let entry ← lookup .token id
    return entry.token

end DeviceBroker.Service
