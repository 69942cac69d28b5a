import DeviceBroker.RemoteId
import DeviceBroker.Text.Hex

/-!
# Entries

What the broker remembers about a resource. There are five classes of
resources, and every class has its own type of entry. Only tokens have a native
key, because only tokens can be handed out twice for the same native resource;
only mappings and buffers have an owner, the handle they were created through.
-/

namespace DeviceBroker

/-- A token of the driver. -/
@[ext] structure NativeToken where
  raw : Nat
  deriving DecidableEq, Repr

/-- A handle of the driver. -/
@[ext] structure NativeHandle where
  raw : Nat
  deriving DecidableEq, Repr

/-- An object of the driver. -/
@[ext] structure NativeObject where
  raw : Nat
  deriving DecidableEq, Repr

/-- The text of a native value: its kind, and the value in hexadecimal. -/
def nativeText (kind : String) (raw : Nat) : String :=
  kind ++ "(0x" ++ String.ofList (Hex.minimal raw) ++ ")"

def NativeToken.display (token : NativeToken) : String := nativeText "NativeToken" token.raw

def NativeHandle.display (handle : NativeHandle) : String := nativeText "NativeHandle" handle.raw

def NativeObject.display (object : NativeObject) : String := nativeText "NativeObject" object.raw

/-- The entry of a token. -/
@[ext] structure TokenEntry where
  token : NativeToken
  deriving DecidableEq, Repr

/-- The entry of a handle, with the token it was opened from. -/
@[ext] structure HandleEntry where
  handle : NativeHandle
  tokenId : RemoteId
  deriving DecidableEq, Repr

/-- The entry of a mapped register region. -/
@[ext] structure MappingEntry where
  owner : RemoteId
  region : UInt32
  base : UInt64
  deriving DecidableEq, Repr

/-- The entry of a shared buffer; `workspace` is the driver's name for it. -/
@[ext] structure BufferEntry where
  owner : RemoteId
  length : UInt64
  flags : UInt32
  workspace : Nat
  address : UInt64
  deriving DecidableEq, Repr

/-- The entry of an object. -/
@[ext] structure ObjectEntry where
  object : NativeObject
  deriving DecidableEq, Repr

/-- Whether the bytes from `offset` on, `count` of them, lie inside the buffer.
The end of the range is a natural number, so it cannot wrap. -/
def BufferEntry.covers (entry : BufferEntry) (offset count : UInt64) : Bool :=
  offset.toNat + count.toNat ≤ entry.length.toNat

/-- The classes of resources. -/
inductive ResourceClass where
  | token
  | handle
  | mapping
  | buffer
  | object
  deriving DecidableEq, Repr

namespace ResourceClass

def all : List ResourceClass := [.token, .handle, .mapping, .buffer, .object]

@[reducible] def Entry : ResourceClass → Type
  | .token => TokenEntry
  | .handle => HandleEntry
  | .mapping => MappingEntry
  | .buffer => BufferEntry
  | .object => ObjectEntry

instance : (cls : ResourceClass) → DecidableEq cls.Entry
  | .token => inferInstanceAs (DecidableEq TokenEntry)
  | .handle => inferInstanceAs (DecidableEq HandleEntry)
  | .mapping => inferInstanceAs (DecidableEq MappingEntry)
  | .buffer => inferInstanceAs (DecidableEq BufferEntry)
  | .object => inferInstanceAs (DecidableEq ObjectEntry)

/-- The key of the native resource behind an entry, for the class in which one
native resource can be handed out twice. -/
def nativeKey? : (cls : ResourceClass) → cls.Entry → Option Nat
  | .token, entry => some entry.token.raw
  | .handle, _ => none
  | .mapping, _ => none
  | .buffer, _ => none
  | .object, _ => none

/-- The handle that an entry was created through, for the classes that have one. -/
def owner? : (cls : ResourceClass) → cls.Entry → Option RemoteId
  | .token, _ => none
  | .handle, _ => none
  | .mapping, entry => some entry.owner
  | .buffer, entry => some entry.owner
  | .object, _ => none

end ResourceClass

end DeviceBroker
