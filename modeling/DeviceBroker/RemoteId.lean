import DeviceBroker.Bytes
import DeviceBroker.Text.Hex

/-!
# Remote identifiers

A `RemoteId` names a resource across the network: `high` is the salt of the
broker that issued it and `low` a sequence number. The all-zero identifier is
the sentinel: it is never issued and never resolves. Byte text, display text
and order agree: all three read `high` before `low`, most significant first.
-/

namespace DeviceBroker

/-- An identifier that a broker issues for one of its resources. -/
@[ext] structure RemoteId where
  /-- The salt of the broker that issued it. -/
  high : UInt64
  /-- The sequence number under that salt. -/
  low : UInt64
  deriving DecidableEq, Repr

namespace RemoteId

/-- The sentinel, which names nothing. -/
def sentinel : RemoteId := ⟨0, 0⟩

/-- Whether the identifier can name a resource at all. -/
def isValid (id : RemoteId) : Bool := id != sentinel

theorem isValid_iff (id : RemoteId) : id.isValid = true ↔ id ≠ sentinel := by
  simp [isValid]

@[simp] theorem isValid_sentinel : sentinel.isValid = false := rfl

/-- The sixteen bytes, most significant first. -/
def toBytes (id : RemoteId) : Vector UInt8 16 :=
  ⟨(Bytes.bigEndian 8 id.high.toNat ++ Bytes.bigEndian 8 id.low.toNat).toArray, by simp⟩

def ofBytes (bytes : Vector UInt8 16) : RemoteId where
  high := UInt64.ofNat (Bytes.ofBigEndian (bytes.toList.take 8))
  low := UInt64.ofNat (Bytes.ofBigEndian (bytes.toList.drop 8))

/-- Sixteen hexadecimal digits for each half, joined by a hyphen. -/
def display (id : RemoteId) : String :=
  String.ofList (Hex.fixed 16 id.high.toNat ++ '-' :: Hex.fixed 16 id.low.toNat)

/-- The order that reads `high` first. -/
def compare (a b : RemoteId) : Ordering :=
  (Ord.compare a.high b.high).then (Ord.compare a.low b.low)

instance : Ord RemoteId := ⟨compare⟩

/-- Whether the first identifier does not come after the second. -/
def precedes (a b : RemoteId) : Bool := (compare a b).isLE

end RemoteId

end DeviceBroker
