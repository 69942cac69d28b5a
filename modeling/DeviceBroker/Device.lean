import DeviceBroker.Properties
import DeviceBroker.RemoteId

/-!
# Device vocabulary

Plain data that device operations give back: headers of tokens and handles,
descriptions of error registers, nodes of the attribute tree, clocks and
metrics. Measured quantities are kept as the 64 bits of their binary floating
point form, so that values can be compared and transmitted exactly.
-/

namespace DeviceBroker

/-- The flag of an open that lets other handles be open beside it. -/
def Flags.openShared : UInt32 := 1

/-- The flag of a buffer whose address the caller supplies. -/
def Flags.preallocated : UInt32 := 1

/-- Whether any bit of the mask is set. -/
def Flags.has (flags mask : UInt32) : Bool := flags &&& mask != 0

/-- A quantity in binary floating point, known by its 64 bits. -/
@[ext] structure Double where
  bits : UInt64
  deriving DecidableEq, Repr

namespace Double

/-- Half of a natural number below `2 ^ 53`, which a double holds exactly. -/
def ofHalves (n : Nat) : Double :=
  if n = 0 then ⟨0⟩
  else
    let exponent := Nat.log2 n
    let fraction := n <<< (52 - exponent) - 1 <<< 52
    ⟨UInt64.ofNat ((exponent + 1022) <<< 52 + fraction)⟩

end Double

/-- The identifying fields of an enumerated resource. -/
@[ext] structure DeviceHeader where
  vendorId : UInt16
  deviceId : UInt16
  segment : UInt16
  bus : UInt8
  device : UInt8
  function : UInt8
  interface : String
  kind : ResourceKind
  objectId : UInt64
  guid : Guid
  subsystemVendorId : UInt16
  subsystemDeviceId : UInt16
  deriving DecidableEq

/-- A token as a client sees it. -/
@[ext] structure TokenHeader where
  tokenId : RemoteId
  header : DeviceHeader
  deriving DecidableEq

/-- A handle as a client sees it, with the token it was opened from. -/
@[ext] structure HandleHeader where
  handleId : RemoteId
  tokenId : RemoteId
  deriving DecidableEq, Repr

/-- The tokens that an enumeration returns, and how many resources matched. -/
@[ext] structure Enumeration where
  tokens : List TokenHeader
  numMatches : UInt32
  deriving DecidableEq

/-- The description of one error register. -/
@[ext] structure ErrorInfo where
  name : String
  canClear : Bool
  deriving DecidableEq, Repr

/-- What a node of the attribute tree is. -/
inductive NodeKind where
  | container
  | attribute
  deriving DecidableEq, Repr

/-- A pair of clock frequencies in hertz. -/
@[ext] structure UserClock where
  highHz : UInt64
  lowHz : UInt64
  deriving DecidableEq, Repr

/-- A register word of 512 bits. -/
abbrev Word512 := Vector UInt8 64

/-- The first 64 bytes as one word, if there are that many. -/
def Word512.ofList? (bytes : List UInt8) : Option Word512 :=
  if h : (bytes.take 64).length = 64 then some ⟨(bytes.take 64).toArray, by simpa using h⟩ else none

def Word512.zero : Word512 := Vector.replicate 64 0

/-- The type of the values of a metric. -/
inductive MetricDatatype where
  | int
  | float
  | double
  | bool
  | unknown
  deriving DecidableEq, Repr

/-- What a metric is about. -/
inductive MetricCategory where
  | power
  | thermal
  | performance
  | afu
  | unknown
  deriving DecidableEq, Repr

/-- The description of a metric. -/
@[ext] structure MetricInfo where
  number : UInt64
  guid : Guid
  qualifierName : String
  groupName : String
  name : String
  units : String
  datatype : MetricDatatype
  category : MetricCategory
  deriving DecidableEq

/-- A sampled value. -/
inductive MetricValue where
  | int (value : UInt64)
  | double (value : Double)
  | bool (value : Bool)
  deriving DecidableEq, Repr

/-- One sample of a metric. -/
@[ext] structure Metric where
  number : UInt64
  value : MetricValue
  isValid : Bool
  deriving DecidableEq, Repr

/-- A named level of a metric. -/
@[ext] structure Threshold where
  name : String
  value : Double
  deriving DecidableEq, Repr

/-- The levels of one metric, those that are set. -/
@[ext] structure MetricThresholds where
  metricName : String
  upperNonRecoverable : Option Threshold := none
  upperCritical : Option Threshold := none
  upperNonCritical : Option Threshold := none
  lowerNonRecoverable : Option Threshold := none
  lowerCritical : Option Threshold := none
  lowerNonCritical : Option Threshold := none
  hysteresis : Option Threshold := none
  deriving DecidableEq, Repr

end DeviceBroker
