import DeviceBroker.Device
import DeviceBroker.Identity.Entry
import DeviceBroker.Memory

/-!
# Driver calls

What the broker asks of a driver, as data. A `DeviceCall` names native values
where a request names remote identifiers, and `DeviceCall.Value` is the type
of what it returns on success. Since a call is a value, the calls that an
operation makes can be listed, counted and interleaved.
-/

namespace DeviceBroker

/-- A token that the driver hands out, with its header. -/
@[ext] structure NativeHeader where
  token : NativeToken
  header : DeviceHeader
  deriving DecidableEq

/-- The tokens that the driver lists, and how many resources matched. -/
@[ext] structure NativeListing where
  tokens : List NativeHeader
  numMatches : UInt32
  deriving DecidableEq

/-- A buffer that the driver has set up. -/
@[ext] structure PreparedBuffer where
  workspace : Nat
  address : UInt64
  deriving DecidableEq, Repr

/-- A call of the driver. -/
inductive DeviceCall where
  | enumerate (filters : List (Properties NativeToken)) (maxTokens : UInt32)
  | destroyToken (token : NativeToken)
  | cloneToken (token : NativeToken)
  | getProperties (token : NativeToken)
  | updateProperties (token : NativeToken)
  | openHandle (token : NativeToken) (flags : UInt32)
  | closeHandle (handle : NativeHandle)
  | resetHandle (handle : NativeHandle)
  | getHandleProperties (handle : NativeHandle)
  | mapMmio (handle : NativeHandle) (region : UInt32)
  | unmapMmio (handle : NativeHandle) (region : UInt32)
  | readMmio32 (handle : NativeHandle) (region : UInt32) (offset : UInt64)
  | writeMmio32 (handle : NativeHandle) (region : UInt32) (offset : UInt64) (value : UInt32)
  | readMmio64 (handle : NativeHandle) (region : UInt32) (offset : UInt64)
  | writeMmio64 (handle : NativeHandle) (region : UInt32) (offset : UInt64) (value : UInt64)
  | readMmio512 (handle : NativeHandle) (region : UInt32) (offset : UInt64)
  | writeMmio512 (handle : NativeHandle) (region : UInt32) (offset : UInt64) (value : Word512)
  | prepareBuffer (handle : NativeHandle) (length : UInt64) (address : Option UInt64)
      (flags : UInt32)
  | releaseBuffer (handle : NativeHandle) (workspace : Nat)
  | getIoAddress (handle : NativeHandle) (workspace : Nat)
  | bufferRead (handle : NativeHandle) (workspace : Nat) (offset count : UInt64)
  | bufferWrite (handle : NativeHandle) (workspace : Nat) (offset : UInt64) (data : Memory)
  | readError (token : NativeToken) (number : UInt32)
  | getErrorInfo (token : NativeToken) (number : UInt32)
  | clearError (token : NativeToken) (number : UInt32)
  | clearAllErrors (token : NativeToken)
  | tokenGetObject (token : NativeToken) (name : String) (flags : UInt32)
  | handleGetObject (handle : NativeHandle) (name : String) (flags : UInt32)
  | destroyObject (object : NativeObject)
  | objectGetType (object : NativeObject)
  | objectGetName (object : NativeObject)
  | objectGetSize (object : NativeObject) (flags : UInt32)
  | objectRead (object : NativeObject) (offset length : UInt64) (flags : UInt32)
  | objectRead64 (object : NativeObject) (flags : UInt32)
  | objectWrite64 (object : NativeObject) (value : UInt64) (flags : UInt32)
  | objectGetObject (object : NativeObject) (name : String) (flags : UInt32)
  | objectGetObjectAt (object : NativeObject) (index : UInt64)
  | setUserClock (handle : NativeHandle) (highHz lowHz : UInt64) (flags : UInt32)
  | getUserClock (handle : NativeHandle) (flags : UInt32)
  | getNumMetrics (handle : NativeHandle)
  | getMetricsInfo (handle : NativeHandle) (count : UInt64)
  | getMetricsByIndex (handle : NativeHandle) (numbers : List UInt64)
  | getMetricsByName (handle : NativeHandle) (names : List String)
  | getMetricThresholds (handle : NativeHandle) (count : UInt32)
  | reconfigureSlot (handle : NativeHandle) (slot : UInt32) (path : String) (flags : UInt32)

/-- What a call is a call of, without its arguments. -/
inductive CallKind where
  | enumerate
  | destroyToken
  | cloneToken
  | getProperties
  | updateProperties
  | openHandle
  | closeHandle
  | resetHandle
  | getHandleProperties
  | mapMmio
  | unmapMmio
  | readMmio32
  | writeMmio32
  | readMmio64
  | writeMmio64
  | readMmio512
  | writeMmio512
  | prepareBuffer
  | releaseBuffer
  | getIoAddress
  | bufferRead
  | bufferWrite
  | readError
  | getErrorInfo
  | clearError
  | clearAllErrors
  | tokenGetObject
  | handleGetObject
  | destroyObject
  | objectGetType
  | objectGetName
  | objectGetSize
  | objectRead
  | objectRead64
  | objectWrite64
  | objectGetObject
  | objectGetObjectAt
  | setUserClock
  | getUserClock
  | getNumMetrics
  | getMetricsInfo
  | getMetricsByIndex
  | getMetricsByName
  | getMetricThresholds
  | reconfigureSlot
  deriving DecidableEq, Repr

/-- Every kind of call with the name that logs give it. -/
def CallKind.names : List (String × CallKind) :=
  [("enumerate", .enumerate), ("destroy_token", .destroyToken), ("clone_token", .cloneToken),
   ("get_properties", .getProperties), ("update_properties", .updateProperties),
   ("open", .openHandle), ("close", .closeHandle), ("reset", .resetHandle),
   ("get_properties_from_handle", .getHandleProperties), ("map_mmio", .mapMmio),
   ("unmap_mmio", .unmapMmio), ("read_mmio32", .readMmio32), ("write_mmio32", .writeMmio32),
   ("read_mmio64", .readMmio64), ("write_mmio64", .writeMmio64), ("read_mmio512", .readMmio512),
   ("write_mmio512", .writeMmio512), ("prepare_buffer", .prepareBuffer),
   ("release_buffer", .releaseBuffer), ("get_io_address", .getIoAddress),
   ("buf_read", .bufferRead), ("buf_write", .bufferWrite), ("read_error", .readError),
   ("get_error_info", .getErrorInfo), ("clear_error", .clearError),
   ("clear_all_errors", .clearAllErrors), ("token_get_object", .tokenGetObject),
   ("handle_get_object", .handleGetObject), ("destroy_object", .destroyObject),
   ("object_get_type", .objectGetType), ("object_get_name", .objectGetName),
   ("object_get_size", .objectGetSize), ("object_read", .objectRead),
   ("object_read64", .objectRead64), ("object_write64", .objectWrite64),
   ("object_get_object", .objectGetObject), ("object_get_object_at", .objectGetObjectAt),
   ("set_user_clock", .setUserClock), ("get_user_clock", .getUserClock),
   ("get_num_metrics", .getNumMetrics), ("get_metrics_info", .getMetricsInfo),
   ("get_metrics_by_index", .getMetricsByIndex), ("get_metrics_by_name", .getMetricsByName),
   ("get_metrics_threshold_info", .getMetricThresholds),
   ("reconfigure_slot_by_name", .reconfigureSlot)]

def CallKind.ofName? (name : String) : Option CallKind := CallKind.names.lookup name

def DeviceCall.kind : DeviceCall → CallKind
  | .enumerate .. => .enumerate
  | .destroyToken .. => .destroyToken
  | .cloneToken .. => .cloneToken
  | .getProperties .. => .getProperties
  | .updateProperties .. => .updateProperties
  | .openHandle .. => .openHandle
  | .closeHandle .. => .closeHandle
  | .resetHandle .. => .resetHandle
  | .getHandleProperties .. => .getHandleProperties
  | .mapMmio .. => .mapMmio
  | .unmapMmio .. => .unmapMmio
  | .readMmio32 .. => .readMmio32
  | .writeMmio32 .. => .writeMmio32
  | .readMmio64 .. => .readMmio64
  | .writeMmio64 .. => .writeMmio64
  | .readMmio512 .. => .readMmio512
  | .writeMmio512 .. => .writeMmio512
  | .prepareBuffer .. => .prepareBuffer
  | .releaseBuffer .. => .releaseBuffer
  | .getIoAddress .. => .getIoAddress
  | .bufferRead .. => .bufferRead
  | .bufferWrite .. => .bufferWrite
  | .readError .. => .readError
  | .getErrorInfo .. => .getErrorInfo
  | .clearError .. => .clearError
  | .clearAllErrors .. => .clearAllErrors
  | .tokenGetObject .. => .tokenGetObject
  | .handleGetObject .. => .handleGetObject
  | .destroyObject .. => .destroyObject
  | .objectGetType .. => .objectGetType
  | .objectGetName .. => .objectGetName
  | .objectGetSize .. => .objectGetSize
  | .objectRead .. => .objectRead
  | .objectRead64 .. => .objectRead64
  | .objectWrite64 .. => .objectWrite64
  | .objectGetObject .. => .objectGetObject
  | .objectGetObjectAt .. => .objectGetObjectAt
  | .setUserClock .. => .setUserClock
  | .getUserClock .. => .getUserClock
  | .getNumMetrics .. => .getNumMetrics
  | .getMetricsInfo .. => .getMetricsInfo
  | .getMetricsByIndex .. => .getMetricsByIndex
  | .getMetricsByName .. => .getMetricsByName
  | .getMetricThresholds .. => .getMetricThresholds
  | .reconfigureSlot .. => .reconfigureSlot

@[reducible] def CallKind.Value : CallKind → Type
  | .enumerate => NativeListing
  | .cloneToken => NativeHeader
  | .getProperties | .updateProperties | .getHandleProperties => Properties NativeToken
  | .openHandle => NativeHandle
  | .mapMmio => UInt64
  | .readMmio32 => UInt32
  | .readMmio64 => UInt64
  | .readMmio512 => Word512
  | .prepareBuffer => PreparedBuffer
  | .getIoAddress => UInt64
  | .bufferRead => Memory
  | .readError => UInt64
  | .getErrorInfo => ErrorInfo
  | .tokenGetObject | .handleGetObject | .objectGetObject | .objectGetObjectAt => NativeObject
  | .objectGetType => NodeKind
  | .objectGetName => String
  | .objectGetSize => UInt32
  | .objectRead => List UInt8
  | .objectRead64 => UInt64
  | .getUserClock => UserClock
  | .getNumMetrics => UInt64
  | .getMetricsInfo => List MetricInfo
  | .getMetricsByIndex | .getMetricsByName => List Metric
  | .getMetricThresholds => List MetricThresholds
  | .destroyToken | .closeHandle | .resetHandle | .unmapMmio | .writeMmio32 | .writeMmio64
  | .writeMmio512 | .releaseBuffer | .bufferWrite | .clearError | .clearAllErrors
  | .destroyObject | .objectWrite64 | .setUserClock | .reconfigureSlot => Unit

@[reducible] def DeviceCall.Value (call : DeviceCall) : Type := call.kind.Value

end DeviceBroker
