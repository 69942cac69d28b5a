import DeviceBroker.Device

/-!
# Operations

The forty-nine remote operations, in the order of their wire indices, and the
type of the value that each one returns on success. Requests, replies, the
handler, the codec and the client stub are all indexed by this one list, so an
answer can only be given in the type of the operation that was asked for.
-/

namespace DeviceBroker

/-- A remote operation. -/
inductive Operation where
  /-- List tokens of the resources that match any of the filters. -/
  | enumerate
  | destroyToken
  /-- Make another token for the same resource. -/
  | cloneToken
  | getProperties
  /-- Read the properties again. -/
  | updateProperties
  | openHandle
  | closeHandle
  | resetHandle
  | getHandleProperties
  | mapMmio
  | unmapMmio
  | readMmio32
  | writeMmio32
  | readMmio64
  | writeMmio64
  | readMmio512
  | writeMmio512
  | prepareBuffer
  | releaseBuffer
  /-- Ask for the address that the device uses for a buffer. -/
  | getIoAddress
  | readError
  | getErrorInfo
  | clearError
  /-- Clear every error register that can be cleared. -/
  | clearAllErrors
  | tokenGetObject
  | handleGetObject
  | destroyObject
  /-- Ask whether an object is a container. -/
  | objectGetType
  | objectGetName
  | objectGetSize
  | objectRead
  | objectRead64
  | objectWrite64
  | objectGetObject
  | objectGetObjectAt
  | setUserClock
  | getUserClock
  | getNumMetrics
  | getMetricsInfo
  | getMetricsByIndex
  | getMetricsByName
  | getMetricThresholds
  | reconfigureSlot
  | bufferFill
  | bufferWrite
  | bufferRead
  /-- Wait until a word of a buffer has an expected value. -/
  | bufferPoll
  | bufferCompare
  /-- Fill a buffer with a named pattern. -/
  | bufferPattern
  deriving DecidableEq, Repr

namespace Operation

/-- Every operation, in the order of the wire indices. -/
def all : List Operation :=
  [.enumerate, .destroyToken, .cloneToken, .getProperties, .updateProperties, .openHandle,
   .closeHandle, .resetHandle, .getHandleProperties, .mapMmio, .unmapMmio, .readMmio32,
   .writeMmio32, .readMmio64, .writeMmio64, .readMmio512, .writeMmio512, .prepareBuffer,
   .releaseBuffer, .getIoAddress, .readError, .getErrorInfo, .clearError, .clearAllErrors,
   .tokenGetObject, .handleGetObject, .destroyObject, .objectGetType, .objectGetName,
   .objectGetSize, .objectRead, .objectRead64, .objectWrite64, .objectGetObject,
   .objectGetObjectAt, .setUserClock, .getUserClock, .getNumMetrics, .getMetricsInfo,
   .getMetricsByIndex, .getMetricsByName, .getMetricThresholds, .reconfigureSlot, .bufferFill,
   .bufferWrite, .bufferRead, .bufferPoll, .bufferCompare, .bufferPattern]

def method : Operation → String
  | .enumerate => "enumerate"
  | .destroyToken => "destroy_token"
  | .cloneToken => "clone_token"
  | .getProperties => "get_properties"
  | .updateProperties => "update_properties"
  | .openHandle => "open"
  | .closeHandle => "close"
  | .resetHandle => "reset"
  | .getHandleProperties => "get_properties_from_handle"
  | .mapMmio => "map_mmio"
  | .unmapMmio => "unmap_mmio"
  | .readMmio32 => "read_mmio32"
  | .writeMmio32 => "write_mmio32"
  | .readMmio64 => "read_mmio64"
  | .writeMmio64 => "write_mmio64"
  | .readMmio512 => "read_mmio512"
  | .writeMmio512 => "write_mmio512"
  | .prepareBuffer => "prepare_buffer"
  | .releaseBuffer => "release_buffer"
  | .getIoAddress => "get_io_address"
  | .readError => "read_error"
  | .getErrorInfo => "get_error_info"
  | .clearError => "clear_error"
  | .clearAllErrors => "clear_all_errors"
  | .tokenGetObject => "token_get_object"
  | .handleGetObject => "handle_get_object"
  | .destroyObject => "destroy_object"
  | .objectGetType => "object_get_type"
  | .objectGetName => "object_get_name"
  | .objectGetSize => "object_get_size"
  | .objectRead => "object_read"
  | .objectRead64 => "object_read64"
  | .objectWrite64 => "object_write64"
  | .objectGetObject => "object_get_object"
  | .objectGetObjectAt => "object_get_object_at"
  | .setUserClock => "set_user_clock"
  | .getUserClock => "get_user_clock"
  | .getNumMetrics => "get_num_metrics"
  | .getMetricsInfo => "get_metrics_info"
  | .getMetricsByIndex => "get_metrics_by_index"
  | .getMetricsByName => "get_metrics_by_name"
  | .getMetricThresholds => "get_metrics_threshold_info"
  | .reconfigureSlot => "reconfigure_slot_by_name"
  | .bufferFill => "buf_memset"
  | .bufferWrite => "buf_memcpy_to_remote"
  | .bufferRead => "buf_memcpy_from_remote"
  | .bufferPoll => "buf_poll"
  | .bufferCompare => "buf_memcmp"
  | .bufferPattern => "buf_write_pattern"

@[reducible] def Value : Operation → Type
  | .enumerate => Enumeration
  | .destroyToken => Unit
  | .cloneToken => TokenHeader
  | .getProperties => Properties RemoteId
  | .updateProperties => Properties RemoteId
  | .openHandle => HandleHeader
  | .closeHandle => Unit
  | .resetHandle => Unit
  | .getHandleProperties => Properties RemoteId
  | .mapMmio => RemoteId
  | .unmapMmio => Unit
  | .readMmio32 => UInt32
  | .writeMmio32 => Unit
  | .readMmio64 => UInt64
  | .writeMmio64 => Unit
  | .readMmio512 => Word512
  | .writeMmio512 => Unit
  | .prepareBuffer => RemoteId
  | .releaseBuffer => Unit
  | .getIoAddress => UInt64
  | .readError => UInt64
  | .getErrorInfo => ErrorInfo
  | .clearError => Unit
  | .clearAllErrors => Unit
  | .tokenGetObject => RemoteId
  | .handleGetObject => RemoteId
  | .destroyObject => Unit
  | .objectGetType => NodeKind
  | .objectGetName => String
  | .objectGetSize => UInt32
  | .objectRead => List UInt8
  | .objectRead64 => UInt64
  | .objectWrite64 => Unit
  | .objectGetObject => RemoteId
  | .objectGetObjectAt => RemoteId
  | .setUserClock => Unit
  | .getUserClock => UserClock
  | .getNumMetrics => UInt64
  | .getMetricsInfo => List MetricInfo
  | .getMetricsByIndex => List Metric
  | .getMetricsByName => List Metric
  | .getMetricThresholds => List MetricThresholds
  | .reconfigureSlot => Unit
  | .bufferFill => Unit
  | .bufferWrite => Unit
  | .bufferRead => List UInt8
  | .bufferPoll => Unit
  | .bufferCompare => Int32
  | .bufferPattern => Unit

/-- The place of an operation in the list of all operations. -/
def index (op : Operation) : Nat := all.idxOf op

def ofIndex? (n : Nat) : Option Operation := all[n]?

@[simp] theorem ofIndex?_index (op : Operation) : ofIndex? op.index = some op := by
  cases op <;> rfl

theorem index_lt (op : Operation) : op.index < 49 := by
  cases op <;> decide

theorem index_of_ofIndex? {n : Nat} {op : Operation} (h : ofIndex? n = some op) :
    op.index = n := by
  have hn : n < 49 := by
    have := (List.getElem?_eq_some_iff.mp h).1
    simpa [all] using this
  have table : ∀ m : Fin 49, ((ofIndex? m.val).map index) = some m.val := by decide
  have := table ⟨n, hn⟩
  simpa [h] using this

end Operation

end DeviceBroker
