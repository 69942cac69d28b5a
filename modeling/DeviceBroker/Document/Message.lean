import DeviceBroker.Document.Record
import DeviceBroker.Message.Arguments
import DeviceBroker.Message.Reply

/-!
# Messages as documents

A message is a record of one field, whose name tells the operation. For a
request the field holds the arguments by name, for a reply the code of its
status and the value, which is null where there is none.
-/

namespace DeviceBroker

def Operation.name : Operation → String
  | .enumerate => "Enumerate"
  | .destroyToken => "DestroyToken"
  | .cloneToken => "CloneToken"
  | .getProperties => "GetProperties"
  | .updateProperties => "UpdateProperties"
  | .openHandle => "Open"
  | .closeHandle => "Close"
  | .resetHandle => "Reset"
  | .getHandleProperties => "GetPropertiesFromHandle"
  | .mapMmio => "MapMmio"
  | .unmapMmio => "UnmapMmio"
  | .readMmio32 => "ReadMmio32"
  | .writeMmio32 => "WriteMmio32"
  | .readMmio64 => "ReadMmio64"
  | .writeMmio64 => "WriteMmio64"
  | .readMmio512 => "ReadMmio512"
  | .writeMmio512 => "WriteMmio512"
  | .prepareBuffer => "PrepareBuffer"
  | .releaseBuffer => "ReleaseBuffer"
  | .getIoAddress => "GetIoAddress"
  | .readError => "ReadError"
  | .getErrorInfo => "GetErrorInfo"
  | .clearError => "ClearError"
  | .clearAllErrors => "ClearAllErrors"
  | .tokenGetObject => "TokenGetObject"
  | .handleGetObject => "HandleGetObject"
  | .destroyObject => "DestroyObject"
  | .objectGetType => "ObjectGetType"
  | .objectGetName => "ObjectGetName"
  | .objectGetSize => "ObjectGetSize"
  | .objectRead => "ObjectRead"
  | .objectRead64 => "ObjectRead64"
  | .objectWrite64 => "ObjectWrite64"
  | .objectGetObject => "ObjectGetObject"
  | .objectGetObjectAt => "ObjectGetObjectAt"
  | .setUserClock => "SetUserClock"
  | .getUserClock => "GetUserClock"
  | .getNumMetrics => "GetNumMetrics"
  | .getMetricsInfo => "GetMetricsInfo"
  | .getMetricsByIndex => "GetMetricsByIndex"
  | .getMetricsByName => "GetMetricsByName"
  | .getMetricThresholds => "GetMetricsThresholdInfo"
  | .reconfigureSlot => "ReconfigureSlotByName"
  | .bufferFill => "BufMemSet"
  | .bufferWrite => "BufMemCpyToRemote"
  | .bufferRead => "BufMemCpyFromRemote"
  | .bufferPoll => "BufPoll"
  | .bufferCompare => "BufMemCmp"
  | .bufferPattern => "BufWritePattern"

def Operation.ofName? (name : String) : Option Operation :=
  Operation.all.find? fun op => op.name = name

namespace Form

open Fields (seq)

def arguments : (op : Operation) → Fields op.Arguments
  | .enumerate => seq (field "filters" (list properties)) (field "max_tokens" uint32)
  | .destroyToken => field "token_id" remoteId
  | .cloneToken => field "src_token_id" remoteId
  | .getProperties => field "token_id" remoteId
  | .updateProperties => field "token_id" remoteId
  | .openHandle => seq (field "token_id" remoteId) (field "flags" uint32)
  | .closeHandle => field "handle_id" remoteId
  | .resetHandle => field "handle_id" remoteId
  | .getHandleProperties => field "handle_id" remoteId
  | .mapMmio => seq (field "handle_id" remoteId) (field "mmio_num" uint32)
  | .unmapMmio =>
    seq (field "handle_id" remoteId) <| seq (field "mmio_id" remoteId) (field "mmio_num" uint32)
  | .readMmio32 =>
    seq (field "handle_id" remoteId) <| seq (field "mmio_num" uint32) (field "offset" uint64)
  | .writeMmio32 =>
    seq (field "handle_id" remoteId) <| seq (field "mmio_num" uint32) <|
      seq (field "offset" uint64) (field "value" uint32)
  | .readMmio64 =>
    seq (field "handle_id" remoteId) <| seq (field "mmio_num" uint32) (field "offset" uint64)
  | .writeMmio64 =>
    seq (field "handle_id" remoteId) <| seq (field "mmio_num" uint32) <|
      seq (field "offset" uint64) (field "value" uint64)
  | .readMmio512 =>
    seq (field "handle_id" remoteId) <| seq (field "mmio_num" uint32) (field "offset" uint64)
  | .writeMmio512 =>
    seq (field "handle_id" remoteId) <| seq (field "mmio_num" uint32) <|
      seq (field "offset" uint64) (field "values" (list uint8))
  | .prepareBuffer =>
    seq (field "handle_id" remoteId) <| seq (field "length" uint64) <|
      seq (field "pre_allocated_addr" (option uint64)) (field "flags" uint32)
  | .releaseBuffer => seq (field "handle_id" remoteId) (field "buf_id" remoteId)
  | .getIoAddress => seq (field "handle_id" remoteId) (field "buf_id" remoteId)
  | .readError => seq (field "token_id" remoteId) (field "error_num" uint32)
  | .getErrorInfo => seq (field "token_id" remoteId) (field "error_num" uint32)
  | .clearError => seq (field "token_id" remoteId) (field "error_num" uint32)
  | .clearAllErrors => field "token_id" remoteId
  | .tokenGetObject =>
    seq (field "token_id" remoteId) <| seq (field "name" text) (field "flags" uint32)
  | .handleGetObject =>
    seq (field "handle_id" remoteId) <| seq (field "name" text) (field "flags" uint32)
  | .destroyObject => field "object_id" remoteId
  | .objectGetType => field "object_id" remoteId
  | .objectGetName => field "object_id" remoteId
  | .objectGetSize => seq (field "object_id" remoteId) (field "flags" uint32)
  | .objectRead =>
    seq (field "object_id" remoteId) <| seq (field "offset" uint64) <|
      seq (field "length" uint64) (field "flags" uint32)
  | .objectRead64 => seq (field "object_id" remoteId) (field "flags" uint32)
  | .objectWrite64 =>
    seq (field "object_id" remoteId) <| seq (field "value" uint64) (field "flags" uint32)
  | .objectGetObject =>
    seq (field "object_id" remoteId) <| seq (field "name" text) (field "flags" uint32)
  | .objectGetObjectAt => seq (field "object_id" remoteId) (field "index" uint64)
  | .setUserClock =>
    seq (field "handle_id" remoteId) <| seq (field "high_hz" uint64) <|
      seq (field "low_hz" uint64) (field "flags" uint32)
  | .getUserClock => seq (field "handle_id" remoteId) (field "flags" uint32)
  | .getNumMetrics => field "handle_id" remoteId
  | .getMetricsInfo => seq (field "handle_id" remoteId) (field "num_metrics" uint64)
  | .getMetricsByIndex => seq (field "handle_id" remoteId) (field "metric_nums" (list uint64))
  | .getMetricsByName => seq (field "handle_id" remoteId) (field "metric_names" (list text))
  | .getMetricThresholds => seq (field "handle_id" remoteId) (field "num_thresholds" uint32)
  | .reconfigureSlot =>
    seq (field "handle_id" remoteId) <| seq (field "slot" uint32) <|
      seq (field "path" text) (field "flags" uint32)
  | .bufferFill =>
    seq (field "handle_id" remoteId) <| seq (field "buf_id" remoteId) <|
      seq (field "offset" uint64) <| seq (field "c" uint8) (field "n" uint64)
  | .bufferWrite =>
    seq (field "handle_id" remoteId) <| seq (field "dest_buf_id" remoteId) <|
      seq (field "dest_offset" uint64) <| seq (field "src" (list uint8)) (field "n" uint64)
  | .bufferRead =>
    seq (field "handle_id" remoteId) <| seq (field "src_buf_id" remoteId) <|
      seq (field "src_offset" uint64) (field "n" uint64)
  | .bufferPoll =>
    seq (field "handle_id" remoteId) <| seq (field "buf_id" remoteId) <|
      seq (field "offset" uint64) <| seq (field "width" uint32) <| seq (field "mask" uint64) <|
      seq (field "expected_value" uint64) <|
      seq (field "sleep_interval_us" uint64) (field "loops_timeout" uint64)
  | .bufferCompare =>
    seq (field "handle_id" remoteId) <| seq (field "bufa_id" remoteId) <|
      seq (field "bufa_offset" uint64) <| seq (field "bufb_id" remoteId) <|
      seq (field "bufb_offset" uint64) (field "n" uint64)
  | .bufferPattern =>
    seq (field "handle_id" remoteId) <| seq (field "buf_id" remoteId) (field "pattern_name" text)

/-- The value of an operation, with a form for the lack of one. -/
def value (unit : Form Unit) : (op : Operation) → Form op.Value
  | .enumerate => enumeration
  | .destroyToken => unit
  | .cloneToken => tokenHeader
  | .getProperties => properties
  | .updateProperties => properties
  | .openHandle => handleHeader
  | .closeHandle => unit
  | .resetHandle => unit
  | .getHandleProperties => properties
  | .mapMmio => remoteId
  | .unmapMmio => unit
  | .readMmio32 => uint32
  | .writeMmio32 => unit
  | .readMmio64 => uint64
  | .writeMmio64 => unit
  | .readMmio512 => bytes 64
  | .writeMmio512 => unit
  | .prepareBuffer => remoteId
  | .releaseBuffer => unit
  | .getIoAddress => uint64
  | .readError => uint64
  | .getErrorInfo => errorInfo
  | .clearError => unit
  | .clearAllErrors => unit
  | .tokenGetObject => remoteId
  | .handleGetObject => remoteId
  | .destroyObject => unit
  | .objectGetType => nodeKind
  | .objectGetName => text
  | .objectGetSize => uint32
  | .objectRead => list uint8
  | .objectRead64 => uint64
  | .objectWrite64 => unit
  | .objectGetObject => remoteId
  | .objectGetObjectAt => remoteId
  | .setUserClock => unit
  | .getUserClock => userClock
  | .getNumMetrics => uint64
  | .getMetricsInfo => list metricInfo
  | .getMetricsByIndex => list metric
  | .getMetricsByName => list metric
  | .getMetricThresholds => list metricThresholds
  | .reconfigureSlot => unit
  | .bufferFill => unit
  | .bufferWrite => unit
  | .bufferRead => list uint8
  | .bufferPoll => unit
  | .bufferCompare => int32
  | .bufferPattern => unit

def request : Form Request where
  write r := .record [(r.split.1.name, .record ((arguments r.split.1).write r.split.2))]
  read?
    | .record [(name, .record fields)] => do
      let op ← Operation.ofName? name
      return .join ⟨op, ← (arguments op).read? fun name => List.lookup name fields⟩
    | _ => none

/-- Statuses, as their codes. -/
def status : Form Status := uint32.convert Status.ofCode? Status.code

def outcome {α : Type} (value : Form α) : Form (Outcome α) :=
  (seq (field "result" status) (field "value" (option value))).recordOf
    (fun p => ⟨p.1, p.2⟩) (fun o => (o.status, o.value))

def rejectedName : String := "Rejected"

def reply : Form Reply where
  write
    | .answer op result => .record [(op.name, (outcome (value done op)).write result)]
    | .rejected reason => .record [(rejectedName, (field "reason" text).record.write reason)]
  read?
    | .record [(name, body)] =>
      if name = rejectedName then ((field "reason" text).record.read? body).map .rejected
      else do
        let op ← Operation.ofName? name
        return .answer op (← (outcome (value done op)).read? body)
    | _ => none

end Form

end DeviceBroker
