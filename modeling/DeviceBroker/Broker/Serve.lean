import DeviceBroker.Broker.Pattern
import DeviceBroker.Broker.Resolve
import DeviceBroker.Message.Reply
import DeviceBroker.Message.Request

/-!
# Serving requests

`Request.serve` gives every request its program, with the checks in the order
in which they are made. `Broker.handle` runs the program of a request and
reports its result in the reply of the same operation.
-/

namespace DeviceBroker

namespace Service

def pollWidths : List UInt32 := [1, 2, 4, 8]

/-- Read a word until it shows the expected bits, at most `attempts` times. -/
def poll (handle : NativeHandle) (workspace : Nat) (offset : UInt64) (width : UInt32)
    (mask expected : UInt64) : Nat → Service Unit
  | 0 => throw .busy
  | attempts + 1 => do
    let data ← device (.bufferRead handle workspace offset width.toUInt64)
    if UInt64.ofNat (data.word 0 width.toNat) &&& mask = expected &&& mask then return ()
    else poll handle workspace offset width mask expected attempts

def sign : Ordering → Int32
  | .lt => -1
  | .eq => 0
  | .gt => 1

/-- Register an object that the driver has just created. -/
def registerObject (object : NativeObject) : Service RemoteId :=
  registerOrUndo .object ⟨object⟩ (.destroyObject object)

end Service

open Service

/-- The program that serves a request, for a largest payload of `limit` bytes. -/
def Request.serve (limit : UInt64) : (request : Request) → Service request.operation.Value
  | .enumerate filters maxTokens => do
    let natives ← filters.mapM importFilter
    let listing ← device (.enumerate natives maxTokens)
    let tokens ← (listing.tokens.take maxTokens.toNat).mapM exportToken
    return ⟨tokens, listing.numMatches⟩
  | .destroyToken tokenId =>
    teardown .token tokenId fun entry => device (.destroyToken entry.token)
  | .cloneToken sourceId => do
    let source ← lookup .token sourceId
    let clone ← device (.cloneToken source.token)
    exportToken clone
  | .getProperties tokenId => do
    let entry ← lookup .token tokenId
    let properties ← device (.getProperties entry.token)
    exportProperties properties
  | .updateProperties tokenId => do
    let entry ← lookup .token tokenId
    let properties ← device (.updateProperties entry.token)
    exportProperties properties
  | .openHandle tokenId flags => do
    let entry ← lookup .token tokenId
    let handle ← device (.openHandle entry.token flags)
    let handleId ← registerOrUndo .handle ⟨handle, tokenId⟩ (.closeHandle handle)
    return ⟨handleId, tokenId⟩
  | .closeHandle handleId => do
    teardown .handle handleId fun entry => device (.closeHandle entry.handle)
    let _ ← Program.perform (.removeOwned .mapping handleId)
    let _ ← Program.perform (.removeOwned .buffer handleId)
    return ()
  | .resetHandle handleId => do
    let entry ← lookup .handle handleId
    device (.resetHandle entry.handle)
  | .getHandleProperties handleId => do
    let entry ← lookup .handle handleId
    let properties ← device (.getHandleProperties entry.handle)
    exportProperties properties
  | .mapMmio handleId region => do
    let entry ← lookup .handle handleId
    let base ← device (.mapMmio entry.handle region)
    registerOrUndo .mapping ⟨handleId, region, base⟩ (.unmapMmio entry.handle region)
  | .unmapMmio handleId mappingId region => do
    let handle ← lookup .handle handleId
    teardown .mapping mappingId fun mapping => do
      require (mapping.owner == handleId) .notFound
      require (mapping.region == region) .invalidParam
      device (.unmapMmio handle.handle region)
  | .readMmio32 handleId region offset => do
    let entry ← lookup .handle handleId
    device (.readMmio32 entry.handle region offset)
  | .writeMmio32 handleId region offset value => do
    let entry ← lookup .handle handleId
    device (.writeMmio32 entry.handle region offset value)
  | .readMmio64 handleId region offset => do
    let entry ← lookup .handle handleId
    device (.readMmio64 entry.handle region offset)
  | .writeMmio64 handleId region offset value => do
    let entry ← lookup .handle handleId
    device (.writeMmio64 entry.handle region offset value)
  | .readMmio512 handleId region offset => do
    let entry ← lookup .handle handleId
    device (.readMmio512 entry.handle region offset)
  | .writeMmio512 handleId region offset values => do
    let entry ← lookup .handle handleId
    require (values.length ≤ limit.toNat) .invalidParam
    match Word512.ofList? values with
    | none => throw .invalidParam
    | some word => device (.writeMmio512 entry.handle region offset word)
  | .prepareBuffer handleId length address flags => do
    let entry ← lookup .handle handleId
    let prepared ← device (.prepareBuffer entry.handle length address flags)
    registerOrUndo .buffer ⟨handleId, length, flags, prepared.workspace, prepared.address⟩
      (.releaseBuffer entry.handle prepared.workspace)
  | .releaseBuffer handleId bufferId => do
    let handle ← lookup .handle handleId
    teardown .buffer bufferId fun buffer => do
      require (buffer.owner == handleId) .notFound
      device (.releaseBuffer handle.handle buffer.workspace)
  | .getIoAddress handleId bufferId => do
    let handle ← lookup .handle handleId
    let buffer ← lookupOwned .buffer bufferId handleId
    device (.getIoAddress handle.handle buffer.workspace)
  | .readError tokenId number => do
    let entry ← lookup .token tokenId
    device (.readError entry.token number)
  | .getErrorInfo tokenId number => do
    let entry ← lookup .token tokenId
    device (.getErrorInfo entry.token number)
  | .clearError tokenId number => do
    let entry ← lookup .token tokenId
    device (.clearError entry.token number)
  | .clearAllErrors tokenId => do
    let entry ← lookup .token tokenId
    device (.clearAllErrors entry.token)
  | .tokenGetObject tokenId name flags => do
    let entry ← lookup .token tokenId
    let object ← device (.tokenGetObject entry.token name flags)
    registerObject object
  | .handleGetObject handleId name flags => do
    let entry ← lookup .handle handleId
    let object ← device (.handleGetObject entry.handle name flags)
    registerObject object
  | .destroyObject objectId =>
    teardown .object objectId fun entry => device (.destroyObject entry.object)
  | .objectGetType objectId => do
    let entry ← lookup .object objectId
    device (.objectGetType entry.object)
  | .objectGetName objectId => do
    let entry ← lookup .object objectId
    device (.objectGetName entry.object)
  | .objectGetSize objectId flags => do
    let entry ← lookup .object objectId
    device (.objectGetSize entry.object flags)
  | .objectRead objectId offset length flags => do
    let entry ← lookup .object objectId
    require (length ≤ limit) .invalidParam
    let bytes ← device (.objectRead entry.object offset length flags)
    return bytes.take length.toNat
  | .objectRead64 objectId flags => do
    let entry ← lookup .object objectId
    device (.objectRead64 entry.object flags)
  | .objectWrite64 objectId value flags => do
    let entry ← lookup .object objectId
    device (.objectWrite64 entry.object value flags)
  | .objectGetObject objectId name flags => do
    let parent ← lookup .object objectId
    let object ← device (.objectGetObject parent.object name flags)
    registerObject object
  | .objectGetObjectAt objectId index => do
    let parent ← lookup .object objectId
    let object ← device (.objectGetObjectAt parent.object index)
    registerObject object
  | .setUserClock handleId highHz lowHz flags => do
    let entry ← lookup .handle handleId
    device (.setUserClock entry.handle highHz lowHz flags)
  | .getUserClock handleId flags => do
    let entry ← lookup .handle handleId
    device (.getUserClock entry.handle flags)
  | .getNumMetrics handleId => do
    let entry ← lookup .handle handleId
    device (.getNumMetrics entry.handle)
  | .getMetricsInfo handleId count => do
    let entry ← lookup .handle handleId
    let metrics ← device (.getMetricsInfo entry.handle count)
    return metrics.take count.toNat
  | .getMetricsByIndex handleId numbers => do
    let entry ← lookup .handle handleId
    let metrics ← device (.getMetricsByIndex entry.handle numbers)
    return metrics.take numbers.length
  | .getMetricsByName handleId names => do
    let entry ← lookup .handle handleId
    let metrics ← device (.getMetricsByName entry.handle names)
    return metrics.take names.length
  | .getMetricThresholds handleId count => do
    let entry ← lookup .handle handleId
    let thresholds ← device (.getMetricThresholds entry.handle count)
    return thresholds.take count.toNat
  | .reconfigureSlot handleId slot path flags => do
    let entry ← lookup .handle handleId
    device (.reconfigureSlot entry.handle slot path flags)
  | .bufferFill handleId bufferId offset byte count => do
    let (handle, buffer) ← bufferRange handleId bufferId offset count
    device (.bufferWrite handle.handle buffer.workspace offset (.fill count.toNat byte))
  | .bufferWrite handleId bufferId offset source count => do
    require (count ≤ limit) .invalidParam
    require (count.toNat ≤ source.length) .invalidParam
    let (handle, buffer) ← bufferRange handleId bufferId offset count
    device (.bufferWrite handle.handle buffer.workspace offset (.ofList (source.take count.toNat)))
  | .bufferRead handleId bufferId offset count => do
    require (count ≤ limit) .invalidParam
    let (handle, buffer) ← bufferRange handleId bufferId offset count
    let data ← device (.bufferRead handle.handle buffer.workspace offset count)
    return data.toList.take count.toNat
  | .bufferPoll handleId bufferId offset width mask expected _ attempts => do
    require (pollWidths.contains width) .invalidParam
    let (handle, buffer) ← bufferRange handleId bufferId offset width.toUInt64
    poll handle.handle buffer.workspace offset width mask expected (max attempts.toNat 1)
  | .bufferCompare handleId firstId firstOffset secondId secondOffset count => do
    let (handle, first) ← bufferRange handleId firstId firstOffset count
    let (_, second) ← bufferRange handleId secondId secondOffset count
    let left ← device (.bufferRead handle.handle first.workspace firstOffset count)
    let right ← device (.bufferRead handle.handle second.workspace secondOffset count)
    return sign (left.compareLex right)
  | .bufferPattern handleId bufferId pattern => do
    let handle ← lookup .handle handleId
    let buffer ← lookupOwned .buffer bufferId handleId
    match FillPattern.ofName? pattern with
    | none => throw .invalidParam
    | some pattern =>
      device (.bufferWrite handle.handle buffer.workspace 0 (pattern.fill buffer.length.toNat))

/-- The program that serves a request and ends in its reply. -/
def Request.program (limit : UInt64) (request : Request) : Program Reply := do
  return .ofResult request.operation (← (request.serve limit).run)

/-- Serve a request without interruption. -/
def Broker.handle {cards : Nat} (b : Broker cards) (request : Request) : Reply × Broker cards :=
  (request.program b.payloadLimit).run b

/-- The time in microseconds for which the broker sleeps before each call of the driver but
the first while it serves a request. Only a poll sleeps. -/
def Request.pauseMicros : Request → Nat
  | .bufferPoll _ _ _ _ _ _ sleepMicros _ => sleepMicros.toNat
  | _ => 0

/-- The time in microseconds for which a broker has slept since it was in an earlier state, if
all that it has done was to serve one request with such a pause. -/
def Broker.sleptSince {cards : Nat} (b earlier : Broker cards) (pauseMicros : Nat) : Nat :=
  (b.device.calls - earlier.device.calls - 1) * pauseMicros

end DeviceBroker
