import DeviceBroker.Message.Request

/-!
# Arguments

A request is the same thing as an operation with its arguments: `split` takes a
request apart, `join` puts it together, and each undoes the other. Formats that
describe the arguments of every operation describe all requests.
-/

namespace DeviceBroker

/-- The arguments of an operation, in order. -/
@[reducible] def Operation.Arguments : Operation → Type
  | .enumerate => List (Properties RemoteId) × UInt32
  | .destroyToken => RemoteId
  | .cloneToken => RemoteId
  | .getProperties => RemoteId
  | .updateProperties => RemoteId
  | .openHandle => RemoteId × UInt32
  | .closeHandle => RemoteId
  | .resetHandle => RemoteId
  | .getHandleProperties => RemoteId
  | .mapMmio => RemoteId × UInt32
  | .unmapMmio => RemoteId × RemoteId × UInt32
  | .readMmio32 => RemoteId × UInt32 × UInt64
  | .writeMmio32 => RemoteId × UInt32 × UInt64 × UInt32
  | .readMmio64 => RemoteId × UInt32 × UInt64
  | .writeMmio64 => RemoteId × UInt32 × UInt64 × UInt64
  | .readMmio512 => RemoteId × UInt32 × UInt64
  | .writeMmio512 => RemoteId × UInt32 × UInt64 × List UInt8
  | .prepareBuffer => RemoteId × UInt64 × Option UInt64 × UInt32
  | .releaseBuffer => RemoteId × RemoteId
  | .getIoAddress => RemoteId × RemoteId
  | .readError => RemoteId × UInt32
  | .getErrorInfo => RemoteId × UInt32
  | .clearError => RemoteId × UInt32
  | .clearAllErrors => RemoteId
  | .tokenGetObject => RemoteId × String × UInt32
  | .handleGetObject => RemoteId × String × UInt32
  | .destroyObject => RemoteId
  | .objectGetType => RemoteId
  | .objectGetName => RemoteId
  | .objectGetSize => RemoteId × UInt32
  | .objectRead => RemoteId × UInt64 × UInt64 × UInt32
  | .objectRead64 => RemoteId × UInt32
  | .objectWrite64 => RemoteId × UInt64 × UInt32
  | .objectGetObject => RemoteId × String × UInt32
  | .objectGetObjectAt => RemoteId × UInt64
  | .setUserClock => RemoteId × UInt64 × UInt64 × UInt32
  | .getUserClock => RemoteId × UInt32
  | .getNumMetrics => RemoteId
  | .getMetricsInfo => RemoteId × UInt64
  | .getMetricsByIndex => RemoteId × List UInt64
  | .getMetricsByName => RemoteId × List String
  | .getMetricThresholds => RemoteId × UInt32
  | .reconfigureSlot => RemoteId × UInt32 × String × UInt32
  | .bufferFill => RemoteId × RemoteId × UInt64 × UInt8 × UInt64
  | .bufferWrite => RemoteId × RemoteId × UInt64 × List UInt8 × UInt64
  | .bufferRead => RemoteId × RemoteId × UInt64 × UInt64
  | .bufferPoll => RemoteId × RemoteId × UInt64 × UInt32 × UInt64 × UInt64 × UInt64 × UInt64
  | .bufferCompare => RemoteId × RemoteId × UInt64 × RemoteId × UInt64 × UInt64
  | .bufferPattern => RemoteId × RemoteId × String

/-- The operation and the arguments of a request. -/
def Request.split : Request → (op : Operation) × op.Arguments
  | .enumerate filters maxTokens => ⟨.enumerate, (filters, maxTokens)⟩
  | .destroyToken tokenId => ⟨.destroyToken, tokenId⟩
  | .cloneToken sourceId => ⟨.cloneToken, sourceId⟩
  | .getProperties tokenId => ⟨.getProperties, tokenId⟩
  | .updateProperties tokenId => ⟨.updateProperties, tokenId⟩
  | .openHandle tokenId flags => ⟨.openHandle, (tokenId, flags)⟩
  | .closeHandle handleId => ⟨.closeHandle, handleId⟩
  | .resetHandle handleId => ⟨.resetHandle, handleId⟩
  | .getHandleProperties handleId => ⟨.getHandleProperties, handleId⟩
  | .mapMmio handleId region => ⟨.mapMmio, (handleId, region)⟩
  | .unmapMmio handleId mappingId region => ⟨.unmapMmio, (handleId, mappingId, region)⟩
  | .readMmio32 handleId region offset => ⟨.readMmio32, (handleId, region, offset)⟩
  | .writeMmio32 handleId region offset value => ⟨.writeMmio32, (handleId, region, offset, value)⟩
  | .readMmio64 handleId region offset => ⟨.readMmio64, (handleId, region, offset)⟩
  | .writeMmio64 handleId region offset value => ⟨.writeMmio64, (handleId, region, offset, value)⟩
  | .readMmio512 handleId region offset => ⟨.readMmio512, (handleId, region, offset)⟩
  | .writeMmio512 handleId region offset values =>
    ⟨.writeMmio512, (handleId, region, offset, values)⟩
  | .prepareBuffer handleId length address flags =>
    ⟨.prepareBuffer, (handleId, length, address, flags)⟩
  | .releaseBuffer handleId bufferId => ⟨.releaseBuffer, (handleId, bufferId)⟩
  | .getIoAddress handleId bufferId => ⟨.getIoAddress, (handleId, bufferId)⟩
  | .readError tokenId number => ⟨.readError, (tokenId, number)⟩
  | .getErrorInfo tokenId number => ⟨.getErrorInfo, (tokenId, number)⟩
  | .clearError tokenId number => ⟨.clearError, (tokenId, number)⟩
  | .clearAllErrors tokenId => ⟨.clearAllErrors, tokenId⟩
  | .tokenGetObject tokenId name flags => ⟨.tokenGetObject, (tokenId, name, flags)⟩
  | .handleGetObject handleId name flags => ⟨.handleGetObject, (handleId, name, flags)⟩
  | .destroyObject objectId => ⟨.destroyObject, objectId⟩
  | .objectGetType objectId => ⟨.objectGetType, objectId⟩
  | .objectGetName objectId => ⟨.objectGetName, objectId⟩
  | .objectGetSize objectId flags => ⟨.objectGetSize, (objectId, flags)⟩
  | .objectRead objectId offset length flags => ⟨.objectRead, (objectId, offset, length, flags)⟩
  | .objectRead64 objectId flags => ⟨.objectRead64, (objectId, flags)⟩
  | .objectWrite64 objectId value flags => ⟨.objectWrite64, (objectId, value, flags)⟩
  | .objectGetObject objectId name flags => ⟨.objectGetObject, (objectId, name, flags)⟩
  | .objectGetObjectAt objectId index => ⟨.objectGetObjectAt, (objectId, index)⟩
  | .setUserClock handleId highHz lowHz flags => ⟨.setUserClock, (handleId, highHz, lowHz, flags)⟩
  | .getUserClock handleId flags => ⟨.getUserClock, (handleId, flags)⟩
  | .getNumMetrics handleId => ⟨.getNumMetrics, handleId⟩
  | .getMetricsInfo handleId count => ⟨.getMetricsInfo, (handleId, count)⟩
  | .getMetricsByIndex handleId numbers => ⟨.getMetricsByIndex, (handleId, numbers)⟩
  | .getMetricsByName handleId names => ⟨.getMetricsByName, (handleId, names)⟩
  | .getMetricThresholds handleId count => ⟨.getMetricThresholds, (handleId, count)⟩
  | .reconfigureSlot handleId slot path flags => ⟨.reconfigureSlot, (handleId, slot, path, flags)⟩
  | .bufferFill handleId bufferId offset byte count =>
    ⟨.bufferFill, (handleId, bufferId, offset, byte, count)⟩
  | .bufferWrite handleId bufferId offset source count =>
    ⟨.bufferWrite, (handleId, bufferId, offset, source, count)⟩
  | .bufferRead handleId bufferId offset count =>
    ⟨.bufferRead, (handleId, bufferId, offset, count)⟩
  | .bufferPoll handleId bufferId offset width mask expected sleepMicros attempts =>
    ⟨.bufferPoll, (handleId, bufferId, offset, width, mask, expected, sleepMicros, attempts)⟩
  | .bufferCompare handleId firstId firstOffset secondId secondOffset count =>
    ⟨.bufferCompare, (handleId, firstId, firstOffset, secondId, secondOffset, count)⟩
  | .bufferPattern handleId bufferId pattern => ⟨.bufferPattern, (handleId, bufferId, pattern)⟩

/-- The request for an operation with its arguments. -/
def Request.join : (op : Operation) × op.Arguments → Request
  | ⟨.enumerate, (filters, maxTokens)⟩ => .enumerate filters maxTokens
  | ⟨.destroyToken, tokenId⟩ => .destroyToken tokenId
  | ⟨.cloneToken, sourceId⟩ => .cloneToken sourceId
  | ⟨.getProperties, tokenId⟩ => .getProperties tokenId
  | ⟨.updateProperties, tokenId⟩ => .updateProperties tokenId
  | ⟨.openHandle, (tokenId, flags)⟩ => .openHandle tokenId flags
  | ⟨.closeHandle, handleId⟩ => .closeHandle handleId
  | ⟨.resetHandle, handleId⟩ => .resetHandle handleId
  | ⟨.getHandleProperties, handleId⟩ => .getHandleProperties handleId
  | ⟨.mapMmio, (handleId, region)⟩ => .mapMmio handleId region
  | ⟨.unmapMmio, (handleId, mappingId, region)⟩ => .unmapMmio handleId mappingId region
  | ⟨.readMmio32, (handleId, region, offset)⟩ => .readMmio32 handleId region offset
  | ⟨.writeMmio32, (handleId, region, offset, value)⟩ => .writeMmio32 handleId region offset value
  | ⟨.readMmio64, (handleId, region, offset)⟩ => .readMmio64 handleId region offset
  | ⟨.writeMmio64, (handleId, region, offset, value)⟩ => .writeMmio64 handleId region offset value
  | ⟨.readMmio512, (handleId, region, offset)⟩ => .readMmio512 handleId region offset
  | ⟨.writeMmio512, (handleId, region, offset, values)⟩ =>
    .writeMmio512 handleId region offset values
  | ⟨.prepareBuffer, (handleId, length, address, flags)⟩ =>
    .prepareBuffer handleId length address flags
  | ⟨.releaseBuffer, (handleId, bufferId)⟩ => .releaseBuffer handleId bufferId
  | ⟨.getIoAddress, (handleId, bufferId)⟩ => .getIoAddress handleId bufferId
  | ⟨.readError, (tokenId, number)⟩ => .readError tokenId number
  | ⟨.getErrorInfo, (tokenId, number)⟩ => .getErrorInfo tokenId number
  | ⟨.clearError, (tokenId, number)⟩ => .clearError tokenId number
  | ⟨.clearAllErrors, tokenId⟩ => .clearAllErrors tokenId
  | ⟨.tokenGetObject, (tokenId, name, flags)⟩ => .tokenGetObject tokenId name flags
  | ⟨.handleGetObject, (handleId, name, flags)⟩ => .handleGetObject handleId name flags
  | ⟨.destroyObject, objectId⟩ => .destroyObject objectId
  | ⟨.objectGetType, objectId⟩ => .objectGetType objectId
  | ⟨.objectGetName, objectId⟩ => .objectGetName objectId
  | ⟨.objectGetSize, (objectId, flags)⟩ => .objectGetSize objectId flags
  | ⟨.objectRead, (objectId, offset, length, flags)⟩ => .objectRead objectId offset length flags
  | ⟨.objectRead64, (objectId, flags)⟩ => .objectRead64 objectId flags
  | ⟨.objectWrite64, (objectId, value, flags)⟩ => .objectWrite64 objectId value flags
  | ⟨.objectGetObject, (objectId, name, flags)⟩ => .objectGetObject objectId name flags
  | ⟨.objectGetObjectAt, (objectId, index)⟩ => .objectGetObjectAt objectId index
  | ⟨.setUserClock, (handleId, highHz, lowHz, flags)⟩ => .setUserClock handleId highHz lowHz flags
  | ⟨.getUserClock, (handleId, flags)⟩ => .getUserClock handleId flags
  | ⟨.getNumMetrics, handleId⟩ => .getNumMetrics handleId
  | ⟨.getMetricsInfo, (handleId, count)⟩ => .getMetricsInfo handleId count
  | ⟨.getMetricsByIndex, (handleId, numbers)⟩ => .getMetricsByIndex handleId numbers
  | ⟨.getMetricsByName, (handleId, names)⟩ => .getMetricsByName handleId names
  | ⟨.getMetricThresholds, (handleId, count)⟩ => .getMetricThresholds handleId count
  | ⟨.reconfigureSlot, (handleId, slot, path, flags)⟩ => .reconfigureSlot handleId slot path flags
  | ⟨.bufferFill, (handleId, bufferId, offset, byte, count)⟩ =>
    .bufferFill handleId bufferId offset byte count
  | ⟨.bufferWrite, (handleId, bufferId, offset, source, count)⟩ =>
    .bufferWrite handleId bufferId offset source count
  | ⟨.bufferRead, (handleId, bufferId, offset, count)⟩ =>
    .bufferRead handleId bufferId offset count
  | ⟨.bufferPoll, (handleId, bufferId, offset, width, mask, expected, sleepMicros, attempts)⟩ =>
    .bufferPoll handleId bufferId offset width mask expected sleepMicros attempts
  | ⟨.bufferCompare, (handleId, firstId, firstOffset, secondId, secondOffset, count)⟩ =>
    .bufferCompare handleId firstId firstOffset secondId secondOffset count
  | ⟨.bufferPattern, (handleId, bufferId, pattern)⟩ => .bufferPattern handleId bufferId pattern

@[simp] theorem Request.join_split (request : Request) : Request.join request.split = request := by
  cases request <;> rfl

@[simp] theorem Request.split_join (parts : (op : Operation) × op.Arguments) :
    (Request.join parts).split = parts := by
  obtain ⟨op, arguments⟩ := parts
  cases op <;> rfl

@[simp] theorem Request.operation_join (parts : (op : Operation) × op.Arguments) :
    (Request.join parts).operation = parts.1 := by
  obtain ⟨op, arguments⟩ := parts
  cases op <;> rfl

end DeviceBroker
