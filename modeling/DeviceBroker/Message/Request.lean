import DeviceBroker.Message.Operation

/-!
# Requests

A remote operation together with its arguments. Resources are named by full
remote identifiers, and byte payloads carry their own length. `bufferWrite`
names a count beside its payload, and only that many leading bytes count.
-/

namespace DeviceBroker

/-- What a client asks of the broker. -/
inductive Request where
  | enumerate (filters : List (Properties RemoteId)) (maxTokens : UInt32)
  | destroyToken (tokenId : RemoteId)
  | cloneToken (sourceId : RemoteId)
  | getProperties (tokenId : RemoteId)
  | updateProperties (tokenId : RemoteId)
  | openHandle (tokenId : RemoteId) (flags : UInt32)
  | closeHandle (handleId : RemoteId)
  | resetHandle (handleId : RemoteId)
  | getHandleProperties (handleId : RemoteId)
  | mapMmio (handleId : RemoteId) (region : UInt32)
  | unmapMmio (handleId : RemoteId) (mappingId : RemoteId) (region : UInt32)
  | readMmio32 (handleId : RemoteId) (region : UInt32) (offset : UInt64)
  | writeMmio32 (handleId : RemoteId) (region : UInt32) (offset : UInt64) (value : UInt32)
  | readMmio64 (handleId : RemoteId) (region : UInt32) (offset : UInt64)
  | writeMmio64 (handleId : RemoteId) (region : UInt32) (offset : UInt64) (value : UInt64)
  | readMmio512 (handleId : RemoteId) (region : UInt32) (offset : UInt64)
  | writeMmio512 (handleId : RemoteId) (region : UInt32) (offset : UInt64) (values : List UInt8)
  | prepareBuffer (handleId : RemoteId) (length : UInt64) (address : Option UInt64)
      (flags : UInt32)
  | releaseBuffer (handleId : RemoteId) (bufferId : RemoteId)
  | getIoAddress (handleId : RemoteId) (bufferId : RemoteId)
  | readError (tokenId : RemoteId) (number : UInt32)
  | getErrorInfo (tokenId : RemoteId) (number : UInt32)
  | clearError (tokenId : RemoteId) (number : UInt32)
  | clearAllErrors (tokenId : RemoteId)
  | tokenGetObject (tokenId : RemoteId) (name : String) (flags : UInt32)
  | handleGetObject (handleId : RemoteId) (name : String) (flags : UInt32)
  | destroyObject (objectId : RemoteId)
  | objectGetType (objectId : RemoteId)
  | objectGetName (objectId : RemoteId)
  | objectGetSize (objectId : RemoteId) (flags : UInt32)
  | objectRead (objectId : RemoteId) (offset : UInt64) (length : UInt64) (flags : UInt32)
  | objectRead64 (objectId : RemoteId) (flags : UInt32)
  | objectWrite64 (objectId : RemoteId) (value : UInt64) (flags : UInt32)
  | objectGetObject (objectId : RemoteId) (name : String) (flags : UInt32)
  | objectGetObjectAt (objectId : RemoteId) (index : UInt64)
  | setUserClock (handleId : RemoteId) (highHz : UInt64) (lowHz : UInt64) (flags : UInt32)
  | getUserClock (handleId : RemoteId) (flags : UInt32)
  | getNumMetrics (handleId : RemoteId)
  | getMetricsInfo (handleId : RemoteId) (count : UInt64)
  | getMetricsByIndex (handleId : RemoteId) (numbers : List UInt64)
  | getMetricsByName (handleId : RemoteId) (names : List String)
  | getMetricThresholds (handleId : RemoteId) (count : UInt32)
  | reconfigureSlot (handleId : RemoteId) (slot : UInt32) (path : String) (flags : UInt32)
  | bufferFill (handleId : RemoteId) (bufferId : RemoteId) (offset : UInt64) (byte : UInt8)
      (count : UInt64)
  | bufferWrite (handleId : RemoteId) (bufferId : RemoteId) (offset : UInt64) (source : List UInt8)
      (count : UInt64)
  | bufferRead (handleId : RemoteId) (bufferId : RemoteId) (offset : UInt64) (count : UInt64)
  | bufferPoll (handleId : RemoteId) (bufferId : RemoteId) (offset : UInt64) (width : UInt32)
      (mask : UInt64) (expected : UInt64) (sleepMicros : UInt64) (attempts : UInt64)
  | bufferCompare (handleId : RemoteId) (firstId : RemoteId) (firstOffset : UInt64)
      (secondId : RemoteId) (secondOffset : UInt64) (count : UInt64)
  | bufferPattern (handleId : RemoteId) (bufferId : RemoteId) (pattern : String)
  deriving DecidableEq

namespace Request

/-- The operation that a request asks for. -/
@[reducible] def operation : Request → Operation
  | .enumerate .. => .enumerate
  | .destroyToken .. => .destroyToken
  | .cloneToken .. => .cloneToken
  | .getProperties .. => .getProperties
  | .updateProperties .. => .updateProperties
  | .openHandle .. => .openHandle
  | .closeHandle .. => .closeHandle
  | .resetHandle .. => .resetHandle
  | .getHandleProperties .. => .getHandleProperties
  | .mapMmio .. => .mapMmio
  | .unmapMmio .. => .unmapMmio
  | .readMmio32 .. => .readMmio32
  | .writeMmio32 .. => .writeMmio32
  | .readMmio64 .. => .readMmio64
  | .writeMmio64 .. => .writeMmio64
  | .readMmio512 .. => .readMmio512
  | .writeMmio512 .. => .writeMmio512
  | .prepareBuffer .. => .prepareBuffer
  | .releaseBuffer .. => .releaseBuffer
  | .getIoAddress .. => .getIoAddress
  | .readError .. => .readError
  | .getErrorInfo .. => .getErrorInfo
  | .clearError .. => .clearError
  | .clearAllErrors .. => .clearAllErrors
  | .tokenGetObject .. => .tokenGetObject
  | .handleGetObject .. => .handleGetObject
  | .destroyObject .. => .destroyObject
  | .objectGetType .. => .objectGetType
  | .objectGetName .. => .objectGetName
  | .objectGetSize .. => .objectGetSize
  | .objectRead .. => .objectRead
  | .objectRead64 .. => .objectRead64
  | .objectWrite64 .. => .objectWrite64
  | .objectGetObject .. => .objectGetObject
  | .objectGetObjectAt .. => .objectGetObjectAt
  | .setUserClock .. => .setUserClock
  | .getUserClock .. => .getUserClock
  | .getNumMetrics .. => .getNumMetrics
  | .getMetricsInfo .. => .getMetricsInfo
  | .getMetricsByIndex .. => .getMetricsByIndex
  | .getMetricsByName .. => .getMetricsByName
  | .getMetricThresholds .. => .getMetricThresholds
  | .reconfigureSlot .. => .reconfigureSlot
  | .bufferFill .. => .bufferFill
  | .bufferWrite .. => .bufferWrite
  | .bufferRead .. => .bufferRead
  | .bufferPoll .. => .bufferPoll
  | .bufferCompare .. => .bufferCompare
  | .bufferPattern .. => .bufferPattern

end Request

end DeviceBroker
