import DeviceBroker.Device
import DeviceBroker.Wire.Codec

/-!
# Records on the wire

The codecs of the device vocabulary. A record is its fields in order, and an
optional field is written with its tag. Most arrays carry their length; the
guid of a property set is the one that does not.
-/

namespace DeviceBroker.Wire

open Codec (seq)

/-- An identifier: the high half and the low half. -/
def remoteId : Codec RemoteId :=
  (seq .uint64 .uint64).convert (fun p => ⟨p.1, p.2⟩) (fun id => (id.high, id.low))

/-- A double, as its bits. -/
def double : Codec Double := Codec.uint64.convert Double.mk Double.bits

def resourceKind : Codec ResourceKind := .enumeration [.device, .accelerator]

def assignment : Codec Assignment := .enumeration [.assigned, .unassigned]

def nodeKind : Codec NodeKind := .enumeration [.container, .attribute]

def metricDatatype : Codec MetricDatatype :=
  .enumeration [.int, .float, .double, .bool, .unknown]

def metricCategory : Codec MetricCategory :=
  .enumeration [.power, .thermal, .performance, .afu, .unknown]

def imageVersion : Codec ImageVersion :=
  (seq .uint8 (seq .uint8 .uint16)).convert
    (fun (major, minor, patch) => ⟨major, minor, patch⟩)
    (fun v => (v.major, v.minor, v.patch))

/-- A property set, with its guid as bare bytes. -/
def properties : Codec (Properties RemoteId) :=
  (seq (.option remoteId) <| seq (.option resourceKind) <| seq (.option .uint16) <|
    seq (.option .uint8) <| seq (.option .uint8) <| seq (.option .uint8) <|
    seq (.option .uint8) <| seq (.option .uint16) <| seq (.option .uint16) <|
    seq (.option .uint16) <| seq (.option .uint16) <| seq (.option .uint64) <|
    seq (.option (.bare 16)) <| seq (.option .uint32) <| seq (.option .text) <|
    seq (.option .uint32) <| seq (.option .uint64) <| seq (.option imageVersion) <|
    seq (.option assignment) <| seq (.option .uint32) (.option .uint32)).convert
    (fun (parent, kind, segment, bus, device, function, socketId, vendorId, deviceId,
        subsystemVendorId, subsystemDeviceId, objectId, guid, numErrors, interface, numSlots,
        imageId, imageVersion, assignment, numMmio, numInterrupts) =>
      { parent, kind, segment, bus, device, function, socketId, vendorId, deviceId,
        subsystemVendorId, subsystemDeviceId, objectId, guid, numErrors, interface, numSlots,
        imageId, imageVersion, assignment, numMmio, numInterrupts })
    (fun p =>
      (p.parent, p.kind, p.segment, p.bus, p.device, p.function, p.socketId, p.vendorId,
        p.deviceId, p.subsystemVendorId, p.subsystemDeviceId, p.objectId, p.guid, p.numErrors,
        p.interface, p.numSlots, p.imageId, p.imageVersion, p.assignment, p.numMmio,
        p.numInterrupts))

def deviceHeader : Codec DeviceHeader :=
  (seq .uint16 <| seq .uint16 <| seq .uint16 <| seq .uint8 <| seq .uint8 <| seq .uint8 <|
    seq .text <| seq resourceKind <| seq .uint64 <| seq (.array 16) <|
    seq .uint16 .uint16).convert
    (fun (vendorId, deviceId, segment, bus, device, function, interface, kind, objectId, guid,
        subsystemVendorId, subsystemDeviceId) =>
      { vendorId, deviceId, segment, bus, device, function, interface, kind, objectId, guid,
        subsystemVendorId, subsystemDeviceId })
    (fun h =>
      (h.vendorId, h.deviceId, h.segment, h.bus, h.device, h.function, h.interface, h.kind,
        h.objectId, h.guid, h.subsystemVendorId, h.subsystemDeviceId))

def tokenHeader : Codec TokenHeader :=
  (seq remoteId deviceHeader).convert (fun p => ⟨p.1, p.2⟩) (fun t => (t.tokenId, t.header))

def handleHeader : Codec HandleHeader :=
  (seq remoteId remoteId).convert (fun p => ⟨p.1, p.2⟩) (fun h => (h.handleId, h.tokenId))

def enumerationResult : Codec Enumeration :=
  (seq (.list tokenHeader) .uint32).convert (fun p => ⟨p.1, p.2⟩)
    (fun e => (e.tokens, e.numMatches))

def errorInfo : Codec ErrorInfo :=
  (seq .text .boolean).convert (fun p => ⟨p.1, p.2⟩) (fun e => (e.name, e.canClear))

def userClock : Codec UserClock :=
  (seq .uint64 .uint64).convert (fun p => ⟨p.1, p.2⟩) (fun c => (c.highHz, c.lowHz))

def metricInfo : Codec MetricInfo :=
  (seq .uint64 <| seq (.array 16) <| seq .text <| seq .text <| seq .text <| seq .text <|
    seq metricDatatype metricCategory).convert
    (fun (number, guid, qualifierName, groupName, name, units, datatype, category) =>
      { number, guid, qualifierName, groupName, name, units, datatype, category })
    (fun m =>
      (m.number, m.guid, m.qualifierName, m.groupName, m.name, m.units, m.datatype, m.category))

/-- The kinds of sampled values. -/
inductive MetricValueKind where
  | int
  | double
  | bool
  deriving DecidableEq, Repr

@[reducible] def MetricValueKind.Body : MetricValueKind → Type
  | .int => UInt64
  | .double => Double
  | .bool => Bool

def metricValueBody : (kind : MetricValueKind) → Codec kind.Body
  | .int => .uint64
  | .double => double
  | .bool => .boolean

def metricValue : Codec MetricValue :=
  (Codec.choice (.enumeration [MetricValueKind.int, .double, .bool]) metricValueBody).convert
    (fun
      | ⟨.int, value⟩ => .int value
      | ⟨.double, value⟩ => .double value
      | ⟨.bool, value⟩ => .bool value)
    (fun
      | .int value => ⟨.int, value⟩
      | .double value => ⟨.double, value⟩
      | .bool value => ⟨.bool, value⟩)

def metric : Codec Metric :=
  (seq .uint64 (seq metricValue .boolean)).convert
    (fun (number, value, isValid) => { number, value, isValid })
    (fun m => (m.number, m.value, m.isValid))

def threshold : Codec Threshold :=
  (seq .text double).convert (fun p => ⟨p.1, p.2⟩) (fun t => (t.name, t.value))

def metricThresholds : Codec MetricThresholds :=
  (seq .text <| seq (.option threshold) <| seq (.option threshold) <| seq (.option threshold) <|
    seq (.option threshold) <| seq (.option threshold) <|
    seq (.option threshold) (.option threshold)).convert
    (fun (metricName, upperNonRecoverable, upperCritical, upperNonCritical, lowerNonRecoverable,
        lowerCritical, lowerNonCritical, hysteresis) =>
      { metricName, upperNonRecoverable, upperCritical, upperNonCritical, lowerNonRecoverable,
        lowerCritical, lowerNonCritical, hysteresis })
    (fun t =>
      (t.metricName, t.upperNonRecoverable, t.upperCritical, t.upperNonCritical,
        t.lowerNonRecoverable, t.lowerCritical, t.lowerNonCritical, t.hysteresis))

end DeviceBroker.Wire
