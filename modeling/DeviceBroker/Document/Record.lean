import DeviceBroker.Device
import DeviceBroker.Document.Form

/-!
# Records as documents

The forms of the device vocabulary. Every record is a document of named
fields, an optional field is there in any case, and a value of a few is its
name.
-/

namespace DeviceBroker.Form

open Fields (seq)

def remoteId : Form RemoteId :=
  (seq (field "high" uint64) (field "low" uint64)).recordOf (fun p => ⟨p.1, p.2⟩)
    (fun id => (id.high, id.low))

def guid : Form Guid := bytes 16

def resourceKind : Form ResourceKind :=
  named [(.device, "Device"), (.accelerator, "Accelerator")]

def assignment : Form Assignment :=
  named [(.assigned, "Assigned"), (.unassigned, "Unassigned")]

def nodeKind : Form NodeKind := named [(.container, "Container"), (.attribute, "Attribute")]

def metricDatatype : Form MetricDatatype :=
  named [(.int, "Int"), (.float, "Float"), (.double, "Double"), (.bool, "Bool"),
    (.unknown, "Unknown")]

def metricCategory : Form MetricCategory :=
  named [(.power, "Power"), (.thermal, "Thermal"), (.performance, "Performance"), (.afu, "Afu"),
    (.unknown, "Unknown")]

/-- Versions, as lists of three numbers. -/
def imageVersion : Form ImageVersion where
  write v := .list [uint8.write v.major, uint8.write v.minor, uint16.write v.patch]
  read?
    | .list [major, minor, patch] => do
      return ⟨← uint8.read? major, ← uint8.read? minor, ← uint16.read? patch⟩
    | _ => none

def properties : Form (Properties RemoteId) :=
  (seq (field "parent" (option remoteId)) <| seq (field "object_type" (option resourceKind)) <|
    seq (field "segment" (option uint16)) <| seq (field "bus" (option uint8)) <|
    seq (field "device" (option uint8)) <| seq (field "function" (option uint8)) <|
    seq (field "socket_id" (option uint8)) <| seq (field "vendor_id" (option uint16)) <|
    seq (field "device_id" (option uint16)) <|
    seq (field "subsystem_vendor_id" (option uint16)) <|
    seq (field "subsystem_device_id" (option uint16)) <|
    seq (field "object_id" (option uint64)) <| seq (field "guid" (option guid)) <|
    seq (field "num_errors" (option uint32)) <| seq (field "interface" (option text)) <|
    seq (field "num_slots" (option uint32)) <| seq (field "bbs_id" (option uint64)) <|
    seq (field "bbs_version" (option imageVersion)) <|
    seq (field "accelerator_state" (option assignment)) <|
    seq (field "num_mmio" (option uint32)) (field "num_interrupts" (option uint32))).recordOf
    (fun (parent, kind, segment, bus, device, function, socketId, vendorId, deviceId,
        subsystemVendorId, subsystemDeviceId, objectId, guid, numErrors, interface, numSlots,
        imageId, imageVersion, assignment, numMmio, numInterrupts) =>
      { parent, kind, segment, bus, device, function, socketId, vendorId, deviceId,
        subsystemVendorId, subsystemDeviceId, objectId, guid, numErrors, interface, numSlots,
        imageId, imageVersion, assignment, numMmio, numInterrupts })
    (fun p =>
      (p.parent, p.kind, p.segment, p.bus, p.device, p.function, p.socketId, p.vendorId,
        p.deviceId, p.subsystemVendorId, p.subsystemDeviceId, p.objectId, p.guid, p.numErrors,
        p.interface, p.numSlots, p.imageId, p.imageVersion, p.assignment, p.numMmio,
        p.numInterrupts))

def deviceHeader : Form DeviceHeader :=
  (seq (field "vendor_id" uint16) <| seq (field "device_id" uint16) <|
    seq (field "segment" uint16) <| seq (field "bus" uint8) <| seq (field "device" uint8) <|
    seq (field "function" uint8) <| seq (field "interface" text) <|
    seq (field "object_type" resourceKind) <| seq (field "object_id" uint64) <|
    seq (field "guid" guid) <| seq (field "subsystem_vendor_id" uint16)
    (field "subsystem_device_id" uint16)).recordOf
    (fun (vendorId, deviceId, segment, bus, device, function, interface, kind, objectId, guid,
        subsystemVendorId, subsystemDeviceId) =>
      { vendorId, deviceId, segment, bus, device, function, interface, kind, objectId, guid,
        subsystemVendorId, subsystemDeviceId })
    (fun h =>
      (h.vendorId, h.deviceId, h.segment, h.bus, h.device, h.function, h.interface, h.kind,
        h.objectId, h.guid, h.subsystemVendorId, h.subsystemDeviceId))

def tokenHeader : Form TokenHeader :=
  (seq (field "token_id" remoteId) (field "header" deviceHeader)).recordOf
    (fun p => ⟨p.1, p.2⟩) (fun t => (t.tokenId, t.header))

def handleHeader : Form HandleHeader :=
  (seq (field "handle_id" remoteId) (field "token_id" remoteId)).recordOf
    (fun p => ⟨p.1, p.2⟩) (fun h => (h.handleId, h.tokenId))

def enumeration : Form Enumeration :=
  (seq (field "tokens" (list tokenHeader)) (field "num_matches" uint32)).recordOf
    (fun p => ⟨p.1, p.2⟩) (fun e => (e.tokens, e.numMatches))

def errorInfo : Form ErrorInfo :=
  (seq (field "name" text) (field "can_clear" boolean)).recordOf
    (fun p => ⟨p.1, p.2⟩) (fun e => (e.name, e.canClear))

def userClock : Form UserClock :=
  (seq (field "high_hz" uint64) (field "low_hz" uint64)).recordOf
    (fun p => ⟨p.1, p.2⟩) (fun c => (c.highHz, c.lowHz))

def metricInfo : Form MetricInfo :=
  (seq (field "metric_num" uint64) <| seq (field "metric_guid" guid) <|
    seq (field "qualifier_name" text) <| seq (field "group_name" text) <|
    seq (field "metric_name" text) <| seq (field "metric_units" text) <|
    seq (field "datatype" metricDatatype) (field "metric_type" metricCategory)).recordOf
    (fun (number, guid, qualifierName, groupName, name, units, datatype, category) =>
      { number, guid, qualifierName, groupName, name, units, datatype, category })
    (fun m =>
      (m.number, m.guid, m.qualifierName, m.groupName, m.name, m.units, m.datatype, m.category))

/-- Sampled values, as records of the one field that names their type. -/
def metricValue : Form MetricValue where
  write
    | .int value => .record [("Int", uint64.write value)]
    | .double value => .record [("Double", double.write value)]
    | .bool value => .record [("Bool", boolean.write value)]
  read?
    | .record [("Int", d)] => (uint64.read? d).map .int
    | .record [("Double", d)] => (double.read? d).map .double
    | .record [("Bool", d)] => (boolean.read? d).map .bool
    | _ => none

def metric : Form Metric :=
  (seq (field "metric_num" uint64) <| seq (field "value" metricValue)
    (field "is_valid" boolean)).recordOf
    (fun (number, value, isValid) => { number, value, isValid })
    (fun m => (m.number, m.value, m.isValid))

def threshold : Form Threshold :=
  (seq (field "name" text) (field "value" double)).recordOf
    (fun p => ⟨p.1, p.2⟩) (fun t => (t.name, t.value))

def metricThresholds : Form MetricThresholds :=
  (seq (field "metric_name" text) <|
    seq (field "upper_non_recoverable" (option threshold)) <|
    seq (field "upper_critical" (option threshold)) <|
    seq (field "upper_non_critical" (option threshold)) <|
    seq (field "lower_non_recoverable" (option threshold)) <|
    seq (field "lower_critical" (option threshold)) <|
    seq (field "lower_non_critical" (option threshold))
    (field "hysteresis" (option threshold))).recordOf
    (fun (metricName, upperNonRecoverable, upperCritical, upperNonCritical, lowerNonRecoverable,
        lowerCritical, lowerNonCritical, hysteresis) =>
      { metricName, upperNonRecoverable, upperCritical, upperNonCritical, lowerNonRecoverable,
        lowerCritical, lowerNonCritical, hysteresis })
    (fun t =>
      (t.metricName, t.upperNonRecoverable, t.upperCritical, t.upperNonCritical,
        t.lowerNonRecoverable, t.lowerCritical, t.lowerNonCritical, t.hysteresis))

end DeviceBroker.Form
