import DeviceBroker.Simulator.Buffer
import DeviceBroker.Simulator.Handle
import DeviceBroker.Simulator.Object
import DeviceBroker.Simulator.Register

/-!
# Serving calls

`Simulator.call` is the one entrance to the simulated cards: it counts the
call, reports a failure that was armed for its kind, and else serves it. Most
calls either succeed or leave the state alone; sampling metrics is the one
that may fail after it has counted samples.
-/

namespace DeviceBroker.Simulator

variable {cards : Nat} {α : Type}

/-- Keep the new state of a success, and the old state of a failure. -/
def commit (s : Simulator cards) (result : Except Fault (α × Simulator cards)) :
    Except Fault α × Simulator cards :=
  match result with
  | .ok (value, s) => (.ok value, s)
  | .error fault => (.error fault, s)

@[simp] theorem commit_ok (s t : Simulator cards) (value : α) :
    s.commit (.ok (value, t)) = (.ok value, t) := rfl

@[simp] theorem commit_error (s : Simulator cards) (fault : Fault) :
    s.commit (.error fault : Except Fault (α × Simulator cards)) = (.error fault, s) := rfl

/-- What a call does to the cards. -/
def serve (s : Simulator cards) : (call : DeviceCall) → Except Fault call.Value × Simulator cards
  | .enumerate filters maxTokens =>
    let (listing, s) := s.enumerate filters maxTokens
    (.ok listing, s)
  | .destroyToken token => s.commit (s.destroyToken token)
  | .cloneToken token => s.commit (s.cloneToken token)
  | .getProperties token => s.commit (s.tokenProperties token)
  | .updateProperties token => s.commit (s.tokenProperties token)
  | .openHandle token flags => s.commit (s.openHandle token flags)
  | .closeHandle handle => s.commit (s.closeHandle handle)
  | .resetHandle handle => s.commit (s.resetHandle handle)
  | .getHandleProperties handle => s.commit (s.handleProperties handle)
  | .mapMmio handle region => s.commit (s.mapMmio handle region)
  | .unmapMmio handle region => s.commit (s.unmapMmio handle region)
  | .readMmio32 handle region offset => (s.readMmio32 handle region offset, s)
  | .writeMmio32 handle region offset value =>
    s.commit (s.writeRegister handle region offset (.ofWord 4 value.toNat))
  | .readMmio64 handle region offset => (s.readMmio64 handle region offset, s)
  | .writeMmio64 handle region offset value =>
    s.commit (s.writeRegister handle region offset (.ofWord 8 value.toNat))
  | .readMmio512 handle region offset => (s.readMmio512 handle region offset, s)
  | .writeMmio512 handle region offset value =>
    s.commit (s.writeRegister handle region offset (.ofArray value.toArray))
  | .prepareBuffer handle length address flags =>
    s.commit (s.prepareBuffer handle length address flags)
  | .releaseBuffer handle workspace => s.commit (s.releaseBuffer handle workspace)
  | .getIoAddress handle workspace => (s.ioAddress handle workspace, s)
  | .bufferRead handle workspace offset count => (s.readBuffer handle workspace offset count, s)
  | .bufferWrite handle workspace offset data =>
    s.commit (s.writeBuffer handle workspace offset data)
  | .readError token number => (s.readError token number, s)
  | .getErrorInfo token number => (s.errorInfo token number, s)
  | .clearError token number => s.commit (s.clearError token number)
  | .clearAllErrors token => s.commit (s.clearAllErrors token)
  | .tokenGetObject token name _ => s.commit (s.tokenObject token name)
  | .handleGetObject handle name _ => s.commit (s.handleObject handle name)
  | .destroyObject object => s.commit (s.destroyObject object)
  | .objectGetType object => (s.objectType object, s)
  | .objectGetName object => (s.objectName object, s)
  | .objectGetSize object _ => (s.objectSize object, s)
  | .objectRead object offset length _ => (s.readObject object offset length, s)
  | .objectRead64 object _ => (s.readObject64 object, s)
  | .objectWrite64 object value _ => s.commit (s.writeObject64 object value)
  | .objectGetObject object name _ => s.commit (s.childObject object name)
  | .objectGetObjectAt object index => s.commit (s.childObjectAt object index)
  | .setUserClock handle highHz lowHz _ => s.commit (s.setUserClock handle highHz lowHz)
  | .getUserClock handle _ => (s.userClock handle, s)
  | .getNumMetrics handle =>
    ((s.handleOf handle).map fun _ => UInt64.ofNat Telemetry.metrics.length, s)
  | .getMetricsInfo handle count =>
    ((s.handleOf handle).map fun _ => Telemetry.metrics.take count.toNat, s)
  | .getMetricsByIndex handle numbers => s.sampleMetrics handle (numbers.map some)
  | .getMetricsByName handle names => s.sampleMetrics handle (names.map Telemetry.number?)
  | .getMetricThresholds handle count =>
    ((s.handleOf handle).map fun _ => Telemetry.thresholds.take count.toNat, s)
  | .reconfigureSlot handle slot path _ => s.commit (s.reconfigureSlot handle slot path)

/-- Receive a call: count it, then report an armed failure or serve it. -/
def call (s : Simulator cards) (call : DeviceCall) : Except Fault call.Value × Simulator cards :=
  let s := { s with calls := s.calls + 1 }
  match s.armed call.kind with
  | some fault => (.error fault, { s with armed := override s.armed call.kind none })
  | none => s.serve call

end DeviceBroker.Simulator
