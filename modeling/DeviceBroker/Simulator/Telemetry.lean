import DeviceBroker.Outcome
import DeviceBroker.Simulator.Resource

/-!
# Telemetry

The metrics of a simulated resource and their thresholds. Power depends on the
card, the temperature is constant, and the performance metric counts how often
it was sampled.
-/

namespace DeviceBroker.Telemetry

def describe (number : UInt64) (group name units : String) (datatype : MetricDatatype)
    (category : MetricCategory) : MetricInfo where
  number := number
  guid := Vector.replicate 16 (UInt8.ofNat number.toNat)
  qualifierName := group ++ ":" ++ name
  groupName := group
  name := name
  units := units
  datatype := datatype
  category := category

def metrics : List MetricInfo :=
  [describe 0 "power_mgmt" "consumed" "watts" .double .power,
   describe 1 "thermal_mgmt" "fpga_die" "celsius" .double .thermal,
   describe 2 "performance" "cache_read_hit" "counts" .int .performance]

def thresholds : List MetricThresholds :=
  [{ metricName := "consumed"
     upperCritical := some ⟨"Upper Critical", .ofHalves 150⟩
     upperNonCritical := some ⟨"Upper Non-Critical", .ofHalves 132⟩ },
   { metricName := "fpga_die"
     upperNonRecoverable := some ⟨"Upper Non-Recoverable", .ofHalves 200⟩
     upperCritical := some ⟨"Upper Critical", .ofHalves 180⟩ }]

/-- The number of the metric with a name or a qualified name. -/
def number? (name : String) : Option UInt64 :=
  (metrics.find? fun info => info.name == name || info.qualifierName == name).map MetricInfo.number

/-- Sample the metric with a number on the resource of a card. -/
def sample (card : Nat) (number : UInt64) (r : Resource) : Except Fault (Metric × Resource) :=
  if number = 0 then .ok (⟨0, .double (.ofHalves (43 + 2 * card)), true⟩, r)
  else if number = 1 then .ok (⟨1, .double (.ofHalves 90), true⟩, r)
  else if number = 2 then
    let count := r.samples + 1
    .ok (⟨2, .int count, true⟩, { r with samples := count })
  else .error .notFound

/-- Sample metrics one after another, up to the first that does not exist. An
absent number stands for a name that no metric has. Samples taken before a
failure still count. -/
def sampleAll (card : Nat) : List (Option UInt64) → Resource → Except Fault (List Metric) × Resource
  | [], r => (.ok [], r)
  | none :: _, r => (.error .notFound, r)
  | some number :: rest, r =>
    match sample card number r with
    | .error fault => (.error fault, r)
    | .ok (metric, r) =>
      match sampleAll card rest r with
      | (.error fault, r) => (.error fault, r)
      | (.ok metrics, r) => (.ok (metric :: metrics), r)

end DeviceBroker.Telemetry
