import Mathlib.Logic.Function.Basic
import IotPlatform.Lib.Binary32

/-!
# Sensor validation

`sensor_validation.c`: the range, rate and stuck tests of one reading against the bounds and the history of its
metric.
-/

namespace IotPlatform

def sensorHistorySize : UInt8 := 16

structure SensorValidationBounds (F : Type) where
  minPhysical : F
  maxPhysical : F
  maxRateOfChange : F
  stuckTimeoutSec : UInt16
  deriving DecidableEq, Repr

inductive SensorValidationResult where
  | valid | outOfPhysicalRange | rateExceeded | stuck | crossCheckMismatch
  deriving DecidableEq, Repr

structure SensorHistory (F : Type) where
  nodeId : UInt8
  metricId : UInt8
  values : Nat → F
  timestampsMs : Nat → UInt64
  writeIndex : UInt8
  count : UInt8
  lastValue : F
  lastChangeMs : UInt64
  initialised : Bool

section Validate

variable {F : Type} [FloatOps F]

def sensorHistoryReset : SensorHistory F :=
  { nodeId := 0, metricId := 0, values := fun _ => FloatOps.ofRat 0, timestampsMs := fun _ => 0, writeIndex := 0
    count := 0, lastValue := FloatOps.ofRat 0, lastChangeMs := 0, initialised := false }

/-- The slot the rate test takes for the most recent value. -/
def SensorHistory.latestIdx (history : SensorHistory F) : UInt8 :=
  if history.count ≥ sensorHistorySize then history.writeIndex else history.count - 1

def rateOfChange (newValue : F) (history : SensorHistory F) (currentMs : UInt64) : Option F :=
  let prevValue := history.values history.latestIdx.toNat
  let prevTs := history.timestampsMs history.latestIdx.toNat
  if currentMs > prevTs ∧ prevTs > 0 then
    let dtSec : F := FloatOps.div (FloatOps.ofRat (currentMs - prevTs).toNat) (FloatOps.ofRat 1000)
    if FloatOps.lt (FloatOps.ofRat 0) dtSec then
      let delta := FloatOps.sub newValue prevValue
      let delta := if FloatOps.lt delta (FloatOps.ofRat 0) then FloatOps.neg delta else delta
      some (FloatOps.div delta dtSec)
    else none
  else none

def rateExceeded (newValue : F) (bounds : SensorValidationBounds F) (history : SensorHistory F) (currentMs : UInt64) : Bool :=
  FloatOps.lt (FloatOps.ofRat 0) bounds.maxRateOfChange && decide (history.count > 0) &&
    match rateOfChange newValue history currentMs with
    | some rate => FloatOps.lt bounds.maxRateOfChange rate
    | none => false

def stuckTooLong (newValue : F) (bounds : SensorValidationBounds F) (history : SensorHistory F) (currentMs : UInt64) : Bool :=
  decide (bounds.stuckTimeoutSec > 0) && decide (history.count > 0) && FloatOps.eq newValue history.lastValue &&
    decide (history.lastChangeMs > 0) && decide (currentMs > history.lastChangeMs) &&
    decide (currentMs - history.lastChangeMs > bounds.stuckTimeoutSec.toUInt64 * 1000)

/-- `sensorValidate` with bounds and a history; `initialised` is the module's flag. -/
def sensorValidate (initialised : Bool) (newValue : F) (bounds : SensorValidationBounds F) (history : SensorHistory F)
    (currentMs : UInt64) : SensorValidationResult :=
  if !initialised then .outOfPhysicalRange
  else if FloatOps.lt newValue bounds.minPhysical || FloatOps.lt bounds.maxPhysical newValue then .outOfPhysicalRange
  else if !history.initialised || decide (history.count < 1) then .valid
  else if rateExceeded newValue bounds history currentMs then .rateExceeded
  else if stuckTooLong newValue bounds history currentMs then .stuck
  else .valid

def sensorHistoryRecord (history : SensorHistory F) (nodeId metricId : UInt8) (value : F) (timestampMs : UInt64) :
    SensorHistory F :=
  let history : SensorHistory F :=
    if !history.initialised then { sensorHistoryReset with nodeId := nodeId, metricId := metricId, initialised := true }
    else history
  { history with
    lastChangeMs := if FloatOps.eq value history.lastValue then history.lastChangeMs else timestampMs
    lastValue := value
    values := Function.update history.values history.writeIndex.toNat value
    timestampsMs := Function.update history.timestampsMs history.writeIndex.toNat timestampMs
    writeIndex := (history.writeIndex + 1) % sensorHistorySize
    count := if history.count < sensorHistorySize then history.count + 1 else history.count }

end Validate

/-! ### Validation of single-precision readings -/

/-- A NaN passes every test of an initialised module. -/
theorem sensorValidate_nan {value : Binary32} (nan : value.isNaN = true) (bounds : SensorValidationBounds Binary32)
    (history : SensorHistory Binary32) (currentMs : UInt64) :
    sensorValidate true value bounds history currentMs = .valid := by
  have below : FloatOps.lt value bounds.minPhysical = false := Binary32.lt_nan_left nan
  have above : FloatOps.lt bounds.maxPhysical value = false := Binary32.lt_nan_right nan
  have rate : rateExceeded value bounds history currentMs = false := by
    have unordered : ∀ rate, rateOfChange value history currentMs = some rate → rate.isNaN = true := by
      intro rate measured
      unfold rateOfChange at measured
      dsimp only at measured
      split at measured
      · split at measured
        · have delta : (FloatOps.sub value (history.values history.latestIdx.toNat)).isNaN = true := Binary32.isNaN_sub nan
          have sign : FloatOps.lt (FloatOps.sub value (history.values history.latestIdx.toNat)) (FloatOps.ofRat 0) = false :=
            Binary32.lt_nan_left delta
          rw [sign, if_neg Bool.false_ne_true] at measured
          rw [← Option.some.inj measured]
          exact Binary32.isNaN_div delta
        · cases measured
      · cases measured
    unfold rateExceeded
    cases measured : rateOfChange value history currentMs with
    | none => rw [Bool.and_false]
    | some rate =>
      have incomparable : FloatOps.lt bounds.maxRateOfChange rate = false := Binary32.lt_nan_right (unordered rate measured)
      dsimp only
      rw [incomparable, Bool.and_false]
  have stuck : stuckTooLong value bounds history currentMs = false := by
    have unequal : FloatOps.eq value history.lastValue = false := Binary32.eq_nan_left nan
    simp [stuckTooLong, unequal]
  rw [sensorValidate, below, above, rate, stuck]
  simp

end IotPlatform
