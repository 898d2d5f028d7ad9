import IotPlatform.Shared.RuleEngineCore
import IotPlatform.Shared.SensorValidation

/-!
# The vtable gate of a profile

The HVAC and water profiles validate a reading alike: an unknown metric is refused, and so is a value below the
minimum or above the maximum of its metric.
-/

namespace IotPlatform

section Gate

variable {F : Type} [FloatOps F]

/-- The body of `hvac_validateSensorReading` and `water_validateSensorReading` for a bounds table. -/
def withinPhysicalRange (boundsLookup : UInt8 → Option (SensorValidationBounds F)) (reading : SensorReading F) : Bool :=
  match boundsLookup reading.metricId with
  | none => false
  | some bounds =>
    !(FloatOps.lt reading.value bounds.minPhysical || FloatOps.lt bounds.maxPhysical reading.value)

theorem withinPhysicalRange_iff {boundsLookup : UInt8 → Option (SensorValidationBounds F)} {reading : SensorReading F} :
    withinPhysicalRange boundsLookup reading = true ↔
      ∃ bounds, boundsLookup reading.metricId = some bounds ∧ FloatOps.lt reading.value bounds.minPhysical = false ∧
        FloatOps.lt bounds.maxPhysical reading.value = false := by
  unfold withinPhysicalRange
  cases boundsLookup reading.metricId with
  | none => simp
  | some bounds => simp

end Gate

def InRange (bounds : SensorValidationBounds Binary32) (value : Binary32) : Prop :=
  FloatOps.le bounds.minPhysical value = true ∧ FloatOps.le value bounds.maxPhysical = true

def SensorValidationBounds.Numeric (bounds : SensorValidationBounds Binary32) : Prop :=
  bounds.minPhysical.isNaN = false ∧ bounds.maxPhysical.isNaN = false

theorem inRange_of_gate {bounds : SensorValidationBounds Binary32} (numeric : bounds.Numeric) {value : Binary32}
    (number : value.isNaN = false) (below : FloatOps.lt value bounds.minPhysical = false)
    (above : FloatOps.lt bounds.maxPhysical value = false) : InRange bounds value :=
  ⟨Binary32.le_of_not_lt numeric.1 number below, Binary32.le_of_not_lt number numeric.2 above⟩

theorem not_inRange_nan {bounds : SensorValidationBounds Binary32} {value : Binary32} (nan : value.isNaN = true) :
    ¬InRange bounds value := by
  intro inside
  have outside := Binary32.le_nan_right (x := bounds.minPhysical) nan
  rw [inside.1] at outside
  cases outside

end IotPlatform
