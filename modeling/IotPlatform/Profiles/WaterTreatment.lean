import IotPlatform.Shared.RuleEngineCore
import IotPlatform.Shared.SensorValidation
import IotPlatform.Profiles.PhysicalRange

/-!
# The water treatment profile

`water_rules.c` and `water_validation_bounds.c`: rule table, plausibility bounds and history buffers.
-/

namespace IotPlatform

def waterMetricChlorineLevel : UInt8 := 40

def waterMetricPh : UInt8 := 41

def waterMetricTankLevel : UInt8 := 42

def waterMetricFlowRate : UInt8 := 43

def waterActuatorDosingValve : UInt8 := 1

def waterActuatorMainSupplyValve : UInt8 := 2

section Tables

variable {F : Type} [FloatOps F]

def waterChlorineSafeMaxPpm : F := FloatOps.ofRat 4

def waterPhSafeMin : F := FloatOps.ofRat (13 / 2)

def waterPhSafeMax : F := FloatOps.ofRat (17 / 2)

def waterRules : List (RuleEntry F) :=
  [ -- Chlorine dosing safety.
    { ruleId := 5001, threshold := waterChlorineSafeMaxPpm, actionType := .setActuator
      actuatorId := waterActuatorDosingValve, metricId := waterMetricChlorineLevel, ruleClass := .safetyLocked
      comparisonType := .above },
    -- pH high safety.
    { ruleId := 5002, threshold := waterPhSafeMax, actionType := .setActuator
      actuatorId := waterActuatorDosingValve, metricId := waterMetricPh, ruleClass := .safetyLocked
      comparisonType := .above },
    -- pH low safety.
    { ruleId := 5004, threshold := waterPhSafeMin, actionType := .setActuator
      actuatorId := waterActuatorDosingValve, metricId := waterMetricPh, ruleClass := .safetyLocked
      comparisonType := .below },
    -- Tank level refill.
    { ruleId := 5003, threshold := FloatOps.ofRat 20, actionType := .setActuator
      actuatorId := waterActuatorMainSupplyValve, metricId := waterMetricTankLevel, ruleClass := .operational
      comparisonType := .below } ]

def waterGetValidationBounds (metricId : UInt8) : Option (SensorValidationBounds F) :=
  if metricId = waterMetricChlorineLevel then
    some { minPhysical := FloatOps.ofRat 0, maxPhysical := FloatOps.ofRat 10, maxRateOfChange := FloatOps.ofRat 2
           stuckTimeoutSec := 1800 }
  else if metricId = waterMetricPh then
    some { minPhysical := FloatOps.ofRat 0, maxPhysical := FloatOps.ofRat 14, maxRateOfChange := FloatOps.ofRat 1
           stuckTimeoutSec := 3600 }
  else if metricId = waterMetricTankLevel then
    some { minPhysical := FloatOps.ofRat 0, maxPhysical := FloatOps.ofRat 100, maxRateOfChange := FloatOps.ofRat 5
           stuckTimeoutSec := 1800 }
  else if metricId = waterMetricFlowRate then
    some { minPhysical := FloatOps.ofRat 0, maxPhysical := FloatOps.ofRat 50, maxRateOfChange := FloatOps.ofRat 10
           stuckTimeoutSec := 900 }
  else none

def waterValidateSensorReading (reading : SensorReading F) : Bool := withinPhysicalRange waterGetValidationBounds reading

def waterProfileVtable : DomainProfileVTable F :=
  { getRuleTable := some waterRules, validateSensorReading := waterValidateSensorReading }

end Tables

def waterGetMetricHistory (metricId : UInt8) : Option UInt8 :=
  if metricId = waterMetricChlorineLevel then some waterMetricChlorineLevel
  else if metricId = waterMetricPh then some waterMetricPh
  else if metricId = waterMetricTankLevel then some waterMetricTankLevel
  else if metricId = waterMetricFlowRate then some waterMetricFlowRate
  else none

end IotPlatform
