import IotPlatform.Shared.RuleEngineCore
import IotPlatform.Shared.SensorValidation

/-!
# The home profile

`home_rules.c` and `home_validation_bounds.c`: rule table, validation gate, plausibility bounds and history buffers.
-/

namespace IotPlatform

def homeMetricSecurityState : UInt8 := 10

def homeMetricDoorContact : UInt8 := 11

def homeMetricLightLevel : UInt8 := 12

def homeMetricSoilMoisture : UInt8 := 13

def homeActuatorDoorLock : UInt8 := 1

def homeActuatorIrrigationValve : UInt8 := 2

def homeActuatorLightRelay : UInt8 := 3

section Tables

variable {F : Type} [FloatOps F]

def homeRules : List (RuleEntry F) :=
  [ -- Door lock control, tied to the security state.
    { ruleId := 1001, threshold := FloatOps.ofRat 1, actionType := .setActuator
      actuatorId := homeActuatorDoorLock, metricId := homeMetricSecurityState, ruleClass := .safetyLocked
      comparisonType := .above },
    -- Irrigation schedule: the comment on the entry says "below", the comparison is the other one.
    { ruleId := 2001, threshold := FloatOps.ofRat 30, actionType := .setActuator
      actuatorId := homeActuatorIrrigationValve, metricId := homeMetricSoilMoisture, ruleClass := .operational
      comparisonType := .above },
    -- Lighting schedule, likewise.
    { ruleId := 2002, threshold := FloatOps.ofRat 100, actionType := .setActuator
      actuatorId := homeActuatorLightRelay, metricId := homeMetricLightLevel, ruleClass := .operational
      comparisonType := .above } ]

/-- The security state has no bounds. -/
def homeGetValidationBounds (metricId : UInt8) : Option (SensorValidationBounds F) :=
  if metricId = homeMetricDoorContact then
    some { minPhysical := FloatOps.ofRat 0, maxPhysical := FloatOps.ofRat 1, maxRateOfChange := FloatOps.ofRat 2
           stuckTimeoutSec := 0 }
  else if metricId = homeMetricLightLevel then
    some { minPhysical := FloatOps.ofRat 0, maxPhysical := FloatOps.ofRat 1000, maxRateOfChange := FloatOps.ofRat 500
           stuckTimeoutSec := 3600 }
  else if metricId = homeMetricSoilMoisture then
    some { minPhysical := FloatOps.ofRat 0, maxPhysical := FloatOps.ofRat 100, maxRateOfChange := FloatOps.ofRat 10
           stuckTimeoutSec := 7200 }
  else none

def homeValidateSensorReading (reading : SensorReading F) : Bool := FloatOps.le (FloatOps.ofRat 0) reading.value

def homeProfileVtable : DomainProfileVTable F :=
  { getRuleTable := some homeRules, validateSensorReading := homeValidateSensorReading }

end Tables

def homeGetMetricHistory (metricId : UInt8) : Option UInt8 :=
  if metricId = homeMetricDoorContact then some homeMetricDoorContact
  else if metricId = homeMetricLightLevel then some homeMetricLightLevel
  else if metricId = homeMetricSoilMoisture then some homeMetricSoilMoisture
  else none

end IotPlatform
