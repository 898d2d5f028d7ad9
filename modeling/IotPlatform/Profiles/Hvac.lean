import IotPlatform.Shared.RuleEngineCore
import IotPlatform.Shared.SensorValidation
import IotPlatform.Profiles.PhysicalRange

/-!
# The HVAC profile

`hvac_rules.c` and `hvac_validation_bounds.c`: rule table, plausibility bounds and history buffers.
-/

namespace IotPlatform

def hvacMetricSupplyTemp : UInt8 := 30

def hvacMetricReturnTemp : UInt8 := 31

def hvacMetricIndoorHumidity : UInt8 := 32

def hvacMetricAmbientTemp : UInt8 := 33

def hvacActuatorCompressorRelay : UInt8 := 1

def hvacActuatorFanMotor : UInt8 := 3

section Tables

variable {F : Type} [FloatOps F]

def hvacRules : List (RuleEntry F) :=
  [ -- Compressor post-run lockout.
    { ruleId := 4001, threshold := FloatOps.ofRat 45, actionType := .setActuator
      actuatorId := hvacActuatorCompressorRelay, metricId := hvacMetricSupplyTemp, ruleClass := .safetyLocked
      comparisonType := .above },
    -- Over-temperature protection.
    { ruleId := 4003, threshold := FloatOps.ofRat 55, actionType := .setActuator
      actuatorId := hvacActuatorCompressorRelay, metricId := hvacMetricSupplyTemp, ruleClass := .safetyLocked
      comparisonType := .above },
    -- Comfort setpoint, heating mode.
    { ruleId := 4002, threshold := FloatOps.ofRat 20, actionType := .setActuator
      actuatorId := hvacActuatorFanMotor, metricId := hvacMetricReturnTemp, ruleClass := .operational
      comparisonType := .below } ]

def hvacGetValidationBounds (metricId : UInt8) : Option (SensorValidationBounds F) :=
  if metricId = hvacMetricSupplyTemp then
    some { minPhysical := FloatOps.ofRat 0, maxPhysical := FloatOps.ofRat 60, maxRateOfChange := FloatOps.ofRat 2
           stuckTimeoutSec := 600 }
  else if metricId = hvacMetricReturnTemp then
    some { minPhysical := FloatOps.ofRat 0, maxPhysical := FloatOps.ofRat 60, maxRateOfChange := FloatOps.ofRat 1
           stuckTimeoutSec := 900 }
  else if metricId = hvacMetricIndoorHumidity then
    some { minPhysical := FloatOps.ofRat 0, maxPhysical := FloatOps.ofRat 100, maxRateOfChange := FloatOps.ofRat 5
           stuckTimeoutSec := 1800 }
  else if metricId = hvacMetricAmbientTemp then
    some { minPhysical := FloatOps.ofRat (-10), maxPhysical := FloatOps.ofRat 50, maxRateOfChange := FloatOps.ofRat 1
           stuckTimeoutSec := 1800 }
  else none

def hvacValidateSensorReading (reading : SensorReading F) : Bool := withinPhysicalRange hvacGetValidationBounds reading

def hvacProfileVtable : DomainProfileVTable F :=
  { getRuleTable := some hvacRules, validateSensorReading := hvacValidateSensorReading }

end Tables

/-- The history buffer of a metric, named by the metric it belongs to. -/
def hvacGetMetricHistory (metricId : UInt8) : Option UInt8 :=
  if metricId = hvacMetricSupplyTemp then some hvacMetricSupplyTemp
  else if metricId = hvacMetricReturnTemp then some hvacMetricReturnTemp
  else if metricId = hvacMetricIndoorHumidity then some hvacMetricIndoorHumidity
  else if metricId = hvacMetricAmbientTemp then some hvacMetricAmbientTemp
  else none

end IotPlatform
