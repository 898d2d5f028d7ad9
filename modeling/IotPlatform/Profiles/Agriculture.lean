import IotPlatform.Shared.RuleEngineCore
import IotPlatform.Shared.SensorValidation

/-!
# The agriculture profile

`agriculture_rules.c` and `agriculture_validation_bounds.c`: rule table, validation gate, plausibility bounds and
history buffers.
-/

namespace IotPlatform

def agriMetricSoilMoisture : UInt8 := 20

def agriMetricAmbientTemp : UInt8 := 21

def agriMetricAmbientHumidity : UInt8 := 22

def agriMetricWaterLevel : UInt8 := 23

def agriActuatorIrrigationPump : UInt8 := 1

def agriActuatorIrrigationValve : UInt8 := 2

def agriActuatorFrostValve : UInt8 := 3

section Tables

variable {F : Type} [FloatOps F]

def agricultureRules : List (RuleEntry F) :=
  [ -- Irrigation pump dry-run protection.
    { ruleId := 3001, threshold := FloatOps.ofRat 10, actionType := .setActuator
      actuatorId := agriActuatorIrrigationPump, metricId := agriMetricWaterLevel, ruleClass := .safetyLocked
      comparisonType := .below },
    -- Soil-moisture-triggered irrigation.
    { ruleId := 3002, threshold := FloatOps.ofRat 25, actionType := .setActuator
      actuatorId := agriActuatorIrrigationValve, metricId := agriMetricSoilMoisture, ruleClass := .operational
      comparisonType := .below },
    -- Frost protection.
    { ruleId := 3003, threshold := FloatOps.ofRat 2, actionType := .setActuator
      actuatorId := agriActuatorFrostValve, metricId := agriMetricAmbientTemp, ruleClass := .operational
      comparisonType := .below } ]

def agricultureGetValidationBounds (metricId : UInt8) : Option (SensorValidationBounds F) :=
  if metricId = agriMetricSoilMoisture then
    some { minPhysical := FloatOps.ofRat 0, maxPhysical := FloatOps.ofRat 100, maxRateOfChange := FloatOps.ofRat 5
           stuckTimeoutSec := 7200 }
  else if metricId = agriMetricAmbientTemp then
    some { minPhysical := FloatOps.ofRat (-40), maxPhysical := FloatOps.ofRat 60, maxRateOfChange := FloatOps.ofRat 5
           stuckTimeoutSec := 3600 }
  else if metricId = agriMetricAmbientHumidity then
    some { minPhysical := FloatOps.ofRat 0, maxPhysical := FloatOps.ofRat 100, maxRateOfChange := FloatOps.ofRat 10
           stuckTimeoutSec := 3600 }
  else if metricId = agriMetricWaterLevel then
    some { minPhysical := FloatOps.ofRat 0, maxPhysical := FloatOps.ofRat 100, maxRateOfChange := FloatOps.ofRat 2
           stuckTimeoutSec := 1800 }
  else none

/-- Unlike the HVAC and water gates, one test for every metric, known or not. -/
def agricultureValidateSensorReading (reading : SensorReading F) : Bool := FloatOps.le (FloatOps.ofRat 0) reading.value

def agricultureProfileVtable : DomainProfileVTable F :=
  { getRuleTable := some agricultureRules, validateSensorReading := agricultureValidateSensorReading }

end Tables

def agricultureGetMetricHistory (metricId : UInt8) : Option UInt8 :=
  if metricId = agriMetricSoilMoisture then some agriMetricSoilMoisture
  else if metricId = agriMetricAmbientTemp then some agriMetricAmbientTemp
  else if metricId = agriMetricAmbientHumidity then some agriMetricAmbientHumidity
  else if metricId = agriMetricWaterLevel then some agriMetricWaterLevel
  else none

end IotPlatform
