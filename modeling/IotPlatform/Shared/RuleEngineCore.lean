import IotPlatform.Lib.Binary32

/-!
# Rule engine core

`rule_engine_core.c`: threshold rules of a domain profile, evaluated against one reading.
-/

namespace IotPlatform

inductive RuleClass where
  | safetyLocked | operational
  deriving DecidableEq, Repr

inductive RuleActionType where
  | none | setActuator | triggerAlert | interlock
  deriving DecidableEq, Repr

inductive ActuatorState where
  | off | on | safe
  deriving DecidableEq, Repr

inductive RuleComparisonType where
  | above | below
  deriving DecidableEq, Repr

structure RuleEntry (F : Type) where
  ruleId : UInt16
  threshold : F
  actionType : RuleActionType
  actuatorId : UInt8
  metricId : UInt8
  ruleClass : RuleClass
  comparisonType : RuleComparisonType
  deriving DecidableEq, Repr

structure RuleEvaluationResult where
  ruleId : UInt16
  triggered : Bool
  actionType : RuleActionType
  actuatorId : UInt8
  actuatorState : ActuatorState
  deriving DecidableEq, Repr

structure SensorReading (F : Type) where
  nodeId : UInt8
  metricId : UInt8
  value : F
  timestampMs : UInt64
  deriving DecidableEq, Repr

/-- The callbacks of a profile that the ingestion path uses; `none` is a null `getRuleTable`. -/
structure DomainProfileVTable (F : Type) where
  getRuleTable : Option (List (RuleEntry F))
  validateSensorReading : SensorReading F → Bool

def ruleEngineMaxActions : UInt8 := 8

def ruleIsSafetyLocked {F : Type} (rule : RuleEntry F) : Bool := decide (rule.ruleClass = .safetyLocked)

def ruleEngineFindRule {F : Type} (initialised : Bool) (vtable : Option (DomainProfileVTable F)) (ruleId : UInt16) :
    Option (RuleEntry F) :=
  match vtable with
  | none => none
  | some vtable =>
    if !initialised then none
    else
      match vtable.getRuleTable with
      | none => none
      | some rules => rules.find? fun rule => rule.ruleId == ruleId

section Evaluate

variable {F : Type} [FloatOps F]

def RuleEntry.triggers (rule : RuleEntry F) (value : F) : Bool :=
  match rule.comparisonType with
  | .below => FloatOps.lt value rule.threshold
  | .above => FloatOps.le rule.threshold value

def RuleEntry.result (rule : RuleEntry F) (value : F) : RuleEvaluationResult :=
  { ruleId := rule.ruleId, triggered := true, actionType := rule.actionType, actuatorId := rule.actuatorId
    actuatorState := if FloatOps.le rule.threshold value then .on else .off }

/-- The loop over the table, with `room` result slots left. -/
def evaluateRules (reading : SensorReading F) : (room : Nat) → List (RuleEntry F) → List RuleEvaluationResult
  | 0, _ => []
  | _, [] => []
  | room + 1, rule :: rest =>
    if rule.metricId ≠ reading.metricId then evaluateRules reading (room + 1) rest
    else if rule.triggers reading.value then rule.result reading.value :: evaluateRules reading room rest
    else evaluateRules reading (room + 1) rest

def ruleEngineEvaluate (initialised : Bool) (rules : List (RuleEntry F)) (reading : SensorReading F) (maxResults : UInt8) :
    List RuleEvaluationResult :=
  if maxResults = 0 then []
  else if !initialised then []
  else evaluateRules reading maxResults.toNat rules

end Evaluate

end IotPlatform
