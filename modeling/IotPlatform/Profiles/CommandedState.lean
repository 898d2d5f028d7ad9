import IotPlatform.Shared.RuleSelection
import IotPlatform.Profiles.Agriculture
import IotPlatform.Profiles.Hvac
import IotPlatform.Profiles.WaterTreatment

/-!
# What a triggered rule commands

`rule_engine_evaluate` reads the commanded state off the comparison of the value with the threshold, so the state
follows the direction of the rule and not what its entry in the table is documented to do.
-/

namespace IotPlatform

/-! ### What the comments on the rule tables say -/

/-- `water_rules.c`: the three safety rules stop dosing, the refill rule opens the supply valve. -/
def waterDocumentedState (ruleId : UInt16) : ActuatorState := if ruleId = 5003 then .on else .off

/-- `hvac_rules.c`: the two protections shut the compressor down, the comfort rule activates the fan. -/
def hvacDocumentedState (ruleId : UInt16) : ActuatorState := if ruleId = 4002 then .on else .off

/-- `agriculture_rules.c`: dry-run protection stops the pump, the other two rules open a valve. -/
def agricultureDocumentedState (ruleId : UInt16) : ActuatorState := if ruleId = 3001 then .off else .on

/-- Every actuator command among the results is the documented one. -/
def CommandsAsDocumented (documented : UInt16 → ActuatorState) (results : List RuleEvaluationResult) : Prop :=
  ∀ result ∈ results, result.actionType = .setActuator → result.actuatorState = documented result.ruleId

/-! ### The engine -/

/-- The state a rule commands whenever it triggers. -/
def RuleComparisonType.commandedState : RuleComparisonType → ActuatorState
  | .above => .on
  | .below => .off

def RuleEntry.Misdirected {F : Type} (documented : UInt16 → ActuatorState) (rule : RuleEntry F) : Prop :=
  rule.actionType = .setActuator ∧ rule.comparisonType.commandedState ≠ documented rule.ruleId

instance {F : Type} (documented : UInt16 → ActuatorState) (rule : RuleEntry F) :
    Decidable (rule.Misdirected documented) := inferInstanceAs (Decidable (_ ∧ _))

/-- The rule is about the metric of the reading and its comparison holds. -/
def RuleEntry.Fires {F : Type} [FloatOps F] (reading : SensorReading F) (rule : RuleEntry F) : Prop :=
  rule.metricId = reading.metricId ∧ rule.triggers reading.value = true

theorem RuleEntry.result_actuatorState {rule : RuleEntry Binary32} {value : Binary32}
    (triggered : rule.triggers value = true) :
    (rule.result value).actuatorState = rule.comparisonType.commandedState := by
  unfold RuleEntry.triggers at triggered
  unfold RuleEntry.result
  cases direction : rule.comparisonType with
  | above =>
    rw [direction] at triggered
    simp [triggered, RuleComparisonType.commandedState]
  | below =>
    rw [direction] at triggered
    simp [Binary32.not_le_of_lt triggered, RuleComparisonType.commandedState]

theorem RuleEntry.result_documented {documented : UInt16 → ActuatorState} {rule : RuleEntry Binary32}
    {value : Binary32} (triggered : rule.triggers value = true) :
    ((rule.result value).actionType = .setActuator →
        (rule.result value).actuatorState = documented (rule.result value).ruleId) ↔ ¬rule.Misdirected documented := by
  rw [RuleEntry.result_actuatorState triggered]
  unfold RuleEntry.Misdirected
  simp [RuleEntry.result]

section Loop

variable {F : Type} [FloatOps F] {reading : SensorReading F} {rules : List (RuleEntry F)} {rule : RuleEntry F}
  {room : Nat}

theorem mem_triggeredRules : rule ∈ triggeredRules rules reading ↔ rule ∈ rules ∧ rule.Fires reading := by
  simp [triggeredRules, RuleEntry.Fires]

theorem mem_evaluateRules {result : RuleEvaluationResult} (member : result ∈ evaluateRules reading room rules) :
    ∃ rule ∈ rules, rule.Fires reading ∧ result = rule.result reading.value := by
  rw [evaluateRules_eq_take] at member
  obtain ⟨rule, taken, rfl⟩ := List.mem_map.mp member
  obtain ⟨inside, fires⟩ := mem_triggeredRules.mp (List.mem_of_mem_take taken)
  exact ⟨rule, inside, fires, rfl⟩

/-- The first rule of the table that fires always has its result in the output. -/
theorem head?_evaluateRules (room : Nat) (fires : ∃ rule ∈ rules, rule.Fires reading) :
    ∃ before rule after, rules = before ++ rule :: after ∧ rule.Fires reading ∧
      (∀ earlier ∈ before, ¬earlier.Fires reading) ∧
      rule.result reading.value ∈ evaluateRules reading (room + 1) rules := by
  obtain ⟨other, inside, holds⟩ := fires
  obtain ⟨rule, rest, triggered⟩ :=
    List.exists_cons_of_ne_nil (List.ne_nil_of_mem (mem_triggeredRules.mpr ⟨inside, holds⟩))
  obtain ⟨before, after, split, quiet, fires, -⟩ := List.filter_eq_cons_iff.mp triggered
  refine ⟨before, rule, after, split, by simpa [RuleEntry.Fires] using fires, ?_, ?_⟩
  · simpa [RuleEntry.Fires] using quiet
  · rw [evaluateRules_eq_take, triggered]
    exact List.mem_cons_self

end Loop

/-- No rule that does as documented stands before a misdirected rule of the same metric, so a full result buffer
cannot hide a wrong command. -/
def MisdirectedFirst (documented : UInt16 → ActuatorState) (rules : List (RuleEntry Binary32)) : Prop :=
  rules.Pairwise fun earlier later =>
    earlier.metricId = later.metricId → later.Misdirected documented → earlier.Misdirected documented

theorem evaluateRules_documented_iff {documented : UInt16 → ActuatorState} {rules : List (RuleEntry Binary32)}
    (order : MisdirectedFirst documented rules) (reading : SensorReading Binary32) (room : Nat) :
    CommandsAsDocumented documented (evaluateRules reading (room + 1) rules) ↔
      ∀ rule ∈ rules, rule.Misdirected documented → ¬rule.Fires reading := by
  constructor
  · intro documentedly rule inside wrong fires
    obtain ⟨before, first, after, split, holds, quiet, member⟩ := head?_evaluateRules room ⟨rule, inside, fires⟩
    have right := (RuleEntry.result_documented holds.2).mp (documentedly _ member)
    rw [split] at inside
    rcases List.mem_append.mp inside with early | late
    · exact quiet rule early fires
    · rcases List.mem_cons.mp late with rfl | late
      · exact right wrong
      · unfold MisdirectedFirst at order
        rw [split, List.pairwise_append, List.pairwise_cons] at order
        exact right (order.2.1.1 rule late (holds.1.trans fires.1.symm) wrong)
  · intro quiet result member
    obtain ⟨rule, inside, fires, rfl⟩ := mem_evaluateRules member
    exact (RuleEntry.result_documented fires.2).mpr fun wrong => quiet rule inside wrong fires

theorem ruleEngineEvaluate_documented_iff {documented : UInt16 → ActuatorState} {rules : List (RuleEntry Binary32)}
    (order : MisdirectedFirst documented rules) (initialised : Bool) (reading : SensorReading Binary32)
    (maxResults : UInt8) :
    CommandsAsDocumented documented (ruleEngineEvaluate initialised rules reading maxResults) ↔
      initialised = false ∨ maxResults = 0 ∨ ∀ rule ∈ rules, rule.Misdirected documented → ¬rule.Fires reading := by
  unfold ruleEngineEvaluate
  split
  · rename_i none
    simp [CommandsAsDocumented, none]
  · rename_i some
    cases initialised with
    | false => simp [CommandsAsDocumented]
    | true =>
      have positive : 0 < maxResults.toNat := by
        rcases Nat.eq_zero_or_pos maxResults.toNat with zero | positive
        · exact absurd (UInt8.toNat_inj.mp zero) some
        · exact positive
      obtain ⟨room, exact_room⟩ := Nat.exists_eq_succ_of_ne_zero (Nat.ne_of_gt positive)
      rw [exact_room]
      simpa [some] using evaluateRules_documented_iff order reading room

/-! ### The three tables -/

instance {documented : UInt16 → ActuatorState} {rules : List (RuleEntry Binary32)} :
    Decidable (MisdirectedFirst documented rules) := inferInstanceAs (Decidable (List.Pairwise _ _))

theorem waterRules_misdirectedFirst : MisdirectedFirst waterDocumentedState waterRules := by decide

theorem hvacRules_misdirectedFirst : MisdirectedFirst hvacDocumentedState hvacRules := by decide

theorem agricultureRules_misdirectedFirst : MisdirectedFirst agricultureDocumentedState agricultureRules := by decide

theorem waterRules_quiet_iff (reading : SensorReading Binary32) :
    (∀ rule ∈ waterRules, rule.Misdirected waterDocumentedState → ¬rule.Fires reading) ↔
      ¬(reading.metricId = waterMetricChlorineLevel ∧ FloatOps.le waterChlorineSafeMaxPpm reading.value = true) ∧
      ¬(reading.metricId = waterMetricPh ∧ FloatOps.le waterPhSafeMax reading.value = true) ∧
      ¬(reading.metricId = waterMetricTankLevel ∧ FloatOps.lt reading.value (FloatOps.ofRat 20) = true) := by
  simp [waterRules, RuleEntry.Misdirected, RuleEntry.Fires, RuleEntry.triggers, waterDocumentedState,
    RuleComparisonType.commandedState, eq_comm (b := reading.metricId)]

theorem hvacRules_quiet_iff (reading : SensorReading Binary32) :
    (∀ rule ∈ hvacRules, rule.Misdirected hvacDocumentedState → ¬rule.Fires reading) ↔
      ¬(reading.metricId = hvacMetricSupplyTemp ∧ FloatOps.le (FloatOps.ofRat 45) reading.value = true) ∧
      ¬(reading.metricId = hvacMetricReturnTemp ∧ FloatOps.lt reading.value (FloatOps.ofRat 20) = true) := by
  have hotter : FloatOps.le (FloatOps.ofRat 55) reading.value = true →
      FloatOps.le (FloatOps.ofRat 45) reading.value = true := Binary32.le_trans (by decide +kernel)
  simp [hvacRules, RuleEntry.Misdirected, RuleEntry.Fires, RuleEntry.triggers, hvacDocumentedState,
    RuleComparisonType.commandedState, eq_comm (b := reading.metricId)]
  grind

theorem agricultureRules_quiet_iff (reading : SensorReading Binary32) :
    (∀ rule ∈ agricultureRules, rule.Misdirected agricultureDocumentedState → ¬rule.Fires reading) ↔
      ¬(reading.metricId = agriMetricSoilMoisture ∧ FloatOps.lt reading.value (FloatOps.ofRat 25) = true) ∧
      ¬(reading.metricId = agriMetricAmbientTemp ∧ FloatOps.lt reading.value (FloatOps.ofRat 2) = true) := by
  simp [agricultureRules, RuleEntry.Misdirected, RuleEntry.Fires, RuleEntry.triggers, agricultureDocumentedState,
    RuleComparisonType.commandedState, eq_comm (b := reading.metricId)]

/-- The engine commands what the tables document exactly when it evaluates nothing or the reading triggers none of
the rules whose direction commands the opposite of their documentation. -/
theorem commandedState_documented_iff (initialised : Bool) (reading : SensorReading Binary32) (maxResults : UInt8) :
    (CommandsAsDocumented waterDocumentedState (ruleEngineEvaluate initialised waterRules reading maxResults) ↔
      initialised = false ∨ maxResults = 0 ∨
        ¬(reading.metricId = waterMetricChlorineLevel ∧ FloatOps.le waterChlorineSafeMaxPpm reading.value = true) ∧
        ¬(reading.metricId = waterMetricPh ∧ FloatOps.le waterPhSafeMax reading.value = true) ∧
        ¬(reading.metricId = waterMetricTankLevel ∧ FloatOps.lt reading.value (FloatOps.ofRat 20) = true)) ∧
    (CommandsAsDocumented hvacDocumentedState (ruleEngineEvaluate initialised hvacRules reading maxResults) ↔
      initialised = false ∨ maxResults = 0 ∨
        ¬(reading.metricId = hvacMetricSupplyTemp ∧ FloatOps.le (FloatOps.ofRat 45) reading.value = true) ∧
        ¬(reading.metricId = hvacMetricReturnTemp ∧ FloatOps.lt reading.value (FloatOps.ofRat 20) = true)) ∧
    (CommandsAsDocumented agricultureDocumentedState
        (ruleEngineEvaluate initialised agricultureRules reading maxResults) ↔
      initialised = false ∨ maxResults = 0 ∨
        ¬(reading.metricId = agriMetricSoilMoisture ∧ FloatOps.lt reading.value (FloatOps.ofRat 25) = true) ∧
        ¬(reading.metricId = agriMetricAmbientTemp ∧ FloatOps.lt reading.value (FloatOps.ofRat 2) = true)) := by
  refine ⟨?_, ?_, ?_⟩
  · rw [ruleEngineEvaluate_documented_iff waterRules_misdirectedFirst, waterRules_quiet_iff]
  · rw [ruleEngineEvaluate_documented_iff hvacRules_misdirectedFirst, hvacRules_quiet_iff]
  · rw [ruleEngineEvaluate_documented_iff agricultureRules_misdirectedFirst, agricultureRules_quiet_iff]

/-- At 5 ppm of chlorine the rule documented to stop dosing commands the dosing valve on. -/
theorem chlorine_rule_opens_valve :
    ¬CommandsAsDocumented waterDocumentedState
      (ruleEngineEvaluate true waterRules
        { nodeId := 1, metricId := waterMetricChlorineLevel, value := (⟨0x40A00000⟩ : Binary32), timestampMs := 1000 }
        ruleEngineMaxActions) := by
  intro documented
  have command := documented
    { ruleId := 5001, triggered := true, actionType := .setActuator, actuatorId := waterActuatorDosingValve
      actuatorState := .on } (by decide +kernel) rfl
  exact absurd command (by decide)

end IotPlatform
