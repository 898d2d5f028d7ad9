import IotPlatform.Shared.RuleEngineCore

/-!
# Which triggered rules are reported

`rule_engine_evaluate` walks the table in its own order and stops when the results are full. Neither the class nor the
priority of an entry is read.
-/

namespace IotPlatform

section Selection

variable {F : Type} [FloatOps F] (rules : List (RuleEntry F)) (reading : SensorReading F)

/-- The entries of the table that trigger on the reading. -/
def triggeredRules : List (RuleEntry F) :=
  rules.filter fun rule => decide (rule.metricId = reading.metricId) && rule.triggers reading.value

/-- The results report an OPERATIONAL rule and leave out a SAFETY_LOCKED one that triggers too. -/
def CrowdsOutSafety (results : List RuleEvaluationResult) : Prop :=
  ∃ reported omitted, triggeredRules rules reading = reported ++ omitted ∧
    results = reported.map (fun rule => rule.result reading.value) ∧
    (∃ rule ∈ reported, rule.ruleClass = .operational) ∧ ∃ rule ∈ omitted, rule.ruleClass = .safetyLocked

/-- Of the triggered rules in table order, the first `room` are SAFETY_LOCKED or the others are OPERATIONAL. -/
def SafetyInRoom (room : Nat) : Prop :=
  (∀ rule ∈ (triggeredRules rules reading).take room, rule.ruleClass = .safetyLocked) ∨
    ∀ rule ∈ (triggeredRules rules reading).drop room, rule.ruleClass = .operational

variable {rules reading}

theorem evaluateRules_eq_take (room : Nat) :
    evaluateRules reading room rules =
      ((triggeredRules rules reading).take room).map fun rule => rule.result reading.value := by
  induction rules generalizing room with
  | nil => cases room <;> simp [evaluateRules, triggeredRules]
  | cons rule rest ih =>
    cases room with
    | zero => simp [evaluateRules]
    | succ room =>
      rw [evaluateRules]
      by_cases other : rule.metricId = reading.metricId
      · cases fires : rule.triggers reading.value with
        | true =>
          have kept : triggeredRules (rule :: rest) reading = rule :: triggeredRules rest reading := by
            simp [triggeredRules, other, fires]
          rw [if_neg (not_not.mpr other), if_pos rfl, kept, List.take_succ_cons, List.map_cons, ih]
        | false =>
          have skipped : triggeredRules (rule :: rest) reading = triggeredRules rest reading := by
            simp [triggeredRules, fires]
          rw [if_neg (not_not.mpr other), if_neg (by decide), skipped, ih]
      · have skipped : triggeredRules (rule :: rest) reading = triggeredRules rest reading := by
          simp [triggeredRules, other]
        rw [if_pos other, skipped, ih]

theorem RuleClass.ne_safetyLocked_iff (ruleClass : RuleClass) : ruleClass ≠ .safetyLocked ↔ ruleClass = .operational := by
  cases ruleClass <;> simp

theorem crowdsOutSafety_take_iff (room : Nat) :
    CrowdsOutSafety rules reading
      (((triggeredRules rules reading).take room).map fun rule => rule.result reading.value) ↔
        ¬SafetyInRoom rules reading room := by
  simp only [SafetyInRoom, not_or, not_forall, RuleClass.ne_safetyLocked_iff, exists_prop]
  have class_cases : ∀ rule : RuleEntry F, ¬rule.ruleClass = .operational ↔ rule.ruleClass = .safetyLocked := by
    intro rule
    rw [← RuleClass.ne_safetyLocked_iff, not_not]
  simp only [class_cases]
  constructor
  · rintro ⟨reported, omitted, split, results, operational, safety⟩
    have lengths := congrArg List.length results
    rw [List.length_map, List.length_map, List.length_take, split, List.length_append] at lengths
    -- As many rules were reported as the room let through.
    rcases Nat.lt_or_ge room (reported.length + omitted.length) with full | all
    · have cut : room = reported.length := by omega
      rw [split, cut, List.take_left, List.drop_left]
      exact ⟨operational, safety⟩
    · have none : omitted = [] := List.length_eq_zero_iff.mp (by omega)
      rw [none] at safety
      obtain ⟨_, member, _⟩ := safety
      exact absurd member List.not_mem_nil
  · rintro ⟨operational, safety⟩
    exact ⟨_, _, (List.take_append_drop room _).symm, rfl, operational, safety⟩

/-- No safety rule is crowded out exactly when, of the rules that trigger, in table order, the first `maxResults` are
SAFETY_LOCKED or all the others are OPERATIONAL. -/
theorem safety_not_crowded_out_iff (initialised : Bool) (rules : List (RuleEntry F)) (reading : SensorReading F)
    (maxResults : UInt8) :
    ¬CrowdsOutSafety rules reading (ruleEngineEvaluate initialised rules reading maxResults) ↔
      (initialised = true → SafetyInRoom rules reading maxResults.toNat) := by
  have idle : ¬CrowdsOutSafety rules reading [] := by
    rintro ⟨reported, omitted, -, results, ⟨rule, member, -⟩, -⟩
    rw [List.map_eq_nil_iff.mp results.symm] at member
    exact absurd member List.not_mem_nil
  unfold ruleEngineEvaluate
  by_cases none : maxResults = 0
  · rw [if_pos none, none]
    refine ⟨fun _ _ => .inl fun rule member => ?_, fun _ => idle⟩
    rw [UInt8.toNat_zero, List.take_zero] at member
    exact absurd member List.not_mem_nil
  · rw [if_neg none]
    cases initialised with
    | false => exact ⟨fun _ started => (by cases started), fun _ => idle⟩
    | true =>
      rw [if_neg (by decide), evaluateRules_eq_take, crowdsOutSafety_take_iff, not_not]
      exact ⟨fun room _ => room, fun room => room rfl⟩

end Selection

/-- Eight comfort rules and a lockout on one metric. -/
def crowdedRules : List (RuleEntry Binary32) :=
  (List.range 8).map (fun n =>
    { ruleId := UInt16.ofNat (9001 + n), threshold := ⟨0x41A00000⟩, actionType := .setActuator, actuatorId := 1
      metricId := 1, ruleClass := .operational, comparisonType := .above }) ++
  [{ ruleId := 9009, threshold := ⟨0x42340000⟩, actionType := .setActuator, actuatorId := 2, metricId := 1
     ruleClass := .safetyLocked, comparisonType := .above }]

/-- At 50 degrees all nine trigger, and the lockout is not among the results the hub collects. -/
theorem lockout_crowded_out :
    let reading : SensorReading Binary32 := { nodeId := 1, metricId := 1, value := ⟨0x42480000⟩, timestampMs := 1000 }
    let results := ruleEngineEvaluate true crowdedRules reading ruleEngineMaxActions
    results.length = 8 ∧ (∀ result ∈ results, result.ruleId ≠ 9009) ∧
      CrowdsOutSafety crowdedRules reading results := by
  intro reading results
  refine ⟨by decide, by decide, crowdedRules.take 8, crowdedRules.drop 8, by decide, by decide, ?_, ?_⟩
  · exact ⟨_, List.mem_cons_self, rfl⟩
  · exact ⟨_, List.mem_cons_self, rfl⟩

end IotPlatform
