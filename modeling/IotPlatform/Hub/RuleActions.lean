import IotPlatform.Lib.Run
import IotPlatform.Hub.ValidationGate

/-!
# What becomes of a triggered rule

A rule that triggers with `RULE_ACTION_SET_ACTUATOR` names an actuator and the state it should take, and the vtable has
`executeAction` to bring it there. A poll counts the results of `rule_engine_evaluate` and drops them.
-/

namespace IotPlatform
open Run

/-- The arguments of a call of the vtable's `executeAction`. -/
structure ActionCall where
  actuatorId : UInt8
  state : ActuatorState
  deriving DecidableEq, Repr

/-- The call of `executeAction` that a call made by a poll is, if it is one: `ingestion_handler.c` has none. -/
def PollEvent.executedAction : PollEvent → Option ActionCall
  | .audit _ => none
  | .validate _ _ => none
  | .historianWrite _ => none
  | .evaluateRules _ _ => none

def RuleEvaluationResult.command (result : RuleEvaluationResult) : Option ActionCall :=
  if result.actionType = .setActuator then some { actuatorId := result.actuatorId, state := result.actuatorState }
  else none

/-- The calls that the results of an evaluation ask for, in their order. -/
def PollEvent.commands : PollEvent → List ActionCall
  | .evaluateRules _ results => results.filterMap RuleEvaluationResult.command
  | _ => []

/-- Each actuator command of each evaluation is executed once, in the order of the results. -/
def ActsOnRules (events : List PollEvent) : Prop :=
  events.filterMap PollEvent.executedAction = events.flatMap PollEvent.commands

/-- An entry that passes the gates triggers no rule with an actuator command. -/
def Commandless (config : IngestionHandlerConfig) (currentMs : UInt64) (h : IngestionHandler) (entry : BatchFrameEntry) :
    Prop :=
  Passes config currentMs h entry →
    ∀ result ∈ (ruleResults config h (entry.toReading currentMs)).getD [], result.actionType ≠ .setActuator

theorem actsOnRules_iff {events : List PollEvent} : ActsOnRules events ↔ events.flatMap PollEvent.commands = [] := by
  have nothing : events.filterMap PollEvent.executedAction = [] := by
    apply List.filterMap_eq_nil_iff.mpr
    intro event _
    cases event <;> rfl
  rw [ActsOnRules, nothing, eq_comm]

/-! ### The entry loop -/

section Loop

variable {config : IngestionHandlerConfig} {currentMs : UInt64} {h h' : IngestionHandler} {entry : BatchFrameEntry}

theorem commandless_congr (same : SameGates h h') (entries : List BatchFrameEntry) :
    EachStep (Commandless config currentMs) (processEntry config currentMs) h entries ↔
      EachStep (Commandless config currentMs) (processEntry config currentMs) h' entries := by
  apply eachStep_congr same
  intro h h' entry same
  refine ⟨?_, same.processEntry⟩
  rw [Commandless, Commandless, same.passes, same.ruleResults]

theorem commands_eq_nil_iff {results : List RuleEvaluationResult} :
    results.filterMap RuleEvaluationResult.command = [] ↔ ∀ result ∈ results, result.actionType ≠ .setActuator := by
  simp [List.filterMap_eq_nil_iff, RuleEvaluationResult.command]

theorem processEntry_commands :
    (processEntry config currentMs h entry).2.2.flatMap PollEvent.commands = [] ↔
      Commandless config currentMs h entry := by
  obtain ⟨fails, event, result⟩ | ⟨passes, histories, -, result⟩ := processEntry_outcome config currentMs h entry
  · rw [result]
    exact iff_of_true rfl fun passes => absurd passes fails
  · rw [result, Commandless]
    cases ruleResults config h (entry.toReading currentMs) with
    | none => simp [PollEvent.commands]
    | some results => simp [PollEvent.commands, passes, ← commands_eq_nil_iff]

theorem processEntries_commands (h : IngestionHandler) (entries : List BatchFrameEntry) :
    (processEntries config currentMs h entries).2.2.flatMap PollEvent.commands = [] ↔
      EachStep (Commandless config currentMs) (processEntry config currentMs) h entries := by
  induction entries generalizing h with
  | nil => exact iff_of_true rfl trivial
  | cons entry rest ih =>
    rw [processEntries, List.flatMap_append, List.append_eq_nil_iff, processEntry_commands, ih]
    rfl

end Loop

/-- A poll acts on the rules it triggers exactly when no entry that passes both gates triggers one with an actuator
command: it acts on none. -/
theorem rules_acted_on_exact (hmac : Hmac) (handler : IngestionHandler) (config : IngestionHandlerConfig)
    (received : Option (List UInt8)) (currentMs : UInt64) :
    let h := { handler with config := some config }
    ActsOnRules (ingestionHandlerPoll hmac h received currentMs).events ↔
      EachStep (Commandless config currentMs) (processEntry config currentMs) h (admittedEntries hmac h received) := by
  intro h
  have configured : h.config = some config := rfl
  obtain ⟨h', audits, setup, histories, result⟩ := ingestionHandlerPoll_spec hmac received currentMs configured
  have same : SameGates h h' := ⟨histories, setup.sensorValidationReady, setup.ruleEngineReady⟩
  have audited : (audits.map PollEvent.audit).flatMap PollEvent.commands = [] := by
    simp [List.flatMap_eq_nil_iff, PollEvent.commands]
  rw [actsOnRules_iff, result, List.flatMap_append, audited, List.nil_append, processEntries_commands,
    commandless_congr same]

/-- Sixty degrees of supply air: both protections command the compressor relay, and neither command is executed. -/
theorem hot_frame_ignored : ¬ActsOnRules (ingestionHandlerPoll lengthHmac hvacHandler (some hotFrame) 2000).events := by
  unfold ActsOnRules
  decide +kernel

end IotPlatform
