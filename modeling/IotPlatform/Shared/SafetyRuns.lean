import IotPlatform.Lib.Run
import IotPlatform.Shared.SafetyMonitor

/-!
# The safety monitor over whole runs

A run is any sequence of calls on one context, from before its first initialisation. Beside the context a ledger keeps
what happened since the last `safety_monitor_init`: whether the failsafe callback was invoked, whether a check returned
EMERGENCY, and which rules were reported when.
-/

namespace IotPlatform
open Run

structure SafetyLedger where
  ctx : SafetyMonitorContext := {}
  invoked : Bool := false
  alarmed : Bool := false
  reports : List (UInt16 × UInt64) := []
  deriving DecidableEq, Repr

inductive SafetyCall where
  | init (failsafe : Bool)
  | heartbeat (now : UInt64)
  | ruleEvaluated (ruleId : UInt16) (timestamp : UInt64)
  | check (now : UInt64)
  | triggerFailsafe
  deriving DecidableEq, Repr

/-- The output is the state that a check returned. -/
def safetyStep (l : SafetyLedger) : SafetyCall → SafetyLedger × Option SafetyMonitorState
  | .init failsafe =>
    let (ctx, result) := safetyMonitorInit l.ctx failsafe
    (if result = .ok then { ctx := ctx } else { l with ctx := ctx }, none)
  | .heartbeat now => ({ l with ctx := (safetyMonitorHeartbeat l.ctx now).1 }, none)
  | .ruleEvaluated ruleId timestamp =>
    let (ctx, result) := safetyMonitorRuleEvaluated l.ctx ruleId timestamp
    ({ l with ctx := ctx, reports := if result = .ok then l.reports ++ [(ruleId, timestamp)] else l.reports }, none)
  | .check now =>
    let result := safetyMonitorCheck l.ctx now
    ({ l with alarmed := l.alarmed || result == .emergency }, some result)
  | .triggerFailsafe =>
    let (ctx, _, called) := safetyMonitorTriggerFailsafe l.ctx
    ({ l with ctx := ctx, invoked := l.invoked || called }, none)

/-! ### What a check returns -/

def SafetyMonitorContext.Latched (ctx : SafetyMonitorContext) : Prop := ctx.initialized = true ∧ ctx.state = .emergency

/-- The monitor is initialised, and its last heartbeat is at most `age` old; a monitor that waits for its first
heartbeat has until 1000 ms on the clock. -/
def SafetyMonitorContext.OnTime (ctx : SafetyMonitorContext) (now : UInt64) : Prop :=
  ctx.initialized = true ∧ (ctx.state = .idle → now ≤ 1000) ∧ (ctx.state ≠ .idle → now - ctx.lastHeartbeatMs ≤ 1500)

/-- The heartbeat alone would make the check return ACTIVE. -/
def SafetyMonitorContext.Beating (ctx : SafetyMonitorContext) (now : UInt64) : Prop :=
  ctx.initialized = true ∧ (ctx.state = .active ∨ ctx.state = .degraded) ∧ now - ctx.lastHeartbeatMs ≤ 500

theorem check_uninitialized {ctx : SafetyMonitorContext} (blank : ctx.initialized = false) (now : UInt64) :
    safetyMonitorCheck ctx now = .emergency := by
  rw [safetyMonitorCheck, blank]
  rfl

theorem check_latched {ctx : SafetyMonitorContext} (latched : ctx.state = .emergency) (now : UInt64) :
    safetyMonitorCheck ctx now = .emergency := by
  rw [safetyMonitorCheck, if_pos latched, ite_self]

theorem check_idle {ctx : SafetyMonitorContext} (ready : ctx.initialized = true) (idle : ctx.state = .idle) (now : UInt64) :
    safetyMonitorCheck ctx now = if now > 1000 then .emergency else .idle := by
  rw [safetyMonitorCheck, ready, idle]
  rfl

theorem check_beaten {ctx : SafetyMonitorContext} (ready : ctx.initialized = true)
    (beaten : ctx.state = .active ∨ ctx.state = .degraded) (now : UInt64) :
    safetyMonitorCheck ctx now = if now - ctx.lastHeartbeatMs > 1500 then .emergency
      else if now - ctx.lastHeartbeatMs > 500 then .degraded else .active := by
  rw [safetyMonitorCheck, ready]
  rcases beaten with state | state
  · rw [state]
    rfl
  · rw [state]
    rfl

theorem SafetyMonitorState.cases_beaten (state : SafetyMonitorState) :
    state = .idle ∨ (state = .active ∨ state = .degraded) ∨ state = .emergency := by
  cases state <;> simp

theorem check_eq_emergency_iff (ctx : SafetyMonitorContext) (now : UInt64) :
    safetyMonitorCheck ctx now = .emergency ↔ ctx.Latched ∨ ¬ctx.OnTime now := by
  cases ready : ctx.initialized with
  | false =>
    refine iff_of_true (check_uninitialized ready now) (Or.inr fun onTime => ?_)
    exact absurd (onTime.1.symm.trans ready) (by decide)
  | true =>
    rcases ctx.state.cases_beaten with idle | beaten | latched
    · have unlatched : ¬ctx.Latched := by simp [SafetyMonitorContext.Latched, idle]
      rw [check_idle ready idle]
      by_cases late : now > 1000
      · rw [if_pos late]
        exact iff_of_true rfl (Or.inr fun onTime => UInt64.not_le.mpr late (onTime.2.1 idle))
      · rw [if_neg late]
        refine iff_of_false (by decide) (not_or.mpr ⟨unlatched, not_not.mpr ⟨ready, fun _ => UInt64.not_lt.mp late, ?_⟩⟩)
        exact fun begun => absurd idle begun
    · have begun : ctx.state ≠ .idle := by rcases beaten with state | state <;> simp [state]
      have unlatched : ¬ctx.Latched := by rcases beaten with state | state <;> simp [SafetyMonitorContext.Latched, state]
      rw [check_beaten ready beaten]
      by_cases late : now - ctx.lastHeartbeatMs > 1500
      · rw [if_pos late]
        exact iff_of_true rfl (Or.inr fun onTime => UInt64.not_le.mpr late (onTime.2.2 begun))
      · rw [if_neg late]
        refine iff_of_false (by split <;> decide) (not_or.mpr ⟨unlatched, not_not.mpr ⟨ready, ?_, ?_⟩⟩)
        · exact fun idle => absurd idle begun
        · exact fun _ => UInt64.not_lt.mp late
    · exact iff_of_true (check_latched latched now) (Or.inl ⟨ready, latched⟩)

theorem check_eq_active_iff (ctx : SafetyMonitorContext) (now : UInt64) :
    safetyMonitorCheck ctx now = .active ↔ ctx.Beating now := by
  cases ready : ctx.initialized with
  | false =>
    rw [check_uninitialized ready]
    exact iff_of_false (by decide) fun beating => absurd (beating.1.symm.trans ready) (by decide)
  | true =>
    rcases ctx.state.cases_beaten with idle | beaten | latched
    · rw [check_idle ready idle]
      refine iff_of_false (by split <;> decide) fun beating => ?_
      rcases beating.2.1 with state | state <;> simp [idle] at state
    · rw [check_beaten ready beaten]
      by_cases late : now - ctx.lastHeartbeatMs > 500
      · rw [if_pos late]
        exact iff_of_false (by split <;> decide) fun beating => UInt64.not_le.mpr late beating.2.2
      · have recent : now - ctx.lastHeartbeatMs ≤ 500 := UInt64.not_lt.mp late
        rw [if_neg (UInt64.not_lt.mpr (UInt64.le_trans recent (by decide))), if_neg late]
        exact iff_of_true rfl ⟨ready, beaten, recent⟩
    · rw [check_latched latched]
      refine iff_of_false (by decide) fun beating => ?_
      rcases beating.2.1 with state | state <;> simp [latched] at state

/-! ### The alarm over a run -/

/-- A check that returns EMERGENCY comes after an invocation of the callback, and after such a check no other state is
returned. -/
def AlarmActs (l : SafetyLedger) : SafetyCall → Prop
  | .check now =>
    (safetyMonitorCheck l.ctx now = .emergency → l.invoked = true) ∧
      (l.alarmed = true → safetyMonitorCheck l.ctx now = .emergency)
  | _ => True

/-- A check before the override finds the heartbeat in time. -/
def HeartbeatInTime (l : SafetyLedger) : SafetyCall → Prop
  | .check now => l.ctx.Latched ∨ l.ctx.OnTime now
  | _ => True

theorem heartbeat_latched (ctx : SafetyMonitorContext) (now : UInt64) :
    (safetyMonitorHeartbeat ctx now).1.Latched ↔ ctx.Latched := by
  rw [safetyMonitorHeartbeat]
  split
  · exact Iff.rfl
  · rw [SafetyMonitorContext.Latched, SafetyMonitorContext.Latched]
    cases state : ctx.state <;> simp

theorem heartbeat_keeps (ctx : SafetyMonitorContext) (now : UInt64) :
    (safetyMonitorHeartbeat ctx now).1.initialized = ctx.initialized ∧
      (safetyMonitorHeartbeat ctx now).1.failsafeCb = ctx.failsafeCb := by
  rw [safetyMonitorHeartbeat]
  split <;> exact ⟨rfl, rfl⟩

theorem ruleEvaluated_keeps (ctx : SafetyMonitorContext) (ruleId : UInt16) (timestamp : UInt64) :
    ∃ rules, (safetyMonitorRuleEvaluated ctx ruleId timestamp).1 = { ctx with rules := rules } := by
  rw [safetyMonitorRuleEvaluated]
  split
  · exact ⟨ctx.rules, rfl⟩
  · split
    · exact ⟨_, rfl⟩
    · split
      · exact ⟨_, rfl⟩
      · exact ⟨ctx.rules, rfl⟩

/-- The callback is set, and it has been invoked exactly when the monitor is latched. -/
structure SafetyLedger.Wired (l : SafetyLedger) : Prop where
  callback : l.ctx.initialized = true → l.ctx.failsafeCb = true
  invoked : l.invoked = true ↔ l.ctx.Latched

theorem safetyStep_wired {l : SafetyLedger} (wired : l.Wired) (x : SafetyCall) : (safetyStep l x).1.Wired := by
  cases x with
  | init failsafe =>
    cases failsafe with
    | false => exact wired
    | true => exact ⟨fun _ => rfl, by simp [safetyStep, safetyMonitorInit, SafetyMonitorContext.Latched]⟩
  | heartbeat now =>
    obtain ⟨ready, callback⟩ := heartbeat_keeps l.ctx now
    refine ⟨fun ready' => ?_, wired.invoked.trans (heartbeat_latched l.ctx now).symm⟩
    exact callback.trans (wired.callback (ready.symm.trans ready'))
  | ruleEvaluated ruleId timestamp =>
    obtain ⟨rules, kept⟩ := ruleEvaluated_keeps l.ctx ruleId timestamp
    constructor
    · simp only [safetyStep, kept]
      exact wired.callback
    · simp only [safetyStep, kept]
      exact wired.invoked
  | check now => exact ⟨wired.callback, wired.invoked⟩
  | triggerFailsafe =>
    cases ready : l.ctx.initialized with
    | false =>
      have refused : safetyMonitorTriggerFailsafe l.ctx = (l.ctx, .errParamNull, false) := by
        simp [safetyMonitorTriggerFailsafe, ready]
      simp only [safetyStep, refused, Bool.or_false]
      exact wired
    | true =>
      have triggered : safetyMonitorTriggerFailsafe l.ctx = ({ l.ctx with state := .emergency }, .ok, true) := by
        simp [safetyMonitorTriggerFailsafe, ready, wired.callback ready]
      simp only [safetyStep, triggered, Bool.or_true]
      exact ⟨wired.callback, iff_of_true rfl ⟨ready, rfl⟩⟩

/-- Only `safety_monitor_init` takes a monitor out of the latch. -/
theorem safetyStep_latched {l : SafetyLedger} (latched : l.ctx.Latched) (x : SafetyCall) (other : x ≠ .init true) :
    (safetyStep l x).1.ctx.Latched := by
  cases x with
  | init failsafe =>
    cases failsafe with
    | false => exact latched
    | true => exact absurd rfl other
  | heartbeat now => exact (heartbeat_latched l.ctx now).mpr latched
  | ruleEvaluated ruleId timestamp =>
    obtain ⟨rules, kept⟩ := ruleEvaluated_keeps l.ctx ruleId timestamp
    simp only [safetyStep, kept]
    exact latched
  | check now => exact latched
  | triggerFailsafe =>
    simp only [safetyStep, safetyMonitorTriggerFailsafe, latched.1, Bool.not_true, Bool.false_eq_true, if_false]
    exact ⟨rfl, rfl⟩

/-- EMERGENCY has come from the latch alone. -/
structure SafetyLedger.Honest (l : SafetyLedger) : Prop extends l.Wired where
  alarmed : l.alarmed = true → l.ctx.Latched

theorem safetyStep_alarmed {l : SafetyLedger} (alarm : l.alarmed = true → l.ctx.Latched) {x : SafetyCall}
    (inTime : HeartbeatInTime l x) (alarmed : (safetyStep l x).1.alarmed = true) : (safetyStep l x).1.ctx.Latched := by
  cases x with
  | init failsafe =>
    cases failsafe with
    | false => exact alarm alarmed
    | true => cases alarmed
  | heartbeat now => exact safetyStep_latched (alarm alarmed) _ (by simp)
  | ruleEvaluated ruleId timestamp => exact safetyStep_latched (alarm alarmed) _ (by simp)
  | check now =>
    have before : l.alarmed = true ∨ safetyMonitorCheck l.ctx now = .emergency := by
      simpa [safetyStep] using alarmed
    rcases before with before | emergency
    · exact alarm before
    · rcases (check_eq_emergency_iff l.ctx now).mp emergency with latched | late
      · exact latched
      · exact inTime.resolve_right late
  | triggerFailsafe => exact safetyStep_latched (alarm alarmed) _ (by simp)

theorem safetyStep_honest {l : SafetyLedger} (honest : l.Honest) {x : SafetyCall} (inTime : HeartbeatInTime l x) :
    (safetyStep l x).1.Honest :=
  ⟨safetyStep_wired honest.toWired x, safetyStep_alarmed honest.alarmed inTime⟩

theorem safetyStart_honest : ({} : SafetyLedger).Honest where
  callback := fun ready => absurd ready (by decide)
  invoked := by simp [SafetyMonitorContext.Latched]
  alarmed := fun alarmed => absurd alarmed (by decide)

/-- EMERGENCY is latched and acted upon in exactly the runs in which no check, short of the manual override, finds the
heartbeat late: a check that does returns EMERGENCY and leaves everything as it was. -/
theorem safety_alarm_exact (calls : List SafetyCall) :
    EachStep AlarmActs safetyStep {} calls ↔ EachStep HeartbeatInTime safetyStep {} calls := by
  constructor
  · apply eachStep_mono safetyStart_honest.toWired fun l x wired _ => safetyStep_wired wired x
    intro l x wired acts
    cases x with
    | check now =>
      by_cases emergency : safetyMonitorCheck l.ctx now = .emergency
      · exact Or.inl (wired.invoked.mp (acts.1 emergency))
      · rw [check_eq_emergency_iff, not_or, not_not] at emergency
        exact Or.inr emergency.2
    | _ => trivial
  · apply eachStep_mono safetyStart_honest fun l x honest inTime => safetyStep_honest honest inTime
    intro l x honest inTime
    cases x with
    | check now =>
      refine ⟨fun emergency => honest.invoked.mpr ?_, fun alarmed => ?_⟩
      · rcases (check_eq_emergency_iff l.ctx now).mp emergency with latched | late
        · exact latched
        · exact inTime.resolve_right late
      · exact (check_eq_emergency_iff l.ctx now).mpr (Or.inl (honest.alarmed alarmed))
    | _ => trivial

/-- A heartbeat, then silence: the check says EMERGENCY, nobody is called, and a heartbeat later all is well. -/
theorem silence_not_latched :
    outputs safetyStep {} [.init true, .heartbeat 0, .check 2000, .heartbeat 2100, .check 2200] =
        [none, none, some .emergency, none, some .active] ∧
      (finalState safetyStep {} [.init true, .heartbeat 0, .check 2000, .heartbeat 2100, .check 2200]).invoked = false ∧
      ¬EachStep AlarmActs safetyStep {} [.init true, .heartbeat 0, .check 2000, .heartbeat 2100, .check 2200] := by
  refine ⟨by decide, by decide, fun each => ?_⟩
  obtain ⟨-, -, ⟨acts, -⟩, -⟩ := each
  exact absurd (acts (by decide)) (by decide)

end IotPlatform
