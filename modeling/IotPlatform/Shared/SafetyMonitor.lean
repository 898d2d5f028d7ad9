import IotPlatform.Lib.Table

/-!
# The safety monitor

`safety_monitor.c`: a heartbeat, a table of the last evaluation of each SAFETY_LOCKED rule, and a check of the state the
monitor is in. The clock is an argument of the calls that read it.
-/

namespace IotPlatform

def safetyMonitorDeadlineMs : UInt64 := 500

def safetyMonitorRuleDeadlineMs : Nat := 1000

def safetyMonitorMaxRules : Nat := 32

def safetyMonitorMissedThreshold : UInt64 := 3

inductive SafetyMonitorState where
  | idle | active | degraded | emergency
  deriving DecidableEq, Repr

inductive SafetyMonitorResult where
  | ok | errNotInit | errParamNull
  deriving DecidableEq, Repr

structure SafetyRuleTracker where
  ruleId : UInt16
  lastEvaluatedMs : UInt64
  active : Bool
  deriving DecidableEq, Repr

/-- `rules` are the first `rule_count` slots; `failsafeCb` tells whether a callback is set. -/
structure SafetyMonitorContext where
  state : SafetyMonitorState := .idle
  lastHeartbeatMs : UInt64 := 0
  missedCount : UInt32 := 0
  failsafeCb : Bool := false
  rules : List SafetyRuleTracker := []
  initialized : Bool := false
  deriving DecidableEq, Repr

def safetyMonitorInit (ctx : SafetyMonitorContext) (failsafe : Bool) : SafetyMonitorContext × SafetyMonitorResult :=
  if !failsafe then (ctx, .errParamNull) else ({ failsafeCb := failsafe, state := .idle, initialized := true }, .ok)

def safetyMonitorHeartbeat (ctx : SafetyMonitorContext) (now : UInt64) : SafetyMonitorContext × SafetyMonitorResult :=
  if !ctx.initialized then (ctx, .errParamNull)
  else
    ({ ctx with
        lastHeartbeatMs := now
        missedCount := 0
        state := if ctx.state = .degraded ∨ ctx.state = .idle then .active else ctx.state }, .ok)

def SafetyRuleTracker.tracks (ruleId : UInt16) (r : SafetyRuleTracker) : Bool := r.active && r.ruleId == ruleId

def SafetyRuleTracker.refresh (timestamp : UInt64) (r : SafetyRuleTracker) : SafetyRuleTracker :=
  { r with lastEvaluatedMs := timestamp }

/-- The slot of a known rule is updated; a new rule gets the next slot, if there is one. -/
def safetyMonitorRuleEvaluated (ctx : SafetyMonitorContext) (ruleId : UInt16) (timestamp : UInt64) :
    SafetyMonitorContext × SafetyMonitorResult :=
  if !ctx.initialized then (ctx, .errParamNull)
  else if (ctx.rules.find? (·.tracks ruleId)).isSome then
    ({ ctx with rules := Table.updateFirst (·.tracks ruleId) (·.refresh timestamp) ctx.rules }, .ok)
  else if ctx.rules.length < safetyMonitorMaxRules then
    ({ ctx with rules := ctx.rules ++ [{ ruleId := ruleId, lastEvaluatedMs := timestamp, active := true }] }, .ok)
  else (ctx, .ok)

def safetyMonitorCheck (ctx : SafetyMonitorContext) (now : UInt64) : SafetyMonitorState :=
  if !ctx.initialized then .emergency
  else if ctx.state = .emergency then .emergency
  else if ctx.state = .idle then if now > 2 * safetyMonitorDeadlineMs then .emergency else .idle
  else
    let elapsed := now - ctx.lastHeartbeatMs
    if elapsed > safetyMonitorDeadlineMs * safetyMonitorMissedThreshold then .emergency
    else if elapsed > safetyMonitorDeadlineMs then .degraded
    else .active

/-- The last component tells whether the callback was invoked. -/
def safetyMonitorTriggerFailsafe (ctx : SafetyMonitorContext) : SafetyMonitorContext × SafetyMonitorResult × Bool :=
  if !ctx.initialized then (ctx, .errParamNull, false)
  else ({ ctx with state := .emergency }, .ok, ctx.failsafeCb)

end IotPlatform
