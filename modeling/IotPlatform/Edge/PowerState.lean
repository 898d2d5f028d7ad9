import Mathlib.Tactic.SplitIfs
import IotPlatform.Lib.Run

/-!
# Power states of an edge node

`power_state.c`: thresholds on the battery voltage that take a node from one state to a worse one. There is no way back but
to initialise the context again.
-/

namespace IotPlatform
open Run

inductive PowerState where
  | active | idle | sleep | emergency | shutdown
  deriving DecidableEq, Repr

inductive PowerTransitionResult where
  | ok | errParamNull | errInvalid
  deriving DecidableEq, Repr

structure PowerStateConfig where
  lowBatteryMv : UInt32
  criticalBatteryMv : UInt32
  emergencyBatteryMv : UInt32
  shutdownBatteryMv : UInt32
  deriving DecidableEq, Repr

def defaultPowerConfig : PowerStateConfig :=
  { lowBatteryMv := 3200, criticalBatteryMv := 2800, emergencyBatteryMv := 2500, shutdownBatteryMv := 2300 }

structure PowerStateContext where
  current : PowerState
  config : PowerStateConfig
  batteryMv : UInt32
  initialized : Bool
  deriving DecidableEq, Repr

def powerStateInitCustom (config : PowerStateConfig) : PowerStateContext × PowerTransitionResult :=
  ({ current := .active, config := config, batteryMv := 0, initialized := true }, .ok)

def powerStateInit : PowerStateContext × PowerTransitionResult := powerStateInitCustom defaultPowerConfig

/-- The state that a reading leaves a context in: the first threshold it falls to decides, and no branch leads up. -/
def PowerStateContext.transition (ctx : PowerStateContext) (batteryMv : UInt32) : PowerState :=
  if batteryMv ≤ ctx.config.shutdownBatteryMv then .shutdown
  else if batteryMv ≤ ctx.config.emergencyBatteryMv then if ctx.current ≠ .shutdown then .emergency else ctx.current
  else if batteryMv ≤ ctx.config.criticalBatteryMv then
    if ctx.current = .active ∨ ctx.current = .idle then .sleep else ctx.current
  else if batteryMv ≤ ctx.config.lowBatteryMv then if ctx.current = .active then .idle else ctx.current
  else ctx.current

def powerStateEvaluate (ctx : PowerStateContext) (batteryMv : UInt32) : PowerStateContext × PowerState :=
  if !ctx.initialized then (ctx, .shutdown)
  else
    let current := ctx.transition batteryMv
    ({ ctx with batteryMv := batteryMv, current := current }, current)

def powerStateGetCurrent (ctx : PowerStateContext) : PowerState := if !ctx.initialized then .shutdown else ctx.current

def powerStateSensorsActive (ctx : PowerStateContext) : Bool :=
  if !ctx.initialized then false else ctx.current == .active

def powerStateRadioActive (ctx : PowerStateContext) : Bool :=
  if !ctx.initialized then false else ctx.current == .active

def powerStateCloudActive (ctx : PowerStateContext) : Bool :=
  if !ctx.initialized then false else ctx.current == .active || ctx.current == .idle

def powerStateSafetyActive (ctx : PowerStateContext) : Bool :=
  if !ctx.initialized then false else ctx.current != .shutdown

def powerStateShouldShutdown (ctx : PowerStateContext) : Bool :=
  if !ctx.initialized then true else ctx.current == .shutdown

inductive PowerOp where
  | init
  | initCustom (config : PowerStateConfig)
  | evaluate (batteryMv : UInt32)
  | getCurrent | sensorsActive | radioActive | cloudActive | safetyActive | shouldShutdown

inductive PowerReport where
  | transition (result : PowerTransitionResult)
  | state (state : PowerState)
  | flag (value : Bool)
  deriving DecidableEq, Repr

def powerStep (ctx : PowerStateContext) : PowerOp → PowerStateContext × PowerReport
  | .init => (powerStateInit.1, .transition powerStateInit.2)
  | .initCustom config => ((powerStateInitCustom config).1, .transition (powerStateInitCustom config).2)
  | .evaluate batteryMv =>
    let (ctx, current) := powerStateEvaluate ctx batteryMv
    (ctx, .state current)
  | .getCurrent => (ctx, .state (powerStateGetCurrent ctx))
  | .sensorsActive => (ctx, .flag (powerStateSensorsActive ctx))
  | .radioActive => (ctx, .flag (powerStateRadioActive ctx))
  | .cloudActive => (ctx, .flag (powerStateCloudActive ctx))
  | .safetyActive => (ctx, .flag (powerStateSafetyActive ctx))
  | .shouldShutdown => (ctx, .flag (powerStateShouldShutdown ctx))

/-! ### The lowest reading -/

/-- How far a state is from full operation. -/
def PowerState.depth : PowerState → Nat
  | active => 0
  | idle => 1
  | sleep => 2
  | emergency => 3
  | shutdown => 4

def PowerState.deeper (a b : PowerState) : PowerState := if b.depth ≤ a.depth then a else b

/-- The state that a battery voltage calls for by itself. -/
def PowerStateConfig.level (config : PowerStateConfig) (batteryMv : UInt32) : PowerState :=
  if batteryMv ≤ config.shutdownBatteryMv then .shutdown
  else if batteryMv ≤ config.emergencyBatteryMv then .emergency
  else if batteryMv ≤ config.criticalBatteryMv then .sleep
  else if batteryMv ≤ config.lowBatteryMv then .idle
  else .active

/-- The thresholds since the last initialisation, with the lowest reading since then. -/
structure BatteryLog where
  config : PowerStateConfig
  lowest : Option UInt32

def BatteryLog.state (log : BatteryLog) : PowerState :=
  match log.lowest with
  | none => .active
  | some batteryMv => log.config.level batteryMv

def BatteryLog.read (log : BatteryLog) (batteryMv : UInt32) : BatteryLog :=
  { log with lowest := some (match log.lowest with
    | none => batteryMv
    | some lowest => if batteryMv ≤ lowest then batteryMv else lowest) }

/-- The state of a node whose context is initialised, and shutdown before. -/
def loggedState (log : Option BatteryLog) : PowerState := (log.map BatteryLog.state).getD .shutdown

def batteryStep (log : Option BatteryLog) : PowerOp → Option BatteryLog × PowerReport
  | .init => (some { config := defaultPowerConfig, lowest := none }, .transition .ok)
  | .initCustom config => (some { config := config, lowest := none }, .transition .ok)
  | .evaluate batteryMv =>
    let log := log.map (·.read batteryMv)
    (log, .state (loggedState log))
  | .getCurrent => (log, .state (loggedState log))
  | .sensorsActive | .radioActive => (log, .flag (decide ((loggedState log).depth = 0)))
  | .cloudActive => (log, .flag (decide ((loggedState log).depth ≤ 1)))
  | .safetyActive => (log, .flag (decide ((loggedState log).depth ≤ 3)))
  | .shouldShutdown => (log, .flag (decide ((loggedState log).depth = 4)))

section Level

variable {config : PowerStateConfig} {low high : UInt32}

/-- A lower voltage never calls for a better state, however the thresholds are ordered. -/
theorem level_antitone (le : low ≤ high) : (config.level high).depth ≤ (config.level low).depth := by
  have below : ∀ {threshold : UInt32}, high ≤ threshold → low ≤ threshold := UInt32.le_trans le
  simp only [PowerStateConfig.level]
  split_ifs <;> simp_all [PowerState.depth]

theorem depth_inj {a b : PowerState} (same : a.depth = b.depth) : a = b := by
  cases a <;> cases b <;> first | rfl | cases same

theorem deeper_of_le {a b : PowerState} (le : a.depth ≤ b.depth) : a.deeper b = b := by
  rw [PowerState.deeper]
  split
  · exact depth_inj (Nat.le_antisymm le ‹_›)
  · rfl

theorem active_deeper (a : PowerState) : PowerState.active.deeper a = a := deeper_of_le (Nat.zero_le _)

/-- A reading takes the context to the deeper of its state and the one the reading calls for. -/
theorem transition_eq (ctx : PowerStateContext) (batteryMv : UInt32) :
    ctx.transition batteryMv = ctx.current.deeper (ctx.config.level batteryMv) := by
  simp only [PowerStateContext.transition, PowerStateConfig.level, PowerState.deeper]
  cases ctx.current <;> split_ifs <;> simp_all [PowerState.depth]

theorem read_state (log : BatteryLog) (batteryMv : UInt32) :
    (log.read batteryMv).state = log.state.deeper (log.config.level batteryMv) := by
  obtain ⟨config, _ | lowest⟩ := log
  · exact (active_deeper _).symm
  · show config.level (if batteryMv ≤ lowest then batteryMv else lowest) =
      (config.level lowest).deeper (config.level batteryMv)
    split
    · rename_i le
      exact (deeper_of_le (level_antitone le)).symm
    · rename_i gt
      rw [PowerState.deeper, if_pos (level_antitone (UInt32.le_of_lt (UInt32.not_le.mp gt)))]

end Level

/-! ### Contexts and logs -/

/-- The context and the log agree on the state and on the thresholds. -/
def PowerStateContext.Logs (ctx : PowerStateContext) : Option BatteryLog → Prop
  | none => ctx.initialized = false
  | some log => ctx.initialized = true ∧ ctx.config = log.config ∧ ctx.current = log.state

section Logs

variable {ctx : PowerStateContext} {log : Option BatteryLog}

theorem getCurrent_logged (logs : ctx.Logs log) : powerStateGetCurrent ctx = loggedState log := by
  cases log with
  | none =>
    have off : ctx.initialized = false := logs
    rw [powerStateGetCurrent, off]
    rfl
  | some log =>
    obtain ⟨ready, -, current⟩ := logs
    rw [powerStateGetCurrent, ready, current]
    rfl

theorem evaluate_logged (logs : ctx.Logs log) (batteryMv : UInt32) :
    (powerStateEvaluate ctx batteryMv).2 = loggedState (log.map (·.read batteryMv)) ∧
      (powerStateEvaluate ctx batteryMv).1.Logs (log.map (·.read batteryMv)) := by
  cases log with
  | none =>
    have off : ctx.initialized = false := logs
    have ignored : powerStateEvaluate ctx batteryMv = (ctx, .shutdown) := by simp [powerStateEvaluate, off]
    rw [ignored]
    exact ⟨rfl, off⟩
  | some log =>
    obtain ⟨ready, config, current⟩ := logs
    have next : ctx.transition batteryMv = (log.read batteryMv).state := by
      rw [transition_eq, read_state, config, current]
    have evaluated : powerStateEvaluate ctx batteryMv =
        ({ ctx with batteryMv := batteryMv, current := ctx.transition batteryMv }, ctx.transition batteryMv) := by
      simp [powerStateEvaluate, ready]
    rw [evaluated]
    exact ⟨next, ready, config, next⟩

/-- What runs in a context is read off its state, an uninitialised one being shut down. -/
theorem flags_of_current (ctx : PowerStateContext) :
    powerStateSensorsActive ctx = decide ((powerStateGetCurrent ctx).depth = 0) ∧
      powerStateRadioActive ctx = decide ((powerStateGetCurrent ctx).depth = 0) ∧
      powerStateCloudActive ctx = decide ((powerStateGetCurrent ctx).depth ≤ 1) ∧
      powerStateSafetyActive ctx = decide ((powerStateGetCurrent ctx).depth ≤ 3) ∧
      powerStateShouldShutdown ctx = decide ((powerStateGetCurrent ctx).depth = 4) := by
  obtain ⟨current, config, batteryMv, initialized⟩ := ctx
  cases initialized with
  | false => exact ⟨rfl, rfl, rfl, rfl, rfl⟩
  | true => cases current <;> exact ⟨rfl, rfl, rfl, rfl, rfl⟩

theorem powerStep_logs (logs : ctx.Logs log) (op : PowerOp) :
    (powerStep ctx op).2 = (batteryStep log op).2 ∧ (powerStep ctx op).1.Logs (batteryStep log op).1 := by
  obtain ⟨sensors, radio, cloud, safety, shutdown⟩ := flags_of_current ctx
  rw [getCurrent_logged logs] at sensors radio cloud safety shutdown
  cases op with
  | init => exact ⟨rfl, rfl, rfl, rfl⟩
  | initCustom config => exact ⟨rfl, rfl, rfl, rfl⟩
  | evaluate batteryMv =>
    obtain ⟨state, next⟩ := evaluate_logged logs batteryMv
    exact ⟨congrArg PowerReport.state state, next⟩
  | getCurrent => exact ⟨congrArg PowerReport.state (getCurrent_logged logs), logs⟩
  | sensorsActive => exact ⟨congrArg PowerReport.flag sensors, logs⟩
  | radioActive => exact ⟨congrArg PowerReport.flag radio, logs⟩
  | cloudActive => exact ⟨congrArg PowerReport.flag cloud, logs⟩
  | safetyActive => exact ⟨congrArg PowerReport.flag safety, logs⟩
  | shouldShutdown => exact ⟨congrArg PowerReport.flag shutdown, logs⟩

end Logs

/-- In every run, for every four thresholds, the state and what runs in it are those that the lowest voltage read since the
last initialisation calls for: a battery that recovers brings nothing back. -/
theorem power_follows_lowest_reading (ctx : PowerStateContext) (blank : ctx.initialized = false) (ops : List PowerOp) :
    outputs powerStep ctx ops = outputs batteryStep none ops :=
  (simulation (R := fun ctx log => ctx.Logs log) blank (fun _ _ op logs => powerStep_logs logs op) ops).1

theorem power_follows_lowest_reading_recovered :
    outputs powerStep { current := .idle, config := defaultPowerConfig, batteryMv := 0, initialized := false }
        [.init, .evaluate 3100, .evaluate 2400, .evaluate 4200, .cloudActive] =
      outputs batteryStep none [.init, .evaluate 3100, .evaluate 2400, .evaluate 4200, .cloudActive] :=
  power_follows_lowest_reading _ rfl _

end IotPlatform
