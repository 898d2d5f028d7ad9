import IotPlatform.Lib.Registry

/-!
# The actuator fail-safe table

`actuator_failsafe.c`: what each actuator does on a loss of power and on a loss of communication.
-/

namespace IotPlatform
open Table Registry

def actuatorFailsafeMaxEntries : Nat := 16

inductive ActuatorFailSafeMode where
  | deEnergize | holdLast | forceOff | forceSafePos
  deriving DecidableEq, Repr

inductive ActuatorSafetyClass where
  | critical | standard
  deriving DecidableEq, Repr

structure ActuatorFailSafeEntry where
  actuatorId : UInt8
  criticality : ActuatorSafetyClass
  powerLossMode : ActuatorFailSafeMode
  commsLossMode : ActuatorFailSafeMode
  commsTimeoutSec : UInt16
  deriving DecidableEq

/-- The module's statics: the first `g_entry_count` entries and `g_initialised`. -/
structure ActuatorFailsafe where
  table : List ActuatorFailSafeEntry := []
  initialised : Bool := false

def actuatorFailsafeInit : ActuatorFailsafe := { table := [], initialised := true }

def actuatorFailsafeRegister (s : ActuatorFailsafe) (entry : ActuatorFailSafeEntry) : ActuatorFailsafe × Bool :=
  if !s.initialised then (s, false)
  else if s.table.length ≥ actuatorFailsafeMaxEntries then (s, false)
  else if (s.table.find? (·.actuatorId == entry.actuatorId)).isSome then
    ({ s with table := updateFirst (·.actuatorId == entry.actuatorId) (fun _ => entry) s.table }, true)
  else ({ s with table := s.table ++ [entry] }, true)

def actuatorFailsafeLookup (s : ActuatorFailsafe) (actuatorId : UInt8) : Option ActuatorFailSafeEntry :=
  if !s.initialised then none else s.table.find? (·.actuatorId == actuatorId)

/-- What a call determines: it returns false when it fails, and leaves driving the actuator to the caller. -/
inductive FailSafeAction where
  | failed | hold | apply (mode : ActuatorFailSafeMode)
  deriving DecidableEq, Repr

def actuatorFailsafeExecute (s : ActuatorFailsafe) (actuatorId : UInt8) (isPowerLoss : Bool) (commsLossElapsedSec : UInt16) :
    FailSafeAction :=
  if !s.initialised then .failed
  else
    match actuatorFailsafeLookup s actuatorId with
    | none => .failed
    | some entry =>
      if isPowerLoss then .apply entry.powerLossMode
      -- The communication is lost, but not for long enough.
      else if commsLossElapsedSec < entry.commsTimeoutSec then .hold
      else .apply entry.commsLossMode

def actuatorFailsafeCount (s : ActuatorFailsafe) : UInt8 := UInt8.ofNat s.table.length

theorem actuatorFailsafeRegister_eq {s : ActuatorFailsafe} (ready : s.initialised = true) (entry : ActuatorFailSafeEntry) :
    actuatorFailsafeRegister s entry =
      match register actuatorFailsafeMaxEntries ActuatorFailSafeEntry.actuatorId (fun _ => entry) entry s.table with
      | none => (s, false)
      | some table => ({ s with table := table }, true) := by
  simp only [actuatorFailsafeRegister, register, insertOrUpdate, ready, Bool.not_true, Bool.false_eq_true, if_false]
  split
  · rfl
  · split <;> rfl

end IotPlatform
