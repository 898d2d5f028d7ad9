import IotPlatform.Lib.Run
import IotPlatform.Shared.ActuatorFailsafe
import IotPlatform.Profiles.Agriculture
import IotPlatform.Profiles.Home
import IotPlatform.Profiles.Hvac
import IotPlatform.Profiles.WaterTreatment

/-!
# Fail-safe decisions of the profiles

The `*_failsafe.c` tables with the `*_getFailSafeMode` of the rule files. The four profiles number their actuators alike and
share one registry, so that the profile registered last decides for all of them.
-/

namespace IotPlatform
open Run Table

/-- The profile a hub is built for. -/
inductive HubProfile where
  | home | agriculture | hvac | waterTreatment
  deriving DecidableEq, Repr

def hvacActuatorDamperMotor : UInt8 := 2

def waterActuatorCirculationPump : UInt8 := 3

/-! ### The tables -/

def homeFailsafeTable : List ActuatorFailSafeEntry :=
  [ { actuatorId := homeActuatorDoorLock, criticality := .critical, powerLossMode := .forceSafePos
      commsLossMode := .holdLast, commsTimeoutSec := 0 },
    { actuatorId := homeActuatorIrrigationValve, criticality := .standard, powerLossMode := .forceOff
      commsLossMode := .holdLast, commsTimeoutSec := 600 },
    { actuatorId := homeActuatorLightRelay, criticality := .standard, powerLossMode := .forceOff
      commsLossMode := .holdLast, commsTimeoutSec := 0 } ]

def agricultureFailsafeTable : List ActuatorFailSafeEntry :=
  [ { actuatorId := agriActuatorIrrigationPump, criticality := .critical, powerLossMode := .forceOff
      commsLossMode := .forceOff, commsTimeoutSec := 30 },
    { actuatorId := agriActuatorIrrigationValve, criticality := .standard, powerLossMode := .deEnergize
      commsLossMode := .holdLast, commsTimeoutSec := 600 },
    { actuatorId := agriActuatorFrostValve, criticality := .standard, powerLossMode := .deEnergize
      commsLossMode := .holdLast, commsTimeoutSec := 300 } ]

def hvacFailsafeTable : List ActuatorFailSafeEntry :=
  [ { actuatorId := hvacActuatorCompressorRelay, criticality := .critical, powerLossMode := .forceOff
      commsLossMode := .forceOff, commsTimeoutSec := 30 },
    { actuatorId := hvacActuatorDamperMotor, criticality := .standard, powerLossMode := .forceSafePos
      commsLossMode := .holdLast, commsTimeoutSec := 300 },
    { actuatorId := hvacActuatorFanMotor, criticality := .standard, powerLossMode := .forceOff
      commsLossMode := .holdLast, commsTimeoutSec := 300 } ]

def waterFailsafeTable : List ActuatorFailSafeEntry :=
  [ { actuatorId := waterActuatorDosingValve, criticality := .critical, powerLossMode := .forceOff
      commsLossMode := .forceOff, commsTimeoutSec := 10 },
    { actuatorId := waterActuatorMainSupplyValve, criticality := .critical, powerLossMode := .deEnergize
      commsLossMode := .holdLast, commsTimeoutSec := 60 },
    { actuatorId := waterActuatorCirculationPump, criticality := .standard, powerLossMode := .forceOff
      commsLossMode := .holdLast, commsTimeoutSec := 120 } ]

/-- The loop of the `*_failsafe_register_all` functions. -/
def registerEntries (s : ActuatorFailsafe) : List ActuatorFailSafeEntry → ActuatorFailsafe × Bool
  | [] => (s, true)
  | entry :: rest =>
    let (s, registered) := actuatorFailsafeRegister s entry
    let (s, success) := registerEntries s rest
    (s, registered && success)

def homeFailsafeRegisterAll (s : ActuatorFailsafe) : ActuatorFailsafe × Bool := registerEntries s homeFailsafeTable

def agricultureFailsafeRegisterAll (s : ActuatorFailsafe) : ActuatorFailsafe × Bool :=
  registerEntries s agricultureFailsafeTable

def hvacFailsafeRegisterAll (s : ActuatorFailsafe) : ActuatorFailsafe × Bool := registerEntries s hvacFailsafeTable

def waterFailsafeRegisterAll (s : ActuatorFailsafe) : ActuatorFailsafe × Bool := registerEntries s waterFailsafeTable

/-- The loop of the `*_get_comms_timeout` functions. -/
def commsTimeout (table : List ActuatorFailSafeEntry) (actuatorId : UInt8) : UInt16 :=
  match table.find? (·.actuatorId == actuatorId) with
  | some entry => entry.commsTimeoutSec
  | none => 0

def homeGetCommsTimeout : UInt8 → UInt16 := commsTimeout homeFailsafeTable

def agricultureGetCommsTimeout : UInt8 → UInt16 := commsTimeout agricultureFailsafeTable

def hvacGetCommsTimeout : UInt8 → UInt16 := commsTimeout hvacFailsafeTable

def waterGetCommsTimeout : UInt8 → UInt16 := commsTimeout waterFailsafeTable

/-! ### The callbacks -/

def homeGetFailSafeMode (actuatorId : UInt8) (isPowerLoss : Bool) : ActuatorFailSafeMode :=
  if isPowerLoss then
    if actuatorId = homeActuatorDoorLock then .forceSafePos
    else if actuatorId = homeActuatorIrrigationValve then .forceOff
    else if actuatorId = homeActuatorLightRelay then .forceOff
    else .deEnergize
  else if actuatorId = homeActuatorDoorLock then .holdLast
  else if actuatorId = homeActuatorIrrigationValve then .holdLast
  else if actuatorId = homeActuatorLightRelay then .holdLast
  else .holdLast

def agricultureGetFailSafeMode (actuatorId : UInt8) (isPowerLoss : Bool) : ActuatorFailSafeMode :=
  if isPowerLoss then
    if actuatorId = agriActuatorIrrigationPump then .forceOff
    else if actuatorId = agriActuatorIrrigationValve then .deEnergize
    else if actuatorId = agriActuatorFrostValve then .deEnergize
    else .deEnergize
  else if actuatorId = agriActuatorIrrigationPump then .forceOff
  else if actuatorId = agriActuatorIrrigationValve then .holdLast
  else if actuatorId = agriActuatorFrostValve then .holdLast
  else .holdLast

def hvacGetFailSafeMode (actuatorId : UInt8) (isPowerLoss : Bool) : ActuatorFailSafeMode :=
  if isPowerLoss then
    if actuatorId = hvacActuatorCompressorRelay then .forceOff
    else if actuatorId = hvacActuatorDamperMotor then .forceSafePos
    else if actuatorId = hvacActuatorFanMotor then .forceOff
    else .deEnergize
  else if actuatorId = hvacActuatorCompressorRelay then .forceOff
  else if actuatorId = hvacActuatorDamperMotor then .holdLast
  else if actuatorId = hvacActuatorFanMotor then .holdLast
  else .holdLast

def waterGetFailSafeMode (actuatorId : UInt8) (isPowerLoss : Bool) : ActuatorFailSafeMode :=
  if isPowerLoss then
    if actuatorId = waterActuatorDosingValve then .forceOff
    else if actuatorId = waterActuatorMainSupplyValve then .deEnergize
    else if actuatorId = waterActuatorCirculationPump then .forceOff
    else .deEnergize
  else if actuatorId = waterActuatorDosingValve then .forceOff
  else if actuatorId = waterActuatorMainSupplyValve then .holdLast
  else if actuatorId = waterActuatorCirculationPump then .holdLast
  else .holdLast

namespace HubProfile

def failsafeTable : HubProfile → List ActuatorFailSafeEntry
  | home => homeFailsafeTable
  | agriculture => agricultureFailsafeTable
  | hvac => hvacFailsafeTable
  | waterTreatment => waterFailsafeTable

def failsafeRegisterAll : HubProfile → ActuatorFailsafe → ActuatorFailsafe × Bool
  | home => homeFailsafeRegisterAll
  | agriculture => agricultureFailsafeRegisterAll
  | hvac => hvacFailsafeRegisterAll
  | waterTreatment => waterFailsafeRegisterAll

def getCommsTimeout : HubProfile → UInt8 → UInt16
  | home => homeGetCommsTimeout
  | agriculture => agricultureGetCommsTimeout
  | hvac => hvacGetCommsTimeout
  | waterTreatment => waterGetCommsTimeout

def getFailSafeMode : HubProfile → UInt8 → Bool → ActuatorFailSafeMode
  | home => homeGetFailSafeMode
  | agriculture => agricultureGetFailSafeMode
  | hvac => hvacGetFailSafeMode
  | waterTreatment => waterGetFailSafeMode

/-- What the profile's own table and callback say about one of its actuators. -/
def decision (profile : HubProfile) (actuatorId : UInt8) (isPowerLoss : Bool) (commsLossElapsedSec : UInt16) :
    FailSafeAction :=
  if isPowerLoss then .apply (profile.getFailSafeMode actuatorId true)
  else if commsLossElapsedSec < profile.getCommsTimeout actuatorId then .hold
  else .apply (profile.getFailSafeMode actuatorId false)

end HubProfile

/-- The ids that every profile gives to its three actuators. -/
def profileActuators : List UInt8 := [1, 2, 3]

inductive FailSafeOp where
  | init
  | register (entry : ActuatorFailSafeEntry)
  | registerAll (profile : HubProfile)
  | execute (actuatorId : UInt8) (isPowerLoss : Bool) (commsLossElapsedSec : UInt16)
  | count
  deriving DecidableEq

inductive FailSafeReport where
  | returned (result : Bool)
  | action (action : FailSafeAction)
  | count (entries : UInt8)
  deriving DecidableEq, Repr

def failsafeStep (s : ActuatorFailsafe) : FailSafeOp → ActuatorFailsafe × FailSafeReport
  | .init => (actuatorFailsafeInit, .returned true)
  | .register entry =>
    let (s, registered) := actuatorFailsafeRegister s entry
    (s, .returned registered)
  | .registerAll profile =>
    let (s, success) := profile.failsafeRegisterAll s
    (s, .returned success)
  | .execute actuatorId isPowerLoss commsLossElapsedSec =>
    (s, .action (actuatorFailsafeExecute s actuatorId isPowerLoss commsLossElapsedSec))
  | .count => (s, .count (actuatorFailsafeCount s))

/-! ### Entries of a profile -/

section Entries

variable {s : ActuatorFailsafe} {profile : HubProfile}

theorem failsafeRegisterAll_eq (profile : HubProfile) (s : ActuatorFailsafe) :
    profile.failsafeRegisterAll s = registerEntries s profile.failsafeTable := by
  cases profile <;> rfl

theorem failsafeTable_ids (profile : HubProfile) :
    profile.failsafeTable.map ActuatorFailSafeEntry.actuatorId = profileActuators := by
  cases profile <;> rfl

/-- A call either leaves the table as it is, or the entry is the one found under its id from then on. -/
theorem actuatorFailsafeRegister_cases (s : ActuatorFailsafe) (entry : ActuatorFailSafeEntry) :
    actuatorFailsafeRegister s entry = (s, false) ∨
      ∃ table, actuatorFailsafeRegister s entry = ({ s with table := table }, true) ∧ s.initialised = true ∧
        ∀ actuatorId, table.find? (·.actuatorId == actuatorId) =
          if actuatorId = entry.actuatorId then some entry else s.table.find? (·.actuatorId == actuatorId) := by
  cases ready : s.initialised with
  | false =>
    rw [actuatorFailsafeRegister, ready]
    exact Or.inl rfl
  | true =>
    rw [actuatorFailsafeRegister_eq ready, Registry.register]
    split
    · exact Or.inl rfl
    · rename_i table called
      split at called
      · cases called
      · rw [← Option.some.inj called]
        exact Or.inr ⟨_, by rw [ready], rfl, fun actuatorId => Registry.find?_insertOrUpdate actuatorId⟩

/-- The module finds these entries under their ids. -/
def ActuatorFailsafe.Finds (s : ActuatorFailsafe) (entries : List ActuatorFailSafeEntry) : Prop :=
  s.initialised = true ∧ ∀ entry ∈ entries, s.table.find? (·.actuatorId == entry.actuatorId) = some entry

theorem actuatorFailsafeRegister_finds {entries : List ActuatorFailSafeEntry} (finds : s.Finds entries)
    {entry : ActuatorFailSafeEntry} (apart : ∀ other ∈ entries, other.actuatorId = entry.actuatorId → other = entry) :
    (actuatorFailsafeRegister s entry).1.Finds entries := by
  obtain refused | ⟨table, accepted, -, found⟩ := actuatorFailsafeRegister_cases s entry
  · rw [refused]
    exact finds
  · rw [accepted]
    refine ⟨finds.1, ?_⟩
    intro other member
    rw [found]
    split
    · rename_i same
      rw [apart other member same]
    · exact finds.2 other member

theorem registerEntries_finds {entries known : List ActuatorFailSafeEntry} (finds : s.Finds known)
    (apart : ∀ entry ∈ entries, ∀ other ∈ known, other.actuatorId = entry.actuatorId → other = entry) :
    (registerEntries s entries).1.Finds known := by
  induction entries generalizing s with
  | nil => exact finds
  | cons entry rest ih =>
    rw [List.forall_mem_cons] at apart
    exact ih (actuatorFailsafeRegister_finds finds apart.1) apart.2

/-- A loop that reports success has put all its entries in. -/
theorem registerEntries_success {entries : List ActuatorFailSafeEntry}
    (distinct : (entries.map ActuatorFailSafeEntry.actuatorId).Nodup) (success : (registerEntries s entries).2 = true)
    (some_entry : entries ≠ []) : (registerEntries s entries).1.Finds entries := by
  induction entries generalizing s with
  | nil => exact absurd rfl some_entry
  | cons entry rest ih =>
    rw [List.map_cons, List.nodup_cons] at distinct
    rw [registerEntries, Bool.and_eq_true] at success
    obtain refused | ⟨table, accepted, ready, found⟩ := actuatorFailsafeRegister_cases s entry
    · rw [refused] at success
      exact absurd success.1 Bool.false_ne_true
    · rw [accepted] at success
      rw [registerEntries, accepted]
      have first : ({ s with table := table } : ActuatorFailsafe).Finds [entry] := by
        refine ⟨ready, ?_⟩
        intro other member
        rw [List.mem_singleton.mp member, found, if_pos rfl]
      have apart : ∀ later ∈ rest, ∀ other ∈ [entry], other.actuatorId = later.actuatorId → other = later := by
        intro later member other own same
        rw [List.mem_singleton.mp own] at same
        exact absurd (same ▸ List.mem_map_of_mem member) distinct.1
      have kept := registerEntries_finds first apart
      refine ⟨kept.1, ?_⟩
      rw [List.forall_mem_cons]
      refine ⟨kept.2 entry (List.mem_singleton_self entry), ?_⟩
      cases rest with
      | nil => simp
      | cons next others => exact (ih distinct.2 success.2 (List.cons_ne_nil _ _)).2

theorem execute_of_finds (finds : s.Finds profile.failsafeTable) {actuatorId : UInt8} (own : actuatorId ∈ profileActuators)
    (isPowerLoss : Bool) (commsLossElapsedSec : UInt16) :
    actuatorFailsafeExecute s actuatorId isPowerLoss commsLossElapsedSec =
      profile.decision actuatorId isPowerLoss commsLossElapsedSec := by
  rw [← failsafeTable_ids profile] at own
  obtain ⟨entry, member, rfl⟩ := List.mem_map.mp own
  have found : actuatorFailsafeLookup s entry.actuatorId = some entry := by
    rw [actuatorFailsafeLookup, finds.1]
    exact finds.2 entry member
  have agree : profile.getFailSafeMode entry.actuatorId true = entry.powerLossMode ∧
      profile.getFailSafeMode entry.actuatorId false = entry.commsLossMode ∧
      profile.getCommsTimeout entry.actuatorId = entry.commsTimeoutSec := by
    clear found finds own
    revert entry
    cases profile <;> decide
  rw [actuatorFailsafeExecute, finds.1, found, HubProfile.decision, agree.1, agree.2.1, agree.2.2]
  rfl

end Entries

/-! ### Runs -/

/-- The call leaves the three entries of the profile alone. -/
def FailSafeOp.Spares (profile : HubProfile) : FailSafeOp → Prop
  | .init => False
  | .register entry => entry.actuatorId ∉ profileActuators
  | .registerAll other => other = profile
  | .execute _ _ _ | .count => True

theorem failsafeStep_finds {s : ActuatorFailsafe} {profile : HubProfile} (finds : s.Finds profile.failsafeTable)
    {op : FailSafeOp} (spares : op.Spares profile) : (failsafeStep s op).1.Finds profile.failsafeTable := by
  cases op with
  | init => exact spares.elim
  | register entry =>
    apply actuatorFailsafeRegister_finds finds
    intro other member same
    rw [FailSafeOp.Spares, ← failsafeTable_ids profile, ← same] at spares
    exact absurd (List.mem_map_of_mem member) spares
  | registerAll other =>
    obtain rfl : other = profile := spares
    rw [failsafeStep, failsafeRegisterAll_eq]
    apply registerEntries_finds finds
    have distinct : (other.failsafeTable.map ActuatorFailSafeEntry.actuatorId).Nodup := by
      rw [failsafeTable_ids]
      decide
    intro entry member other_entry other_member same
    exact List.inj_on_of_nodup_map distinct other_member member same
  | execute actuatorId isPowerLoss commsLossElapsedSec => exact finds
  | count => exact finds

/-- From a registration that succeeded on, whatever was registered before, each of the three actuators does what the table and
the callback of that profile say; a lost communication moves none but the first, and not in a home. -/
theorem failsafe_follows_profile (before later : List FailSafeOp) (profile : HubProfile)
    (accepted : (failsafeStep (finalState failsafeStep {} before) (.registerAll profile)).2 = .returned true)
    (spared : ∀ op ∈ later, op.Spares profile) (actuatorId : UInt8) (own : actuatorId ∈ profileActuators)
    (commsLossElapsedSec : UInt16) :
    let s := finalState failsafeStep {} (before ++ .registerAll profile :: later)
    (∀ isPowerLoss, actuatorFailsafeExecute s actuatorId isPowerLoss commsLossElapsedSec =
        profile.decision actuatorId isPowerLoss commsLossElapsedSec) ∧
      ((∃ mode ≠ .holdLast, actuatorFailsafeExecute s actuatorId false commsLossElapsedSec = .apply mode) ↔
        profile ≠ .home ∧ actuatorId = 1 ∧ profile.getCommsTimeout actuatorId ≤ commsLossElapsedSec) := by
  intro s
  have keeps : ∀ s : ActuatorFailsafe, ∀ op ∈ later, s.Finds profile.failsafeTable →
      (failsafeStep s op).1.Finds profile.failsafeTable :=
    fun _ op member finds => failsafeStep_finds finds (spared op member)
  have finds : s.Finds profile.failsafeTable := by
    rw [show s = finalState failsafeStep (failsafeStep (finalState failsafeStep {} before) (.registerAll profile)).1 later from
      finalState_append _ _]
    refine finalState_invariant_of_mem ?_ keeps
    rw [failsafeStep, failsafeRegisterAll_eq] at accepted ⊢
    apply registerEntries_success
    · rw [failsafeTable_ids]
      decide
    · exact FailSafeReport.returned.inj accepted
    · cases profile <;> exact List.cons_ne_nil _ _
  have decided := fun isPowerLoss => execute_of_finds finds own isPowerLoss commsLossElapsedSec
  refine ⟨decided, ?_⟩
  rw [decided false, HubProfile.decision, if_neg Bool.false_ne_true]
  have modes : ∀ id ∈ profileActuators, (profile.getFailSafeMode id false ≠ .holdLast ↔ profile ≠ .home ∧ id = 1) := by
    cases profile <;> decide +kernel
  split
  · rename_i early
    simp [UInt16.not_le.mpr early]
  · rename_i late
    simp only [FailSafeAction.apply.injEq, UInt16.not_lt.mp late, and_true]
    rw [← modes actuatorId own]
    simp

theorem failsafe_follows_profile_sample :
    actuatorFailsafeExecute (finalState failsafeStep {} [.init, .registerAll .home, .registerAll .waterTreatment, .count]) 1
        false 10 = HubProfile.decision .waterTreatment 1 false 10 :=
  (failsafe_follows_profile [.init, .registerAll .home] [.count] .waterTreatment (by decide)
    (by simp [FailSafeOp.Spares]) 1 (by decide) 10).1 false

end IotPlatform
