import IotPlatform.Hub.PortalAuthorization
import IotPlatform.Profiles.Hvac

/-!
# Rules locked for safety

Every profile marks rules that the field must not change. `config_portal_write` does not look the rule up: what it answers
depends on the session alone.
-/

namespace IotPlatform

section Write

variable {σ F : Type}

/-- The rule id is that of a rule locked for safety. -/
def TargetsSafetyLocked (initialised : Bool) (vtable : Option (DomainProfileVTable F)) (ruleId : UInt16) : Prop :=
  ∃ rule, ruleEngineFindRule initialised vtable ruleId = some rule ∧ ruleIsSafetyLocked rule = true

def SessionAccepted (p : ConfigPortal σ) (session : Option ConfigSession) (currentMs : UInt64) : Prop :=
  ∃ holder ∈ session, configPortalValidateSession p holder currentMs = .ok

variable {p : ConfigPortal σ}

theorem configPortalValidateSession_ready {session : ConfigSession} {currentMs : UInt64}
    (valid : configPortalValidateSession p session currentMs = .ok) : p.initialised = true := by
  unfold configPortalValidateSession at valid
  split at valid
  · cases valid
  · rename_i ready
    simpa using ready

theorem configPortalValidateSession_ne_safetyLocked (session : ConfigSession) (currentMs : UInt64) :
    configPortalValidateSession p session currentMs ≠ .errSafetyLocked := by
  unfold configPortalValidateSession
  intro locked
  split at locked
  · cases locked
  · split at locked
    · cases locked
    · split at locked <;> cases locked

theorem configPortalWrite_ne_safetyLocked (session : Option ConfigSession) (request : Option (ConfigWriteRequest F))
    (currentMs : UInt64) : (configPortalWrite p session request currentMs).1 ≠ .errSafetyLocked := by
  unfold configPortalWrite
  intro locked
  split at locked
  · split at locked
    · cases locked
    · split at locked
      · cases locked
      · exact configPortalValidateSession_ne_safetyLocked _ _ locked
  · cases locked

/-- A write is accepted on the session alone. -/
theorem configPortalWrite_ok_iff (session : Option ConfigSession) (request : ConfigWriteRequest F) (currentMs : UInt64) :
    (configPortalWrite p session (some request) currentMs).1 = .ok ↔ SessionAccepted p session currentMs := by
  constructor
  · intro accepted
    obtain ⟨holder, rfl, valid⟩ := configPortalWrite_ok accepted
    exact ⟨holder, rfl, valid⟩
  · rintro ⟨holder, rfl, valid⟩
    unfold configPortalWrite
    dsimp only
    rw [configPortalValidateSession_ready valid, Bool.not_true, if_neg Bool.false_ne_true, valid]

/-- A locked rule is refused as locked by no write; it is refused at all exactly where the session is. -/
theorem safety_locked_write_exact (initialised : Bool) (vtable : Option (DomainProfileVTable F)) (p : ConfigPortal σ)
    (session : Option ConfigSession) (request : ConfigWriteRequest F) (currentMs : UInt64) :
    let result := (configPortalWrite p session (some request) currentMs).1
    let locked := TargetsSafetyLocked initialised vtable request.ruleId
    ((locked → result ≠ .ok ∧ result = .errSafetyLocked) ↔ ¬locked) ∧
      ((locked → result ≠ .ok) ↔ (locked → ¬SessionAccepted p session currentMs)) := by
  intro result locked
  constructor
  · constructor
    · intro refused target
      exact configPortalWrite_ne_safetyLocked session (some request) currentMs (refused target).2
    · intro other target
      exact (other target).elim
  · constructor
    · intro refused target accepted
      exact refused target ((configPortalWrite_ok_iff session request currentMs).mpr accepted)
    · intro invalid target accepted
      exact invalid target ((configPortalWrite_ok_iff session request currentMs).mp accepted)

end Write

/-- Rule 4001 of the HVAC profile is the compressor lockout. -/
def raiseLockout : ConfigWriteRequest Binary32 :=
  { ruleId := 4001, newThreshold := FloatOps.ofRat 100, newActionType := 0, newActuatorId := 1 }

/-- A write to the compressor lockout is accepted. -/
theorem compressor_lockout_written :
    ¬∀ (vtable : Option (DomainProfileVTable Binary32)) (p : ConfigPortal Unit) (session : Option ConfigSession)
      (request : ConfigWriteRequest Binary32) (currentMs : UInt64),
      TargetsSafetyLocked true vtable request.ruleId →
        (configPortalWrite p session (some request) currentMs).1 ≠ .ok ∧
          (configPortalWrite p session (some request) currentMs).1 = .errSafetyLocked := by
  intro refused
  have locked : TargetsSafetyLocked true (some (hvacProfileVtable (F := Binary32))) raiseLockout.ruleId :=
    ⟨_, rfl, rfl⟩
  obtain ⟨rejected, -⟩ := refused (some hvacProfileVtable)
    { users := [], initialised := true, sessions := [], nextSessionId := 1, store := () } (some firstSession) raiseLockout
    1000 locked
  exact rejected rfl

end IotPlatform
