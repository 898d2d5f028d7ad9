import Mathlib.Data.List.Induction
import IotPlatform.Lib.Run
import IotPlatform.Shared.DeviceIdentity

/-!
# The identity of a device over its life

Runs of the identity module from the first power-on, with any number of reboots: what was provisioned once is what
every later boot reads back, and only the confirmed firmware version moves.
-/

namespace IotPlatform

inductive IdentityCall where
  | init
  | set (identity : DeviceIdentity)
  | setPendingVersion (newVersion : UInt32)
  | confirmBoot
  deriving DecidableEq, Repr

section Runs

variable {σ : Type}

/-- A reboot is a call of `device_identity_init`: it overwrites every static and keeps the store. -/
def identityStep (storage : Option (DeviceIdentityStorage σ)) (s : DeviceIdentityModule σ) :
    IdentityCall → DeviceIdentityModule σ × DeviceIdentityResult
  | .init => (deviceIdentityInit storage s, .ok)
  | .set identity => deviceIdentitySet storage s identity
  | .setPendingVersion newVersion => deviceIdentitySetPendingVersion storage s newVersion
  | .confirmBoot => deviceIdentityConfirmBoot storage s

/-- The statics as the C runtime leaves them, before the first `device_identity_init`. -/
def identityPowerOn (store : σ) : DeviceIdentityModule σ :=
  { identity := zeroIdentity, provisioned := false, initialised := false, fwVersionPending := deviceIdNoVersion
    store := store }

def identityAfter (backend : DeviceIdentityStorage σ) (store : σ) (calls : List IdentityCall) : DeviceIdentityModule σ :=
  Run.finalState (identityStep (some backend)) (identityPowerOn store) calls

/-! ### The pending version -/

/-- The last call of `device_identity_set_pending_version` since the last boot was for `version`. -/
def LastPending (calls : List IdentityCall) (version : UInt32) : Prop :=
  ∃ earlier later, calls = earlier ++ .setPendingVersion version :: later ∧ .init ∉ later ∧
    ∀ other, .setPendingVersion other ∉ later

theorem LastPending.concat {calls : List IdentityCall} {version : UInt32} (last : LastPending calls version)
    {call : IdentityCall} (boot : call ≠ .init) (update : ∀ other, call ≠ .setPendingVersion other) :
    LastPending (calls ++ [call]) version := by
  obtain ⟨earlier, later, rfl, no_boot, no_update⟩ := last
  refine ⟨earlier, later ++ [call], by simp, ?_, fun other => ?_⟩
  · simp [no_boot, boot.symm]
  · simp [no_update, (update other).symm]

theorem lastPending_set (calls : List IdentityCall) (version : UInt32) :
    LastPending (calls ++ [.setPendingVersion version]) version :=
  ⟨calls, [], rfl, List.not_mem_nil, fun _ => List.not_mem_nil⟩

/-- A pending version is the one that was last asked for, on a device ready to take it. -/
def PendingTold (calls : List IdentityCall) (s : DeviceIdentityModule σ) : Prop :=
  s.fwVersionPending = deviceIdNoVersion ∨
    (s.initialised = true ∧ s.provisioned = true ∧ LastPending calls s.fwVersionPending)

variable {storage : Option (DeviceIdentityStorage σ)} {s : DeviceIdentityModule σ}

theorem deviceIdentityInit_fwVersionPending :
    (deviceIdentityInit storage s).fwVersionPending = deviceIdNoVersion := by
  unfold deviceIdentityInit
  dsimp only
  split
  · rfl
  · split
    · rfl
    · split_ifs
      · exact identityPersist_fwVersionPending
      · rfl

theorem PendingTold.concat {calls : List IdentityCall} (told : PendingTold calls s) {call : IdentityCall}
    (boot : call ≠ .init) (update : ∀ other, call ≠ .setPendingVersion other) : PendingTold (calls ++ [call]) s :=
  told.imp_right fun ⟨initialised, provisioned, last⟩ => ⟨initialised, provisioned, last.concat boot update⟩

theorem pendingTold_step {calls : List IdentityCall} (told : PendingTold calls s) (call : IdentityCall) :
    PendingTold (calls ++ [call]) (identityStep storage s call).1 := by
  cases call with
  | init => exact .inl deviceIdentityInit_fwVersionPending
  | set identity =>
    have kept : PendingTold (calls ++ [.set identity]) s := told.concat (by simp) (by simp)
    dsimp only [identityStep, deviceIdentitySet]
    split_ifs with fresh provisioned
    · exact kept
    · exact kept
    · -- An unprovisioned device has no pending version to carry over.
      rcases told with none | ⟨-, already, -⟩
      · exact .inl (identityPersist_fwVersionPending.trans none)
      · exact absurd already provisioned
  | setPendingVersion newVersion =>
    dsimp only [identityStep, deviceIdentitySetPendingVersion]
    split_ifs with fresh unprovisioned
    · exact told.imp_right fun ⟨initialised, _⟩ => by simp [initialised] at fresh
    · exact told.imp_right fun ⟨_, provisioned, _⟩ => by simp [provisioned] at unprovisioned
    · refine .inr ⟨?_, ?_, ?_⟩
      · simpa using fresh
      · simpa using unprovisioned
      · rw [identityPersist_fwVersionPending]
        exact lastPending_set calls newVersion
  | confirmBoot =>
    have kept : PendingTold (calls ++ [.confirmBoot]) s := told.concat (by simp) (by simp)
    dsimp only [identityStep, deviceIdentityConfirmBoot]
    split_ifs
    · exact kept
    · exact kept
    · exact kept
    · exact .inl identityPersist_fwVersionPending

variable {backend : DeviceIdentityStorage σ}

theorem identityAfter_concat (store : σ) (calls : List IdentityCall) (call : IdentityCall) :
    identityAfter backend store (calls ++ [call]) =
      (identityStep (some backend) (identityAfter backend store calls) call).1 := Run.finalState_concat calls call

theorem identityAfter_pendingTold (backend : DeviceIdentityStorage σ) (store : σ) (calls : List IdentityCall) :
    PendingTold calls (identityAfter backend store calls) := by
  induction calls using List.reverseRecOn with
  | nil => exact .inl rfl
  | append_singleton calls call ih =>
    rw [identityAfter_concat]
    exact pendingTold_step ih call

/-! ### A provisioned device -/

theorem identityStep_ready (faithful : backend.Faithful) (ready : s.Provisioned backend) (call : IdentityCall) :
    (identityStep (some backend) s call).1.Provisioned backend ∧
      ((identityStep (some backend) s call).1.identity = s.identity ∨
        (call = .confirmBoot ∧ s.fwVersionPending ≠ deviceIdNoVersion ∧
          (identityStep (some backend) s call).1.identity = { s.identity with fwVersion := s.fwVersionPending })) := by
  cases call with
  | init =>
    obtain ⟨still, same, -⟩ := deviceIdentityInit_spec faithful ready
    exact ⟨still, .inl same⟩
  | set identity =>
    have refused : identityStep (some backend) s (.set identity) = (s, .errAlreadyProvisioned) := by
      simp [identityStep, deviceIdentitySet, ready.initialised, ready.provisioned]
    rw [refused]
    exact ⟨ready, .inl rfl⟩
  | setPendingVersion newVersion =>
    obtain ⟨still, same, -⟩ := deviceIdentitySetPendingVersion_spec faithful ready newVersion
    exact ⟨still, .inl same⟩
  | confirmBoot =>
    by_cases pending : s.fwVersionPending = deviceIdNoVersion
    · have unchanged : identityStep (some backend) s .confirmBoot = (s, .ok) := by
        simp [identityStep, deviceIdentityConfirmBoot, ready.initialised, ready.provisioned, pending]
      rw [unchanged]
      exact ⟨ready, .inl rfl⟩
    · obtain ⟨still, promoted, -⟩ := deviceIdentityConfirmBoot_spec faithful ready pending
      exact ⟨still, .inr ⟨rfl, pending, promoted⟩⟩

theorem deviceIdentitySet_provisions (faithful : backend.Faithful) {identity : DeviceIdentity}
    (accepted : (deviceIdentitySet (some backend) s identity).2 = .ok) :
    (deviceIdentitySet (some backend) s identity).1.Provisioned backend ∧
      (deviceIdentitySet (some backend) s identity).1.identity = identity := by
  unfold deviceIdentitySet at accepted ⊢
  split_ifs at accepted ⊢ with fresh provisioned
  exact ⟨identityPersist_provisioned_of faithful (by simpa using fresh) rfl, identityPersist_identity⟩

theorem deviceIdentityGet_ready (ready : s.Provisioned backend) : deviceIdentityGet s = .ok s.identity := by
  simp [deviceIdentityGet, ready.initialised, ready.provisioned]

theorem deviceIdentityGetFwVersion_ready (ready : s.Provisioned backend) :
    deviceIdentityGetFwVersion s = s.identity.fwVersion := by
  simp [deviceIdentityGetFwVersion, ready.initialised, ready.provisioned]

/-- `identity` is what the device was provisioned with, up to the firmware version. -/
structure DeviceIdentityModule.Holds (backend : DeviceIdentityStorage σ) (identity : DeviceIdentity)
    (s : DeviceIdentityModule σ) : Prop where
  ready : s.Provisioned backend
  immutable : s.identity = { identity with fwVersion := s.identity.fwVersion }

theorem holds_run (faithful : backend.Faithful) {identity : DeviceIdentity} (holds : s.Holds backend identity)
    (calls : List IdentityCall) : (Run.finalState (identityStep (some backend)) s calls).Holds backend identity := by
  apply Run.finalState_invariant holds
  intro s call holds
  obtain ⟨still, same | ⟨-, -, promoted⟩⟩ := identityStep_ready faithful holds.ready call
  · refine ⟨still, ?_⟩
    rw [same]
    exact holds.immutable
  · refine ⟨still, ?_⟩
    rw [promoted, holds.immutable]

/-- Once a device was provisioned its UUID, domain and hardware variant are fixed and nobody provisions it again; its
firmware version moves in `device_identity_confirm_boot` alone, to the version last announced in this boot. -/
theorem identity_immutable (backend : DeviceIdentityStorage σ) (faithful : backend.Faithful) (store : σ)
    (earlier : List IdentityCall) (identity : DeviceIdentity)
    (accepted : (identityStep (some backend) (identityAfter backend store earlier) (.set identity)).2 = .ok)
    (later : List IdentityCall) :
    let calls := earlier ++ .set identity :: later
    let s := identityAfter backend store calls
    (later = [] → deviceIdentityGet s = .ok identity) ∧
      (∃ fwVersion, deviceIdentityGet s = .ok { identity with fwVersion := fwVersion }) ∧
      (∀ other, identityStep (some backend) s (.set other) = (s, .errAlreadyProvisioned)) ∧
      ∀ call, deviceIdentityGetFwVersion (identityStep (some backend) s call).1 ≠ deviceIdentityGetFwVersion s →
        call = .confirmBoot ∧
          LastPending calls (deviceIdentityGetFwVersion (identityStep (some backend) s call).1) := by
  intro calls s
  obtain ⟨ready, stored⟩ := deviceIdentitySet_provisions faithful accepted
  have split : s = Run.finalState (identityStep (some backend))
      (deviceIdentitySet (some backend) (identityAfter backend store earlier) identity).1 later :=
    Run.finalState_append earlier (.set identity :: later)
  have holds : s.Holds backend identity := by
    rw [split]
    exact holds_run faithful ⟨ready, by rw [stored]⟩ later
  refine ⟨?_, ⟨s.identity.fwVersion, ?_⟩, fun other => ?_, fun call moved => ?_⟩
  · rintro rfl
    rw [deviceIdentityGet_ready holds.ready, split]
    exact congrArg Except.ok stored
  · rw [← holds.immutable]
    exact deviceIdentityGet_ready holds.ready
  · simp [identityStep, deviceIdentitySet, holds.ready.initialised, holds.ready.provisioned]
  · obtain ⟨still, outcome⟩ := identityStep_ready faithful holds.ready call
    rw [deviceIdentityGetFwVersion_ready still, deviceIdentityGetFwVersion_ready holds.ready] at moved
    rcases outcome with same | ⟨confirmed, pending, promoted⟩
    · exact absurd (congrArg DeviceIdentity.fwVersion same) moved
    · rcases identityAfter_pendingTold backend store calls with none | ⟨-, -, last⟩
      · exact absurd none pending
      · rw [deviceIdentityGetFwVersion_ready still, promoted]
        exact ⟨confirmed, last⟩

end Runs

def plantIdentity : DeviceIdentity :=
  { zeroIdentity with domainProfileId := .waterTreatment, hwVariantId := 1, fwVersion := 1 }

/-- Provisioned, updated to version 2, and updated once more without a confirmed boot. -/
theorem identity_immutable_two_updates :
    (identityStep (some ramIdentityStorage) (identityAfter ramIdentityStorage none [.init]) (.set plantIdentity)).2 = .ok ∧
      ∃ fwVersion, deviceIdentityGet (identityAfter ramIdentityStorage none
        ([.init] ++ .set plantIdentity :: [.setPendingVersion 2, .confirmBoot, .setPendingVersion 3, .init])) =
          .ok { plantIdentity with fwVersion := fwVersion } :=
  ⟨rfl, (identity_immutable ramIdentityStorage ramIdentityStorage_faithful none [.init] plantIdentity rfl
    [.setPendingVersion 2, .confirmBoot, .setPendingVersion 3, .init]).2.1⟩

end IotPlatform
