import IotPlatform.Shared.OtaUpdates
import IotPlatform.Shared.Reregistration

/-!
# What the self-check does to the modules it checks

`ota_session_boot_self_check` checks four modules by calling their init functions. An init does not look at its module: it
clears it.
-/

namespace IotPlatform
open Run

/-- A node: the update system, and the statics of the modules that are checked. -/
structure BootNode (ι σ β : Type) where
  system : OtaSystem ι σ β
  attestation : Attestation := {}
  ruleEngineInitialised : Bool := false
  sensorValidationInitialised : Bool := false
  actuatorFailsafe : ActuatorFailsafe := {}

inductive BootNodeOp (ι : Type) where
  | session (op : SessionOp ι)
  | attestation (op : StaticRegistryOp AttestationKeyRecord)
  | actuatorFailsafe (op : StaticRegistryOp ActuatorFailSafeEntry)
  | ruleEngineInit
  | sensorValidationInit
  | selfCheck
  /-- With `ramLost` the statics are gone too. -/
  | reboot (ramLost : Bool)

section Node

variable {ι σ β : Type} (storage : Option (DeviceIdentityStorage σ)) (backend : FlashPartitionBackend β)

def BootNode.pending (s : BootNode ι σ β) : Bool := deviceIdentityHasPendingVersion s.system.device.identity

/-- Each of the four inits returns true. -/
def bootSelfCheck (s : BootNode ι σ β) : BootNode ι σ β × Bool :=
  if !s.pending then (s, true)
  else
    let checks : BootChecks :=
      { attestationInit := true, ruleEngineInit := true, sensorValidationInit := true, actuatorFailsafeInit := true }
    let (device, booted) := otaSessionBootSelfCheck storage backend s.system.device checks
    ({ system := { s.system with device := device }
       attestation := attestationInit
       ruleEngineInitialised := true
       sensorValidationInitialised := true
       actuatorFailsafe := actuatorFailsafeInit }, booted)

def bootNodeStep [DecidableEq ι] (s : BootNode ι σ β) : BootNodeOp ι → BootNode ι σ β × Option Bool
  | .session op => ({ s with system := (sessionStep storage backend s.system op).1 }, none)
  | .attestation op => ({ s with attestation := (attestationKeyStep s.attestation op).1 }, none)
  | .actuatorFailsafe op => ({ s with actuatorFailsafe := (actuatorFailsafeStep s.actuatorFailsafe op).1 }, none)
  | .ruleEngineInit => ({ s with ruleEngineInitialised := true }, none)
  | .sensorValidationInit => ({ s with sensorValidationInitialised := true }, none)
  | .selfCheck =>
    let (after, booted) := bootSelfCheck storage backend s
    (after, some booted)
  | .reboot ramLost =>
    let system := rebootSystem storage s.system ramLost
    (if ramLost then { system := system } else { s with system := system }, none)

/-- The device is as before but for its versions, or for its boot slot. -/
inductive VersionStateOnly (before : OtaDevice σ β) : OtaDevice σ β → Prop
  | versions (fwVersion pending : UInt32) (store : σ) :
    VersionStateOnly before { before with identity := { before.identity with
      identity := { before.identity.identity with fwVersion := fwVersion }, fwVersionPending := pending, store := store } }
  | bootSlot (flash : β) (boot : FlashSlot) :
    VersionStateOnly before { before with partitions := { before.partitions with flash := flash, bootPartition := boot } }

/-- The responses that verified verify, no others do, and every entry of an actuator is still found. -/
structure ProvisioningKept (hmac : Hmac) (before after : BootNode ι σ β) : Prop where
  verifies : ∀ challenge response maxDriftMs, attestationVerify hmac after.attestation challenge response maxDriftMs = .ok ↔
    attestationVerify hmac before.attestation challenge response maxDriftMs = .ok
  found : ∀ actuatorId entry, actuatorFailsafeLookup before.actuatorFailsafe actuatorId = some entry →
    actuatorFailsafeLookup after.actuatorFailsafe actuatorId = some entry

structure ModulesKept (before after : BootNode ι σ β) : Prop where
  attestation : after.attestation = before.attestation
  ruleEngine : after.ruleEngineInitialised = before.ruleEngineInitialised
  sensorValidation : after.sensorValidationInitialised = before.sensorValidationInitialised
  actuatorFailsafe : after.actuatorFailsafe = before.actuatorFailsafe

/-- A self-check that finds a version pending changes the version state alone and keeps what was provisioned. -/
def KeepsProvisioning (hmac : Hmac) (s : BootNode ι σ β) (op : BootNodeOp ι) : Prop :=
  op = .selfCheck → s.pending = true →
    let after := (bootSelfCheck storage backend s).1
    VersionStateOnly s.system.device after.system.device ∧ after.system.contexts = s.system.contexts ∧
      ProvisioningKept hmac s after

/-- A self-check that finds a version pending touches nothing in the modules, their flags included. -/
def KeepsModules (s : BootNode ι σ β) (op : BootNodeOp ι) : Prop :=
  op = .selfCheck → s.pending = true → ModulesKept s (bootSelfCheck storage backend s).1

/-- A self-check that finds a version pending finds no key in use and no fail-safe entry. -/
def NothingProvisioned (s : BootNode ι σ β) (op : BootNodeOp ι) : Prop :=
  op = .selfCheck → s.pending = true →
    (∀ record ∈ s.attestation.keyTable, record.active = false) ∧ s.actuatorFailsafe.table = []

/-- It finds the modules initialised and empty. -/
def ModulesEmpty (s : BootNode ι σ β) (op : BootNodeOp ι) : Prop :=
  op = .selfCheck → s.pending = true →
    (s.attestation.initialised = true ∧ s.attestation.keyTable = []) ∧ s.ruleEngineInitialised = true ∧
      s.sensorValidationInitialised = true ∧ s.actuatorFailsafe.initialised = true ∧ s.actuatorFailsafe.table = []

end Node

/-! ### One self-check -/

section Check

variable {ι σ β : Type} {storage : Option (DeviceIdentityStorage σ)} {backend : FlashPartitionBackend β}
  {s : BootNode ι σ β} {hmac : Hmac}

theorem identityPersist_store (storage : Option (DeviceIdentityStorage σ)) (identity : DeviceIdentityModule σ) :
    ∃ store, identityPersist storage identity = { identity with store := store } := by
  unfold identityPersist
  split
  · exact ⟨_, rfl⟩
  · exact ⟨_, rfl⟩

theorem versionStateOnly_confirm (storage : Option (DeviceIdentityStorage σ)) (d : OtaDevice σ β) :
    VersionStateOnly d { d with identity := (deviceIdentityConfirmBoot storage d.identity).1 } := by
  unfold deviceIdentityConfirmBoot
  split
  · exact .versions d.identity.identity.fwVersion d.identity.fwVersionPending d.identity.store
  · split
    · exact .versions d.identity.identity.fwVersion d.identity.fwVersionPending d.identity.store
    · split
      · exact .versions d.identity.identity.fwVersion d.identity.fwVersionPending d.identity.store
      · dsimp only
        obtain ⟨store, persisted⟩ := identityPersist_store storage { d.identity with
          identity := { d.identity.identity with fwVersion := d.identity.fwVersionPending }, fwVersionPending := deviceIdNoVersion }
        rw [persisted]
        exact .versions d.identity.fwVersionPending deviceIdNoVersion store

theorem versionStateOnly_rollback (backend : FlashPartitionBackend β) (d : OtaDevice σ β) :
    VersionStateOnly d { d with partitions := (flashPartitionRollback backend d.partitions).1 } := by
  obtain ⟨flash, boot, rolledBack, -⟩ := rollback_cases backend d.partitions
  rw [rolledBack]
  exact .bootSlot flash boot

theorem selfCheck_versionStateOnly (storage : Option (DeviceIdentityStorage σ)) (backend : FlashPartitionBackend β)
    (d : OtaDevice σ β) (checks : BootChecks) : VersionStateOnly d (otaSessionBootSelfCheck storage backend d checks).1 := by
  have outcome : SelfCheckOutcome storage backend d checks _ := otaSessionBootSelfCheck_outcome checks
  generalize otaSessionBootSelfCheck storage backend d checks = after at outcome
  cases outcome with
  | nothing _ => exact .versions d.identity.identity.fwVersion d.identity.fwVersionPending d.identity.store
  | confirmed _ _ => exact versionStateOnly_confirm storage d
  | rolledBack _ _ => exact versionStateOnly_rollback backend d

theorem bootSelfCheck_pending (pending : s.pending = true) :
    (bootSelfCheck storage backend s).1 =
      { system := { s.system with device := (otaSessionBootSelfCheck storage backend s.system.device {}).1 }
        attestation := attestationInit
        ruleEngineInitialised := true
        sensorValidationInitialised := true
        actuatorFailsafe := actuatorFailsafeInit } := by
  unfold bootSelfCheck
  rw [pending, Bool.not_true, if_neg Bool.false_ne_true]

theorem attestationVerify_init (hmac : Hmac) (challenge : AttestationChallenge) (response : AttestationResponse)
    (maxDriftMs : UInt64) : attestationVerify hmac attestationInit challenge response maxDriftMs ≠ .ok := by
  rw [ne_eq, attestationVerify_ok_iff]
  rintro ⟨-, -, record, found, -⟩
  cases found

/-- A node with a key in use can answer a challenge. -/
theorem exists_verified (hmac : Hmac) {a : Attestation} (registered : a.Registered) {record : AttestationKeyRecord}
    (member : record ∈ a.keyTable) (active : record.active = true) :
    ∃ challenge response, attestationVerify hmac a challenge response 0 = .ok := by
  have present : (a.keyTable.find? fun key => key.nodeId == record.nodeId && key.active).isSome = true := by
    rw [List.find?_isSome]
    exact ⟨record, member, by simp [active]⟩
  obtain ⟨key, chosen⟩ := Option.isSome_iff_exists.mp present
  let challenge : AttestationChallenge := { challenge := Vector.replicate 16 0, timestampMs := 0, senderId := 0 }
  refine ⟨challenge, { response := attestationComputeResponse hmac key.key challenge, timestampMs := 0
                       responderId := record.nodeId }, ?_⟩
  rw [attestationVerify_ok_iff]
  exact ⟨registered.ready (List.ne_nil_of_mem member), ⟨Nat.zero_le _, Nat.zero_le _⟩, key, chosen, rfl⟩

/-- After an init no response verifies and no entry is found, so that nothing may have been there before. -/
theorem provisioningKept_init (attestation : s.attestation.Registered) (failsafe : s.actuatorFailsafe.Registered)
    {after : BootNode ι σ β} (cleared : after.attestation = attestationInit) (emptied : after.actuatorFailsafe = actuatorFailsafeInit) :
    ProvisioningKept hmac s after ↔
      (∀ record ∈ s.attestation.keyTable, record.active = false) ∧ s.actuatorFailsafe.table = [] := by
  constructor
  · rintro ⟨verifies, found⟩
    rw [cleared] at verifies
    rw [emptied] at found
    constructor
    · intro record member
      by_contra active
      rw [Bool.not_eq_false] at active
      obtain ⟨challenge, response, verified⟩ := exists_verified hmac attestation member active
      exact attestationVerify_init hmac challenge response 0 ((verifies challenge response 0).mpr verified)
    · by_contra used
      obtain ⟨entry, rest, table⟩ := List.exists_cons_of_ne_nil used
      have before : actuatorFailsafeLookup s.actuatorFailsafe entry.actuatorId = some entry := by
        simp [actuatorFailsafeLookup, failsafe.ready used, table]
      cases found entry.actuatorId entry before
  · rintro ⟨inactive, unused⟩
    constructor
    · intro challenge response maxDriftMs
      rw [cleared]
      refine iff_of_false (attestationVerify_init hmac challenge response maxDriftMs) ?_
      rw [attestationVerify_ok_iff]
      rintro ⟨-, -, record, chosen, -⟩
      have active := List.find?_some chosen
      rw [inactive record (List.mem_of_find?_eq_some chosen), Bool.and_false] at active
      cases active
    · intro actuatorId entry before
      rw [actuatorFailsafeLookup, unused] at before
      split at before <;> cases before

theorem keepsProvisioning_iff (attestation : s.attestation.Registered) (failsafe : s.actuatorFailsafe.Registered)
    (op : BootNodeOp ι) : KeepsProvisioning storage backend hmac s op ↔ NothingProvisioned s op := by
  refine forall_congr' fun check => forall_congr' fun pending => ?_
  dsimp only
  rw [bootSelfCheck_pending pending, provisioningKept_init attestation failsafe rfl rfl]
  exact ⟨fun kept => kept.2.2, fun nothing => ⟨selfCheck_versionStateOnly _ _ _ _, rfl, nothing⟩⟩

theorem eq_attestationInit {a : Attestation} : attestationInit = a ↔ a.initialised = true ∧ a.keyTable = [] := by
  constructor
  · rintro rfl
    exact ⟨rfl, rfl⟩
  · obtain ⟨keyTable, initialised⟩ := a
    rintro ⟨rfl, rfl⟩
    rfl

theorem eq_actuatorFailsafeInit {f : ActuatorFailsafe} :
    actuatorFailsafeInit = f ↔ f.initialised = true ∧ f.table = [] := by
  constructor
  · rintro rfl
    exact ⟨rfl, rfl⟩
  · obtain ⟨table, initialised⟩ := f
    rintro ⟨rfl, rfl⟩
    rfl

theorem keepsModules_iff (op : BootNodeOp ι) : KeepsModules storage backend s op ↔ ModulesEmpty s op := by
  refine forall_congr' fun check => forall_congr' fun pending => ?_
  rw [bootSelfCheck_pending pending, ← eq_attestationInit, ← eq_actuatorFailsafeInit]
  constructor
  · rintro ⟨attestation, ruleEngine, sensorValidation, actuatorFailsafe⟩
    exact ⟨attestation, ruleEngine.symm, sensorValidation.symm, actuatorFailsafe⟩
  · rintro ⟨attestation, ruleEngine, sensorValidation, actuatorFailsafe⟩
    exact ⟨attestation, ruleEngine.symm, sensorValidation.symm, actuatorFailsafe⟩

end Check

/-! ### Runs -/

section Runs

variable {ι σ β : Type} [DecidableEq ι] {s : BootNode ι σ β}

/-- The tables of keys and of entries are in use only in initialised modules. -/
structure BootNode.Registered (s : BootNode ι σ β) : Prop where
  attestation : s.attestation.Registered
  actuatorFailsafe : s.actuatorFailsafe.Registered

omit [DecidableEq ι] in
theorem poweredOn_registered (system : OtaSystem ι σ β) : BootNode.Registered { system := system } where
  attestation := ⟨fun used => absurd rfl used, List.nodup_nil⟩
  actuatorFailsafe := ⟨fun used => absurd rfl used, List.nodup_nil⟩

theorem bootNodeStep_registered (storage : Option (DeviceIdentityStorage σ)) (backend : FlashPartitionBackend β)
    (registered : s.Registered) (op : BootNodeOp ι) : (bootNodeStep storage backend s op).1.Registered := by
  cases op with
  | session op => exact ⟨registered.attestation, registered.actuatorFailsafe⟩
  | attestation op => exact ⟨attestationKeyStep_registered _ op registered.attestation, registered.actuatorFailsafe⟩
  | actuatorFailsafe op => exact ⟨registered.attestation, actuatorFailsafeStep_registered _ op registered.actuatorFailsafe⟩
  | ruleEngineInit => exact ⟨registered.attestation, registered.actuatorFailsafe⟩
  | sensorValidationInit => exact ⟨registered.attestation, registered.actuatorFailsafe⟩
  | selfCheck =>
    cases pending : s.pending with
    | false =>
      simp only [bootNodeStep, bootSelfCheck, pending, Bool.not_false, if_true]
      exact registered
    | true =>
      simp only [bootNodeStep, bootSelfCheck_pending pending]
      exact ⟨⟨fun _ => rfl, List.nodup_nil⟩, ⟨fun _ => rfl, List.nodup_nil⟩⟩
  | reboot ramLost =>
    cases ramLost with
    | false => exact ⟨registered.attestation, registered.actuatorFailsafe⟩
    | true => exact poweredOn_registered _

/-- In every run from power-on, over any update system, the self-checks that find a version pending keep what was provisioned
exactly when none of them finds a key in use or a fail-safe entry, and touch nothing in the modules exactly when each finds
them initialised and empty. -/
theorem boot_self_check_exact (storage : Option (DeviceIdentityStorage σ)) (backend : FlashPartitionBackend β) (hmac : Hmac)
    (system : OtaSystem ι σ β) (ops : List (BootNodeOp ι)) :
    (EachStep (KeepsProvisioning storage backend hmac) (bootNodeStep storage backend) { system := system } ops ↔
      EachStep NothingProvisioned (bootNodeStep storage backend) { system := system } ops) ∧
    (EachStep (KeepsModules storage backend) (bootNodeStep storage backend) { system := system } ops ↔
      EachStep ModulesEmpty (bootNodeStep storage backend) { system := system } ops) := by
  have start := poweredOn_registered system
  have keeps : ∀ (s : BootNode ι σ β) op, s.Registered → (bootNodeStep storage backend s op).1.Registered :=
    fun s op registered => bootNodeStep_registered storage backend registered op
  constructor
  · apply eachStep_iff_of_invariant start keeps
    intro s op registered
    exact keepsProvisioning_iff registered.attestation registered.actuatorFailsafe op
  · apply eachStep_iff_of_invariant start keeps
    intro s op _
    exact keepsModules_iff op

end Runs

def valveEntry : ActuatorFailSafeEntry :=
  { actuatorId := 1, criticality := .critical, powerLossMode := .deEnergize, commsLossMode := .forceOff, commsTimeoutSec := 30 }

/-- One key and one fail-safe entry are registered, and then a session transfers version 200. -/
def provisionedUpdate : List (BootNodeOp (Fin 2)) :=
  [.attestation .init, .attestation (.register (keyOfNode 5 true)), .actuatorFailsafe .init,
    .actuatorFailsafe (.register valveEntry), .session (.begin 0 (sampleManifest 200)), .session (.chunk 0 sampleChunk)]

/-- The self-check confirms the version; the node's key is unknown after it, and its valve has no fail-safe entry. -/
theorem self_check_unprovisions :
    let hmac : Hmac := fun key _ => Vector.ofFn fun i => key.getD i 0
    let challenge : AttestationChallenge := { challenge := Vector.replicate 16 0, timestampMs := 1000, senderId := 1 }
    let response : AttestationResponse := { response := Vector.replicate 32 5, timestampMs := 1000, responderId := 5 }
    let step := bootNodeStep (some ramIdentityStorage) mockBackend
    let s := finalState step { system := sampleSystem } provisionedUpdate
    let after := (bootSelfCheck (some ramIdentityStorage) mockBackend s).1
    s.pending = true ∧ attestationVerify hmac s.attestation challenge response 0 = .ok ∧
      attestationVerify hmac after.attestation challenge response 0 = .errUnknownNode ∧
      actuatorFailsafeLookup s.actuatorFailsafe 1 = some valveEntry ∧
      actuatorFailsafeLookup after.actuatorFailsafe 1 = none ∧
      ¬EachStep (KeepsProvisioning (some ramIdentityStorage) mockBackend hmac) step { system := sampleSystem }
        (provisionedUpdate ++ [.selfCheck]) := by
  intro hmac challenge response step s after
  have pending : s.pending = true := by decide +kernel
  have before : actuatorFailsafeLookup s.actuatorFailsafe 1 = some valveEntry := by decide +kernel
  have gone : actuatorFailsafeLookup after.actuatorFailsafe 1 = none := by decide +kernel
  have verified : attestationVerify hmac s.attestation challenge response 0 = .ok := by decide +kernel
  have unknown : attestationVerify hmac after.attestation challenge response 0 = .errUnknownNode := by decide +kernel
  refine ⟨pending, verified, unknown, before, gone, fun kept => ?_⟩
  have provisioning : ProvisioningKept hmac s after := ((eachStep_append.mp kept).2.1 rfl pending).2.2
  have found : actuatorFailsafeLookup after.actuatorFailsafe 1 = some valveEntry := provisioning.found 1 valveEntry before
  exact Option.some_ne_none valveEntry (found.symm.trans gone)

end IotPlatform
