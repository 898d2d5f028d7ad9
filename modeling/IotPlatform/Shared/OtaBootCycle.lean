import IotPlatform.Shared.OtaUpdates

/-!
# Firmware versions across boots

The confirmed version and the boot slot are persisted apart and moved at different moments. Each slot is labelled with
the version of the image it holds, so that the two can be compared along a run.
-/

namespace IotPlatform

section BootCycle

variable {ι σ β : Type} [DecidableEq ι]

/-- A system whose slots are labelled with the version of the image they hold. -/
abbrev VersionedSystem (ι σ β : Type) := OtaSystem ι σ (β × (FlashSlot → Option UInt32))

def OtaSystem.fwVersion (s : OtaSystem ι σ β) : UInt32 := deviceIdentityGetFwVersion s.device.identity

def OtaSystem.pendingVersion (s : OtaSystem ι σ β) : UInt32 := deviceIdentityGetPendingVersion s.device.identity

def OtaSystem.bootSlot (s : OtaSystem ι σ β) : FlashSlot := flashPartitionGetActiveSlot s.device.partitions

/-- The image that a session has just committed is one of the version in its manifest. -/
def labelCommit (s : VersionedSystem ι σ β) (op : UpdateOp ι) (after : VersionedSystem ι σ β) : VersionedSystem ι σ β :=
  match op with
  | .session (.chunk i _) =>
    if (s.contexts i).state = .transfer ∧ (after.contexts i).state = .complete then
      { after with device := { after.device with
          partitions := after.device.partitions.setLabel s.device.partitions.otaTarget (s.contexts i).manifest.fwVersion } }
    else after
  | _ => after

def versionedStep (storage : DeviceIdentityStorage σ) (backend : FlashPartitionBackend β) (s : VersionedSystem ι σ β)
    (op : UpdateOp ι) : VersionedSystem ι σ β × UpdateReply :=
  let (after, reply) := updateStep (some storage) (labelled UInt32 backend) s op
  (labelCommit s op after, reply)

/-- With no version pending, the boot slot holds an image of the confirmed version. -/
def VersionAgrees (s : VersionedSystem ι σ β) : Prop :=
  s.pendingVersion = deviceIdNoVersion → s.device.partitions.label s.bootSlot = some s.fwVersion

/-- A reboot finds no version pending, or the confirmed version in the boot slot; a self-check that confirms a version
finds that version in the boot slot. -/
def ConfirmsBooted (s : VersionedSystem ι σ β) : UpdateOp ι → Prop
  | .session _ => True
  | .selfCheck checks =>
    checks.passed = true → s.pendingVersion ≠ deviceIdNoVersion →
      s.device.partitions.label s.bootSlot = some s.pendingVersion
  | .reboot _ =>
    s.pendingVersion = deviceIdNoVersion ∨ s.device.partitions.label s.bootSlot = some s.fwVersion

/-! ### One step -/

structure VersionsTracked (storage : DeviceIdentityStorage σ) (s : VersionedSystem ι σ β) : Prop where
  provisioned : s.device.identity.Provisioned storage
  versions : VersionsPositive s
  aimed : Aimed s.device.partitions
  agrees : VersionAgrees s

variable {storage : DeviceIdentityStorage σ} {backend : FlashPartitionBackend β}

omit [DecidableEq ι] in
theorem fwVersion_of_provisioned {s : OtaSystem ι σ β} (provisioned : s.device.identity.Provisioned storage) :
    s.fwVersion = s.device.identity.identity.fwVersion := by
  simp [OtaSystem.fwVersion, deviceIdentityGetFwVersion, provisioned.initialised, provisioned.provisioned]

omit [DecidableEq ι] in
theorem pendingVersion_of_provisioned {s : OtaSystem ι σ β} (provisioned : s.device.identity.Provisioned storage) :
    s.pendingVersion = s.device.identity.fwVersionPending := by
  simp [OtaSystem.pendingVersion, deviceIdentityGetPendingVersion, provisioned.initialised, provisioned.provisioned]

theorem sessionStep_label_boot (storage : DeviceIdentityStorage σ) (backend : FlashPartitionBackend β)
    {s : VersionedSystem ι σ β} (aimed : Aimed s.device.partitions) (op : SessionOp ι) :
    (sessionStep (some storage) (labelled UInt32 backend) s op).1.device.partitions.label s.bootSlot =
      s.device.partitions.label s.bootSlot := by
  have effect := sessionStep_partitions (some storage) (labelled UInt32 backend) s op
  generalize (sessionStep (some storage) (labelled UInt32 backend) s op).1.device.partitions = after at effect
  have spared : s.device.partitions.otaInProgress = true →
      Function.update s.device.partitions.flash.2 s.device.partitions.otaTarget none s.bootSlot =
        s.device.partitions.label s.bootSlot := by
    intro busy
    rw [(aimed busy).2, Function.update_of_ne]
    · rfl
    · exact FlashSlot.ne_other _
  cases effect with
  | same => rfl
  | begun _ _ => exact label_begun _ (FlashSlot.ne_other _)
  | written busy => exact spared busy
  | ended busy => exact spared busy
  | committed busy => exact spared busy

omit [DecidableEq ι] in
theorem labelCommit_of_open {s after : VersionedSystem ι σ β} {op : SessionOp ι}
    (open_ : Transferring s op.session → (after.contexts op.session).state ≠ .complete) :
    labelCommit s (.session op) after = after := by
  cases op with
  | begin i manifest => rfl
  | abort i => rfl
  | chunk i chunk =>
    rw [labelCommit, if_neg]
    exact fun both => open_ both.1 both.2

omit [DecidableEq ι] in
theorem labelCommit_frame (s after : VersionedSystem ι σ β) (op : UpdateOp ι) :
    (labelCommit s op after).device.identity = after.device.identity ∧
      (labelCommit s op after).contexts = after.contexts ∧
      (Aimed (labelCommit s op after).device.partitions ↔ Aimed after.device.partitions) := by
  unfold labelCommit
  split
  · split
    · exact ⟨rfl, rfl, Iff.rfl⟩
    · exact ⟨rfl, rfl, Iff.rfl⟩
  · exact ⟨rfl, rfl, Iff.rfl⟩

omit [DecidableEq ι] in
theorem versionAgrees_of_pending {s : VersionedSystem ι σ β} (provisioned : s.device.identity.Provisioned storage)
    (pending : s.device.identity.fwVersionPending ≠ deviceIdNoVersion) : VersionAgrees s := by
  intro none
  rw [pendingVersion_of_provisioned provisioned] at none
  exact absurd none pending

theorem versionedStep_session (faithful : storage.Faithful) {s : VersionedSystem ι σ β}
    (tracked : VersionsTracked storage s) (op : SessionOp ι) :
    VersionsTracked storage (versionedStep storage backend s (.session op)).1 := by
  obtain ⟨provisioned, versions, aimed, agrees⟩ := tracked
  have kept := sessionStep_label_boot storage backend aimed op
  have aims : Aimed (sessionStep (some storage) (labelled UInt32 backend) s op).1.device.partitions :=
    sessionStep_aimed aimed op
  have positive : VersionsPositive (sessionStep (some storage) (labelled UInt32 backend) s op).1 :=
    sessionStep_versionsPositive versions op
  have cases_ := sessionStep_commit_cases (some storage) (labelled UInt32 backend) s op
  simp only [versionedStep, updateStep]
  generalize (sessionStep (some storage) (labelled UInt32 backend) s op).1 = after at kept aims positive cases_
  rcases cases_ with ⟨identity, boot, open_⟩ | ⟨i, chunk, rfl, commits, identity⟩
  · rw [labelCommit_of_open open_]
    refine ⟨by rw [identity]; exact provisioned, positive, aims, ?_⟩
    intro none
    have agreed : s.device.partitions.label s.bootSlot = some s.fwVersion := agrees (by
      rw [OtaSystem.pendingVersion, ← identity]
      exact none)
    rw [OtaSystem.bootSlot, flashPartitionGetActiveSlot, boot, OtaSystem.fwVersion, identity]
    exact kept.trans agreed
  · obtain ⟨same, contexts, aim⟩ := labelCommit_frame s after (.session (.chunk i chunk))
    obtain ⟨saved, -, pending⟩ := deviceIdentitySetPendingVersion_spec faithful provisioned
      (s.contexts i).manifest.fwVersion
    rw [← identity, ← same] at saved pending
    refine ⟨saved, ?_, aim.mpr aims, versionAgrees_of_pending saved ?_⟩
    · unfold VersionsPositive Transferring
      rw [contexts]
      exact positive
    · rw [pending]
      exact versions i commits.transfer

theorem versionedStep_selfCheck (faithful : storage.Faithful) {s : VersionedSystem ι σ β}
    (tracked : VersionsTracked storage s) {checks : BootChecks} (confirms : ConfirmsBooted s (.selfCheck checks)) :
    VersionsTracked storage (versionedStep storage backend s (.selfCheck checks)).1 := by
  obtain ⟨provisioned, versions, aimed, agrees⟩ := tracked
  have outcome : SelfCheckOutcome (some storage) (labelled UInt32 backend) s.device checks _ :=
    otaSessionBootSelfCheck_outcome checks
  simp only [versionedStep, updateStep, labelCommit]
  generalize otaSessionBootSelfCheck (some storage) (labelled UInt32 backend) s.device checks = after at outcome
  cases outcome with
  | nothing _ => exact ⟨provisioned, versions, aimed, agrees⟩
  | confirmed waiting passed =>
    have pending := (deviceIdentityHasPendingVersion_iff provisioned).mp waiting
    obtain ⟨saved, identity, cleared⟩ := deviceIdentityConfirmBoot_spec faithful provisioned pending
    refine ⟨saved, versions, aimed, fun _ => ?_⟩
    rw [← pendingVersion_of_provisioned provisioned] at pending
    have booted := confirms passed pending
    rw [fwVersion_of_provisioned saved, identity, ← pendingVersion_of_provisioned provisioned]
    exact booted
  | rolledBack waiting _ =>
    have pending := (deviceIdentityHasPendingVersion_iff provisioned).mp waiting
    exact ⟨provisioned, versions, rollback_aimed aimed, versionAgrees_of_pending provisioned pending⟩

omit [DecidableEq ι] in
theorem rebootSystem_versions (faithful : storage.Faithful) {s : OtaSystem ι σ β}
    (provisioned : s.device.identity.Provisioned storage) (ramLost : Bool) :
    (rebootSystem (some storage) s ramLost).device.identity.Provisioned storage ∧
      (rebootSystem (some storage) s ramLost).fwVersion = s.fwVersion ∧
      (rebootSystem (some storage) s ramLost).pendingVersion = deviceIdNoVersion := by
  obtain ⟨saved, identity, cleared⟩ := deviceIdentityInit_spec faithful provisioned
  rw [← rebootSystem_identity (some storage) s ramLost] at saved identity cleared
  refine ⟨saved, ?_, ?_⟩
  · rw [fwVersion_of_provisioned saved, fwVersion_of_provisioned provisioned, identity]
  · rw [pendingVersion_of_provisioned saved, cleared]

omit [DecidableEq ι] in
theorem rebootSystem_label (s : VersionedSystem ι σ β) (ramLost : Bool) :
    (rebootSystem (some storage) s ramLost).device.partitions.label (rebootSystem (some storage) s ramLost).bootSlot =
      s.device.partitions.label s.bootSlot := by
  cases ramLost <;> rfl

theorem versionedStep_reboot (faithful : storage.Faithful) {s : VersionedSystem ι σ β}
    (tracked : VersionsTracked storage s) {ramLost : Bool} (confirms : ConfirmsBooted s (.reboot ramLost)) :
    VersionsTracked storage (versionedStep storage backend s (.reboot ramLost)).1 := by
  obtain ⟨provisioned, versions, aimed, agrees⟩ := tracked
  obtain ⟨saved, version, -⟩ := rebootSystem_versions faithful provisioned ramLost
  have booted : s.device.partitions.label s.bootSlot = some s.fwVersion := by
    rcases confirms with none | booted
    · exact agrees none
    · exact booted
  simp only [versionedStep, updateStep, labelCommit]
  refine ⟨saved, rebootSystem_versionsPositive versions ramLost, rebootSystem_aimed aimed ramLost, fun _ => ?_⟩
  rw [rebootSystem_label, version]
  exact booted

theorem versionedStep_tracked (faithful : storage.Faithful) {s : VersionedSystem ι σ β} {op : UpdateOp ι}
    (tracked : VersionsTracked storage s) (confirms : ConfirmsBooted s op) :
    VersionsTracked storage (versionedStep storage backend s op).1 := by
  cases op with
  | session op => exact versionedStep_session faithful tracked op
  | selfCheck checks => exact versionedStep_selfCheck faithful tracked confirms
  | reboot ramLost => exact versionedStep_reboot faithful tracked confirms

/-- Where version and boot slot still agree after a step, the step was made as `ConfirmsBooted` says. -/
theorem confirmsBooted_of_agrees (faithful : storage.Faithful) {s : VersionedSystem ι σ β} {op : UpdateOp ι}
    (tracked : VersionsTracked storage s) (agrees : VersionAgrees (versionedStep storage backend s op).1) :
    ConfirmsBooted s op := by
  obtain ⟨provisioned, -, -, -⟩ := tracked
  cases op with
  | session op => trivial
  | selfCheck checks =>
    intro passed waiting
    rw [pendingVersion_of_provisioned provisioned] at waiting
    obtain ⟨saved, identity, cleared⟩ := deviceIdentityConfirmBoot_spec faithful provisioned waiting
    have step : (versionedStep storage backend s (.selfCheck checks)).1 =
        { s with device := { s.device with identity := (deviceIdentityConfirmBoot (some storage) s.device.identity).1 } } := by
      have pending := (deviceIdentityHasPendingVersion_iff provisioned).mpr waiting
      simp [versionedStep, updateStep, labelCommit, otaSessionBootSelfCheck, pending, passed]
    rw [step] at agrees
    have booted := agrees (by rw [pendingVersion_of_provisioned saved, cleared])
    rw [fwVersion_of_provisioned saved, identity] at booted
    rw [pendingVersion_of_provisioned provisioned]
    exact booted
  | reboot ramLost =>
    obtain ⟨-, version, none⟩ := rebootSystem_versions faithful provisioned ramLost
    simp only [versionedStep, updateStep, labelCommit] at agrees
    have booted := agrees none
    rw [rebootSystem_label, version] at booted
    exact Or.inr booted

/-! ### Whole runs -/

/-- A provisioned device with no session or flash update going on, whose boot slot holds an image of its version. -/
structure ProvisionedBoot (storage : DeviceIdentityStorage σ) (s : VersionedSystem ι σ β) : Prop where
  provisioned : s.device.identity.Provisioned storage
  idle : ∀ i, ¬Transferring s i
  free : s.device.partitions.otaInProgress = false
  booted : s.device.partitions.label s.bootSlot = some s.fwVersion

omit [DecidableEq ι] in
theorem ProvisionedBoot.tracked {s : VersionedSystem ι σ β} (start : ProvisionedBoot storage s) :
    VersionsTracked storage s := by
  refine ⟨start.provisioned, fun i transfer => absurd transfer (start.idle i), fun busy => ?_, fun _ => start.booted⟩
  rw [start.free] at busy
  cases busy

/-- Confirmed version and boot slot agree along a run exactly when no reboot of it drops the version of the image it
boots and every self-check that confirms a version runs on the image of that version. -/
theorem versionAgrees_iff_confirmsBooted (faithful : storage.Faithful) {s : VersionedSystem ι σ β}
    (start : ProvisionedBoot storage s) (ops : List (UpdateOp ι)) :
    Run.Always VersionAgrees (versionedStep storage backend) s ops ↔
      Run.EachStep ConfirmsBooted (versionedStep storage backend) s ops :=
  Run.always_iff_eachStep start.tracked (fun _ tracked => tracked.agrees)
    (fun _ _ tracked confirms => versionedStep_tracked faithful tracked confirms)
    (fun _ _ tracked agrees => confirmsBooted_of_agrees faithful tracked agrees) ops

/-! ### The confirmed version never goes back -/

/-- A session that commits its image has a version that is not below the one confirmed at that moment. -/
def UpgradesOnly (backend : FlashPartitionBackend β) (s : OtaSystem ι σ β) : UpdateOp ι → Prop
  | .session (.chunk i chunk) =>
    Commits backend s.device (s.contexts i) chunk → s.fwVersion ≤ (s.contexts i).manifest.fwVersion
  | _ => True

/-- A pending version would not take the confirmed one back. -/
structure VersionsOrdered (storage : DeviceIdentityStorage σ) (s : OtaSystem ι σ β) : Prop where
  provisioned : s.device.identity.Provisioned storage
  ordered : s.pendingVersion ≠ deviceIdNoVersion → s.fwVersion ≤ s.pendingVersion

variable {s : OtaSystem ι σ β}

omit [DecidableEq ι] in
theorem versions_of_identity {t : OtaSystem ι σ β} (same : t.device.identity = s.device.identity) :
    t.fwVersion = s.fwVersion ∧ t.pendingVersion = s.pendingVersion := by
  unfold OtaSystem.fwVersion OtaSystem.pendingVersion
  rw [same]
  exact ⟨rfl, rfl⟩

/-- What each operation does to the two versions of a provisioned device. -/
inductive VersionEffect (storage : DeviceIdentityStorage σ) (backend : FlashPartitionBackend β) (s : OtaSystem ι σ β)
    (op : UpdateOp ι) (after : OtaSystem ι σ β) : Prop
  | kept (fwVersion : after.fwVersion = s.fwVersion) (pending : after.pendingVersion = s.pendingVersion)
  | dropped (fwVersion : after.fwVersion = s.fwVersion) (pending : after.pendingVersion = deviceIdNoVersion)
  | committed {i : ι} {chunk : OtaChunk} (chunked : op = .session (.chunk i chunk))
      (commits : Commits backend s.device (s.contexts i) chunk) (fwVersion : after.fwVersion = s.fwVersion)
      (pending : after.pendingVersion = (s.contexts i).manifest.fwVersion)
  | confirmed (waiting : s.pendingVersion ≠ deviceIdNoVersion) (fwVersion : after.fwVersion = s.pendingVersion)
      (pending : after.pendingVersion = deviceIdNoVersion)

theorem updateStep_versions (faithful : storage.Faithful) (provisioned : s.device.identity.Provisioned storage)
    (op : UpdateOp ι) :
    (updateStep (some storage) backend s op).1.device.identity.Provisioned storage ∧
      VersionEffect storage backend s op (updateStep (some storage) backend s op).1 := by
  cases op with
  | session op =>
    have cases_ := sessionStep_commit_cases (some storage) backend s op
    simp only [updateStep]
    generalize (sessionStep (some storage) backend s op).1 = after at cases_
    rcases cases_ with ⟨identity, -, -⟩ | ⟨i, chunk, rfl, commits, identity⟩
    · obtain ⟨fwVersion, pending⟩ := versions_of_identity identity
      exact ⟨by rw [identity]; exact provisioned, .kept fwVersion pending⟩
    · obtain ⟨saved, same, pending⟩ := deviceIdentitySetPendingVersion_spec faithful provisioned
        (s.contexts i).manifest.fwVersion
      rw [← identity] at saved same pending
      refine ⟨saved, .committed rfl commits ?_ ?_⟩
      · rw [fwVersion_of_provisioned saved, fwVersion_of_provisioned provisioned, same]
      · rw [pendingVersion_of_provisioned saved, pending]
  | selfCheck checks =>
    have outcome : SelfCheckOutcome (some storage) backend s.device checks _ := otaSessionBootSelfCheck_outcome checks
    simp only [updateStep]
    generalize otaSessionBootSelfCheck (some storage) backend s.device checks = after at outcome
    cases outcome with
    | nothing _ => exact ⟨provisioned, .kept rfl rfl⟩
    | confirmed waiting _ =>
      have pending := (deviceIdentityHasPendingVersion_iff provisioned).mp waiting
      obtain ⟨saved, identity, cleared⟩ := deviceIdentityConfirmBoot_spec faithful provisioned pending
      refine ⟨saved, .confirmed ?_ ?_ ?_⟩
      · rw [pendingVersion_of_provisioned provisioned]
        exact pending
      · rw [fwVersion_of_provisioned saved, identity, pendingVersion_of_provisioned provisioned]
      · rw [pendingVersion_of_provisioned saved, cleared]
    | rolledBack _ _ => exact ⟨provisioned, .kept rfl rfl⟩
  | reboot ramLost =>
    obtain ⟨saved, version, none⟩ := rebootSystem_versions faithful provisioned ramLost
    exact ⟨saved, .dropped version none⟩

theorem updateStep_ordered (faithful : storage.Faithful) {op : UpdateOp ι} (ordered : VersionsOrdered storage s)
    (upgrades : UpgradesOnly backend s op) :
    VersionsOrdered storage (updateStep (some storage) backend s op).1 ∧
      s.fwVersion ≤ (updateStep (some storage) backend s op).1.fwVersion := by
  obtain ⟨provisioned, below⟩ := ordered
  obtain ⟨saved, effect⟩ : _ ∧ VersionEffect storage backend s op _ := updateStep_versions faithful provisioned op
  cases effect with
  | kept fwVersion pending =>
    refine ⟨⟨saved, ?_⟩, UInt32.le_of_eq fwVersion.symm⟩
    rw [fwVersion, pending]
    exact below
  | dropped fwVersion pending =>
    exact ⟨⟨saved, fun waiting => absurd pending waiting⟩, UInt32.le_of_eq fwVersion.symm⟩
  | committed chunked commits fwVersion pending =>
    subst chunked
    refine ⟨⟨saved, fun _ => ?_⟩, UInt32.le_of_eq fwVersion.symm⟩
    rw [fwVersion, pending]
    exact upgrades commits
  | confirmed waiting fwVersion pending =>
    refine ⟨⟨saved, fun again => absurd pending again⟩, ?_⟩
    rw [fwVersion]
    exact below waiting

theorem updateStep_versionsPositive (positive : VersionsPositive s) (op : UpdateOp ι) :
    VersionsPositive (updateStep (some storage) backend s op).1 := by
  cases op with
  | session op => exact sessionStep_versionsPositive positive op
  | selfCheck checks => exact positive
  | reboot ramLost => exact rebootSystem_versionsPositive positive ramLost

/-- An image that is committed and then passes its self-check is confirmed, whatever its version. -/
theorem commit_then_confirm (faithful : storage.Faithful) (provisioned : s.device.identity.Provisioned storage)
    (positive : VersionsPositive s) {i : ι} {chunk : OtaChunk} (commits : Commits backend s.device (s.contexts i) chunk) :
    (Run.finalState (updateStep (some storage) backend) s [.session (.chunk i chunk), .selfCheck {}]).fwVersion =
      (s.contexts i).manifest.fwVersion := by
  obtain ⟨saved, -, pending⟩ := deviceIdentitySetPendingVersion_spec faithful provisioned
    (s.contexts i).manifest.fwVersion
  have identity : (updateStep (some storage) backend s (.session (.chunk i chunk))).1.device.identity =
      (deviceIdentitySetPendingVersion (some storage) s.device.identity (s.contexts i).manifest.fwVersion).1 :=
    otaSessionProcessChunk_of_commits commits
  rw [← identity] at saved pending
  simp only [Run.finalState]
  generalize (updateStep (some storage) backend s (.session (.chunk i chunk))).1 = t at saved pending
  have waiting : t.device.identity.fwVersionPending ≠ deviceIdNoVersion := by
    rw [pending]
    exact positive i commits.transfer
  have outcome : SelfCheckOutcome (some storage) backend t.device {} _ := otaSessionBootSelfCheck_outcome {}
  simp only [updateStep]
  generalize otaSessionBootSelfCheck (some storage) backend t.device {} = after at outcome
  cases outcome with
  | nothing nothing =>
    rw [(deviceIdentityHasPendingVersion_iff saved).mpr waiting] at nothing
    cases nothing
  | rolledBack _ failed => cases failed
  | confirmed _ _ =>
    obtain ⟨confirmed, version, -⟩ := deviceIdentityConfirmBoot_spec faithful saved waiting
    rw [fwVersion_of_provisioned confirmed, version]
    exact pending

/-- The confirmed version never decreases in a run whose sessions commit no version below the one confirmed at that
moment; a session that does commit one takes it back as soon as a self-check passes. -/
theorem fwVersion_monotone (faithful : storage.Faithful) (provisioned : s.device.identity.Provisioned storage)
    (none : s.pendingVersion = deviceIdNoVersion) (idle : ∀ i, ¬Transferring s i) (ops : List (UpdateOp ι)) :
    (Run.EachStep (UpgradesOnly backend) (updateStep (some storage) backend) s ops → ∀ m n, m ≤ n →
      (Run.finalState (updateStep (some storage) backend) s (ops.take m)).fwVersion ≤
        (Run.finalState (updateStep (some storage) backend) s (ops.take n)).fwVersion) ∧
    ∀ i chunk, Commits backend (Run.finalState (updateStep (some storage) backend) s ops).device
        ((Run.finalState (updateStep (some storage) backend) s ops).contexts i) chunk →
      (Run.finalState (updateStep (some storage) backend) s
        (ops ++ [.session (.chunk i chunk), .selfCheck {}])).fwVersion =
        ((Run.finalState (updateStep (some storage) backend) s ops).contexts i).manifest.fwVersion := by
  constructor
  · intro upgrades m n le
    apply Run.ordered_of_eachStep (J := VersionsOrdered storage) (R := fun s t => s.fwVersion ≤ t.fwVersion)
      (fun _ => UInt32.le_refl _) (fun _ _ _ => UInt32.le_trans) ⟨provisioned, fun waiting => absurd none waiting⟩
      (fun _ _ ordered upgrades => (updateStep_ordered faithful ordered upgrades).1)
      (fun _ _ ordered upgrades => (updateStep_ordered faithful ordered upgrades).2) upgrades le
  · intro i chunk commits
    rw [Run.finalState_append]
    have reached : (Run.finalState (updateStep (some storage) backend) s ops).device.identity.Provisioned storage ∧
        VersionsPositive (Run.finalState (updateStep (some storage) backend) s ops) := by
      apply Run.finalState_invariant (P := fun s => s.device.identity.Provisioned storage ∧ VersionsPositive s)
        ⟨provisioned, fun i transfer => absurd transfer (idle i)⟩
      rintro s op ⟨provisioned, positive⟩
      exact ⟨(updateStep_versions faithful provisioned op).1, updateStep_versionsPositive positive op⟩
    exact commit_then_confirm faithful reached.1 reached.2 commits

end BootCycle

/-! ### A device with version 100 in slot A -/

def versionedSample : VersionedSystem (Fin 2) (Option PersistedIdentity) (FlashSlot → MockSlot) :=
  { device :=
      { sessionInitialised := true, identity := sampleDevice.identity
        partitions :=
          { initialised := true, backendSet := true, bootPartition := .a, originalBootPartition := .a, otaTarget := .b
            otaInProgress := false
            flash := (sampleDevice.partitions.flash, fun slot => if slot = .a then some 100 else none) } }
    contexts := fun _ => zeroContext }

theorem versionedSample_provisioned : ProvisionedBoot ramIdentityStorage versionedSample := by
  refine ⟨⟨rfl, rfl, rfl⟩, fun i => ?_, rfl, rfl⟩
  simp [Transferring, versionedSample, zeroContext]

/-- An update that is confirmed in the boot that wrote it. -/
theorem versionAgrees_without_reboot :
    Run.Always VersionAgrees (versionedStep ramIdentityStorage mockBackend) versionedSample
      [.session (.begin 0 (sampleManifest 200)), .session (.chunk 0 sampleChunk), .selfCheck {}, .reboot true] := by
  rw [versionAgrees_iff_confirmsBooted ramIdentityStorage_faithful versionedSample_provisioned]
  refine ⟨trivial, trivial, fun _ _ => ?_, Or.inl ?_, trivial⟩
  · rfl
  · rfl

/-- An update to version 200 that completes and is booted: the reboot drops the pending version, the self-check has
nothing to do, and the device still reports version 100. -/
theorem reboot_drops_version :
    ¬Run.Always VersionAgrees (versionedStep ramIdentityStorage mockBackend) versionedSample
      [.session (.begin 0 (sampleManifest 200)), .session (.chunk 0 sampleChunk), .reboot true, .selfCheck {}] := by
  intro always
  exact absurd (always 4 rfl) (by decide +kernel)

theorem fwVersion_monotone_sample :
    (Run.finalState (updateStep (some ramIdentityStorage) mockBackend) sampleSystem
      [.session (.begin 0 (sampleManifest 200)), .session (.chunk 0 sampleChunk)]).fwVersion ≤
    (Run.finalState (updateStep (some ramIdentityStorage) mockBackend) sampleSystem
      [.session (.begin 0 (sampleManifest 200)), .session (.chunk 0 sampleChunk), .selfCheck {}]).fwVersion := by
  refine (fwVersion_monotone ramIdentityStorage_faithful ⟨rfl, rfl, rfl⟩ rfl sampleSystem_idle.idle
    [.session (.begin 0 (sampleManifest 200)), .session (.chunk 0 sampleChunk), .selfCheck {}]).1 ?_ 2 3 (by decide)
  exact ⟨trivial, fun _ => by decide +kernel, trivial, trivial⟩

/-- Version 210 is confirmed while a session for version 150 is in TRANSFER; that session then commits and the next
self-check takes the device from 210 to 150. -/
theorem fwVersion_decreases :
    ¬∀ m n, m ≤ n →
      (Run.finalState (updateStep (some ramIdentityStorage) mockBackend) sampleSystem
        (List.take m [.session (.begin 0 (sampleManifest 210)), .session (.chunk 0 sampleChunk),
          .session (.begin 1 (sampleManifest 150)), .selfCheck {}, .session (.chunk 1 sampleChunk),
          .selfCheck {}])).fwVersion ≤
      (Run.finalState (updateStep (some ramIdentityStorage) mockBackend) sampleSystem
        (List.take n [.session (.begin 0 (sampleManifest 210)), .session (.chunk 0 sampleChunk),
          .session (.begin 1 (sampleManifest 150)), .selfCheck {}, .session (.chunk 1 sampleChunk),
          .selfCheck {}])).fwVersion := by
  intro monotone
  exact absurd (monotone 4 6 (by decide)) (by decide +kernel)

end IotPlatform
