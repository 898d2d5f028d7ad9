import IotPlatform.Shared.OtaRuns

/-!
# Updates across boots

Sessions interleaved with self-checks and reboots. The flash slots and the boot slot survive a reboot; the identity is
loaded back from its store, which drops a version that is still pending.
-/

namespace IotPlatform

inductive UpdateOp (ι : Type) where
  | session (op : SessionOp ι)
  | selfCheck (checks : BootChecks)
  /-- With `ramLost` the contexts and the flash update in progress are gone too. -/
  | reboot (ramLost : Bool)
  deriving DecidableEq, Repr

inductive UpdateReply where
  | session (result : Option OtaSessionResult)
  | selfCheck (booted : Bool)
  | reboot
  deriving DecidableEq, Repr

section Updates

variable {ι σ β : Type} (storage : Option (DeviceIdentityStorage σ)) (backend : FlashPartitionBackend β)

def rebootSystem (s : OtaSystem ι σ β) (ramLost : Bool) : OtaSystem ι σ β :=
  let identity := deviceIdentityInit storage s.device.identity
  if ramLost then
    { device := { s.device with identity := identity, partitions := { s.device.partitions with otaInProgress := false } }
      contexts := fun _ => zeroContext }
  else { s with device := { s.device with identity := identity } }

def updateStep [DecidableEq ι] (s : OtaSystem ι σ β) : UpdateOp ι → OtaSystem ι σ β × UpdateReply
  | .session op =>
    let (after, result) := sessionStep storage backend s op
    (after, .session result)
  | .selfCheck checks =>
    let (device, booted) := otaSessionBootSelfCheck storage backend s.device checks
    ({ s with device := device }, .selfCheck booted)
  | .reboot ramLost => (rebootSystem storage s ramLost, .reboot)

end Updates

theorem rebootSystem_identity {ι σ β : Type} (storage : Option (DeviceIdentityStorage σ)) (s : OtaSystem ι σ β)
    (ramLost : Bool) :
    (rebootSystem storage s ramLost).device.identity = deviceIdentityInit storage s.device.identity := by
  cases ramLost <;> rfl

/-! ### Where a flash update is aimed -/

/-- An update in progress goes to the slot that is not the boot slot, and a rollback would keep the boot slot. -/
def Aimed {β : Type} (p : FlashPartition β) : Prop :=
  p.otaInProgress = true → p.originalBootPartition = p.bootPartition ∧ p.otaTarget = p.bootPartition.other

section Aim

variable {ι σ β : Type} [DecidableEq ι] {storage : Option (DeviceIdentityStorage σ)} {backend : FlashPartitionBackend β}
  {s : OtaSystem ι σ β}

inductive PartitionEffect (backend : FlashPartitionBackend β) (s : OtaSystem ι σ β) (op : SessionOp ι) :
    FlashPartition β → Prop
  | same : PartitionEffect backend s op s.device.partitions
  | begun {i : ι} {manifest : FirmwareManifest} (begins : op = .begin i manifest)
      (reaches : BeginReaches s.device manifest) :
      PartitionEffect backend s op (begunPartitions backend s.device.partitions manifest.imageSize)
  | written {chunk : OtaChunk} (busy : s.device.partitions.otaInProgress = true) :
      PartitionEffect backend s op
        { s.device.partitions with flash := (afterWrite backend s.device.partitions chunk).1 }
  | ended {chunk : OtaChunk} (busy : s.device.partitions.otaInProgress = true) :
      PartitionEffect backend s op
        { s.device.partitions with flash := (afterEnd backend s.device.partitions chunk).1, otaInProgress := false }
  | committed {chunk : OtaChunk} (busy : s.device.partitions.otaInProgress = true) :
      PartitionEffect backend s op (committedPartitions backend s.device.partitions chunk)

theorem sessionStep_partitions (storage : Option (DeviceIdentityStorage σ)) (backend : FlashPartitionBackend β)
    (s : OtaSystem ι σ β) (op : SessionOp ι) :
    PartitionEffect backend s op (sessionStep storage backend s op).1.device.partitions := by
  cases op with
  | begin i manifest =>
    have outcome : BeginOutcome backend s.device (s.contexts i) manifest _ := otaSessionBegin_outcome manifest
    simp only [sessionStep]
    generalize otaSessionBegin backend s.device (s.contexts i) manifest = after at outcome
    cases outcome with
    | uninitialised _ => exact .same
    | refused _ _ _ => exact .same
    | failed reaches _ => exact .begun rfl reaches
    | accepted reaches _ => exact .begun rfl reaches
  | chunk i chunk =>
    have outcome : ChunkOutcome storage backend s.device (s.contexts i) chunk _ := otaSessionProcessChunk_outcome chunk
    simp only [sessionStep]
    generalize otaSessionProcessChunk storage backend s.device (s.contexts i) chunk = after at outcome
    cases outcome with
    | closed _ => exact .same
    | rejected _ _ => exact .same
    | unwritten _ _ _ => exact .same
    | writeFailed _ _ _ busy _ => exact .written busy
    | stored _ _ _ busy _ _ => exact .written busy
    | endFailed _ _ _ busy _ _ _ => exact .ended busy
    | committed _ _ _ busy _ _ _ => exact .committed busy
  | abort i => exact .same

theorem sessionStep_aimed (aimed : Aimed s.device.partitions) (op : SessionOp ι) :
    Aimed (sessionStep storage backend s op).1.device.partitions := by
  have effect := sessionStep_partitions storage backend s op
  generalize (sessionStep storage backend s op).1.device.partitions = after at effect
  intro busy
  cases effect with
  | same => exact aimed busy
  | begun _ _ => exact ⟨rfl, rfl⟩
  | written _ => exact aimed busy
  | ended _ => cases busy
  | committed _ => cases busy

/-- A session operation either keeps the identity and the boot slot, and then completes no session, or commits an
image. -/
theorem sessionStep_commit_cases (storage : Option (DeviceIdentityStorage σ)) (backend : FlashPartitionBackend β)
    (s : OtaSystem ι σ β) (op : SessionOp ι) :
    ((sessionStep storage backend s op).1.device.identity = s.device.identity ∧
      (sessionStep storage backend s op).1.device.partitions.bootPartition = s.device.partitions.bootPartition ∧
      (Transferring s op.session → ((sessionStep storage backend s op).1.contexts op.session).state ≠ .complete)) ∨
    ∃ i chunk, op = .chunk i chunk ∧ Commits backend s.device (s.contexts i) chunk ∧
      (sessionStep storage backend s op).1.device.identity =
        (deviceIdentitySetPendingVersion storage s.device.identity (s.contexts i).manifest.fwVersion).1 := by
  cases op with
  | begin i manifest =>
    obtain ⟨identity, boot, open_⟩ :
        KeepsVersions s.device (s.contexts i) (otaSessionBegin backend s.device (s.contexts i) manifest) :=
      otaSessionBegin_keepsVersions manifest
    exact Or.inl ⟨identity, boot, fun transfer => by simpa [sessionStep, SessionOp.session] using open_ transfer⟩
  | chunk i chunk =>
    have cases_ : KeepsVersions s.device (s.contexts i)
        (otaSessionProcessChunk storage backend s.device (s.contexts i) chunk) ∨ _ :=
      otaSessionProcessChunk_commit_cases chunk
    rcases cases_ with ⟨identity, boot, open_⟩ | ⟨commits, identity⟩
    · exact Or.inl ⟨identity, boot, fun transfer => by simpa [sessionStep, SessionOp.session] using open_ transfer⟩
    · exact Or.inr ⟨i, chunk, rfl, commits, identity⟩
  | abort i => exact Or.inl ⟨rfl, rfl, fun _ => by simp [sessionStep, SessionOp.session, otaSessionAbort]⟩

/-- Every session in TRANSFER has a version that is not the sentinel for none. -/
def VersionsPositive (s : OtaSystem ι σ β) : Prop :=
  ∀ i, Transferring s i → (s.contexts i).manifest.fwVersion ≠ deviceIdNoVersion

theorem sessionStep_versionsPositive (positive : VersionsPositive s) (op : SessionOp ι) :
    VersionsPositive (sessionStep storage backend s op).1 := by
  intro j transfer
  by_cases own : j = op.session
  · subst own
    unfold Transferring at transfer
    cases op with
    | begin i manifest =>
      simp only [sessionStep, SessionOp.session, Function.update_self] at transfer ⊢
      rcases otaSessionBegin_transfer transfer with same | ⟨same, reaches⟩
      · rw [same] at transfer ⊢
        exact positive i transfer
      · obtain ⟨_, -, admissible⟩ := reaches.admissible
        rw [same]
        exact admissible.fwVersion_ne
    | chunk i chunk =>
      simp only [sessionStep, SessionOp.session, Function.update_self] at transfer ⊢
      obtain ⟨before, same⟩ := otaSessionProcessChunk_transfer transfer
      rw [same]
      exact positive i before
    | abort i => simp [sessionStep, SessionOp.session, otaSessionAbort] at transfer
  · rw [sessionStep_contexts own]
    exact positive j ((transferring_other own).mp transfer)

/-- Rolling back keeps everything but the boot slot, and that too while an update is in progress. -/
theorem rollback_cases (backend : FlashPartitionBackend β) (p : FlashPartition β) :
    ∃ flash boot, (flashPartitionRollback backend p).1 = { p with flash := flash, bootPartition := boot } ∧
      (boot = p.bootPartition ∨ boot = p.originalBootPartition) ∧
      (flash = p.flash ∨ flash = (backend.setBootPartition p.flash p.originalBootPartition).1) := by
  by_cases ready : p.Ready
  · rw [flashPartitionRollback, switchBoot_of_ready ready]
    refine ⟨_, _, rfl, ?_, Or.inr rfl⟩
    split
    · exact Or.inr rfl
    · exact Or.inl rfl
  · refine ⟨p.flash, p.bootPartition, ?_, Or.inl rfl, Or.inl rfl⟩
    have unready : (!p.initialised || !p.backendSet) = true := by
      unfold FlashPartition.Ready at ready
      cases initialised : p.initialised <;> simp_all
    simp [flashPartitionRollback, switchBoot, unready]

omit [DecidableEq ι] in
theorem rebootSystem_aimed (aimed : Aimed s.device.partitions) (ramLost : Bool) :
    Aimed (rebootSystem storage s ramLost).device.partitions := by
  cases ramLost with
  | false => exact aimed
  | true => exact fun busy => nomatch busy

omit [DecidableEq ι] in
theorem rebootSystem_versionsPositive (positive : VersionsPositive s) (ramLost : Bool) :
    VersionsPositive (rebootSystem storage s ramLost) := by
  cases ramLost with
  | false => exact positive
  | true =>
    intro i transfer
    simp [Transferring, rebootSystem, zeroContext] at transfer

theorem rollback_aimed {p : FlashPartition β} (aimed : Aimed p) : Aimed (flashPartitionRollback backend p).1 := by
  obtain ⟨flash, boot, same, moved, -⟩ := rollback_cases backend p
  rw [same]
  intro busy
  obtain ⟨original, target⟩ := aimed busy
  rcases moved with rfl | rfl
  · exact ⟨original, target⟩
  · exact ⟨rfl, by rw [original]; exact target⟩

end Aim

/-! ### What the slots hold -/

/-- A backend that keeps a label on each slot: passing the slot to `begin` or `write` takes its label off. -/
def labelled {β : Type} (L : Type) (backend : FlashPartitionBackend β) :
    FlashPartitionBackend (β × (FlashSlot → Option L)) where
  begin flash slot size :=
    (((backend.begin flash.1 slot size).1, Function.update flash.2 slot none), (backend.begin flash.1 slot size).2)
  write flash slot offset data :=
    (((backend.write flash.1 slot offset data).1, Function.update flash.2 slot none),
      (backend.write flash.1 slot offset data).2)
  finish flash slot := (((backend.finish flash.1 slot).1, flash.2), (backend.finish flash.1 slot).2)
  setBootPartition flash slot :=
    (((backend.setBootPartition flash.1 slot).1, flash.2), (backend.setBootPartition flash.1 slot).2)
  getBootPartition flash := backend.getBootPartition flash.1

section Labels

variable {β L : Type} {backend : FlashPartitionBackend β} {p : FlashPartition (β × (FlashSlot → Option L))}

def FlashPartition.label (p : FlashPartition (β × (FlashSlot → Option L))) (slot : FlashSlot) : Option L := p.flash.2 slot

def FlashPartition.setLabel (p : FlashPartition (β × (FlashSlot → Option L))) (slot : FlashSlot) (l : L) :
    FlashPartition (β × (FlashSlot → Option L)) :=
  { p with flash := (p.flash.1, Function.update p.flash.2 slot (some l)) }

theorem label_begun (imageSize : UInt32) {slot : FlashSlot} (other : slot ≠ p.bootPartition.other) :
    (begunPartitions (labelled L backend) p imageSize).label slot = p.label slot :=
  Function.update_of_ne other _ _

theorem label_begun_target (imageSize : UInt32) :
    (begunPartitions (labelled L backend) p imageSize).label p.bootPartition.other = none :=
  Function.update_self _ _ _

theorem label_rollback (slot : FlashSlot) :
    (flashPartitionRollback (labelled L backend) p).1.label slot = p.label slot := by
  obtain ⟨flash, boot, same, -, kept⟩ := rollback_cases (labelled L backend) p
  rw [same]
  rcases kept with rfl | rfl
  · rfl
  · rfl

end Labels

end IotPlatform
