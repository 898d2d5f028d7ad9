import IotPlatform.Shared.OtaUpdates

/-!
# The slot with the confirmed image

Slots that hold a confirmed image carry a label, which the backend takes off as soon as the slot is passed to `begin` or
`write`. The target slot is computed from the boot slot, which an update moves before it is confirmed and
`flash_partition_init` puts back to A, so the confirmed image is safe only while the boot slot is its slot.
-/

namespace IotPlatform

inductive SlotOp (ι : Type) where
  | update (op : UpdateOp ι)
  | rollback
  | flashInit
  deriving DecidableEq, Repr

/-- A system over slots with labels, and the slot that was confirmed last. -/
structure ConfirmedSystem (ι σ β : Type) where
  system : OtaSystem ι σ (β × (FlashSlot → Option Unit))
  confirmed : FlashSlot

namespace ConfirmedSystem

variable {ι σ β : Type}

def partitions (s : ConfirmedSystem ι σ β) : FlashPartition (β × (FlashSlot → Option Unit)) := s.system.device.partitions

def bootSlot (s : ConfirmedSystem ι σ β) : FlashSlot := flashPartitionGetActiveSlot s.partitions

def setPartitions (s : ConfirmedSystem ι σ β) (p : FlashPartition (β × (FlashSlot → Option Unit))) :
    ConfirmedSystem ι σ β :=
  { s with system := { s.system with device := { s.system.device with partitions := p } } }

/-- The boot slot holds the image that has just been confirmed. -/
def confirm (s : ConfirmedSystem ι σ β) : ConfirmedSystem ι σ β :=
  { s.setPartitions (s.partitions.setLabel s.bootSlot ()) with confirmed := s.bootSlot }

end ConfirmedSystem

section Safety

variable {ι σ β : Type} [DecidableEq ι] (storage : Option (DeviceIdentityStorage σ)) (backend : FlashPartitionBackend β)

/-- The self-check of this state confirms a pending version. -/
def confirmsPending (s : ConfirmedSystem ι σ β) (checks : BootChecks) : Bool :=
  deviceIdentityHasPendingVersion s.system.device.identity && checks.passed

/-- The backend keeps its slots over `flash_partition_init`. -/
def slotStep (s : ConfirmedSystem ι σ β) : SlotOp ι → ConfirmedSystem ι σ β × Option UpdateReply
  | .update op =>
    let (after, reply) := updateStep storage (labelled Unit backend) s.system op
    let next : ConfirmedSystem ι σ β := { s with system := after }
    match op with
    | .selfCheck checks => (if confirmsPending s checks then next.confirm else next, some reply)
    | _ => (next, some reply)
  | .rollback => (s.setPartitions (flashPartitionRollback (labelled Unit backend) s.partitions).1, none)
  | .flashInit => (s.setPartitions (flashPartitionInit s.partitions id), none)

/-- The slot confirmed last has not been passed to `begin` or `write` since, and neither has the slot a rollback
returns to since it was confirmed. -/
def ConfirmedIntact (s : ConfirmedSystem ι σ β) : Prop :=
  s.partitions.label s.confirmed = some () ∧ s.partitions.label s.partitions.originalBootPartition = some ()

/-- A begin that reaches the backend finds the confirmed slot booted, and `flash_partition_init` a confirmed image in
slot A. -/
def BeginsConfirmed (s : ConfirmedSystem ι σ β) : SlotOp ι → Prop
  | .update (.session (.begin _ manifest)) => BeginReaches s.system.device manifest → s.bootSlot = s.confirmed
  | .flashInit => s.partitions.label .a = some ()
  | _ => True

/-! ### One step -/

variable {storage backend}

/-- With `c` the slot confirmed last: an update in progress was begun with `c` booted and still runs beside it. -/
structure SlotsSafe (p : FlashPartition (β × (FlashSlot → Option Unit))) (c : FlashSlot) : Prop where
  intact : p.label c = some ()
  original : p.label p.originalBootPartition = some ()
  aimed : Aimed p
  booted : p.otaInProgress = true → p.bootPartition = c

section Partitions

variable {p : FlashPartition (β × (FlashSlot → Option Unit))} {c : FlashSlot}

theorem SlotsSafe.begun (safe : SlotsSafe p c) (booted : p.bootPartition = c) (imageSize : UInt32) :
    SlotsSafe (begunPartitions (labelled Unit backend) p imageSize) c := by
  have kept : (begunPartitions (labelled Unit backend) p imageSize).label c = some () := by
    rw [← booted, label_begun imageSize (FlashSlot.ne_other _), booted]
    exact safe.intact
  refine ⟨kept, ?_, fun _ => ⟨rfl, rfl⟩, fun _ => booted⟩
  rw [← booted] at kept
  exact kept

/-- A write of the update in progress leaves the labels of the confirmed slot and of the original one. -/
theorem SlotsSafe.spared (safe : SlotsSafe p c) (busy : p.otaInProgress = true) :
    Function.update p.flash.2 p.otaTarget none c = some () ∧
      Function.update p.flash.2 p.otaTarget none p.originalBootPartition = some () := by
  obtain ⟨original, target⟩ := safe.aimed busy
  rw [original, target, safe.booted busy, Function.update_of_ne (FlashSlot.ne_other _)]
  exact ⟨safe.intact, safe.intact⟩

theorem SlotsSafe.rollback (safe : SlotsSafe p c) : SlotsSafe (flashPartitionRollback (labelled Unit backend) p).1 c := by
  have aimed : Aimed (flashPartitionRollback (labelled Unit backend) p).1 := rollback_aimed safe.aimed
  have labels : ∀ slot, (flashPartitionRollback (labelled Unit backend) p).1.label slot = p.label slot := label_rollback
  obtain ⟨flash, boot, same, moved, -⟩ := rollback_cases (labelled Unit backend) p
  rw [same] at aimed labels ⊢
  refine ⟨(labels c).trans safe.intact, (labels _).trans safe.original, aimed, fun busy => ?_⟩
  rcases moved with rfl | rfl
  · exact safe.booted busy
  · exact (safe.aimed busy).1.trans (safe.booted busy)

theorem SlotsSafe.init (safe : SlotsSafe p c) (labelled : p.label .a = some ()) :
    SlotsSafe (flashPartitionInit p id) c :=
  ⟨safe.intact, labelled, (nomatch ·), (nomatch ·)⟩

/-- Confirming the boot slot: while an update is in progress it is the confirmed slot already. -/
theorem SlotsSafe.confirm (safe : SlotsSafe p c) : SlotsSafe (p.setLabel p.bootPartition ()) p.bootPartition := by
  have labels : ∀ slot, p.label slot = some () → (p.setLabel p.bootPartition ()).label slot = some () := by
    intro slot labelled
    unfold FlashPartition.label FlashPartition.setLabel
    by_cases same : slot = p.bootPartition
    · rw [same]
      exact Function.update_self _ _ _
    · simp only [Function.update_of_ne same]
      exact labelled
  refine ⟨Function.update_self _ _ _, labels _ safe.original, safe.aimed, fun _ => rfl⟩

end Partitions

variable {s : ConfirmedSystem ι σ β}

theorem session_safe (safe : SlotsSafe s.partitions s.confirmed) {op : SessionOp ι}
    (begins : BeginsConfirmed s (.update (.session op))) :
    SlotsSafe (sessionStep storage (labelled Unit backend) s.system op).1.device.partitions s.confirmed := by
  have aimed : Aimed (sessionStep storage (labelled Unit backend) s.system op).1.device.partitions :=
    sessionStep_aimed safe.aimed op
  have effect := sessionStep_partitions storage (labelled Unit backend) s.system op
  generalize (sessionStep storage (labelled Unit backend) s.system op).1.device.partitions = after at aimed effect
  cases effect with
  | same => exact safe
  | begun opened reaches =>
    subst opened
    exact safe.begun (begins reaches) _
  | written busy => exact ⟨(safe.spared busy).1, (safe.spared busy).2, aimed, safe.booted⟩
  | ended busy => exact ⟨(safe.spared busy).1, (safe.spared busy).2, aimed, (nomatch ·)⟩
  | committed busy => exact ⟨(safe.spared busy).1, (safe.spared busy).2, aimed, (nomatch ·)⟩

theorem selfCheck_safe (safe : SlotsSafe s.partitions s.confirmed) (checks : BootChecks) :
    SlotsSafe (slotStep storage backend s (.update (.selfCheck checks))).1.partitions
      (slotStep storage backend s (.update (.selfCheck checks))).1.confirmed := by
  have outcome : SelfCheckOutcome storage (labelled Unit backend) s.system.device checks _ :=
    otaSessionBootSelfCheck_outcome checks
  simp only [slotStep, updateStep, confirmsPending]
  generalize otaSessionBootSelfCheck storage (labelled Unit backend) s.system.device checks = after at outcome
  cases outcome with
  | nothing nothing =>
    simp only [nothing, Bool.false_and, Bool.false_eq_true, if_false]
    exact safe
  | confirmed pending passed =>
    simp only [pending, passed, Bool.true_and, if_true]
    exact safe.confirm
  | rolledBack pending failed =>
    simp only [pending, failed, Bool.and_false, Bool.false_eq_true, if_false]
    exact safe.rollback

theorem slotStep_safe (safe : SlotsSafe s.partitions s.confirmed) {op : SlotOp ι} (begins : BeginsConfirmed s op) :
    SlotsSafe (slotStep storage backend s op).1.partitions (slotStep storage backend s op).1.confirmed := by
  cases op with
  | rollback => exact safe.rollback
  | flashInit => exact safe.init begins
  | update op =>
    cases op with
    | session op => exact session_safe safe begins
    | selfCheck checks => exact selfCheck_safe safe checks
    | reboot ramLost =>
      cases ramLost with
      | false => exact safe
      | true => exact ⟨safe.intact, safe.original, (nomatch ·), (nomatch ·)⟩

/-- A begin that reaches the backend with another slot booted erases the confirmed image. -/
theorem begin_erases {i : ι} {manifest : FirmwareManifest} (reaches : BeginReaches s.system.device manifest)
    (other : s.bootSlot ≠ s.confirmed) :
    (slotStep storage backend s (.update (.session (.begin i manifest)))).1.partitions.label s.confirmed = none := by
  have target : s.system.device.partitions.bootPartition.other = s.confirmed := FlashSlot.other_eq_of_ne other
  have outcome : BeginOutcome (labelled Unit backend) s.system.device (s.system.contexts i) manifest _ :=
    otaSessionBegin_outcome manifest
  simp only [slotStep, updateStep, sessionStep, ConfirmedSystem.partitions]
  generalize otaSessionBegin (labelled Unit backend) s.system.device (s.system.contexts i) manifest = after at outcome
  rw [← target]
  cases outcome with
  | uninitialised uninitialised =>
    rw [reaches.initialised] at uninitialised
    cases uninitialised
  | refused refused _ _ => exact absurd reaches refused
  | failed _ _ => exact label_begun_target _
  | accepted _ _ => exact label_begun_target _

theorem beginsConfirmed_of_intact {op : SlotOp ι} (intact : ConfirmedIntact (slotStep storage backend s op).1) :
    BeginsConfirmed s op := by
  cases op with
  | rollback => trivial
  | flashInit => exact intact.2
  | update op =>
    cases op with
    | selfCheck checks => trivial
    | reboot ramLost => trivial
    | session op =>
      cases op with
      | chunk i chunk => trivial
      | abort i => trivial
      | begin i manifest =>
        intro reaches
        by_contra other
        have kept : (slotStep storage backend s (.update (.session (.begin i manifest)))).1.partitions.label s.confirmed =
            some () := intact.1
        rw [begin_erases reaches other] at kept
        cases kept

/-! ### Whole runs -/

/-- The slot confirmed last is kept from `begin` and `write`, and a rollback has a confirmed image to return to, along a
run exactly when every begin that reaches the backend finds the confirmed slot booted and every `flash_partition_init`
finds a confirmed image in slot A. -/
theorem confirmedIntact_iff_beginsConfirmed (intact : ConfirmedIntact s) (free : s.partitions.otaInProgress = false)
    (ops : List (SlotOp ι)) :
    Run.Always ConfirmedIntact (slotStep storage backend) s ops ↔
      Run.EachStep BeginsConfirmed (slotStep storage backend) s ops := by
  have start : SlotsSafe s.partitions s.confirmed := by
    refine ⟨intact.1, intact.2, fun busy => ?_, fun busy => ?_⟩
    · rw [free] at busy
      cases busy
    · rw [free] at busy
      cases busy
  exact Run.always_iff_eachStep (J := fun s => SlotsSafe s.partitions s.confirmed) start
    (fun _ safe => ⟨safe.intact, safe.original⟩) (fun _ _ safe begins => slotStep_safe safe begins)
    (fun _ _ _ intact => beginsConfirmed_of_intact intact) ops

end Safety

def confirmedSample : ConfirmedSystem (Fin 2) (Option PersistedIdentity) (FlashSlot → MockSlot) :=
  { confirmed := .a
    system :=
      { device :=
          { sessionInitialised := true, identity := sampleDevice.identity
            partitions :=
              { initialised := true, backendSet := true, bootPartition := .a, originalBootPartition := .a, otaTarget := .b
                otaInProgress := false
                flash := (sampleDevice.partitions.flash, fun slot => if slot = .a then some () else none) } }
        contexts := fun _ => zeroContext } }

/-- Two updates in a row, each confirmed before the next one begins. -/
theorem confirmedIntact_when_confirmed_first :
    Run.Always ConfirmedIntact (slotStep (some ramIdentityStorage) mockBackend) confirmedSample
      [.update (.session (.begin 0 (sampleManifest 200))), .update (.session (.chunk 0 sampleChunk)),
        .update (.selfCheck {}), .update (.session (.begin 1 (sampleManifest 201)))] := by
  rw [confirmedIntact_iff_beginsConfirmed ⟨rfl, rfl⟩ rfl]
  exact ⟨fun _ => rfl, trivial, trivial, fun _ => rfl, trivial⟩

/-- A second session begun before the first update has been confirmed erases slot A, the only confirmed image. -/
theorem unconfirmed_update_erases :
    ¬Run.Always ConfirmedIntact (slotStep (some ramIdentityStorage) mockBackend) confirmedSample
      [.update (.session (.begin 0 (sampleManifest 200))), .update (.session (.chunk 0 sampleChunk)),
        .update (.session (.begin 1 (sampleManifest 201)))] := by
  intro always
  exact absurd (always 3).1 (by decide +kernel)

end IotPlatform
