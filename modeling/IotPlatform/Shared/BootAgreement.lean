import IotPlatform.Lib.Run
import IotPlatform.Shared.FlashPartition

/-!
# The boot slot of the in-memory backend

The partition layer keeps the boot slot in a variable, the in-memory backend in the states of its slots. Marking a slot
BOOTABLE does not unmark the other one, so the two agree for as long as the boot slot never leaves a marked slot.
-/

namespace IotPlatform

def MockPartition.slotState (s : MockPartition) (slot : FlashSlot) : FlashSlotState := (s.flash slot).state

inductive PartitionOp where
  | otaBegin (imageSize : UInt32)
  | otaWrite (offset : UInt32) (data : List UInt8)
  | otaEnd
  | setBoot
  | rollback
  deriving DecidableEq, Repr

def partitionStep (s : MockPartition) : PartitionOp → MockPartition × Bool
  | .otaBegin imageSize => flashPartitionOtaBegin mockBackend s imageSize
  | .otaWrite offset data => flashPartitionOtaWrite mockBackend s offset data
  | .otaEnd => flashPartitionOtaEnd mockBackend s
  | .setBoot => flashPartitionSetBoot mockBackend s
  | .rollback => flashPartitionRollback mockBackend s

/-- `get_boot_partition` names the active slot, and the slots are not both BOOTABLE. -/
def BootAgrees (s : MockPartition) : Prop :=
  mockBackend.getBootPartition s.flash = some (flashPartitionGetActiveSlot s) ∧
    ¬(s.slotState .a = .bootable ∧ s.slotState .b = .bootable)

/-- The slot an operation makes the boot slot, if it is one that does. -/
def bootTarget (s : MockPartition) : PartitionOp → Option FlashSlot
  | .setBoot => some s.otaTarget
  | .rollback => some s.originalBootPartition
  | _ => none

/-- An operation that moves the boot slot finds the slot it leaves unmarked. -/
def LeavesUnmarked (s : MockPartition) (op : PartitionOp) : Prop :=
  ∀ slot, bootTarget s op = some slot → slot ≠ s.bootPartition → s.slotState s.bootPartition ≠ .bootable

/-! ### One step -/

/-- At most the boot slot is marked, and it is unless it is still the slot A of the start. -/
structure BootMarked (s : MockPartition) : Prop where
  ready : s.Ready
  other_unmarked : s.slotState s.bootPartition.other ≠ .bootable
  marked_or_first : s.slotState s.bootPartition = .bootable ∨ s.bootPartition = .a

theorem BootMarked.agrees {s : MockPartition} (marked : BootMarked s) : BootAgrees s := by
  obtain ⟨-, other_unmarked, marked_or_first⟩ := marked
  unfold BootAgrees mockBackend mockGetBootPartition flashPartitionGetActiveSlot
  cases boot : s.bootPartition with
  | a =>
    rw [boot] at other_unmarked
    simp only [FlashSlot.other, MockPartition.slotState] at other_unmarked ⊢
    simp [other_unmarked]
  | b =>
    rw [boot] at other_unmarked marked_or_first
    simp only [FlashSlot.other, MockPartition.slotState, reduceCtorEq, or_false] at other_unmarked marked_or_first ⊢
    simp [other_unmarked, marked_or_first]

theorem bootMarked_init (s : MockPartition) : BootMarked (flashPartitionInit s mockReset) := by
  refine ⟨⟨rfl, rfl⟩, ?_, Or.inr rfl⟩
  simp [flashPartitionInit, MockPartition.slotState, mockReset, erasedSlot]

theorem BootMarked.of_frame {s t : MockPartition} (marked : BootMarked s) (ready : t.Ready)
    (boot : t.bootPartition = s.bootPartition)
    (marks : t.slotState s.bootPartition = .bootable ↔ s.slotState s.bootPartition = .bootable)
    (fresh : t.slotState s.bootPartition.other = .bootable → s.slotState s.bootPartition.other = .bootable) :
    BootMarked t := by
  refine ⟨ready, ?_, ?_⟩
  · rw [boot]
    exact fun bootable => marked.other_unmarked (fresh bootable)
  · rw [boot, marks]
    exact marked.marked_or_first

theorem otaBegin_marked {s : MockPartition} (marked : BootMarked s) (imageSize : UInt32) :
    BootMarked (flashPartitionOtaBegin mockBackend s imageSize).1 := by
  cases busy : s.otaInProgress with
  | true =>
    rw [otaBegin_of_busy busy]
    exact marked
  | false =>
    rw [otaBegin_of_free marked.ready busy]
    refine marked.of_frame ?_ rfl ?_ ?_
    · exact marked.ready
    · simp only [MockPartition.slotState, mockBackend, mockBegin]
      split <;> simp
    · simp only [MockPartition.slotState, mockBackend, mockBegin]
      split <;> simp

theorem otaWrite_marked {s : MockPartition} (marked : BootMarked s) (offset : UInt32) (data : List UInt8) :
    BootMarked (flashPartitionOtaWrite mockBackend s offset data).1 := by
  cases busy : s.otaInProgress with
  | false =>
    rw [otaWrite_of_free busy]
    exact marked
  | true =>
    rw [otaWrite_of_busy marked.ready busy]
    refine marked.of_frame ?_ rfl ?_ ?_
    · exact marked.ready
    · simp [MockPartition.slotState, mockBackend, mockWrite_state]
    · simp [MockPartition.slotState, mockBackend, mockWrite_state]

theorem otaEnd_marked {s : MockPartition} (marked : BootMarked s) :
    BootMarked (flashPartitionOtaEnd mockBackend s).1 := by
  cases busy : s.otaInProgress with
  | false =>
    rw [otaEnd_of_free busy]
    exact marked
  | true =>
    rw [otaEnd_of_busy marked.ready busy]
    have marks := mockEnd_bootable s.flash s.otaTarget
    refine marked.of_frame ?_ rfl ?_ ?_
    · exact marked.ready
    · exact marks _
    · exact (marks _).mp

theorem switchBoot_mock {s : MockPartition} (ready : s.Ready) (slot : FlashSlot) :
    (switchBoot mockBackend s slot).1 =
      { s with flash := (mockSetBootPartition s.flash slot).1, bootPartition := slot } := by
  rw [switchBoot_of_ready ready]
  rfl

/-- Moving the boot slot marks its new slot; the invariant survives unless the slot left was marked. -/
theorem switchBoot_marked {s : MockPartition} (marked : BootMarked s) {slot : FlashSlot}
    (unmarked : slot ≠ s.bootPartition → s.slotState s.bootPartition ≠ .bootable) :
    BootMarked (switchBoot mockBackend s slot).1 := by
  rw [switchBoot_mock marked.ready]
  refine ⟨marked.ready, ?_, Or.inl ?_⟩
  · simp only [MockPartition.slotState, mockSetBootPartition, Function.update_of_ne (FlashSlot.other_ne slot)]
    by_cases same : slot = s.bootPartition
    · rw [same]
      exact marked.other_unmarked
    · rw [FlashSlot.other_eq_of_ne same]
      exact unmarked same
  · simp [MockPartition.slotState, mockSetBootPartition]

theorem partitionStep_marked {s : MockPartition} {op : PartitionOp} (marked : BootMarked s)
    (leaves : LeavesUnmarked s op) : BootMarked (partitionStep s op).1 := by
  cases op with
  | otaBegin imageSize => exact otaBegin_marked marked imageSize
  | otaWrite offset data => exact otaWrite_marked marked offset data
  | otaEnd => exact otaEnd_marked marked
  | setBoot => exact switchBoot_marked marked (leaves _ rfl)
  | rollback => exact switchBoot_marked marked (leaves _ rfl)

theorem switchBoot_both_marked {s : MockPartition} (ready : s.Ready) {slot : FlashSlot} (moves : slot ≠ s.bootPartition)
    (bootable : s.slotState s.bootPartition = .bootable) : ¬BootAgrees (switchBoot mockBackend s slot).1 := by
  rintro ⟨-, once⟩
  rw [switchBoot_mock ready] at once
  have left : ((mockSetBootPartition s.flash slot).1 s.bootPartition).state = .bootable := by
    simp only [mockSetBootPartition, Function.update_of_ne moves.symm]
    exact bootable
  have taken : ((mockSetBootPartition s.flash slot).1 slot).state = .bootable := by simp [mockSetBootPartition]
  apply once
  cases boot : s.bootPartition <;> cases target : slot <;> simp_all [MockPartition.slotState]

theorem leavesUnmarked_of_agrees {s : MockPartition} {op : PartitionOp} (marked : BootMarked s)
    (agrees : BootAgrees (partitionStep s op).1) : LeavesUnmarked s op := by
  intro slot target moves bootable
  cases op with
  | setBoot =>
    obtain rfl := Option.some.inj target
    exact switchBoot_both_marked marked.ready moves bootable agrees
  | rollback =>
    obtain rfl := Option.some.inj target
    exact switchBoot_both_marked marked.ready moves bootable agrees
  | otaBegin _ => cases target
  | otaWrite _ _ => cases target
  | otaEnd => cases target

/-! ### Whole runs -/

/-- From `flash_partition_init` on, backend and partition layer agree on the boot slot along a run exactly when no
`set_boot` or `rollback` of the run moves it away from a slot that is marked BOOTABLE. -/
theorem bootAgrees_iff_leavesUnmarked (s : MockPartition) (ops : List PartitionOp) :
    Run.Always BootAgrees partitionStep (flashPartitionInit s mockReset) ops ↔
      Run.EachStep LeavesUnmarked partitionStep (flashPartitionInit s mockReset) ops :=
  Run.always_iff_eachStep (bootMarked_init s) (fun _ marked => marked.agrees)
    (fun _ _ marked leaves => partitionStep_marked marked leaves)
    (fun _ _ marked agrees => leavesUnmarked_of_agrees marked agrees) ops

/-- An update that is rolled back leaves both slots BOOTABLE, and after the update that follows the backend names
slot A while slot B is active. -/
theorem bootAgrees_fails_after_rollback :
    ¬Run.Always BootAgrees partitionStep (flashPartitionInit zeroPartition mockReset)
      [.otaBegin 1, .otaWrite 0 [7], .otaEnd, .setBoot, .rollback, .otaBegin 1, .otaWrite 0 [8], .otaEnd, .setBoot] := by
  intro always
  have named : mockBackend.getBootPartition _ = some FlashSlot.b := (always 9).1
  exact absurd named (by decide)

end IotPlatform
