import Mathlib.Logic.Function.Basic

/-!
# Flash partitions

`flash_partition.c`: the A/B slots behind a backend of callbacks, and the in-memory backend that is registered when
no other one is.
-/

namespace IotPlatform

inductive FlashSlot where
  | a | b
  deriving DecidableEq, Repr

def FlashSlot.other : FlashSlot → FlashSlot
  | .a => .b
  | .b => .a

@[simp] theorem FlashSlot.other_ne (slot : FlashSlot) : slot.other ≠ slot := by cases slot <;> decide

@[simp] theorem FlashSlot.ne_other (slot : FlashSlot) : slot ≠ slot.other := by cases slot <;> decide

theorem FlashSlot.other_eq_of_ne {slot target : FlashSlot} (differs : target ≠ slot) : target.other = slot := by
  cases slot <;> cases target <;> simp_all [FlashSlot.other]

/-- The callbacks of a backend with state `β` that the partition layer calls. -/
structure FlashPartitionBackend (β : Type) where
  begin : (flash : β) → (slot : FlashSlot) → (size : UInt32) → β × Bool
  write : (flash : β) → (slot : FlashSlot) → (offset : UInt32) → (data : List UInt8) → β × Bool
  finish : (flash : β) → (slot : FlashSlot) → β × Bool
  setBootPartition : (flash : β) → (slot : FlashSlot) → β × Bool
  getBootPartition : (flash : β) → Option FlashSlot

/-- The statics of the module, and the state of the backend. -/
structure FlashPartition (β : Type) where
  initialised : Bool
  backendSet : Bool
  bootPartition : FlashSlot
  originalBootPartition : FlashSlot
  otaTarget : FlashSlot
  otaInProgress : Bool
  flash : β

section Operations

variable {β : Type} (backend : FlashPartitionBackend β) (s : FlashPartition β)

/-- `reset` is what the erasure of the module's own slots does to the backend's: everything to the in-memory backend,
nothing to one with slots of its own. -/
def flashPartitionInit (reset : β → β) : FlashPartition β :=
  { initialised := true, backendSet := true, bootPartition := .a, originalBootPartition := .a, otaTarget := .b
    otaInProgress := false, flash := reset s.flash }

def flashPartitionOtaBegin (imageSize : UInt32) : FlashPartition β × Bool :=
  if !s.initialised || !s.backendSet then (s, false)
  else if s.otaInProgress then (s, false)
  else
    let aimed := { s with originalBootPartition := s.bootPartition, otaTarget := s.bootPartition.other }
    let (flash, ok) := backend.begin s.flash aimed.otaTarget imageSize
    if !ok then ({ aimed with flash := flash }, false)
    else ({ aimed with flash := flash, otaInProgress := true }, true)

def flashPartitionOtaWrite (offset : UInt32) (data : List UInt8) : FlashPartition β × Bool :=
  if !s.initialised || !s.backendSet then (s, false)
  else if !s.otaInProgress then (s, false)
  else
    let (flash, ok) := backend.write s.flash s.otaTarget offset data
    ({ s with flash := flash }, ok)

def flashPartitionOtaEnd : FlashPartition β × Bool :=
  if !s.initialised || !s.backendSet then (s, false)
  else if !s.otaInProgress then (s, false)
  else
    let (flash, ok) := backend.finish s.flash s.otaTarget
    ({ s with flash := flash, otaInProgress := false }, ok)

/-- The common body of `flash_partition_set_boot` and `flash_partition_rollback`. -/
def switchBoot (slot : FlashSlot) : FlashPartition β × Bool :=
  if !s.initialised || !s.backendSet then (s, false)
  else
    let (flash, ok) := backend.setBootPartition s.flash slot
    if !ok then ({ s with flash := flash }, false) else ({ s with flash := flash, bootPartition := slot }, true)

def flashPartitionSetBoot : FlashPartition β × Bool := switchBoot backend s s.otaTarget

def flashPartitionRollback : FlashPartition β × Bool := switchBoot backend s s.originalBootPartition

def flashPartitionGetActiveSlot : FlashSlot := s.bootPartition

def flashPartitionGetInactiveSlot : FlashSlot := s.bootPartition.other

end Operations

/-! ### What each operation does -/

def FlashPartition.Ready {β : Type} (s : FlashPartition β) : Prop := s.initialised = true ∧ s.backendSet = true

section Specs

variable {β : Type} {backend : FlashPartitionBackend β} {s : FlashPartition β}

theorem otaBegin_of_free (ready : s.Ready) (free : s.otaInProgress = false) (imageSize : UInt32) :
    flashPartitionOtaBegin backend s imageSize =
      ({ s with
          originalBootPartition := s.bootPartition, otaTarget := s.bootPartition.other
          flash := (backend.begin s.flash s.bootPartition.other imageSize).1
          otaInProgress := (backend.begin s.flash s.bootPartition.other imageSize).2 },
        (backend.begin s.flash s.bootPartition.other imageSize).2) := by
  unfold flashPartitionOtaBegin
  simp only [ready.1, ready.2, free]
  cases begun : (backend.begin s.flash s.bootPartition.other imageSize).2 <;> simp_all

theorem otaBegin_of_busy (busy : s.otaInProgress = true) (imageSize : UInt32) :
    flashPartitionOtaBegin backend s imageSize = (s, false) := by
  simp [flashPartitionOtaBegin, busy]

theorem otaBegin_of_not_ready (unready : ¬s.Ready) (imageSize : UInt32) :
    flashPartitionOtaBegin backend s imageSize = (s, false) := by
  unfold flashPartitionOtaBegin
  rw [if_pos]
  unfold FlashPartition.Ready at unready
  cases initialised : s.initialised <;> simp_all

theorem otaWrite_of_busy (ready : s.Ready) (busy : s.otaInProgress = true) (offset : UInt32) (data : List UInt8) :
    flashPartitionOtaWrite backend s offset data =
      ({ s with flash := (backend.write s.flash s.otaTarget offset data).1 },
        (backend.write s.flash s.otaTarget offset data).2) := by
  simp [flashPartitionOtaWrite, ready.1, ready.2, busy]

theorem otaWrite_of_free (free : s.otaInProgress = false) (offset : UInt32) (data : List UInt8) :
    flashPartitionOtaWrite backend s offset data = (s, false) := by
  simp [flashPartitionOtaWrite, free]

theorem otaWrite_of_not_ready (unready : ¬s.Ready) (offset : UInt32) (data : List UInt8) :
    flashPartitionOtaWrite backend s offset data = (s, false) := by
  unfold flashPartitionOtaWrite
  rw [if_pos]
  unfold FlashPartition.Ready at unready
  cases initialised : s.initialised <;> simp_all

theorem otaEnd_of_busy (ready : s.Ready) (busy : s.otaInProgress = true) :
    flashPartitionOtaEnd backend s =
      ({ s with flash := (backend.finish s.flash s.otaTarget).1, otaInProgress := false },
        (backend.finish s.flash s.otaTarget).2) := by
  simp [flashPartitionOtaEnd, ready.1, ready.2, busy]

theorem otaEnd_of_free (free : s.otaInProgress = false) : flashPartitionOtaEnd backend s = (s, false) := by
  simp [flashPartitionOtaEnd, free]

theorem switchBoot_of_ready (ready : s.Ready) (slot : FlashSlot) :
    switchBoot backend s slot =
      ({ s with
          flash := (backend.setBootPartition s.flash slot).1
          bootPartition := if (backend.setBootPartition s.flash slot).2 then slot else s.bootPartition },
        (backend.setBootPartition s.flash slot).2) := by
  unfold switchBoot
  simp only [ready.1, ready.2]
  cases switched : (backend.setBootPartition s.flash slot).2 <;> simp

end Specs

/-! ### The in-memory backend -/

inductive FlashSlotState where
  | unknown | erased | writing | valid | bootable
  deriving DecidableEq, Repr

def flashPartitionMaxSize : UInt32 := 256 * 1024

structure MockSlot where
  data : Nat → UInt8
  writeOffset : UInt32
  state : FlashSlotState

def erasedSlot : MockSlot := { data := fun _ => 0xFF, writeOffset := 0, state := .erased }

def mockBegin (flash : FlashSlot → MockSlot) (slot : FlashSlot) (size : UInt32) : (FlashSlot → MockSlot) × Bool :=
  if size > flashPartitionMaxSize then (flash, false)
  else
    (Function.update flash slot
      { data := fun i => if i < size.toNat then 0xFF else (flash slot).data i, writeOffset := 0, state := .writing }, true)

/-- `data` laid over the bytes from `offset` on. -/
def copyInto (bytes : Nat → UInt8) (offset : Nat) (data : List UInt8) : Nat → UInt8 :=
  fun i => if offset ≤ i ∧ i < offset + data.length then data.getD (i - offset) 0 else bytes i

def mockWrite (flash : FlashSlot → MockSlot) (slot : FlashSlot) (offset : UInt32) (data : List UInt8) :
    (FlashSlot → MockSlot) × Bool :=
  let dataLen := UInt32.ofNat data.length
  if offset + dataLen > flashPartitionMaxSize then (flash, false)
  else if (flash slot).state ≠ .writing then (flash, false)
  else
    (Function.update flash slot
      { (flash slot) with data := copyInto (flash slot).data offset.toNat data, writeOffset := offset + dataLen }, true)

def mockEnd (flash : FlashSlot → MockSlot) (slot : FlashSlot) : (FlashSlot → MockSlot) × Bool :=
  if (flash slot).state ≠ .writing then (flash, false)
  else (Function.update flash slot { (flash slot) with state := .valid }, true)

def mockSetBootPartition (flash : FlashSlot → MockSlot) (slot : FlashSlot) : (FlashSlot → MockSlot) × Bool :=
  (Function.update flash slot { (flash slot) with state := .bootable }, true)

def mockGetBootPartition (flash : FlashSlot → MockSlot) : Option FlashSlot :=
  if (flash .a).state = .bootable then some .a
  else if (flash .b).state = .bootable then some .b
  else some .a

def mockBackend : FlashPartitionBackend (FlashSlot → MockSlot) where
  begin := mockBegin
  write := mockWrite
  finish := mockEnd
  setBootPartition := mockSetBootPartition
  getBootPartition := mockGetBootPartition

theorem mockWrite_state (flash : FlashSlot → MockSlot) (slot : FlashSlot) (offset : UInt32) (data : List UInt8)
    (x : FlashSlot) : ((mockWrite flash slot offset data).1 x).state = (flash x).state := by
  unfold mockWrite
  dsimp only
  split
  · rfl
  · split
    · rfl
    · by_cases same : x = slot
      · subst same
        simp
      · simp [same]

theorem mockEnd_bootable (flash : FlashSlot → MockSlot) (slot x : FlashSlot) :
    ((mockEnd flash slot).1 x).state = .bootable ↔ (flash x).state = .bootable := by
  unfold mockEnd
  split
  · rfl
  · rename_i writing
    by_cases same : x = slot
    · subst same
      simp [not_not.mp writing]
    · simp [same]

def mockReset (_ : FlashSlot → MockSlot) : FlashSlot → MockSlot := fun _ => erasedSlot

abbrev MockPartition := FlashPartition (FlashSlot → MockSlot)

def zeroPartition : MockPartition :=
  { initialised := false, backendSet := false, bootPartition := .a, originalBootPartition := .a, otaTarget := .b
    otaInProgress := false, flash := fun _ => { data := fun _ => 0, writeOffset := 0, state := .unknown } }

end IotPlatform
