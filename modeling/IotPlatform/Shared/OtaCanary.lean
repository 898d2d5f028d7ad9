import Mathlib.Algebra.Group.Nat.Defs
import Mathlib.Data.List.FinRange
import IotPlatform.Lib.Run
import IotPlatform.Shared.DeviceIdentity

/-!
# Canary rollout

`ota_canary.c`: the groups of a rollout, which devices are in the canary wave of one, and when a group is rolled back. A
group pointer is the index of its slot.
-/

namespace IotPlatform
open Run

def otaCanaryMaxGroups : Nat := 16

structure OtaCanaryGroup where
  domainProfileId : DomainProfileId := .none
  hwVariantId : UInt8 := 0
  canaryPercentage : UInt8 := 0
  devicesRolledOut : UInt32 := 0
  errorRateThreshold : UInt8 := 0
  errorCount : UInt32 := 0
  totalAttempts : UInt32 := 0
  rollbackTriggered : Bool := false
  active : Bool := false
  deriving DecidableEq, Repr

inductive OtaCanaryResult where
  | ok | errGroupNotFound | errGroupFull | errParamNull | errNotActive
  deriving DecidableEq, Repr

/-- The statics of the module. -/
structure OtaCanary where
  groups : Fin otaCanaryMaxGroups → OtaCanaryGroup := fun _ => {}
  initialised : Bool := false

/-- The value that stands for the profile in a hash input. -/
def DomainProfileId.byte : DomainProfileId → UInt8
  | .none => 0
  | .home => 1
  | .agriculture => 2
  | .hvac => 3
  | .waterTreatment => 4

def fnv1aHash (data : List UInt8) : UInt32 :=
  data.foldl (fun hash byte => (hash ^^^ byte.toUInt32) * 16777619) 2166136261

/-- `none` is a null pointer. -/
def otaCanaryHashBucket : Option (List UInt8) → UInt8
  | none => 0
  | some data => if data.isEmpty then 0 else (fnv1aHash data % 100).toUInt8

def otaCanaryIsInCanary (deviceUuid : Option (Vector UInt8 16)) (group : Option OtaCanaryGroup) : Bool :=
  match deviceUuid, group with
  | some deviceUuid, some group =>
    if !group.active then false
    else if group.canaryPercentage == 0 then false
    else if group.canaryPercentage ≥ 100 then true
    else
      let hashInput := deviceUuid.toList ++ [group.domainProfileId.byte, group.hwVariantId]
      decide (otaCanaryHashBucket (some hashInput) < group.canaryPercentage)
  | _, _ => false

section Operations

variable (s : OtaCanary)

def OtaCanary.findGroup (domainProfileId : DomainProfileId) (hwVariantId : UInt8) : Option (Fin otaCanaryMaxGroups) :=
  (List.finRange otaCanaryMaxGroups).find? fun i =>
    (s.groups i).active && (s.groups i).domainProfileId == domainProfileId && (s.groups i).hwVariantId == hwVariantId

def OtaCanary.findFree : Option (Fin otaCanaryMaxGroups) :=
  (List.finRange otaCanaryMaxGroups).find? fun i => !(s.groups i).active

def OtaCanary.write (i : Fin otaCanaryMaxGroups) (group : OtaCanaryGroup) : OtaCanary :=
  { s with groups := Function.update s.groups i group }

def otaCanaryInit : OtaCanary × Bool := ({ groups := fun _ => {}, initialised := true }, true)

def otaCanaryCreateGroup (domainProfileId : DomainProfileId) (hwVariantId canaryPercentage errorThreshold : UInt8) :
    OtaCanary × Except OtaCanaryResult (Fin otaCanaryMaxGroups) :=
  if !s.initialised then (s, .error .errParamNull)
  else
    let canaryPercentage := if canaryPercentage > 100 then 100 else canaryPercentage
    match s.findGroup domainProfileId hwVariantId with
    | some i => (s, .ok i)
    | none =>
      match s.findFree with
      | some i =>
        (s.write i { domainProfileId, hwVariantId, canaryPercentage, errorRateThreshold := errorThreshold, active := true }, .ok i)
      | none => (s, .error .errGroupFull)

/-- The counters of the group with one attempt more. -/
def OtaCanaryGroup.count (group : OtaCanaryGroup) (success : Bool) : OtaCanaryGroup :=
  let group := { group with totalAttempts := group.totalAttempts + 1 }
  if !success then { group with errorCount := group.errorCount + 1 }
  else { group with devicesRolledOut := group.devicesRolledOut + 1 }

def OtaCanaryGroup.errorRate (group : OtaCanaryGroup) : UInt32 := (group.errorCount * 100) / group.totalAttempts

def OtaCanaryGroup.check (group : OtaCanaryGroup) : OtaCanaryGroup :=
  if group.totalAttempts > 0 then
    if group.errorRate > group.errorRateThreshold.toUInt32 && decide (group.errorRateThreshold > 0) then
      { group with rollbackTriggered := true }
    else group
  else group

def otaCanaryRecordAttempt (group : Option (Fin otaCanaryMaxGroups)) (success : Bool) : OtaCanary × Bool :=
  match group with
  | none => (s, false)
  | some i =>
    if !(s.groups i).active then (s, false)
    else
      let group := ((s.groups i).count success).check
      (s.write i group, !group.rollbackTriggered)

def otaCanaryGetGroup (domainProfileId : DomainProfileId) (hwVariantId : UInt8) :
    Except OtaCanaryResult (Fin otaCanaryMaxGroups) :=
  if !s.initialised then .error .errParamNull
  else
    match s.findGroup domainProfileId hwVariantId with
    | some i => .ok i
    | none => .error .errGroupNotFound

def otaCanaryRollback (group : Option (Fin otaCanaryMaxGroups)) : OtaCanary × OtaCanaryResult :=
  match group with
  | none => (s, .errParamNull)
  | some i =>
    if !(s.groups i).active then (s, .errParamNull)
    else (s.write i { s.groups i with rollbackTriggered := true }, .ok)

def otaCanaryGetGroupCount : UInt8 :=
  if !s.initialised then 0 else UInt8.ofNat ((List.finRange otaCanaryMaxGroups).countP fun i => (s.groups i).active)

end Operations

/-- A wider wave keeps the devices of a narrower one. -/
theorem otaCanaryIsInCanary_mono {deviceUuid : Option (Vector UInt8 16)} {group : OtaCanaryGroup} {percentage : UInt8}
    (wider : group.canaryPercentage ≤ percentage) (inWave : otaCanaryIsInCanary deviceUuid (some group) = true) :
    otaCanaryIsInCanary deviceUuid (some { group with canaryPercentage := percentage }) = true := by
  cases deviceUuid with
  | none => exact inWave
  | some deviceUuid =>
    unfold otaCanaryIsInCanary at inWave ⊢
    dsimp only at inWave ⊢
    split at inWave
    · cases inWave
    · split at inWave
      · cases inWave
      · rename_i active nonzero
        have percentage_ne : ¬(percentage == 0) = true := by
          simp only [beq_iff_eq, UInt8.le_iff_toNat_le, ← UInt8.toNat_inj] at *
          have zero : (0 : UInt8).toNat = 0 := rfl
          omega
        rw [if_neg active, if_neg percentage_ne]
        split
        · rfl
        · rename_i partWave
          have partBefore : ¬group.canaryPercentage ≥ 100 := fun whole => partWave (UInt8.le_trans whole wider)
          rw [if_neg partBefore, decide_eq_true_eq] at inWave
          exact decide_eq_true (UInt8.lt_of_lt_of_le inWave wider)

/-! ### The table of groups -/

theorem OtaCanary.write_groups (s : OtaCanary) (i j : Fin otaCanaryMaxGroups) (group : OtaCanaryGroup) :
    (s.write i group).groups j = if j = i then group else s.groups j := Function.update_apply ..

theorem findFree_inactive {s : OtaCanary} {i : Fin otaCanaryMaxGroups} (free : s.findFree = some i) :
    (s.groups i).active = false := by
  have unused := List.find?_some free
  rwa [Bool.not_eq_true'] at unused

theorem find?_finRange_unique {n : Nat} {p : Fin n → Bool} {i : Fin n} (holds : p i = true) (unique : ∀ j, p j = true → j = i) :
    (List.finRange n).find? p = some i := by
  cases found : (List.finRange n).find? p with
  | none => exact absurd holds (List.find?_eq_none.mp found i (List.mem_finRange i))
  | some j => rw [unique j (List.find?_some found)]

theorem otaCanaryGetGroup_of_create {s : OtaCanary} {i : Fin otaCanaryMaxGroups} {domainProfileId : DomainProfileId}
    {hwVariantId canaryPercentage errorThreshold : UInt8}
    (created : (otaCanaryCreateGroup s domainProfileId hwVariantId canaryPercentage errorThreshold).2 = .ok i) :
    otaCanaryGetGroup (otaCanaryCreateGroup s domainProfileId hwVariantId canaryPercentage errorThreshold).1 domainProfileId
      hwVariantId = .ok i := by
  unfold otaCanaryCreateGroup at created ⊢
  cases initialised : s.initialised with
  | false =>
    rw [initialised] at created
    cases created
  | true =>
    rw [initialised] at created
    rw [Bool.not_true, if_neg Bool.false_ne_true] at created ⊢
    dsimp only at created ⊢
    cases known : s.findGroup domainProfileId hwVariantId with
    | some j =>
      rw [known] at created
      cases created
      simp [otaCanaryGetGroup, initialised, known]
    | none =>
      rw [known] at created
      cases free : s.findFree with
      | none =>
        rw [free] at created
        cases created
      | some j =>
        rw [free] at created
        cases created
        have others := List.find?_eq_none.mp known
        have found : (s.write i { domainProfileId, hwVariantId, canaryPercentage :=
            if canaryPercentage > 100 then 100 else canaryPercentage, errorRateThreshold := errorThreshold
                                  active := true }).findGroup domainProfileId hwVariantId = some i := by
          apply find?_finRange_unique
          · simp [OtaCanary.write_groups]
          · intro k matched
            by_contra other
            simp only [OtaCanary.write_groups, if_neg other] at matched
            exact others k (List.mem_finRange k) matched
        simp only [otaCanaryGetGroup, found]
        simp [OtaCanary.write, initialised]

/-- Eight bits are wide enough for the number of groups. -/
theorem toNat_otaCanaryGetGroupCount {s : OtaCanary} (initialised : s.initialised = true) :
    (otaCanaryGetGroupCount s).toNat = (List.finRange otaCanaryMaxGroups).countP fun i => (s.groups i).active := by
  have few : (List.finRange otaCanaryMaxGroups).countP (fun i => (s.groups i).active) ≤ otaCanaryMaxGroups := by
    refine Nat.le_trans List.countP_le_length ?_
    rw [List.length_finRange]
  unfold otaCanaryGetGroupCount
  rw [initialised, Bool.not_true, if_neg Bool.false_ne_true]
  exact UInt8.toNat_ofNat_of_lt' (Nat.lt_of_le_of_lt few (by decide))

/-! ### What a group should do -/

inductive CanaryEvent where
  | attempt (success : Bool)
  | rollback
  deriving DecidableEq, Repr

def CanaryEvent.isAttempt : CanaryEvent → Bool
  | .attempt _ => true
  | .rollback => false

def attempts (history : List CanaryEvent) : Nat := history.countP CanaryEvent.isAttempt

def errors (history : List CanaryEvent) : Nat := history.count (.attempt false)

/-- More than `threshold` per cent of the attempts failed. -/
def Exceeds (threshold : Nat) (history : List CanaryEvent) : Prop := threshold * attempts history < 100 * errors history

instance (threshold : Nat) (history : List CanaryEvent) : Decidable (Exceeds threshold history) :=
  inferInstanceAs (Decidable (_ < _))

/-- A rollback was called, or the rate went above the threshold after some attempt. -/
def ShouldRollBack (threshold : Nat) (history : List CanaryEvent) : Prop :=
  .rollback ∈ history ∨ ∃ before, before <+: history ∧ Exceeds threshold before

/-- The rate is not strictly between the threshold and the next whole per cent. -/
def WholePercent (threshold : Nat) (history : List CanaryEvent) : Prop :=
  100 * errors history ≤ threshold * attempts history ∨ (threshold + 1) * attempts history ≤ 100 * errors history

variable {threshold : Nat} {history : List CanaryEvent}

theorem attempts_attempt (history : List CanaryEvent) (success : Bool) :
    attempts (history ++ [.attempt success]) = attempts history + 1 := List.countP_append

theorem attempts_rollback (history : List CanaryEvent) : attempts (history ++ [.rollback]) = attempts history :=
  List.countP_append

theorem errors_attempt (history : List CanaryEvent) (success : Bool) :
    errors (history ++ [.attempt success]) = errors history + if success then 0 else 1 := by
  unfold errors
  rw [List.count_append]
  cases success <;> rfl

theorem errors_rollback (history : List CanaryEvent) : errors (history ++ [.rollback]) = errors history :=
  List.count_append

theorem errors_le_attempts (history : List CanaryEvent) : errors history ≤ attempts history := by
  apply List.countP_mono_left
  intro event _ failed
  rw [eq_of_beq failed]
  rfl

theorem not_shouldRollBack_nil (threshold : Nat) : ¬ShouldRollBack threshold [] := by
  rintro (called | ⟨before, starts, exceeds⟩)
  · cases called
  · obtain rfl := List.prefix_nil.mp starts
    exact Nat.not_lt_zero _ exceeds

theorem shouldRollBack_rollback (threshold : Nat) (history : List CanaryEvent) :
    ShouldRollBack threshold (history ++ [.rollback]) := .inl (List.mem_append_right _ List.mem_cons_self)

theorem shouldRollBack_attempt (threshold : Nat) (history : List CanaryEvent) (success : Bool) :
    ShouldRollBack threshold (history ++ [.attempt success]) ↔
      ShouldRollBack threshold history ∨ Exceeds threshold (history ++ [.attempt success]) := by
  unfold ShouldRollBack
  simp only [List.mem_append, List.mem_singleton, reduceCtorEq, or_false, List.prefix_concat_iff, or_and_right, exists_or,
    exists_eq_left]
  grind

theorem not_exceeds (calm : ¬ShouldRollBack threshold history) : ¬Exceeds threshold history := fun exceeds =>
  calm (.inr ⟨history, List.prefix_rfl, exceeds⟩)

/-! ### The rate of one group -/

structure OtaCanaryGroup.Counts (group : OtaCanaryGroup) (history : List CanaryEvent) : Prop where
  errorCount : group.errorCount = UInt32.ofNat (errors history)
  totalAttempts : group.totalAttempts = UInt32.ofNat (attempts history)

/-- The flag is set exactly when it should be. -/
def OtaCanaryGroup.Exact (group : OtaCanaryGroup) (history : List CanaryEvent) : Prop :=
  0 < group.errorRateThreshold → attempts history < 2 ^ 32 →
    (group.rollbackTriggered = true ↔ ShouldRollBack group.errorRateThreshold.toNat history)

variable {group : OtaCanaryGroup}

theorem OtaCanaryGroup.Counts.count (counts : group.Counts history) (success : Bool) :
    (group.count success).Counts (history ++ [.attempt success]) where
  errorCount := by
    rw [errors_attempt, OtaCanaryGroup.count]
    cases success with
    | true => exact counts.errorCount
    | false =>
      show group.errorCount + 1 = _
      rw [counts.errorCount, if_neg Bool.false_ne_true, UInt32.ofNat_add]
      rfl
  totalAttempts := by
    have total : (group.count success).totalAttempts = group.totalAttempts + 1 := by cases success <;> rfl
    rw [attempts_attempt, total, counts.totalAttempts, UInt32.ofNat_add]
    rfl

theorem OtaCanaryGroup.Counts.rollback (counts : group.Counts history) :
    ({ group with rollbackTriggered := true } : OtaCanaryGroup).Counts (history ++ [.rollback]) where
  errorCount := by
    rw [errors_rollback]
    exact counts.errorCount
  totalAttempts := by
    rw [attempts_rollback]
    exact counts.totalAttempts

theorem toNat_errorRate (counts : group.Counts history) (few : attempts history < 2 ^ 32) :
    group.errorRate.toNat = 100 * errors history % 2 ^ 32 / attempts history := by
  have fewErrors := Nat.lt_of_le_of_lt (errors_le_attempts history) few
  rw [OtaCanaryGroup.errorRate, counts.errorCount, counts.totalAttempts, UInt32.toNat_div, UInt32.toNat_mul,
    UInt32.toNat_ofNat_of_lt' few, UInt32.toNat_ofNat_of_lt' fewErrors, Nat.mul_comm]
  rfl

theorem lt_errorRate (counts : group.Counts history) (few : attempts history < 2 ^ 32) (some : 0 < attempts history)
    (above : threshold < group.errorRate.toNat) : (threshold + 1) * attempts history ≤ 100 * errors history := by
  rw [toNat_errorRate counts few] at above
  have whole := (Nat.le_div_iff_mul_le some).mp above
  exact Nat.le_trans whole (Nat.mod_le _ _)

/-- A rate that has just gone up by a whole per cent is that of a hundred attempts at most: no product overflows. -/
theorem lt_errorRate_of_first {success : Bool} (counts : group.Counts (history ++ [.attempt success]))
    (few : attempts (history ++ [.attempt success]) < 2 ^ 32) (calm : ¬Exceeds threshold history)
    (whole : (threshold + 1) * attempts (history ++ [.attempt success]) ≤ 100 * errors (history ++ [.attempt success])) :
    threshold < group.errorRate.toNat := by
  have fewErrors := errors_le_attempts (history ++ [.attempt success])
  rw [toNat_errorRate counts few]
  have early : attempts (history ++ [.attempt success]) ≤ 100 := by
    unfold Exceeds at calm
    rw [attempts_attempt, errors_attempt] at whole
    rw [attempts_attempt]
    split at whole <;> grind
  rw [Nat.mod_eq_of_lt (by omega)]
  exact (Nat.le_div_iff_mul_le (by rw [attempts_attempt]; omega)).mpr whole

@[simp] theorem OtaCanaryGroup.count_active (group : OtaCanaryGroup) (success : Bool) :
    (group.count success).active = group.active := by cases success <;> rfl

@[simp] theorem OtaCanaryGroup.count_rollbackTriggered (group : OtaCanaryGroup) (success : Bool) :
    (group.count success).rollbackTriggered = group.rollbackTriggered := by cases success <;> rfl

@[simp] theorem OtaCanaryGroup.count_errorRateThreshold (group : OtaCanaryGroup) (success : Bool) :
    (group.count success).errorRateThreshold = group.errorRateThreshold := by cases success <;> rfl

theorem OtaCanaryGroup.check_eq (group : OtaCanaryGroup) : ∃ triggered, group.check = { group with rollbackTriggered := triggered } := by
  unfold OtaCanaryGroup.check
  split
  · split
    · exact ⟨true, rfl⟩
    · exact ⟨_, rfl⟩
  · exact ⟨_, rfl⟩

theorem OtaCanaryGroup.Counts.check (counts : group.Counts history) : group.check.Counts history := by
  obtain ⟨triggered, checked⟩ := group.check_eq
  rw [checked]
  exact ⟨counts.errorCount, counts.totalAttempts⟩

@[simp] theorem OtaCanaryGroup.check_active (group : OtaCanaryGroup) : group.check.active = group.active := by
  obtain ⟨triggered, checked⟩ := group.check_eq
  rw [checked]

@[simp] theorem OtaCanaryGroup.check_errorRateThreshold (group : OtaCanaryGroup) :
    group.check.errorRateThreshold = group.errorRateThreshold := by
  obtain ⟨triggered, checked⟩ := group.check_eq
  rw [checked]

theorem OtaCanaryGroup.check_rollbackTriggered (group : OtaCanaryGroup) (positive : 0 < group.errorRateThreshold)
    (some : group.totalAttempts > 0) :
    group.check.rollbackTriggered = true ↔
      group.rollbackTriggered = true ∨ group.errorRateThreshold.toNat < group.errorRate.toNat := by
  have above : group.errorRate > group.errorRateThreshold.toUInt32 ↔ group.errorRateThreshold.toNat < group.errorRate.toNat := by
    rw [gt_iff_lt, UInt32.lt_iff_toNat_lt, UInt8.toNat_toUInt32]
  unfold OtaCanaryGroup.check
  rw [if_pos some, decide_eq_true (show group.errorRateThreshold > 0 from positive), Bool.and_true]
  simp only [decide_eq_true_eq]
  split
  · rename_i triggers
    exact iff_of_true rfl (.inr (above.mp triggers))
  · rename_i calm
    exact ⟨.inl, fun either => either.resolve_right fun triggers => calm (above.mpr triggers)⟩

/-- After an attempt the flag is as it should be exactly when, in a group that should not be rolled back yet, the rate is
not between the threshold and the next whole per cent. -/
theorem exact_attempt (counts : group.Counts history) (exact : group.Exact history) (success : Bool) :
    (group.count success).check.Exact (history ++ [.attempt success]) ↔
      (0 < group.errorRateThreshold → attempts (history ++ [.attempt success]) < 2 ^ 32 →
        ¬ShouldRollBack group.errorRateThreshold.toNat history →
        WholePercent group.errorRateThreshold.toNat (history ++ [.attempt success])) := by
  unfold OtaCanaryGroup.Exact
  rw [OtaCanaryGroup.check_errorRateThreshold, OtaCanaryGroup.count_errorRateThreshold]
  refine forall_congr' fun positive => forall_congr' fun few => ?_
  have counted := counts.count success
  have one : 0 < attempts (history ++ [.attempt success]) := by
    rw [attempts_attempt]
    exact Nat.succ_pos _
  have total : (group.count success).totalAttempts > 0 := by
    rw [gt_iff_lt, UInt32.lt_iff_toNat_lt, counted.totalAttempts, UInt32.toNat_ofNat_of_lt' few]
    exact one
  have before := exact positive (by rw [attempts_attempt] at few; omega)
  rw [OtaCanaryGroup.check_rollbackTriggered _ (by rwa [OtaCanaryGroup.count_errorRateThreshold]) total,
    OtaCanaryGroup.count_rollbackTriggered, OtaCanaryGroup.count_errorRateThreshold, before, shouldRollBack_attempt]
  by_cases done : ShouldRollBack group.errorRateThreshold.toNat history
  · exact iff_of_true (iff_of_true (.inl done) (.inl done)) fun calm => absurd done calm
  · simp only [done, false_or, not_false_eq_true, forall_true_left]
    have reaches : (group.errorRateThreshold.toNat + 1) * attempts (history ++ [.attempt success]) ≤
        100 * errors (history ++ [.attempt success]) ↔ group.errorRateThreshold.toNat < (group.count success).errorRate.toNat :=
      ⟨lt_errorRate_of_first counted few (not_exceeds done), lt_errorRate counted few one⟩
    have sound : group.errorRateThreshold.toNat < (group.count success).errorRate.toNat →
        Exceeds group.errorRateThreshold.toNat (history ++ [.attempt success]) := by
      intro triggers
      have whole := reaches.mpr triggers
      rw [Nat.add_mul, Nat.one_mul] at whole
      exact Nat.lt_of_lt_of_le (Nat.lt_add_of_pos_right one) whole
    rw [WholePercent, reaches, ← Nat.not_lt, ← Exceeds]
    tauto

/-! ### Runs -/

inductive OtaCanaryCall where
  | init
  | createGroup (domainProfileId : DomainProfileId) (hwVariantId canaryPercentage errorThreshold : UInt8)
  | recordAttempt (group : Option (Fin otaCanaryMaxGroups)) (success : Bool)
  | rollback (group : Option (Fin otaCanaryMaxGroups))
  deriving DecidableEq, Repr

def callOtaCanary (s : OtaCanary) : OtaCanaryCall → OtaCanary
  | .init => otaCanaryInit.1
  | .createGroup domainProfileId hwVariantId canaryPercentage errorThreshold =>
    (otaCanaryCreateGroup s domainProfileId hwVariantId canaryPercentage errorThreshold).1
  | .recordAttempt group success => (otaCanaryRecordAttempt s group success).1
  | .rollback group => (otaCanaryRollback s group).1

def OtaCanaryCall.target : OtaCanaryCall → Option (Fin otaCanaryMaxGroups)
  | .recordAttempt group _ | .rollback group => group
  | _ => none

def OtaCanaryCall.event : OtaCanaryCall → Option CanaryEvent
  | .recordAttempt _ success => some (.attempt success)
  | .rollback _ => some .rollback
  | _ => none

/-- The module with what has happened to each group since it was created. -/
structure OtaCanaryLedger where
  canary : OtaCanary := {}
  history : Fin otaCanaryMaxGroups → List CanaryEvent := fun _ => []

def canaryStep (l : OtaCanaryLedger) (call : OtaCanaryCall) : OtaCanaryLedger × Unit :=
  ({ canary := callOtaCanary l.canary call
     history := fun i =>
      if !(l.canary.groups i).active then []
      else if call.target = some i then l.history i ++ call.event.toList
      else l.history i }, ())

/-- Every group is rolled back exactly when it should be. -/
def RollbackExact (l : OtaCanaryLedger) : Prop :=
  ∀ i, (l.canary.groups i).active = true → (l.canary.groups i).Exact (l.history i)

/-- A group that is rolled back stays so while the module is not initialised anew. -/
def RollbackSticks (l : OtaCanaryLedger) (call : OtaCanaryCall) : Prop :=
  call ≠ .init → ∀ i, (l.canary.groups i).active = true → (l.canary.groups i).rollbackTriggered = true →
    ((canaryStep l call).1.canary.groups i).rollbackTriggered = true

/-- A call leaves the groups it is not about as they are. -/
def OtherGroupsKept (l : OtaCanaryLedger) (call : OtaCanaryCall) : Prop :=
  call ≠ .init → ∀ i, (l.canary.groups i).active = true → call.target ≠ some i →
    (canaryStep l call).1.canary.groups i = l.canary.groups i

/-- In a group that should not be rolled back yet, the attempt leaves a rate that is not between the threshold and the next
whole per cent. -/
def LeavesWholePercent (l : OtaCanaryLedger) : OtaCanaryCall → Prop
  | .recordAttempt (some i) success =>
    let threshold := (l.canary.groups i).errorRateThreshold
    let history := l.history i ++ [.attempt success]
    (l.canary.groups i).active = true → 0 < threshold → attempts history < 2 ^ 32 →
      ¬ShouldRollBack threshold.toNat (l.history i) → WholePercent threshold.toNat history
  | _ => True

variable {s : OtaCanary} {l : OtaCanaryLedger} {call : OtaCanaryCall} {i : Fin otaCanaryMaxGroups}

/-- A call writes nothing, or a new group to a free slot, or to the active group it is about; an init clears all. -/
theorem callOtaCanary_cases (s : OtaCanary) (call : OtaCanaryCall) :
    call = .init ∨ callOtaCanary s call = s ∨ ∃ i group, callOtaCanary s call = s.write i group ∧
      ((s.groups i).active = false ∧ group.Counts [] ∧ group.rollbackTriggered = false ∨
        (s.groups i).active = true ∧ call.target = some i) := by
  cases call with
  | init => exact .inl rfl
  | createGroup domainProfileId hwVariantId canaryPercentage errorThreshold =>
    right
    unfold callOtaCanary otaCanaryCreateGroup
    dsimp only
    split
    · exact .inl rfl
    · split
      · exact .inl rfl
      · split
        · exact .inr ⟨_, _, rfl, .inl ⟨findFree_inactive ‹_›, ⟨rfl, rfl⟩, rfl⟩⟩
        · exact .inl rfl
  | recordAttempt group success =>
    right
    unfold callOtaCanary otaCanaryRecordAttempt
    dsimp only
    split
    · exact .inl rfl
    · split
      · exact .inl rfl
      · rename_i active
        rw [Bool.not_eq_true', Bool.not_eq_false] at active
        exact .inr ⟨_, _, rfl, .inr ⟨active, rfl⟩⟩
  | rollback group =>
    right
    unfold callOtaCanary otaCanaryRollback
    dsimp only
    split
    · exact .inl rfl
    · split
      · exact .inl rfl
      · rename_i active
        rw [Bool.not_eq_true', Bool.not_eq_false] at active
        exact .inr ⟨_, _, rfl, .inr ⟨active, rfl⟩⟩

theorem callOtaCanary_inactive (inactive : (s.groups i).active = false) (call : OtaCanaryCall) :
    ((callOtaCanary s call).groups i).active = false ∨
      ((callOtaCanary s call).groups i).Counts [] ∧ ((callOtaCanary s call).groups i).rollbackTriggered = false := by
  rcases callOtaCanary_cases s call with rfl | same | ⟨j, group, written, new | ⟨active, -⟩⟩
  · exact .inl rfl
  · rw [same]
    exact .inl inactive
  · rw [written, OtaCanary.write_groups]
    split
    · exact .inr new.2
    · exact .inl inactive
  · have other : i ≠ j := by
      rintro rfl
      exact Bool.noConfusion (active.symm.trans inactive)
    rw [written, OtaCanary.write_groups, if_neg other]
    exact .inl inactive

theorem callOtaCanary_other (active : (s.groups i).active = true) (running : call ≠ .init) (other : call.target ≠ some i) :
    (callOtaCanary s call).groups i = s.groups i := by
  rcases callOtaCanary_cases s call with init | same | ⟨j, group, written, ⟨free, -⟩ | ⟨-, about⟩⟩
  · exact absurd init running
  · rw [same]
  · have taken : i ≠ j := by
      rintro rfl
      exact Bool.noConfusion (active.symm.trans free)
    rw [written, OtaCanary.write_groups, if_neg taken]
  · have untouched : i ≠ j := by
      rintro rfl
      exact other about
    rw [written, OtaCanary.write_groups, if_neg untouched]

theorem callOtaCanary_recordAttempt (active : (s.groups i).active = true) (success : Bool) :
    (callOtaCanary s (.recordAttempt (some i) success)).groups i = ((s.groups i).count success).check := by
  unfold callOtaCanary otaCanaryRecordAttempt
  simp [active, OtaCanary.write_groups]

theorem callOtaCanary_rollback (active : (s.groups i).active = true) :
    (callOtaCanary s (.rollback (some i))).groups i = { s.groups i with rollbackTriggered := true } := by
  unfold callOtaCanary otaCanaryRollback
  simp [active, OtaCanary.write_groups]

theorem rollbackSticks (l : OtaCanaryLedger) (call : OtaCanaryCall) : RollbackSticks l call := by
  intro running i active triggered
  show ((callOtaCanary l.canary call).groups i).rollbackTriggered = true
  by_cases about : call.target = some i
  · cases call with
    | recordAttempt group success =>
      cases about
      rw [callOtaCanary_recordAttempt active, OtaCanaryGroup.check]
      split
      · split
        · rfl
        · rwa [OtaCanaryGroup.count_rollbackTriggered]
      · rwa [OtaCanaryGroup.count_rollbackTriggered]
    | rollback group =>
      cases about
      rw [callOtaCanary_rollback active]
    | _ => cases about
  · rwa [callOtaCanary_other active running about]

theorem otherGroupsKept (l : OtaCanaryLedger) (call : OtaCanaryCall) : OtherGroupsKept l call :=
  fun running _ active other => callOtaCanary_other active running other

/-- The counters of each group count its attempts. -/
def CanaryCounts (l : OtaCanaryLedger) : Prop :=
  ∀ i, (l.canary.groups i).active = true → (l.canary.groups i).Counts (l.history i)

theorem canaryStep_history (l : OtaCanaryLedger) (call : OtaCanaryCall) (i : Fin otaCanaryMaxGroups) :
    (canaryStep l call).1.history i =
      if !(l.canary.groups i).active then []
      else if call.target = some i then l.history i ++ call.event.toList
      else l.history i := rfl

theorem leavesWholePercent_inactive (inactive : (l.canary.groups i).active = false) (about : call.target = some i) :
    LeavesWholePercent l call := by
  cases call with
  | recordAttempt group success =>
    cases about
    intro active
    exact Bool.noConfusion (active.symm.trans inactive)
  | _ => trivial

theorem leavesWholePercent_untargeted (general : call.target = none) : LeavesWholePercent l call := by
  cases call with
  | recordAttempt group success =>
    cases general
    trivial
  | _ => trivial

theorem canaryStep_active (active : (l.canary.groups i).active = true) (about : call.target = some i) :
    ((canaryStep l call).1.canary.groups i).active = true := by
  show ((callOtaCanary l.canary call).groups i).active = true
  cases call with
  | recordAttempt group success =>
    cases about
    rw [callOtaCanary_recordAttempt active, OtaCanaryGroup.check_active, OtaCanaryGroup.count_active, active]
  | rollback group =>
    cases about
    rw [callOtaCanary_rollback active]
    exact active
  | _ => cases about

/-- What becomes of one group: it counts on, and its flag is as it should be exactly when the call leaves a rate that the
quotient can tell from the threshold. -/
theorem canaryStep_group (counts : CanaryCounts l) (exact : RollbackExact l) (call : OtaCanaryCall) (i : Fin otaCanaryMaxGroups)
    (remains : ((canaryStep l call).1.canary.groups i).active = true) :
    ((canaryStep l call).1.canary.groups i).Counts ((canaryStep l call).1.history i) ∧
      (((canaryStep l call).1.canary.groups i).Exact ((canaryStep l call).1.history i) ↔
        (call.target = some i → LeavesWholePercent l call)) := by
  rw [canaryStep_history]
  change ((callOtaCanary l.canary call).groups i).active = true at remains
  show ((callOtaCanary l.canary call).groups i).Counts _ ∧ (((callOtaCanary l.canary call).groups i).Exact _ ↔ _)
  cases active : (l.canary.groups i).active with
  | false =>
    rw [Bool.not_false, if_pos rfl]
    rcases callOtaCanary_inactive active call with gone | ⟨new, calm⟩
    · exact Bool.noConfusion (remains.symm.trans gone)
    · refine ⟨new, iff_of_true (fun _ _ => ?_) (leavesWholePercent_inactive active)⟩
      rw [calm]
      exact iff_of_false Bool.false_ne_true (not_shouldRollBack_nil _)
  | true =>
    rw [Bool.not_true, if_neg Bool.false_ne_true]
    split
    · rename_i about
      cases call with
      | recordAttempt group success =>
        cases about
        rw [callOtaCanary_recordAttempt active, OtaCanaryCall.event, Option.toList_some]
        refine ⟨((counts i active).count success).check, ?_⟩
        rw [exact_attempt (counts i active) (exact i active)]
        simp only [OtaCanaryCall.target, LeavesWholePercent, active, forall_true_left]
      | rollback group =>
        cases about
        rw [callOtaCanary_rollback active]
        exact ⟨(counts i active).rollback,
          iff_of_true (fun _ _ => iff_of_true rfl (shouldRollBack_rollback _ _)) fun _ => trivial⟩
      | _ => cases about
    · rename_i other
      have running : call ≠ .init := by
        rintro rfl
        cases remains
      rw [callOtaCanary_other active running other]
      exact ⟨counts i active, iff_of_true (exact i active) fun about => absurd about other⟩

/-- In every run each group is rolled back exactly when a rollback was called or its rate went above the threshold, stays
so, and leaves the others alone, exactly when every attempt leaves a rate that is not between the threshold and the next
whole per cent. -/
theorem canary_rollback_exact (calls : List OtaCanaryCall) :
    Always RollbackExact canaryStep {} calls ∧ EachStep RollbackSticks canaryStep {} calls ∧
        EachStep OtherGroupsKept canaryStep {} calls ↔
      EachStep LeavesWholePercent canaryStep {} calls := by
  have start : CanaryCounts {} ∧ RollbackExact {} := by
    constructor
    · rintro i ⟨⟩
    · rintro i ⟨⟩
  have always : Always RollbackExact canaryStep {} calls ↔ EachStep LeavesWholePercent canaryStep {} calls := by
    apply always_iff_eachStep (J := fun l => CanaryCounts l ∧ RollbackExact l) start
    · rintro l ⟨-, exact⟩
      exact exact
    · rintro l call ⟨counts, exact⟩ whole
      have group := canaryStep_group counts exact call
      exact ⟨fun i remains => (group i remains).1, fun i remains => (group i remains).2.mpr fun _ => whole⟩
    · rintro l call ⟨counts, exact⟩ next
      cases about : call.target with
      | none => exact leavesWholePercent_untargeted about
      | some i =>
        cases active : (l.canary.groups i).active with
        | false => exact leavesWholePercent_inactive active about
        | true =>
          have remains := canaryStep_active active about
          exact (canaryStep_group counts exact call i remains).2.mp (next i remains) about
  rw [always]
  exact and_iff_left ⟨eachStep_iff.mpr fun _ call _ => rollbackSticks _ call, eachStep_iff.mpr fun _ call _ => otherGroupsKept _ call⟩

/-- At a threshold of 33 per cent one failure in three attempts is above it, and the quotient says 33. -/
theorem canary_third_not_rolled_back :
    let first : Fin otaCanaryMaxGroups := ⟨0, by decide⟩
    let calls : List OtaCanaryCall := [.init, .createGroup .home 1 10 33, .recordAttempt (some first) true,
      .recordAttempt (some first) true, .recordAttempt (some first) false]
    let l := finalState canaryStep {} calls
    (l.canary.groups first).active = true ∧ (l.canary.groups first).errorRateThreshold = 33 ∧ attempts (l.history first) = 3 ∧
      errors (l.history first) = 1 ∧ ShouldRollBack 33 (l.history first) ∧ (l.canary.groups first).rollbackTriggered = false ∧
      ¬Always RollbackExact canaryStep {} calls := by
  intro first calls l
  have threshold : (l.canary.groups first).errorRateThreshold = 33 := by decide
  have should : ShouldRollBack 33 (l.history first) := .inr ⟨_, List.prefix_rfl, by decide⟩
  have calm : (l.canary.groups first).rollbackTriggered = false := by decide
  refine ⟨by decide, threshold, by decide, by decide, should, calm, fun always => ?_⟩
  have exact : (l.canary.groups first).Exact (l.history first) := always 5 first (by decide)
  unfold OtaCanaryGroup.Exact at exact
  rw [threshold] at exact
  have triggered := (exact (by decide) (by decide)).mpr should
  exact Bool.noConfusion (triggered.symm.trans calm)

end IotPlatform
