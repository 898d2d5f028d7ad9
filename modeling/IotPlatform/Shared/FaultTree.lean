import Mathlib.Order.Bounds.Basic
import Mathlib.Data.List.Perm.Subperm
import IotPlatform.Lib.Run
import IotPlatform.Lib.Registry

/-!
# The fault tree

`fault_tree.c`: each fault reported is at a level of its own, raised by a matrix of fault and system level, and the system is
at the highest level of an active fault.
-/

namespace IotPlatform
open Table Run Registry

inductive DegradationLevel where
  | normal | reduced | localOnly | safeMode | emergency
  deriving DecidableEq, Repr

def DegradationLevel.toNat : DegradationLevel → Nat
  | .normal => 0
  | .reduced => 1
  | .localOnly => 2
  | .safeMode => 3
  | .emergency => 4

theorem DegradationLevel.toNat_injective : Function.Injective DegradationLevel.toNat := by
  intro a b same
  cases a <;> cases b <;> first | rfl | cases same

instance : LinearOrder DegradationLevel := LinearOrder.lift' DegradationLevel.toNat DegradationLevel.toNat_injective

theorem DegradationLevel.normal_le (level : DegradationLevel) : .normal ≤ level := Nat.zero_le level.toNat

inductive FaultId where
  | none | radioLost | cloudUnreachable | sensorInvalid | attestationFailed | flashWriteError | clockDrift | memoryLow
  | ruleEngineStall
  deriving DecidableEq, Repr

def FaultId.all : List FaultId :=
  [.none, .radioLost, .cloudUnreachable, .sensorInvalid, .attestationFailed, .flashWriteError, .clockDrift, .memoryLow,
    .ruleEngineStall]

theorem FaultId.mem_all (id : FaultId) : id ∈ FaultId.all := by cases id <;> decide

def faultTreeMaxFaults : Nat := 16

structure FaultState where
  faultId : FaultId
  currentLevel : DegradationLevel := .normal
  sinceMs : UInt32 := 0
  count : UInt32 := 0
  active : Bool := false
  deriving DecidableEq

/-- `faults` are the first `fault_count` slots. -/
structure FaultTreeContext where
  faults : List FaultState := []
  systemLevel : DegradationLevel := .normal
  initialized : Bool := false

/-- One row of the matrix, the columns the system levels from `NORMAL` up. -/
def matrixRow (l0 l1 l2 l3 l4 : DegradationLevel) : DegradationLevel → DegradationLevel
  | .normal => l0
  | .reduced => l1
  | .localOnly => l2
  | .safeMode => l3
  | .emergency => l4

def degradationMatrix : FaultId → DegradationLevel → DegradationLevel
  | .none => matrixRow .normal .normal .normal .normal .normal
  | .radioLost => matrixRow .reduced .localOnly .localOnly .safeMode .emergency
  | .cloudUnreachable => matrixRow .reduced .localOnly .localOnly .safeMode .emergency
  | .sensorInvalid => matrixRow .reduced .localOnly .safeMode .safeMode .emergency
  | .attestationFailed => matrixRow .localOnly .safeMode .safeMode .safeMode .emergency
  | .flashWriteError => matrixRow .reduced .reduced .localOnly .safeMode .emergency
  | .clockDrift => matrixRow .reduced .localOnly .localOnly .safeMode .emergency
  | .memoryLow => matrixRow .reduced .localOnly .safeMode .emergency .emergency
  | .ruleEngineStall => matrixRow .safeMode .emergency .emergency .emergency .emergency

/-- The loop of `evaluate_system_level`, `maxLevel` the level so far. -/
def evaluateFrom (maxLevel : DegradationLevel) : List FaultState → DegradationLevel
  | [] => maxLevel
  | f :: rest => evaluateFrom (if f.active && decide (f.currentLevel > maxLevel) then f.currentLevel else maxLevel) rest

def evaluateSystemLevel (faults : List FaultState) : DegradationLevel := evaluateFrom .normal faults

def faultTreeInit : FaultTreeContext := { initialized := true }

def FaultState.report (newLevel : DegradationLevel) (timestamp : UInt32) (f : FaultState) : FaultState :=
  { f with
    active := true
    count := f.count + 1
    currentLevel := if newLevel > f.currentLevel then newLevel else f.currentLevel
    sinceMs := timestamp }

def faultTreeReportFault (ctx : FaultTreeContext) (faultId : FaultId) (timestamp : UInt32) :
    FaultTreeContext × DegradationLevel :=
  if !ctx.initialized then (ctx, .emergency)
  else
    let newLevel := degradationMatrix faultId ctx.systemLevel
    let reported (faults : List FaultState) : FaultTreeContext × DegradationLevel :=
      let faults := updateFirst (·.faultId == faultId) (·.report newLevel timestamp) faults
      let systemLevel := evaluateSystemLevel faults
      ({ ctx with faults := faults, systemLevel := systemLevel }, systemLevel)
    if (ctx.faults.find? (·.faultId == faultId)).isSome then reported ctx.faults
    else if ctx.faults.length < faultTreeMaxFaults then reported (ctx.faults ++ [{ faultId := faultId }])
    else (ctx, ctx.systemLevel)

def FaultState.clear (f : FaultState) : FaultState := { f with active := false, currentLevel := .normal }

def faultTreeClearFault (ctx : FaultTreeContext) (faultId : FaultId) : FaultTreeContext × DegradationLevel :=
  if !ctx.initialized then (ctx, .emergency)
  else
    let faults := updateFirst (·.faultId == faultId) FaultState.clear ctx.faults
    let systemLevel := evaluateSystemLevel faults
    ({ ctx with faults := faults, systemLevel := systemLevel }, systemLevel)

inductive FaultOp where
  | reportFault (faultId : FaultId) (timestamp : UInt32)
  | clearFault (faultId : FaultId)

def faultStep (ctx : FaultTreeContext) : FaultOp → FaultTreeContext × DegradationLevel
  | .reportFault faultId timestamp => faultTreeReportFault ctx faultId timestamp
  | .clearFault faultId => faultTreeClearFault ctx faultId

/-! ### The level of the system -/

def activeLevels (faults : List FaultState) : Set DegradationLevel :=
  { level | ∃ f ∈ faults, f.active = true ∧ f.currentLevel = level }

theorem evaluateFrom_isGreatest (maxLevel : DegradationLevel) (faults : List FaultState) :
    IsGreatest (insert maxLevel (activeLevels faults)) (evaluateFrom maxLevel faults) := by
  induction faults generalizing maxLevel with
  | nil => simp [evaluateFrom, activeLevels]
  | cons f rest ih =>
    rw [evaluateFrom]
    obtain ⟨member, above⟩ := ih (if f.active && decide (f.currentLevel > maxLevel) then f.currentLevel else maxLevel)
    constructor
    · rcases member with start | ⟨g, inside, active, same⟩
      · rw [start]
        split
        · rename_i raised
          rw [Bool.and_eq_true] at raised
          exact .inr ⟨f, List.mem_cons_self, raised.1, rfl⟩
        · exact .inl rfl
      · exact .inr ⟨g, List.mem_cons_of_mem _ inside, active, same⟩
    · have start := above (Set.mem_insert _ _)
      rintro level (rfl | ⟨g, inside, active, rfl⟩)
      · refine le_trans ?_ start
        split
        · rename_i raised
          rw [Bool.and_eq_true, decide_eq_true_eq] at raised
          exact le_of_lt raised.2
        · exact le_refl _
      · rcases List.mem_cons.mp inside with rfl | later
        · refine le_trans ?_ start
          rw [active, Bool.true_and]
          split
          · exact le_refl _
          · rename_i notAbove
            rw [decide_eq_true_eq] at notAbove
            exact not_lt.mp notAbove
        · exact above (.inr ⟨g, later, active, rfl⟩)

theorem evaluateSystemLevel_eq_iff {faults : List FaultState} {level : DegradationLevel} :
    evaluateSystemLevel faults = level ↔ IsGreatest (insert .normal (activeLevels faults)) level :=
  ⟨fun same => same ▸ evaluateFrom_isGreatest .normal faults, fun greatest =>
    (evaluateFrom_isGreatest .normal faults).unique greatest⟩

theorem le_evaluateSystemLevel {faults : List FaultState} {f : FaultState} (member : f ∈ faults) (active : f.active = true) :
    f.currentLevel ≤ evaluateSystemLevel faults :=
  (evaluateFrom_isGreatest .normal faults).2 (.inr ⟨f, member, active, rfl⟩)

theorem evaluateSystemLevel_le {faults : List FaultState} {level : DegradationLevel}
    (bound : ∀ f ∈ faults, f.active = true → f.currentLevel ≤ level) : evaluateSystemLevel faults ≤ level := by
  rcases (evaluateFrom_isGreatest .normal faults).1 with normal | ⟨f, member, active, same⟩
  · rw [evaluateSystemLevel, normal]
    exact level.normal_le
  · rw [evaluateSystemLevel, ← same]
    exact bound f member active

/-! ### What every call keeps -/

structure FaultTreeContext.WellFormed (ctx : FaultTreeContext) : Prop where
  ready : ctx.initialized = true
  distinct : (ctx.faults.map FaultState.faultId).Nodup
  quiet : ∀ f ∈ ctx.faults, f.active = false → f.currentLevel = .normal
  level : ctx.systemLevel = evaluateSystemLevel ctx.faults

theorem faultTreeInit_wellFormed : faultTreeInit.WellFormed := ⟨rfl, List.nodup_nil, by simp [faultTreeInit], rfl⟩

section Calls

variable {ctx : FaultTreeContext}

theorem FaultTreeContext.WellFormed.room (wf : ctx.WellFormed) : ctx.faults.length < faultTreeMaxFaults := by
  have within := (wf.distinct.subperm fun id _ => id.mem_all).length_le
  rw [List.length_map] at within
  exact Nat.lt_of_le_of_lt within (by decide)

/-- The slots after a fault's own one was found or added. -/
def FaultTreeContext.withSlot (ctx : FaultTreeContext) (faultId : FaultId) : List FaultState :=
  if (ctx.faults.find? (·.faultId == faultId)).isSome then ctx.faults else ctx.faults ++ [{ faultId := faultId }]

/-- The tree with these slots and the level they give. -/
def FaultTreeContext.withFaults (ctx : FaultTreeContext) (faults : List FaultState) : FaultTreeContext :=
  { ctx with faults := faults, systemLevel := evaluateSystemLevel faults }

theorem updateFirst_faultId {faults : List FaultState} (distinct : (faults.map FaultState.faultId).Nodup)
    (faultId : FaultId) (f : FaultState → FaultState) :
    updateFirst (·.faultId == faultId) f faults = faults.map fun g => if g.faultId = faultId then f g else g :=
  updateFirst_eq_map distinct fun _ _ => beq_iff_eq

theorem FaultTreeContext.WellFormed.withSlot_distinct (wf : ctx.WellFormed) (faultId : FaultId) :
    ((ctx.withSlot faultId).map FaultState.faultId).Nodup := by
  rw [withSlot]
  split
  · exact wf.distinct
  · rename_i absent
    exact distinct_concat (mt isSome_find?_key.mpr absent) wf.distinct

theorem mem_withSlot {f : FaultState} {faultId : FaultId} (member : f ∈ ctx.withSlot faultId) :
    f ∈ ctx.faults ∨ f = { faultId := faultId } := by
  rw [FaultTreeContext.withSlot] at member
  split at member
  · exact .inl member
  · exact (List.mem_append.mp member).imp_right List.mem_singleton.mp

theorem subset_withSlot (ctx : FaultTreeContext) (faultId : FaultId) : ctx.faults ⊆ ctx.withSlot faultId := by
  rw [FaultTreeContext.withSlot]
  split
  · exact List.Subset.refl _
  · exact List.subset_append_left _ _

theorem exists_mem_withSlot (ctx : FaultTreeContext) (faultId : FaultId) :
    ∃ f ∈ ctx.withSlot faultId, f.faultId = faultId := by
  rw [FaultTreeContext.withSlot]
  split
  · rename_i present
    obtain ⟨f, found⟩ := Option.isSome_iff_exists.mp present
    exact ⟨f, List.mem_of_find?_eq_some found, by simpa using List.find?_some found⟩
  · exact ⟨_, List.mem_append_right _ (List.mem_singleton_self _), rfl⟩

theorem faultTreeReportFault_eq (wf : ctx.WellFormed) (faultId : FaultId) (timestamp : UInt32) :
    (faultTreeReportFault ctx faultId timestamp).1 = ctx.withFaults ((ctx.withSlot faultId).map fun g =>
      if g.faultId = faultId then g.report (degradationMatrix faultId ctx.systemLevel) timestamp else g) ∧
    (faultTreeReportFault ctx faultId timestamp).2 = (faultTreeReportFault ctx faultId timestamp).1.systemLevel := by
  have called : faultTreeReportFault ctx faultId timestamp =
      (ctx.withFaults (updateFirst (·.faultId == faultId)
          (·.report (degradationMatrix faultId ctx.systemLevel) timestamp) (ctx.withSlot faultId)),
        evaluateSystemLevel (updateFirst (·.faultId == faultId)
          (·.report (degradationMatrix faultId ctx.systemLevel) timestamp) (ctx.withSlot faultId))) := by
    have room := wf.room
    simp only [faultTreeReportFault, FaultTreeContext.withSlot, FaultTreeContext.withFaults, wf.ready, Bool.not_true,
      Bool.false_eq_true, if_false, if_pos room]
    split <;> rfl
  rw [called, updateFirst_faultId (wf.withSlot_distinct faultId)]
  exact ⟨rfl, rfl⟩

theorem faultTreeClearFault_eq (wf : ctx.WellFormed) (faultId : FaultId) :
    (faultTreeClearFault ctx faultId).1 =
      ctx.withFaults (ctx.faults.map fun g => if g.faultId = faultId then g.clear else g) := by
  rw [← updateFirst_faultId wf.distinct]
  simp [faultTreeClearFault, FaultTreeContext.withFaults, wf.ready]

theorem map_ite_faultId (f : FaultState → FaultState) (keeps : ∀ g, (f g).faultId = g.faultId) (faultId : FaultId)
    (faults : List FaultState) :
    (faults.map fun g => if g.faultId = faultId then f g else g).map FaultState.faultId =
      faults.map FaultState.faultId := by
  rw [List.map_map]
  apply List.map_congr_left
  intro g _
  show (if g.faultId = faultId then f g else g).faultId = g.faultId
  split
  · exact keeps g
  · rfl

theorem faultTreeReportFault_wellFormed (wf : ctx.WellFormed) (faultId : FaultId) (timestamp : UInt32) :
    (faultTreeReportFault ctx faultId timestamp).1.WellFormed := by
  rw [(faultTreeReportFault_eq wf faultId timestamp).1]
  refine ⟨wf.ready, ?_, ?_, rfl⟩
  · show ((List.map _ _).map FaultState.faultId).Nodup
    rw [map_ite_faultId (·.report _ timestamp) fun _ => rfl]
    exact wf.withSlot_distinct faultId
  · intro f member inactive
    obtain ⟨g, inside, rfl⟩ := List.mem_map.mp member
    by_cases own : g.faultId = faultId
    · rw [if_pos own] at inactive
      exact absurd inactive (by simp [FaultState.report])
    · rw [if_neg own] at inactive ⊢
      rcases mem_withSlot inside with old | new
      · exact wf.quiet g old inactive
      · exact absurd (congrArg FaultState.faultId new) own

theorem faultTreeClearFault_wellFormed (wf : ctx.WellFormed) (faultId : FaultId) :
    (faultTreeClearFault ctx faultId).1.WellFormed := by
  rw [faultTreeClearFault_eq wf faultId]
  refine ⟨wf.ready, ?_, ?_, rfl⟩
  · show ((List.map _ _).map FaultState.faultId).Nodup
    rw [map_ite_faultId FaultState.clear fun _ => rfl]
    exact wf.distinct
  · intro f member inactive
    obtain ⟨g, inside, rfl⟩ := List.mem_map.mp member
    by_cases own : g.faultId = faultId
    · rw [if_pos own]
      rfl
    · rw [if_neg own] at inactive ⊢
      exact wf.quiet g inside inactive

theorem faultStep_wellFormed (ctx : FaultTreeContext) (op : FaultOp) (wf : ctx.WellFormed) :
    (faultStep ctx op).1.WellFormed := by
  cases op with
  | reportFault faultId timestamp => exact faultTreeReportFault_wellFormed wf faultId timestamp
  | clearFault faultId => exact faultTreeClearFault_wellFormed wf faultId

end Calls

theorem reachable_wellFormed (ops : List FaultOp) : (finalState faultStep faultTreeInit ops).WellFormed :=
  finalState_invariant faultTreeInit_wellFormed faultStep_wellFormed ops

/-! ### Reports -/

theorem FaultState.le_report (f : FaultState) (newLevel : DegradationLevel) (timestamp : UInt32) :
    f.currentLevel ≤ (f.report newLevel timestamp).currentLevel ∧ newLevel ≤ (f.report newLevel timestamp).currentLevel := by
  rw [FaultState.report]
  dsimp only
  split
  · rename_i raised
    exact ⟨le_of_lt raised, le_refl _⟩
  · rename_i kept
    exact ⟨le_refl _, not_lt.mp kept⟩

theorem faultTreeReportFault_level {ctx : FaultTreeContext} (wf : ctx.WellFormed) (faultId : FaultId) (timestamp : UInt32) :
    ctx.systemLevel ≤ (faultTreeReportFault ctx faultId timestamp).1.systemLevel ∧
      degradationMatrix faultId ctx.systemLevel ≤ (faultTreeReportFault ctx faultId timestamp).2 := by
  obtain ⟨called, returned⟩ := faultTreeReportFault_eq wf faultId timestamp
  rw [returned, called]
  constructor
  · rw [wf.level]
    refine evaluateSystemLevel_le fun f member active => ?_
    have slot := List.mem_map_of_mem (f := fun g =>
      if g.faultId = faultId then g.report (degradationMatrix faultId ctx.systemLevel) timestamp else g)
      (subset_withSlot ctx faultId member)
    by_cases own : f.faultId = faultId
    · simp only [if_pos own] at slot
      rw [← wf.level]
      exact le_trans (f.le_report _ timestamp).1 (le_evaluateSystemLevel slot rfl)
    · simp only [if_neg own] at slot
      rw [← wf.level]
      exact le_evaluateSystemLevel slot active
  · obtain ⟨f, member, own⟩ := exists_mem_withSlot ctx faultId
    have slot := List.mem_map_of_mem (f := fun g =>
      if g.faultId = faultId then g.report (degradationMatrix faultId ctx.systemLevel) timestamp else g) member
    simp only [if_pos own] at slot
    exact le_trans (f.le_report _ timestamp).2 (le_evaluateSystemLevel slot rfl)

/-- After any run the system is at the highest level of an active fault, each fault has one slot, and a fault that is not
active has no level; a report never lowers the system level and raises it at least to the entry of the matrix. -/
theorem fault_levels_invariant (ops : List FaultOp) :
    let ctx := finalState faultStep faultTreeInit ops
    IsGreatest (insert .normal (activeLevels ctx.faults)) ctx.systemLevel ∧
      (ctx.faults.map FaultState.faultId).Nodup ∧
      (∀ f ∈ ctx.faults, f.active = false → f.currentLevel = .normal) ∧
      ∀ faultId timestamp,
        ctx.systemLevel ≤ (faultTreeReportFault ctx faultId timestamp).1.systemLevel ∧
          degradationMatrix faultId ctx.systemLevel ≤ (faultTreeReportFault ctx faultId timestamp).2 := by
  intro ctx
  have wf : ctx.WellFormed := reachable_wellFormed ops
  exact ⟨evaluateSystemLevel_eq_iff.mp wf.level.symm, wf.distinct, wf.quiet, faultTreeReportFault_level wf⟩

/-! ### Recovery -/

/-- A clear that lowers the system level leaves no fault active. -/
def RecoversWhenAllCleared (ctx : FaultTreeContext) : FaultOp → Prop
  | .clearFault faultId =>
    (faultTreeClearFault ctx faultId).1.systemLevel < ctx.systemLevel →
      ∀ f ∈ (faultTreeClearFault ctx faultId).1.faults, f.active = false
  | .reportFault .. => True

/-- The fault to clear is the only active one, or another active fault is at the level of the system. -/
def ClearsLastOrShared (ctx : FaultTreeContext) : FaultOp → Prop
  | .clearFault faultId =>
    (∀ f ∈ ctx.faults, f.active = true → f.faultId = faultId) ∨
      ∃ f ∈ ctx.faults, f.active = true ∧ f.faultId ≠ faultId ∧ f.currentLevel = ctx.systemLevel
  | .reportFault .. => True

section Clears

variable {ctx : FaultTreeContext} {faultId : FaultId} {f : FaultState}

theorem mem_clearFault_of_other (wf : ctx.WellFormed) (member : f ∈ ctx.faults) (other : f.faultId ≠ faultId) :
    f ∈ (faultTreeClearFault ctx faultId).1.faults := by
  rw [faultTreeClearFault_eq wf faultId]
  exact List.mem_map.mpr ⟨f, member, if_neg other⟩

theorem active_of_mem_clearFault (wf : ctx.WellFormed) (member : f ∈ (faultTreeClearFault ctx faultId).1.faults)
    (active : f.active = true) : f ∈ ctx.faults ∧ f.faultId ≠ faultId := by
  rw [faultTreeClearFault_eq wf faultId] at member
  obtain ⟨g, inside, rfl⟩ := List.mem_map.mp member
  by_cases own : g.faultId = faultId
  · rw [if_pos own] at active
    cases active
  · rw [if_neg own]
    exact ⟨inside, own⟩

theorem recoversWhenAllCleared_iff (wf : ctx.WellFormed) (op : FaultOp) :
    RecoversWhenAllCleared ctx op ↔ ClearsLastOrShared ctx op := by
  cases op with
  | reportFault => exact Iff.rfl
  | clearFault faultId =>
    have after := faultTreeClearFault_wellFormed wf faultId
    constructor
    · intro recovers
      by_cases lowered : (faultTreeClearFault ctx faultId).1.systemLevel < ctx.systemLevel
      · left
        intro f member active
        by_contra other
        have inactive := recovers lowered f (mem_clearFault_of_other wf member other)
        rw [active] at inactive
        cases inactive
      · have kept := not_lt.mp lowered
        have bounded : ∀ {f}, f ∈ ctx.faults → f.active = true → f.currentLevel ≤ ctx.systemLevel := fun member active =>
          wf.level ▸ le_evaluateSystemLevel member active
        rcases (evaluateSystemLevel_eq_iff.mp after.level.symm).1 with normal | ⟨f, member, active, same⟩
        · rw [normal] at kept
          by_cases alone : ∀ f ∈ ctx.faults, f.active = true → f.faultId = faultId
          · exact .inl alone
          · push Not at alone
            obtain ⟨f, member, active, other⟩ := alone
            have low := le_trans (bounded member active) kept
            exact .inr ⟨f, member, active, other, le_antisymm (bounded member active) (le_trans kept f.currentLevel.normal_le)⟩
        · obtain ⟨member, other⟩ := active_of_mem_clearFault wf member active
          exact .inr ⟨f, member, active, other, le_antisymm (bounded member active) (same ▸ kept)⟩
    · rintro (alone | ⟨f, member, active, other, level⟩) lowered g inside
      · by_contra still
        rw [Bool.not_eq_false] at still
        obtain ⟨old, other⟩ := active_of_mem_clearFault wf inside still
        exact other (alone g old still)
      · have reached := le_evaluateSystemLevel (mem_clearFault_of_other wf member other) active
        rw [← after.level, level] at reached
        exact absurd lowered (not_lt.mpr reached)

end Clears

/-- In a run the system recovers only when all faults are cleared, exactly when each clear finds no other fault active, or
another active fault at the level of the system. -/
theorem recovery_exact (ops : List FaultOp) :
    EachStep RecoversWhenAllCleared faultStep faultTreeInit ops ↔ EachStep ClearsLastOrShared faultStep faultTreeInit ops := by
  apply eachStep_iff_of_invariant faultTreeInit_wellFormed faultStep_wellFormed
  intro s op wf
  exact recoversWhenAllCleared_iff wf op

/-- The rule engine runs again, and the system leaves the emergency although the radio is still lost. -/
theorem recovers_with_radio_lost :
    ¬EachStep RecoversWhenAllCleared faultStep faultTreeInit
      [.reportFault .radioLost 0, .reportFault .ruleEngineStall 1, .clearFault .ruleEngineStall] := by
  rintro ⟨-, -, recovers, -⟩
  have cleared := recovers (by decide) ⟨.radioLost, .reduced, 0, 1, true⟩ (by decide)
  cases cleared

end IotPlatform
