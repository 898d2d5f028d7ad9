import IotPlatform.Lib.Latest
import IotPlatform.Shared.SafetyRuns

/-!
# Safety rules and their deadlines

The context has the last evaluation of every reported rule, as long as there are no more than 32 of them. No check reads
it.
-/

namespace IotPlatform
open Run Table Latest

/-! ### The table of rules -/

def lastOf (rules : List SafetyRuleTracker) (ruleId : UInt16) : Option UInt64 :=
  (rules.find? (·.tracks ruleId)).map SafetyRuleTracker.lastEvaluatedMs

def FewRules (reports : List (UInt16 × UInt64)) : Prop :=
  (reports.map Prod.fst).dedup.length ≤ safetyMonitorMaxRules

/-- Every slot is in use, for a reported rule of its own, and if there are slots enough each holds the last evaluation
of its rule. -/
structure Tracked (rules : List SafetyRuleTracker) (reports : List (UInt16 × UInt64)) : Prop where
  active : ∀ r ∈ rules, r.active = true
  distinct : (rules.map SafetyRuleTracker.ruleId).Nodup
  reported : ∀ id ∈ rules.map SafetyRuleTracker.ruleId, id ∈ reports.map Prod.fst
  last : FewRules reports → ∀ ruleId, lastOf rules ruleId = latest reports ruleId

section Tracking

variable {rules : List SafetyRuleTracker} {reports : List (UInt16 × UInt64)} {ruleId : UInt16}

theorem oneKey_tracks : OneKey SafetyRuleTracker.tracks := by
  intro r a b own other
  simp only [SafetyRuleTracker.tracks, Bool.and_eq_true, beq_iff_eq] at own other
  exact own.2.symm.trans other.2

theorem tracks_refresh (ruleId : UInt16) (timestamp : UInt64) (r : SafetyRuleTracker) :
    (r.refresh timestamp).tracks ruleId = r.tracks ruleId := rfl

theorem few_of_concat {report : UInt16 × UInt64} (few : FewRules (reports ++ [report])) : FewRules reports := by
  rw [FewRules, List.map_append] at few
  exact Nat.le_trans (length_dedup_le_append _ _) few

theorem Tracked.find?_eq_none (tracked : Tracked rules reports) :
    rules.find? (·.tracks ruleId) = none ↔ ruleId ∉ rules.map SafetyRuleTracker.ruleId := by
  rw [List.find?_eq_none, List.mem_map]
  constructor
  · rintro absent ⟨r, slot, rfl⟩
    exact absent r slot (by simp [SafetyRuleTracker.tracks, tracked.active r slot])
  · intro absent r slot tracks
    simp only [SafetyRuleTracker.tracks, Bool.and_eq_true, beq_iff_eq] at tracks
    exact absent ⟨r, slot, tracks.2⟩

theorem Tracked.reported_concat (tracked : Tracked rules reports) {report : UInt16 × UInt64} {id : UInt16}
    (member : id ∈ rules.map SafetyRuleTracker.ruleId) : id ∈ (reports ++ [report]).map Prod.fst := by
  rw [List.map_append]
  exact List.mem_append_left _ (tracked.reported id member)

theorem Tracked.update (tracked : Tracked rules reports) (timestamp : UInt64)
    (known : (rules.find? (·.tracks ruleId)).isSome) :
    Tracked (updateFirst (·.tracks ruleId) (·.refresh timestamp) rules) (reports ++ [(ruleId, timestamp)]) := by
  have ids : (updateFirst (·.tracks ruleId) (·.refresh timestamp) rules).map SafetyRuleTracker.ruleId =
      rules.map SafetyRuleTracker.ruleId := map_updateFirst fun _ => rfl
  refine ⟨forall_updateFirst tracked.active fun _ active => active, ids.symm ▸ tracked.distinct, fun id member => ?_,
    fun few other => ?_⟩
  · rw [ids] at member
    exact tracked.reported_concat member
  · rw [lastOf, latest_concat, find?_updateFirst_key oneKey_tracks fun ruleId => tracks_refresh ruleId timestamp]
    split
    · obtain ⟨slot, found⟩ := Option.isSome_iff_exists.mp known
      rw [found]
      rfl
    · exact tracked.last (few_of_concat few) other

theorem Tracked.insert (tracked : Tracked rules reports) (timestamp : UInt64)
    (absent : rules.find? (·.tracks ruleId) = none) :
    Tracked (rules ++ [{ ruleId := ruleId, lastEvaluatedMs := timestamp, active := true }])
      (reports ++ [(ruleId, timestamp)]) := by
  have own : SafetyRuleTracker.tracks ruleId { ruleId := ruleId, lastEvaluatedMs := timestamp, active := true } = true := by
    simp [SafetyRuleTracker.tracks]
  refine ⟨fun r member => ?_, ?_, fun id member => ?_, fun few other => ?_⟩
  · rcases List.mem_append.mp member with old | new
    · exact tracked.active r old
    · rw [List.mem_singleton.mp new]
  · rw [List.map_append, List.map_singleton, ← List.concat_eq_append]
    exact tracked.distinct.concat (tracked.find?_eq_none.mp absent)
  · rw [List.map_append, List.mem_append] at member ⊢
    exact member.imp_left (tracked.reported id)
  · rw [lastOf, latest_concat, find?_concat_key oneKey_tracks own absent]
    split
    · rfl
    · exact tracked.last (few_of_concat few) other

/-- A report that finds the table full of other rules is that of a rule too many. -/
theorem Tracked.ignore (tracked : Tracked rules reports) (timestamp : UInt64)
    (absent : rules.find? (·.tracks ruleId) = none) (full : ¬rules.length < safetyMonitorMaxRules) :
    Tracked rules (reports ++ [(ruleId, timestamp)]) := by
  refine ⟨tracked.active, tracked.distinct, fun id member => tracked.reported_concat member, fun few => ?_⟩
  have among : ∀ id ∈ ruleId :: rules.map SafetyRuleTracker.ruleId,
      id ∈ (reports ++ [(ruleId, timestamp)]).map Prod.fst := by
    intro id member
    rcases List.mem_cons.mp member with rfl | old
    · exact List.mem_map_of_mem (List.mem_append_right _ List.mem_cons_self)
    · exact tracked.reported_concat old
  have room := room_for_fresh tracked.distinct (tracked.find?_eq_none.mp absent) among few
  rw [List.length_map] at room
  exact absurd room full

end Tracking

theorem ruleEvaluated_tracked {l : SafetyLedger} (tracked : Tracked l.ctx.rules l.reports) (ruleId : UInt16)
    (timestamp : UInt64) :
    Tracked (safetyStep l (.ruleEvaluated ruleId timestamp)).1.ctx.rules
      (safetyStep l (.ruleEvaluated ruleId timestamp)).1.reports := by
  simp only [safetyStep, safetyMonitorRuleEvaluated]
  split
  · exact tracked
  · split
    · rename_i known
      exact tracked.update timestamp known
    · rename_i unknown
      have absent := Option.not_isSome_iff_eq_none.mp unknown
      split
      · exact tracked.insert timestamp absent
      · rename_i full
        exact tracked.ignore timestamp absent full

theorem safetyStep_tracked {l : SafetyLedger} (tracked : Tracked l.ctx.rules l.reports) (x : SafetyCall) :
    Tracked (safetyStep l x).1.ctx.rules (safetyStep l x).1.reports := by
  cases x with
  | init failsafe =>
    cases failsafe with
    | false => exact tracked
    | true =>
      refine ⟨fun _ member => absurd member List.not_mem_nil, List.nodup_nil, fun _ member => ?_, fun _ _ => rfl⟩
      exact absurd member List.not_mem_nil
  | heartbeat now =>
    have rules : (safetyMonitorHeartbeat l.ctx now).1.rules = l.ctx.rules := by
      rw [safetyMonitorHeartbeat]
      split <;> rfl
    simp only [safetyStep, rules]
    exact tracked
  | ruleEvaluated ruleId timestamp => exact ruleEvaluated_tracked tracked ruleId timestamp
  | check now => exact tracked
  | triggerFailsafe =>
    have rules : (safetyMonitorTriggerFailsafe l.ctx).1.rules = l.ctx.rules := by
      rw [safetyMonitorTriggerFailsafe]
      split <;> rfl
    simp only [safetyStep, rules]
    exact tracked

/-- After any run that has reported at most 32 rules, the context has the last evaluation of each. -/
theorem context_tracks_reports (calls : List SafetyCall) (few : FewRules (finalState safetyStep {} calls).reports)
    (ruleId : UInt16) :
    lastOf (finalState safetyStep {} calls).ctx.rules ruleId = latest (finalState safetyStep {} calls).reports ruleId := by
  have start : Tracked ({} : SafetyLedger).ctx.rules ({} : SafetyLedger).reports :=
    ⟨fun _ member => absurd member List.not_mem_nil, List.nodup_nil,
      fun _ member => absurd member List.not_mem_nil, fun _ _ => rfl⟩
  exact (finalState_invariant (P := fun l : SafetyLedger => Tracked l.ctx.rules l.reports) start
    (fun l x tracked => safetyStep_tracked tracked x) calls).last few ruleId

/-! ### Deadlines -/

/-- Some reported rule was last evaluated more than its deadline ago. -/
def SafetyLedger.Overdue (l : SafetyLedger) (now : UInt64) : Prop :=
  ∃ ruleId e, latest l.reports ruleId = some e ∧ now.toNat > e.toNat + safetyMonitorRuleDeadlineMs

def DeadlineMonitored (l : SafetyLedger) : SafetyCall → Prop
  | .check now => l.Overdue now → safetyMonitorCheck l.ctx now ≠ .active
  | _ => True

/-- A check that finds the heartbeat regular finds every reported rule in time. -/
def RulesInTime (l : SafetyLedger) : SafetyCall → Prop
  | .check now => l.ctx.Beating now → ¬l.Overdue now
  | _ => True

/-- Deadlines are monitored in exactly the runs in which a regular heartbeat never covers an overdue rule. -/
theorem safety_deadline_exact (calls : List SafetyCall) :
    EachStep DeadlineMonitored safetyStep {} calls ↔ EachStep RulesInTime safetyStep {} calls := by
  have pointwise : ∀ l x, DeadlineMonitored l x ↔ RulesInTime l x := by
    intro l x
    cases x with
    | check now =>
      rw [DeadlineMonitored, RulesInTime, ne_eq, check_eq_active_iff]
      exact ⟨fun monitored beating overdue => monitored overdue beating,
        fun inTime overdue beating => inTime beating overdue⟩
    | _ => exact Iff.rfl
  simp only [eachStep_iff, pointwise]

def SafetyCall.isReport : SafetyCall → Bool
  | .ruleEvaluated _ _ => true
  | _ => false

def SameWatch (a b : SafetyMonitorContext) : Prop := ∃ rules, b = { a with rules := rules }

theorem safetyStep_sameWatch {l m : SafetyLedger} (same : SameWatch l.ctx m.ctx) (x : SafetyCall) :
    (safetyStep l x).2 = (safetyStep m x).2 ∧ SameWatch (safetyStep l x).1.ctx (safetyStep m x).1.ctx := by
  obtain ⟨ctx, invoked, alarmed, reports⟩ := m
  obtain ⟨rules, rfl⟩ := same
  cases x with
  | init failsafe =>
    cases failsafe with
    | false => exact ⟨rfl, rules, rfl⟩
    | true => exact ⟨rfl, [], rfl⟩
  | heartbeat now =>
    refine ⟨rfl, rules, ?_⟩
    simp only [safetyStep, safetyMonitorHeartbeat]
    split <;> rfl
  | ruleEvaluated ruleId timestamp =>
    obtain ⟨ours, kept⟩ := ruleEvaluated_keeps l.ctx ruleId timestamp
    obtain ⟨theirs, kept'⟩ := ruleEvaluated_keeps { l.ctx with rules := rules } ruleId timestamp
    simp only [safetyStep, kept, kept']
    exact ⟨trivial, theirs, rfl⟩
  | check now => exact ⟨rfl, rules, rfl⟩
  | triggerFailsafe =>
    refine ⟨rfl, rules, ?_⟩
    simp only [safetyStep, safetyMonitorTriggerFailsafe]
    split <;> rfl

/-- Leaving every report of a rule out of a run changes no answer of a check. -/
theorem checks_ignore_reports {l m : SafetyLedger} (same : SameWatch l.ctx m.ctx) (calls : List SafetyCall) :
    (outputs safetyStep l calls).filterMap id =
      (outputs safetyStep m (calls.filter fun x => !x.isReport)).filterMap id := by
  induction calls generalizing l m with
  | nil => rfl
  | cons x rest ih =>
    obtain ⟨answer, next⟩ := safetyStep_sameWatch same x
    cases report : x.isReport with
    | true =>
      obtain ⟨ruleId, timestamp, rfl⟩ : ∃ ruleId timestamp, x = .ruleEvaluated ruleId timestamp := by
        cases x <;> first | exact ⟨_, _, rfl⟩ | cases report
      obtain ⟨ours, kept⟩ := ruleEvaluated_keeps l.ctx ruleId timestamp
      obtain ⟨theirs, same⟩ := same
      have still : SameWatch (safetyStep l (.ruleEvaluated ruleId timestamp)).1.ctx m.ctx :=
        ⟨theirs, same.trans (by simp only [safetyStep, kept])⟩
      exact ih still
    | false =>
      rw [List.filter_cons_of_pos (by rw [report]; rfl), outputs, outputs, List.filterMap_cons, List.filterMap_cons,
        answer, ih next]

/-- A rule evaluated at 0, never again, and a heartbeat every 400 ms. -/
theorem overdue_rule_active :
    outputs safetyStep {} [.init true, .ruleEvaluated 1 0, .heartbeat 400, .heartbeat 800, .heartbeat 1200, .check 1500] =
        [none, none, none, none, none, some .active] ∧
      ¬EachStep DeadlineMonitored safetyStep {}
        [.init true, .ruleEvaluated 1 0, .heartbeat 400, .heartbeat 800, .heartbeat 1200, .check 1500] := by
  refine ⟨by decide, fun each => ?_⟩
  obtain ⟨-, -, -, -, -, monitored, -⟩ := each
  exact monitored ⟨1, 0, by decide, by decide⟩ (by decide)

end IotPlatform
