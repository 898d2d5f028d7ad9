import IotPlatform.Hub.ValidationGate
import IotPlatform.Profiles.Agriculture

/-!
# Agreement of the two sensor gates

A reading has to pass the gate of the vtable before the bounds of its metric are looked at. What the bounds allow
should therefore pass the vtable's gate; the one-line gate of the agriculture profile refuses every frost.
-/

namespace IotPlatform

inductive BoundedProfile where
  | agriculture
  | range (profile : RangeProfile)
  deriving DecidableEq, Repr

namespace BoundedProfile

def vtable : BoundedProfile → DomainProfileVTable Binary32
  | agriculture => agricultureProfileVtable
  | range profile => profile.vtable

def boundsLookup : BoundedProfile → UInt8 → Option (SensorValidationBounds Binary32)
  | agriculture => agricultureGetValidationBounds
  | range profile => profile.boundsLookup

def historyLookup : BoundedProfile → UInt8 → Option UInt8
  | agriculture => agricultureGetMetricHistory
  | range profile => profile.historyLookup

def config (profile : BoundedProfile) (domainProfileId : UInt8) : IngestionHandlerConfig :=
  { vtable := profile.vtable, boundsLookup := some profile.boundsLookup, historyLookup := some profile.historyLookup
    domainProfileId := domainProfileId }

/-- The readings that the agriculture bounds allow and its gate refuses. -/
def Frost (profile : BoundedProfile) (metricId : UInt8) (value : Binary32) : Prop :=
  profile = .agriculture ∧ metricId = agriMetricAmbientTemp ∧ FloatOps.lt value (FloatOps.ofRat 0) = true

end BoundedProfile

/-! ### Values within the bounds -/

section Range

variable {bounds : SensorValidationBounds Binary32} {value : Binary32}

theorem InRange.not_below (inside : InRange bounds value) : FloatOps.lt value bounds.minPhysical = false := by
  cases below : FloatOps.lt value bounds.minPhysical with
  | false => rfl
  | true => exact inside.1.symm.trans (Binary32.not_le_of_lt below)

theorem InRange.not_above (inside : InRange bounds value) : FloatOps.lt bounds.maxPhysical value = false := by
  cases above : FloatOps.lt bounds.maxPhysical value with
  | false => rfl
  | true => exact inside.2.symm.trans (Binary32.not_le_of_lt above)

theorem InRange.not_nan (inside : InRange bounds value) : value.isNaN = false := (Binary32.le_iff.mp inside.1).2.1

/-- The first reading of a metric is only tested against the range. -/
theorem sensorValidate_first (inside : InRange bounds value) (currentMs : UInt64) :
    sensorValidate true value bounds sensorHistoryReset currentMs = .valid := by
  rw [sensorValidate, inside.not_below, inside.not_above]
  rfl

end Range

/-! ### The vtable gate -/

theorem agricultureGetValidationBounds_min {metricId : UInt8} {bounds : SensorValidationBounds Binary32}
    (found : agricultureGetValidationBounds metricId = some bounds) (other : metricId ≠ agriMetricAmbientTemp) :
    bounds.minPhysical = FloatOps.ofRat 0 := by
  unfold agricultureGetValidationBounds at found
  rw [if_neg other] at found
  split_ifs at found
  all_goals
    rw [← Option.some.inj found]

theorem agriculture_gate_iff {reading : SensorReading Binary32} {bounds : SensorValidationBounds Binary32}
    (found : agricultureGetValidationBounds reading.metricId = some bounds) (inside : InRange bounds reading.value) :
    agricultureValidateSensorReading reading = true ↔
      ¬(reading.metricId = agriMetricAmbientTemp ∧ FloatOps.lt reading.value (FloatOps.ofRat 0) = true) := by
  unfold agricultureValidateSensorReading
  by_cases ambient : reading.metricId = agriMetricAmbientTemp
  · cases below : FloatOps.lt reading.value (FloatOps.ofRat 0) with
    | true => simp [ambient, Binary32.not_le_of_lt below]
    | false =>
      have accepted : FloatOps.le (FloatOps.ofRat 0) reading.value = true :=
        Binary32.le_of_not_lt (Binary32.isNaN_ofRat 0) inside.not_nan below
      simp [accepted]
  · have accepted := inside.1
    rw [agricultureGetValidationBounds_min found ambient] at accepted
    simp [ambient, accepted]

theorem vtable_gate_iff {profile : BoundedProfile} {bounds : SensorValidationBounds Binary32}
    (reading : SensorReading Binary32) (found : profile.boundsLookup reading.metricId = some bounds)
    (inside : InRange bounds reading.value) :
    profile.vtable.validateSensorReading reading = true ↔ ¬profile.Frost reading.metricId reading.value := by
  cases profile with
  | agriculture =>
    rw [BoundedProfile.Frost, and_iff_right rfl]
    exact agriculture_gate_iff found inside
  | range profile =>
    have accepted : withinPhysicalRange profile.boundsLookup reading = true :=
      withinPhysicalRange_iff.mpr ⟨bounds, found, inside.not_below, inside.not_above⟩
    have gate : profile.vtable.validateSensorReading reading = true := (RangeProfile.vtable_gate profile _).trans accepted
    exact iff_of_true gate fun frost => nomatch frost.1

/-! ### The way to the rules -/

theorem evaluated_of_passes {config : IngestionHandlerConfig} {currentMs : UInt64} {h : IngestionHandler}
    {entry : BatchFrameEntry} {results : List RuleEvaluationResult} (passes : Passes config currentMs h entry)
    (evaluated : ruleResults config h (entry.toReading currentMs) = some results) :
    .evaluateRules (entry.toReading currentMs) results ∈ (processEntry config currentMs h entry).2.2 := by
  obtain ⟨fails, -⟩ | ⟨-, stats, histories, triggered, result⟩ := processEntry_cases config currentMs h entry
  · exact absurd passes fails
  · rw [result, evaluated]
    exact List.mem_append_right _ (List.mem_singleton_self _)

theorem BoundedProfile.getRuleTable_isSome (profile : BoundedProfile) : profile.vtable.getRuleTable.isSome = true := by
  rcases profile with _ | (_ | _) <;> rfl

/-- A handler that has seen no reading yet. -/
def freshHandler : IngestionHandler :=
  { config := none, stats := {}, gwTracker := sampleTracker, edgeTracker := .tracker nodeFiveTrusted
    histories := fun _ => sensorHistoryReset, sensorValidationReady := true, ruleEngineReady := true }

theorem freshHandler_sensorGate {profile : BoundedProfile} {domainProfileId : UInt8} {currentMs : UInt64}
    {bounds : SensorValidationBounds Binary32} (reading : SensorReading Binary32)
    (found : profile.boundsLookup reading.metricId = some bounds) (inside : InRange bounds reading.value) :
    sensorGate (profile.config domainProfileId) freshHandler reading currentMs ≠ none := by
  dsimp only [sensorGate, BoundedProfile.config]
  rw [found]
  cases profile.historyLookup reading.metricId with
  | none => exact Option.some_ne_none _
  | some buffer =>
    dsimp only [freshHandler]
    rw [sensorValidate_first inside]
    exact Option.some_ne_none _

/-- An entry within the bounds of its metric passes the gate of the vtable, and can reach the rules of its metric,
exactly when it is no ambient temperature below zero of the agriculture profile. -/
theorem gates_agree_exact (profile : BoundedProfile) (domainProfileId : UInt8) (entry : BatchFrameEntry)
    (currentMs : UInt64) (bounds : SensorValidationBounds Binary32)
    (found : profile.boundsLookup entry.metricId = some bounds) (inside : InRange bounds entry.value) :
    (profile.vtable.validateSensorReading (entry.toReading currentMs) = true ↔
        ¬profile.Frost entry.metricId entry.value) ∧
      ((∃ h results, .evaluateRules (entry.toReading currentMs) results ∈
          (processEntry (profile.config domainProfileId) currentMs h entry).2.2) ↔
        ¬profile.Frost entry.metricId entry.value) := by
  have gate : profile.vtable.validateSensorReading (entry.toReading currentMs) = true ↔
      ¬profile.Frost entry.metricId entry.value := vtable_gate_iff (entry.toReading currentMs) found inside
  refine ⟨gate, ?_, fun warm => ?_⟩
  · rintro ⟨h, results, evaluated⟩
    obtain ⟨passes, -⟩ := processEntry_uses evaluated rfl
    exact gate.mp passes.1
  · obtain ⟨rules, table⟩ := Option.isSome_iff_exists.mp profile.getRuleTable_isSome
    refine ⟨freshHandler, _, evaluated_of_passes ⟨gate.mpr warm, ?_⟩ (by rw [ruleResults]; exact congrArg _ table)⟩
    exact freshHandler_sensorGate (entry.toReading currentMs) found inside

/-- Two degrees, and one degree below zero, as ambient temperatures of node 5. -/
def mildEntry : BatchFrameEntry := { nodeId := 5, metricId := 21, value := ⟨0x40000000⟩ }

def frostEntry : BatchFrameEntry := { mildEntry with value := ⟨0xBF800000⟩ }

def ambientTempBounds : SensorValidationBounds Binary32 :=
  { minPhysical := FloatOps.ofRat (-40), maxPhysical := FloatOps.ofRat 60, maxRateOfChange := FloatOps.ofRat 5
    stuckTimeoutSec := 3600 }

theorem gates_agree_exact_mild :
    (BoundedProfile.agriculture.boundsLookup mildEntry.metricId = some ambientTempBounds ∧
        InRange ambientTempBounds mildEntry.value) ∧
      (BoundedProfile.agriculture.vtable.validateSensorReading (mildEntry.toReading 1000) = true ↔
        ¬BoundedProfile.agriculture.Frost mildEntry.metricId mildEntry.value) ∧
      ((∃ h results, .evaluateRules (mildEntry.toReading 1000) results ∈
          (processEntry (BoundedProfile.agriculture.config 2) 1000 h mildEntry).2.2) ↔
        ¬BoundedProfile.agriculture.Frost mildEntry.metricId mildEntry.value) :=
  ⟨⟨rfl, by decide +kernel, by decide +kernel⟩,
    gates_agree_exact .agriculture 2 mildEntry 1000 ambientTempBounds rfl ⟨by decide +kernel, by decide +kernel⟩⟩

theorem frost_refused :
    ¬∀ (profile : BoundedProfile) (reading : SensorReading Binary32) (bounds : SensorValidationBounds Binary32),
      profile.boundsLookup reading.metricId = some bounds → InRange bounds reading.value →
        profile.vtable.validateSensorReading reading = true := by
  intro agree
  have accepted := agree .agriculture (frostEntry.toReading 1000) ambientTempBounds rfl
    ⟨by decide +kernel, by decide +kernel⟩
  exact absurd accepted (by decide +kernel)

end IotPlatform
