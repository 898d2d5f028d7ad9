import Mathlib.Algebra.Order.Field.Basic
import Mathlib.Tactic.Positivity
import IotPlatform.Lib.RingBuffer
import IotPlatform.Lib.Run
import IotPlatform.Shared.SensorValidation

/-!
# Sensor validation over a history

Readings of one metric, validated one after the other and recorded when valid, over the rationals. The rate test takes
the slot at `write_index` for the most recent one once the ring is full, and the change time of the stuck test is set
only by a value other than the last one, which starts as zero.
-/

namespace IotPlatform
open RingBuffer Run

structure TimedValue (F : Type) where
  value : F
  timestampMs : UInt64
  deriving DecidableEq, Repr

/-- The history of a metric and the readings accepted so far. -/
structure SensorGate (F : Type) where
  history : SensorHistory F
  accepted : List (TimedValue F)

section Gate

variable {F : Type} [FloatOps F] (initialised : Bool) (bounds : SensorValidationBounds F) (nodeId metricId : UInt8)

def noReadings : SensorGate F := { history := sensorHistoryReset, accepted := [] }

def readingStep (s : SensorGate F) (reading : TimedValue F) : SensorGate F × SensorValidationResult :=
  let result := sensorValidate initialised reading.value bounds s.history reading.timestampMs
  if result = .valid then
    ({ history := sensorHistoryRecord s.history nodeId metricId reading.value reading.timestampMs
       accepted := s.accepted ++ [reading] }, result)
  else (s, result)

/-- Positive timestamps that always rise. -/
def RisingTimes (readings : List (TimedValue F)) : Prop :=
  (∀ reading ∈ readings, 0 < reading.timestampMs) ∧ readings.Pairwise fun x y => x.timestampMs < y.timestampMs

end Gate

section Rational

variable {initialised : Bool} {bounds : SensorValidationBounds ℚ} {nodeId metricId : UInt8} {s : SensorGate ℚ}
  {reading : TimedValue ℚ}

/-! ### What the history holds -/

/-- The history holds the last sixteen accepted readings, each in the slot its number gives it. -/
structure Remembers (s : SensorGate ℚ) : Prop where
  fresh : s.accepted = [] → s.history = sensorHistoryReset
  started : s.accepted ≠ [] → s.history.initialised = true
  count : s.history.count.toNat = min s.accepted.length 16
  next : s.history.writeIndex.toNat = s.accepted.length % 16
  lap : LastLap 16 (fun i => ({ value := s.history.values i, timestampMs := s.history.timestampsMs i } : TimedValue ℚ))
    (fun _ x => x) s.accepted
  last : ∀ x, s.accepted.getLast? = some x → s.history.lastValue = x.value

theorem noReadings_remembers : Remembers noReadings where
  fresh _ := rfl
  started nonempty := absurd rfl nonempty
  count := rfl
  next := rfl
  lap := LastLap.nil _ _
  last _ found := nomatch found

theorem Remembers.record_base (remembers : Remembers s) (nodeId metricId : UInt8) :
    ∃ node metric, (if !s.history.initialised then
        { sensorHistoryReset with nodeId := nodeId, metricId := metricId, initialised := true } else s.history) =
      { s.history with nodeId := node, metricId := metric, initialised := true } := by
  by_cases none : s.accepted = []
  · rw [remembers.fresh none]
    exact ⟨nodeId, metricId, rfl⟩
  · have started := remembers.started none
    refine ⟨s.history.nodeId, s.history.metricId, ?_⟩
    rw [started, if_neg (by decide), ← started]

theorem Remembers.record (remembers : Remembers s) (nodeId metricId : UInt8) (reading : TimedValue ℚ) :
    Remembers
      { history := sensorHistoryRecord s.history nodeId metricId reading.value reading.timestampMs
        accepted := s.accepted ++ [reading] } := by
  obtain ⟨node, metric, base⟩ := remembers.record_base nodeId metricId
  have count := remembers.count
  have next := remembers.next
  have length : (s.accepted ++ [reading]).length = s.accepted.length + 1 := List.length_append
  have size : sensorHistorySize.toNat = 16 := rfl
  rw [sensorHistoryRecord, base]
  dsimp only
  refine ⟨fun none => absurd none (by simp), fun _ => rfl, ?_, ?_, ?_, fun x found => ?_⟩
  · dsimp only
    rw [length]
    split
    · rename_i room
      rw [UInt8.lt_iff_toNat_lt, size] at room
      rw [UInt8.toNat_add, UInt8.toNat_one]
      omega
    · rename_i full
      rw [UInt8.lt_iff_toNat_lt, size] at full
      omega
  · dsimp only
    rw [length, UInt8.toNat_mod, UInt8.toNat_add, UInt8.toNat_one, size]
    omega
  · have lap := remembers.lap.push reading
    rw [← next] at lap
    intro n x found recent
    rw [← lap n x found recent]
    simp only [Function.update_apply]
    split <;> rfl
  · rw [List.getLast?_concat] at found
    obtain rfl := Option.some.inj found
    rfl

theorem readingStep_remembers (remembers : Remembers s) :
    Remembers (readingStep initialised bounds nodeId metricId s reading).1 := by
  unfold readingStep
  dsimp only
  split
  · exact remembers.record nodeId metricId reading
  · exact remembers

/-! ### The rate test -/

/-- The second reading moves from the first no faster than the bounds allow. -/
def WithinRate (bounds : SensorValidationBounds ℚ) (prev next : TimedValue ℚ) : Prop :=
  |next.value - prev.value| ≤ bounds.maxRateOfChange * (((next.timestampMs.toNat : ℚ) - prev.timestampMs.toNat) / 1000)

theorem withinRate_of_same {prev next : TimedValue ℚ} (limited : 0 < bounds.maxRateOfChange)
    (same : next.value = prev.value) (later : prev.timestampMs < next.timestampMs) : WithinRate bounds prev next := by
  have order : (prev.timestampMs.toNat : ℚ) ≤ next.timestampMs.toNat :=
    Nat.cast_le.mpr (Nat.le_of_lt (UInt64.lt_iff_toNat_lt.mp later))
  rw [WithinRate, same, sub_self, abs_zero]
  exact mul_nonneg limited.le (div_nonneg (sub_nonneg.mpr order) (by norm_num))

/-- The number of the accepted reading that the rate test compares with: the newest, or the oldest of a full ring. -/
def SensorGate.comparedIdx (s : SensorGate ℚ) : Nat :=
  if s.accepted.length < 16 then s.accepted.length - 1 else s.accepted.length - 16

theorem exists_compared (nonempty : s.accepted ≠ []) : ∃ prev, s.accepted[s.comparedIdx]? = some prev := by
  have some_accepted := List.length_pos_iff.mpr nonempty
  have inside : s.comparedIdx < s.accepted.length := by
    unfold SensorGate.comparedIdx
    split <;> omega
  exact ⟨_, List.getElem?_eq_getElem inside⟩

theorem Remembers.counted (remembers : Remembers s) (nonempty : s.accepted ≠ []) : s.history.count > 0 := by
  have count := remembers.count
  have some_accepted := List.length_pos_iff.mpr nonempty
  rw [gt_iff_lt, UInt8.lt_iff_toNat_lt, UInt8.toNat_zero]
  omega

theorem Remembers.compared (remembers : Remembers s) (nonempty : s.accepted ≠ []) {prev : TimedValue ℚ}
    (found : s.accepted[s.comparedIdx]? = some prev) :
    s.history.values s.history.latestIdx.toNat = prev.value ∧
      s.history.timestampsMs s.history.latestIdx.toNat = prev.timestampMs := by
  have count := remembers.count
  have next := remembers.next
  have some_accepted := List.length_pos_iff.mpr nonempty
  have size : sensorHistorySize.toNat = 16 := rfl
  have cell := remembers.lap _ prev found (by unfold SensorGate.comparedIdx; split <;> omega)
  have at_cell : s.history.latestIdx.toNat = s.comparedIdx % 16 := by
    unfold SensorHistory.latestIdx SensorGate.comparedIdx
    split
    · rename_i full
      rw [ge_iff_le, UInt8.le_iff_toNat_le, size] at full
      rw [if_neg (by omega)]
      omega
    · rename_i filling
      rw [ge_iff_le, UInt8.le_iff_toNat_le, size] at filling
      have one_le : 1 ≤ s.history.count := UInt8.le_iff_toNat_le.mpr (by rw [UInt8.toNat_one]; omega)
      rw [if_pos (by omega), UInt8.toNat_sub_of_le _ _ one_le, UInt8.toNat_one]
      omega
  rw [← at_cell] at cell
  exact ⟨congrArg TimedValue.value cell, congrArg TimedValue.timestampMs cell⟩

theorem rateExceeded_iff {history : SensorHistory ℚ} {prev : TimedValue ℚ} (counted : history.count > 0)
    (value : history.values history.latestIdx.toNat = prev.value)
    (timestamp : history.timestampsMs history.latestIdx.toNat = prev.timestampMs) (positive : 0 < prev.timestampMs)
    (later : prev.timestampMs < reading.timestampMs) :
    rateExceeded reading.value bounds history reading.timestampMs = true ↔
      0 < bounds.maxRateOfChange ∧ ¬WithinRate bounds prev reading := by
  have order := UInt64.lt_iff_toNat_lt.mp later
  have elapsed : (reading.timestampMs - prev.timestampMs).toNat =
      reading.timestampMs.toNat - prev.timestampMs.toNat := UInt64.toNat_sub_of_le _ _ (UInt64.le_of_lt later)
  have dt_eq : ((reading.timestampMs.toNat - prev.timestampMs.toNat : ℕ) : ℚ) =
      (reading.timestampMs.toNat : ℚ) - prev.timestampMs.toNat := Nat.cast_sub (Nat.le_of_lt order)
  have dt_pos : (0 : ℚ) < ((reading.timestampMs.toNat : ℚ) - prev.timestampMs.toNat) / 1000 := by
    rw [← dt_eq]
    have ahead : 0 < reading.timestampMs.toNat - prev.timestampMs.toNat := Nat.sub_pos_of_lt order
    positivity
  have distance : (if reading.value - prev.value < 0 then -(reading.value - prev.value)
      else reading.value - prev.value) = |reading.value - prev.value| := by
    split
    · exact (abs_of_neg ‹_›).symm
    · exact (abs_of_nonneg (not_lt.mp ‹_›)).symm
  have rate : rateOfChange reading.value history reading.timestampMs =
      some (|reading.value - prev.value| / (((reading.timestampMs.toNat : ℚ) - prev.timestampMs.toNat) / 1000)) := by
    unfold rateOfChange
    dsimp only
    rw [value, timestamp, if_pos ⟨later, positive⟩]
    simp only [FloatOps.lt, FloatOps.div, FloatOps.sub, FloatOps.neg, FloatOps.ofRat, elapsed, dt_eq, decide_eq_true_eq,
      dt_pos, if_true, distance]
  simp only [rateExceeded, rate, counted, FloatOps.lt, FloatOps.ofRat, decide_true, Bool.and_true, Bool.and_eq_true,
    decide_eq_true_eq, WithinRate, lt_div_iff₀ dt_pos, not_le]

theorem inside_of_valid {value : ℚ} {history : SensorHistory ℚ} {currentMs : UInt64}
    (valid : sensorValidate initialised value bounds history currentMs = .valid) :
    initialised = true ∧ bounds.minPhysical ≤ value ∧ value ≤ bounds.maxPhysical := by
  unfold sensorValidate at valid
  cases initialised with
  | false => simp at valid
  | true =>
    refine ⟨rfl, ?_, ?_⟩
    · by_contra low
      simp [FloatOps.lt, not_le.mp low] at valid
    · by_contra high
      simp [FloatOps.lt, not_le.mp high] at valid

/-- Whether a reading in the bounds is let through depends on the rate and the stuck test, once there is a history. -/
theorem Remembers.valid_iff (remembers : Remembers s) (nonempty : s.accepted ≠ []) :
    sensorValidate initialised reading.value bounds s.history reading.timestampMs = .valid ↔
      initialised = true ∧ bounds.minPhysical ≤ reading.value ∧ reading.value ≤ bounds.maxPhysical ∧
        rateExceeded reading.value bounds s.history reading.timestampMs = false ∧
          stuckTooLong reading.value bounds s.history reading.timestampMs = false := by
  have count := remembers.count
  have some_accepted := List.length_pos_iff.mpr nonempty
  have counted : ¬s.history.count < 1 := by
    rw [UInt8.lt_iff_toNat_lt, UInt8.toNat_one]
    omega
  unfold sensorValidate
  rw [remembers.started nonempty]
  simp only [FloatOps.lt, counted, Bool.not_true, decide_false, Bool.or_false, Bool.false_eq_true, if_false,
    Bool.or_eq_true, decide_eq_true_eq, ← not_le]
  cases initialised with
  | false => simp
  | true =>
    by_cases low : bounds.minPhysical ≤ reading.value
    · by_cases high : reading.value ≤ bounds.maxPhysical
      · cases rate : rateExceeded reading.value bounds s.history reading.timestampMs <;>
          cases stuck : stuckTooLong reading.value bounds s.history reading.timestampMs <;> simp [low, high]
      · simp [high]
    · simp [low]

/-- An accepted reading is within the rate of the last one accepted before it. -/
def KeepsRate (initialised : Bool) (bounds : SensorValidationBounds ℚ) (s : SensorGate ℚ) (reading : TimedValue ℚ) : Prop :=
  sensorValidate initialised reading.value bounds s.history reading.timestampMs = .valid →
    ∀ last, s.accepted.getLast? = some last → WithinRate bounds last reading

/-- A reading beyond the rate of the newest accepted one that no test stops. The rate test is off, as a rate of zero or less
has it, or the reading comes after sixteen accepted ones and is within the rate of the oldest of them. -/
structure Overlooked (initialised : Bool) (bounds : SensorValidationBounds ℚ) (s : SensorGate ℚ) (reading : TimedValue ℚ) :
    Prop where
  running : initialised = true
  low : bounds.minPhysical ≤ reading.value
  high : reading.value ≤ bounds.maxPhysical
  moving : stuckTooLong reading.value bounds s.history reading.timestampMs = false
  oldest : 0 < bounds.maxRateOfChange → 16 ≤ s.accepted.length ∧
    ∀ old, s.accepted[s.accepted.length - 16]? = some old → WithinRate bounds old reading
  newest : ∃ last, s.accepted.getLast? = some last ∧ ¬WithinRate bounds last reading

/-- The accepted readings and those to come rise in time. -/
def Follows (s : SensorGate ℚ) (readings : List (TimedValue ℚ)) : Prop := RisingTimes (s.accepted ++ readings)

theorem Follows.before {rest : List (TimedValue ℚ)} (follows : Follows s (reading :: rest)) {prev : TimedValue ℚ}
    (member : prev ∈ s.accepted) : 0 < prev.timestampMs ∧ prev.timestampMs < reading.timestampMs :=
  ⟨follows.1 prev (List.mem_append_left _ member),
    (List.pairwise_append.mp follows.2).2.2 prev member reading List.mem_cons_self⟩

theorem Follows.next {rest : List (TimedValue ℚ)} (follows : Follows s (reading :: rest)) :
    Follows (readingStep initialised bounds nodeId metricId s reading).1 rest := by
  obtain ⟨positive, rising⟩ := follows
  unfold readingStep
  dsimp only
  split
  · refine ⟨?_, ?_⟩
    · simpa [Follows] using positive
    · simpa [Follows] using rising
  · refine ⟨fun x member => positive x ?_, rising.sublist ?_⟩
    · exact (List.mem_append.mp member).elim (List.mem_append_left _) fun later =>
        List.mem_append_right _ (List.mem_cons_of_mem _ later)
    · exact (List.Sublist.refl _).append (List.sublist_cons_self _ _)

/-- The rate test against the reading it compares with. -/
theorem Remembers.rateExceeded_iff (remembers : Remembers s) {rest : List (TimedValue ℚ)}
    (follows : Follows s (reading :: rest)) (nonempty : s.accepted ≠ []) {prev : TimedValue ℚ}
    (found : s.accepted[s.comparedIdx]? = some prev) :
    rateExceeded reading.value bounds s.history reading.timestampMs = true ↔
      0 < bounds.maxRateOfChange ∧ ¬WithinRate bounds prev reading := by
  obtain ⟨value, timestamp⟩ := remembers.compared nonempty found
  obtain ⟨positive, later⟩ := follows.before (List.mem_of_getElem? found)
  exact IotPlatform.rateExceeded_iff (remembers.counted nonempty) value timestamp positive later

theorem Overlooked.valid (overlooked : Overlooked initialised bounds s reading) (remembers : Remembers s)
    {rest : List (TimedValue ℚ)} (follows : Follows s (reading :: rest)) (nonempty : s.accepted ≠ []) :
    sensorValidate initialised reading.value bounds s.history reading.timestampMs = .valid := by
  obtain ⟨prev, found⟩ := exists_compared nonempty
  have rate : rateExceeded reading.value bounds s.history reading.timestampMs = false := by
    rw [← Bool.not_eq_true, remembers.rateExceeded_iff follows nonempty found]
    rintro ⟨limited, exceeds⟩
    obtain ⟨full, oldest⟩ := overlooked.oldest limited
    rw [SensorGate.comparedIdx, if_neg (by omega)] at found
    exact exceeds (oldest prev found)
  exact (remembers.valid_iff nonempty).mpr ⟨overlooked.running, overlooked.low, overlooked.high, rate, overlooked.moving⟩

theorem keepsRate_iff (remembers : Remembers s) {rest : List (TimedValue ℚ)} (follows : Follows s (reading :: rest)) :
    KeepsRate initialised bounds s reading ↔ ¬Overlooked initialised bounds s reading := by
  have nonempty : ∀ {last}, s.accepted.getLast? = some last → s.accepted ≠ [] := by
    intro last found none
    rw [none] at found
    cases found
  constructor
  · intro keeps overlooked
    obtain ⟨last, last_found, beyond⟩ := overlooked.newest
    exact beyond (keeps (overlooked.valid remembers follows (nonempty last_found)) last last_found)
  · intro seen valid last last_found
    obtain ⟨running, low, high, rate, moving⟩ := (remembers.valid_iff (nonempty last_found)).mp valid
    by_contra beyond
    refine seen ⟨running, low, high, moving, fun limited => ?_, last, last_found, beyond⟩
    have passes : ∀ prev, s.accepted[s.comparedIdx]? = some prev → WithinRate bounds prev reading := by
      intro prev found
      by_contra exceeds
      rw [(remembers.rateExceeded_iff follows (nonempty last_found) found).mpr ⟨limited, exceeds⟩] at rate
      cases rate
    unfold SensorGate.comparedIdx at passes
    rcases Nat.lt_or_ge s.accepted.length 16 with filling | full
    · rw [if_pos filling] at passes
      rw [List.getLast?_eq_getElem?] at last_found
      exact absurd (passes last last_found) beyond
    · rw [if_neg (by omega)] at passes
      exact ⟨full, passes⟩

theorem keepsRate_run (remembers : Remembers s) {readings : List (TimedValue ℚ)} (follows : Follows s readings) :
    EachStep (KeepsRate initialised bounds) (readingStep initialised bounds nodeId metricId) s readings ↔
      EachStep (fun s reading => ¬Overlooked initialised bounds s reading)
        (readingStep initialised bounds nodeId metricId) s readings := by
  induction readings generalizing s with
  | nil => exact Iff.rfl
  | cons reading rest ih =>
    exact and_congr (keepsRate_iff remembers follows) (ih (readingStep_remembers remembers) follows.next)

/-- Over any readings with positive rising timestamps, every accepted reading is within the rate of the one accepted before
it exactly when none is overlooked. -/
theorem rateGate_iff (initialised : Bool) (bounds : SensorValidationBounds ℚ) (nodeId metricId : UInt8)
    (readings : List (TimedValue ℚ)) (rising : RisingTimes readings) :
    EachStep (KeepsRate initialised bounds) (readingStep initialised bounds nodeId metricId) noReadings readings ↔
      EachStep (fun s reading => ¬Overlooked initialised bounds s reading)
        (readingStep initialised bounds nodeId metricId) noReadings readings :=
  keepsRate_run noReadings_remembers rising

def slowBounds : SensorValidationBounds ℚ :=
  { minPhysical := -40, maxPhysical := 125, maxRateOfChange := 1, stuckTimeoutSec := 60 }

theorem rateGate_two_readings :
    KeepsRate true slowBounds (readingStep true slowBounds 1 1 noReadings ⟨20, 1000⟩).1 ⟨21, 2000⟩ := by
  have each := (rateGate_iff true slowBounds 1 1 [⟨20, 1000⟩, ⟨21, 2000⟩] ⟨by decide, by decide⟩).mpr
    ⟨fun seen => absurd (seen.oldest (by decide)).1 (by decide),
      fun seen => absurd (seen.oldest (by decide)).1 (by decide +kernel), trivial⟩
  exact each.2.1

/-- A degree a second for sixteen seconds, and a drop of fifteen degrees in one. -/
def rampAndDrop : List (TimedValue ℚ) :=
  (List.range 16).map (fun n => { value := n, timestampMs := UInt64.ofNat (1000 * (n + 1)) }) ++ [⟨0, 17000⟩]

/-- The seventeenth reading falls fifteen times faster than the bounds allow and is accepted. -/
theorem rateGate_misses_drop :
    let s := finalState (readingStep true slowBounds 1 1) noReadings (rampAndDrop.take 16)
    RisingTimes rampAndDrop ∧ s.accepted.getLast? = some ⟨15, 16000⟩ ∧
      sensorValidate true 0 slowBounds s.history 17000 = .valid ∧ ¬WithinRate slowBounds ⟨15, 16000⟩ ⟨0, 17000⟩ ∧
      ¬EachStep (KeepsRate true slowBounds) (readingStep true slowBounds 1 1) noReadings rampAndDrop := by
  intro s
  have last : s.accepted.getLast? = some ⟨15, 16000⟩ := by decide +kernel
  have valid : sensorValidate true 0 slowBounds s.history 17000 = .valid := by decide +kernel
  have fast : ¬WithinRate slowBounds ⟨15, 16000⟩ ⟨0, 17000⟩ := by
    simp [WithinRate, slowBounds]
    norm_num
  refine ⟨⟨by decide +kernel, by decide +kernel⟩, last, valid, fast, fun each => ?_⟩
  have keeps : KeepsRate true slowBounds s ⟨0, 17000⟩ := eachStep_iff.mp each 16 ⟨0, 17000⟩ rfl
  exact fast (keeps valid _ last)

/-! ### The stuck test -/

/-- The reading comes after the stuck timeout of a value that has been there since `t0`. -/
def Late (bounds : SensorValidationBounds ℚ) (t0 : UInt64) (reading : TimedValue ℚ) : Prop :=
  t0.toNat + bounds.stuckTimeoutSec.toNat * 1000 < reading.timestampMs.toNat

def StopsLate (initialised : Bool) (bounds : SensorValidationBounds ℚ) (t0 : UInt64) (s : SensorGate ℚ)
    (reading : TimedValue ℚ) : Prop :=
  Late bounds t0 reading → sensorValidate initialised reading.value bounds s.history reading.timestampMs ≠ .valid

theorem Remembers.record_change (remembers : Remembers s) (nodeId metricId : UInt8) (reading : TimedValue ℚ) :
    let after := sensorHistoryRecord s.history nodeId metricId reading.value reading.timestampMs
    after.lastValue = reading.value ∧
      after.values = Function.update s.history.values s.history.writeIndex.toNat reading.value ∧
      after.lastChangeMs =
        if reading.value = s.history.lastValue then s.history.lastChangeMs else reading.timestampMs := by
  obtain ⟨node, metric, base⟩ := remembers.record_base nodeId metricId
  dsimp only
  rw [sensorHistoryRecord, base]
  exact ⟨rfl, rfl, by simp [FloatOps.eq]⟩

/-- The last change was to `c`, at `t0`. -/
structure Watching (c : ℚ) (t0 : UInt64) (s : SensorGate ℚ) : Prop where
  remembers : Remembers s
  nonempty : s.accepted ≠ []
  lastValue : s.history.lastValue = c
  lastChangeMs : s.history.lastChangeMs = t0

theorem Watching.next {c : ℚ} {t0 : UInt64} (watching : Watching c t0 s) (same : reading.value = c) :
    Watching c t0 (readingStep initialised bounds nodeId metricId s reading).1 := by
  obtain ⟨lastValue, -, lastChangeMs⟩ := watching.remembers.record_change nodeId metricId reading
  rw [watching.lastValue, if_pos same, watching.lastChangeMs] at lastChangeMs
  unfold readingStep
  dsimp only
  split
  · exact ⟨watching.remembers.record nodeId metricId reading, by simp, lastValue.trans same, lastChangeMs⟩
  · exact watching

theorem Watching.stops {c : ℚ} {t0 : UInt64} (watching : Watching c t0 s) (watched : 0 < bounds.stuckTimeoutSec)
    (positive : 0 < t0) (same : reading.value = c) : StopsLate initialised bounds t0 s reading := by
  intro late valid
  obtain ⟨-, -, -, -, quiet⟩ := (watching.remembers.valid_iff watching.nonempty).mp valid
  have width := UInt16.toNat_lt bounds.stuckTimeoutSec
  have timeout : (bounds.stuckTimeoutSec.toUInt64 * 1000).toNat = bounds.stuckTimeoutSec.toNat * 1000 := by
    rw [UInt64.toNat_mul, UInt16.toNat_toUInt64]
    exact Nat.mod_eq_of_lt (by change bounds.stuckTimeoutSec.toNat * 1000 < 2 ^ 64; omega)
  unfold Late at late
  have after : t0 ≤ reading.timestampMs := UInt64.le_iff_toNat_le.mpr (by omega)
  have elapsed : (reading.timestampMs - t0).toNat = reading.timestampMs.toNat - t0.toNat :=
    UInt64.toNat_sub_of_le _ _ after
  have counted := watching.remembers.counted watching.nonempty
  have later : reading.timestampMs > t0 := UInt64.lt_iff_toNat_lt.mpr (by omega)
  have expired : reading.timestampMs - t0 > bounds.stuckTimeoutSec.toUInt64 * 1000 := by
    rw [gt_iff_lt, UInt64.lt_iff_toNat_lt, elapsed, timeout]
    omega
  simp [stuckTooLong, FloatOps.eq, same, watching.lastValue, watching.lastChangeMs, counted, later, expired, watched,
    positive] at quiet

/-- The first accepted reading was zero, and only zeros have followed it: no change has been noted. -/
structure Unwatched (s : SensorGate ℚ) : Prop where
  remembers : Remembers s
  nonempty : s.accepted ≠ []
  values : ∀ i, s.history.values i = 0
  lastValue : s.history.lastValue = 0
  lastChangeMs : s.history.lastChangeMs = 0

theorem Unwatched.next (unwatched : Unwatched s) (zero : reading.value = 0) :
    Unwatched (readingStep initialised bounds nodeId metricId s reading).1 := by
  obtain ⟨lastValue, values, lastChangeMs⟩ := unwatched.remembers.record_change nodeId metricId reading
  rw [unwatched.lastValue, if_pos zero, unwatched.lastChangeMs] at lastChangeMs
  unfold readingStep
  dsimp only
  split
  · refine ⟨unwatched.remembers.record nodeId metricId reading, by simp, fun i => ?_, lastValue.trans zero, lastChangeMs⟩
    dsimp only
    rw [values, zero, Function.update_apply, unwatched.values i, ite_self]
  · exact unwatched

theorem Unwatched.accepts (unwatched : Unwatched s) (running : initialised = true) (low : bounds.minPhysical ≤ 0)
    (high : 0 ≤ bounds.maxPhysical) (zero : reading.value = 0) {rest : List (TimedValue ℚ)}
    (follows : Follows s (reading :: rest)) :
    sensorValidate initialised reading.value bounds s.history reading.timestampMs = .valid := by
  refine (unwatched.remembers.valid_iff unwatched.nonempty).mpr ⟨running, zero ▸ low, zero ▸ high, ?_, ?_⟩
  · obtain ⟨prev, found⟩ := exists_compared unwatched.nonempty
    rw [← Bool.not_eq_true, unwatched.remembers.rateExceeded_iff follows unwatched.nonempty found]
    rintro ⟨limited, beyond⟩
    obtain ⟨-, later⟩ := follows.before (List.mem_of_getElem? found)
    obtain ⟨value, -⟩ := unwatched.remembers.compared unwatched.nonempty found
    rw [unwatched.values] at value
    exact beyond (withinRate_of_same limited (zero.trans value) later)
  · simp [stuckTooLong, unwatched.lastChangeMs]

theorem Watching.run {c : ℚ} {t0 : UInt64} (watching : Watching c t0 s) (watched : 0 < bounds.stuckTimeoutSec)
    (positive : 0 < t0) {later : List (TimedValue ℚ)} (constant : ∀ reading ∈ later, reading.value = c) :
    EachStep (StopsLate initialised bounds t0) (readingStep initialised bounds nodeId metricId) s later := by
  induction later generalizing s with
  | nil => trivial
  | cons reading rest ih =>
    have same := constant reading List.mem_cons_self
    exact ⟨watching.stops watched positive same,
      ih (watching.next same) fun reading member => constant reading (List.mem_cons_of_mem _ member)⟩

theorem Unwatched.run {t0 : UInt64} (unwatched : Unwatched s) (running : initialised = true)
    (low : bounds.minPhysical ≤ 0) (high : 0 ≤ bounds.maxPhysical) {later : List (TimedValue ℚ)}
    (constant : ∀ reading ∈ later, reading.value = 0) (follows : Follows s later)
    (stops : EachStep (StopsLate initialised bounds t0) (readingStep initialised bounds nodeId metricId) s later) :
    ∀ reading ∈ later, ¬Late bounds t0 reading := by
  induction later generalizing s with
  | nil => exact fun _ none => absurd none List.not_mem_nil
  | cons reading rest ih =>
    have zero := constant reading List.mem_cons_self
    intro x member late
    rcases List.mem_cons.mp member with rfl | later
    · exact stops.1 late (unwatched.accepts running low high zero follows)
    · exact ih (unwatched.next zero) (fun reading member => constant reading (List.mem_cons_of_mem _ member))
        follows.next stops.2 x later late

theorem readingRun_remembers (readings : List (TimedValue ℚ)) :
    Remembers (finalState (readingStep initialised bounds nodeId metricId) noReadings readings) :=
  finalState_invariant noReadings_remembers (fun _ _ remembers => readingStep_remembers remembers) readings

theorem readingRun_follows {readings later : List (TimedValue ℚ)} (follows : Follows s (readings ++ later)) :
    Follows (finalState (readingStep initialised bounds nodeId metricId) s readings) later := by
  induction readings generalizing s with
  | nil => exact follows
  | cons reading rest ih => exact ih follows.next

theorem readingStep_of_valid
    (valid : sensorValidate initialised reading.value bounds s.history reading.timestampMs = .valid) :
    (readingStep initialised bounds nodeId metricId s reading).1 =
      { history := sensorHistoryRecord s.history nodeId metricId reading.value reading.timestampMs
        accepted := s.accepted ++ [reading] } := by
  rw [readingStep, if_pos valid]

theorem Remembers.watching (remembers : Remembers s) (reading : TimedValue ℚ)
    (valid : sensorValidate initialised reading.value bounds s.history reading.timestampMs = .valid)
    (noted : reading.value ≠ s.history.lastValue) :
    Watching reading.value reading.timestampMs (readingStep initialised bounds nodeId metricId s reading).1 := by
  obtain ⟨lastValue, -, lastChangeMs⟩ := remembers.record_change nodeId metricId reading
  rw [if_neg noted] at lastChangeMs
  rw [readingStep_of_valid valid]
  exact ⟨remembers.record nodeId metricId reading, by simp, lastValue, lastChangeMs⟩

theorem Remembers.unwatched (remembers : Remembers s) (reading : TimedValue ℚ)
    (valid : sensorValidate initialised reading.value bounds s.history reading.timestampMs = .valid)
    (first : s.accepted = []) (zero : reading.value = 0) :
    Unwatched (readingStep initialised bounds nodeId metricId s reading).1 := by
  have fresh := remembers.fresh first
  obtain ⟨lastValue, values, lastChangeMs⟩ := remembers.record_change nodeId metricId reading
  have unnoted : reading.value = s.history.lastValue := zero.trans (congrArg SensorHistory.lastValue fresh).symm
  rw [if_pos unnoted] at lastChangeMs
  rw [readingStep_of_valid valid]
  refine ⟨remembers.record nodeId metricId reading, by simp, fun i => ?_, lastValue.trans zero,
    lastChangeMs.trans (congrArg SensorHistory.lastChangeMs fresh)⟩
  dsimp only
  rw [values, fresh, zero, Function.update_apply]
  exact ite_self _

/-- Only the zero of a new history equals the last value without a reading before it. -/
theorem Remembers.first_zero (remembers : Remembers s) {c : ℚ}
    (changed : ∀ last, s.accepted.getLast? = some last → last.value ≠ c) (unnoted : c = s.history.lastValue) :
    s.accepted = [] ∧ c = 0 := by
  have first : s.accepted = [] := by
    by_contra nonempty
    have found := List.getLast?_eq_some_getLast nonempty
    exact changed _ found ((remembers.last _ found).symm.trans unnoted.symm)
  exact ⟨first, unnoted.trans (congrArg SensorHistory.lastValue (remembers.fresh first))⟩

/-- After any history, a value accepted at `t0` that differs from the one before it and then stays is rejected once the
stuck timeout has passed, unless it is a zero and the first value accepted; that one is never found stuck. -/
theorem stuckDetected_iff (initialised : Bool) (bounds : SensorValidationBounds ℚ) (nodeId metricId : UInt8)
    (watched : 0 < bounds.stuckTimeoutSec) (earlier later : List (TimedValue ℚ)) (c : ℚ) (t0 : UInt64)
    (rising : RisingTimes (earlier ++ ⟨c, t0⟩ :: later)) (constant : ∀ reading ∈ later, reading.value = c)
    (valid : sensorValidate initialised c bounds
      (finalState (readingStep initialised bounds nodeId metricId) noReadings earlier).history t0 = .valid)
    (changed : ∀ last, (finalState (readingStep initialised bounds nodeId metricId) noReadings earlier).accepted.getLast? =
      some last → last.value ≠ c) :
    let step := readingStep initialised bounds nodeId metricId
    let s := finalState step noReadings earlier
    EachStep (StopsLate initialised bounds t0) step (step s ⟨c, t0⟩).1 later ↔
      ((∃ reading ∈ later, Late bounds t0 reading) → c ≠ 0 ∨ s.accepted ≠ []) := by
  intro step s
  have remembers : Remembers s := readingRun_remembers earlier
  have follows : Follows s (⟨c, t0⟩ :: later) := readingRun_follows rising
  have positive : 0 < t0 := rising.1 ⟨c, t0⟩ (List.mem_append_right _ List.mem_cons_self)
  have next : Follows (step s ⟨c, t0⟩).1 later := follows.next
  by_cases unnoted : c = s.history.lastValue
  · obtain ⟨first, zero⟩ := remembers.first_zero changed unnoted
    have unwatched : Unwatched (step s ⟨c, t0⟩).1 := remembers.unwatched ⟨c, t0⟩ valid first zero
    constructor
    · rintro stops ⟨reading, member, late⟩
      obtain ⟨running, low, high⟩ := inside_of_valid valid
      rw [zero] at low high
      exact absurd late (unwatched.run running low high (fun reading member => (constant reading member).trans zero) next
        stops reading member)
    · intro changes
      have none : ∀ reading ∈ later, ¬Late bounds t0 reading := by
        intro reading member late
        rcases changes ⟨reading, member, late⟩ with nonzero | nonempty
        · exact nonzero zero
        · exact nonempty first
      rw [eachStep_iff]
      intro n reading found late
      exact absurd late (none reading (List.mem_of_getElem? found))
  · have watching : Watching c t0 (step s ⟨c, t0⟩).1 := remembers.watching ⟨c, t0⟩ valid unnoted
    have changes : c ≠ 0 ∨ s.accepted ≠ [] := by
      by_cases none : s.accepted = []
      · left
        rw [remembers.fresh none] at unnoted
        exact unnoted
      · exact .inr none
    exact ⟨fun _ _ => changes, fun _ => watching.run watched positive constant⟩

theorem stuckDetected_after_a_minute :
    StopsLate true slowBounds 1000 (readingStep true slowBounds 1 1 noReadings ⟨20, 1000⟩).1 ⟨20, 62000⟩ := by
  have stops := (stuckDetected_iff true slowBounds 1 1 (by decide) [] [⟨20, 62000⟩] 20 1000 ⟨by decide, by decide⟩
    (by decide) (by decide +kernel) (fun last found => nomatch found)).mpr (fun _ => .inl (by decide))
  exact stops.1

/-- A sensor that reports zero from the start is believed after an hour. -/
theorem stuck_zero_believed :
    let s := (readingStep true slowBounds 1 1 noReadings ⟨0, 1000⟩).1
    Late slowBounds 1000 ⟨0, 3601000⟩ ∧ sensorValidate true 0 slowBounds s.history 3601000 = .valid ∧
      ¬EachStep (StopsLate true slowBounds 1000) (readingStep true slowBounds 1 1) s [⟨0, 3601000⟩] := by
  intro s
  have late : Late slowBounds 1000 ⟨0, 3601000⟩ := by unfold Late; decide
  have valid : sensorValidate true 0 slowBounds s.history 3601000 = .valid := by decide +kernel
  exact ⟨late, valid, fun stops => stops.1 late valid⟩

end Rational

end IotPlatform
