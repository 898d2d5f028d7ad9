import Mathlib.Algebra.Group.Nat.Defs
import Mathlib.Data.List.Induction
import IotPlatform.Lib.Run

/-!
# Compressor short-cycle protection

`hvac_rules.c`: when the compressor may start again after it was turned off. A clock that is seen to run backward
shortens the delay, and the flag that says so outlives the cycle it was raised in.
-/

namespace IotPlatform

def hvacMinCompressorOffSec : UInt32 := 300

def hvacClockUnreliableFallbackSec : UInt32 := 120

structure ShortCycleState where
  lastOffTimeSec : UInt32 := 0
  tracked : Bool := false
  clockUnreliable : Bool := false
  deriving DecidableEq, Repr

def hvacShortCycleRecordOff (s : ShortCycleState) (currentTimeSec : UInt32) : ShortCycleState :=
  { s with lastOffTimeSec := currentTimeSec, tracked := true }

def hvacShortCycleCheck (s : ShortCycleState) (currentTimeSec : UInt32) : ShortCycleState × Bool :=
  if !s.tracked then (s, true)
  else if currentTimeSec < s.lastOffTimeSec then ({ s with clockUnreliable := true }, false)
  else
    let elapsed := currentTimeSec - s.lastOffTimeSec
    if s.clockUnreliable then (s, decide (elapsed ≥ hvacClockUnreliableFallbackSec))
    else (s, decide (elapsed ≥ hvacMinCompressorOffSec))

def hvacShortCycleReset : ShortCycleState := {}

inductive ShortCycleCall where
  | recordOff (currentTimeSec : UInt32)
  | check (currentTimeSec : UInt32)
  | reset
  deriving DecidableEq, Repr

/-- A call answers what `hvac_short_cycle_check` returns; the other two return nothing. -/
def shortCycleStep (s : ShortCycleState) : ShortCycleCall → ShortCycleState × Option Bool
  | .recordOff currentTimeSec => (hvacShortCycleRecordOff s currentTimeSec, none)
  | .check currentTimeSec => ((hvacShortCycleCheck s currentTimeSec).1, some (hvacShortCycleCheck s currentTimeSec).2)
  | .reset => (hvacShortCycleReset, none)

def shortCycleAfter (calls : List ShortCycleCall) : ShortCycleState := Run.finalState shortCycleStep {} calls

/-! ### What the calls made so far say about the state -/

/-- The compressor was last turned off at `off`, and only checks were made since. -/
def LatestOff (calls : List ShortCycleCall) (off : UInt32) : Prop :=
  ∃ earlier since, calls = earlier ++ .recordOff off :: List.map ShortCycleCall.check since

/-- Some check was made at a time before the latest shutdown then recorded, and no reset followed it. -/
def ClockWentBack (calls : List ShortCycleCall) : Prop :=
  ∃ earlier t later off, calls = earlier ++ .check t :: later ∧ LatestOff earlier off ∧ t < off ∧ .reset ∉ later

theorem latestOff_nil (off : UInt32) : ¬LatestOff [] off := by
  rintro ⟨earlier, since, split⟩
  simp at split

theorem latestOff_concat {calls : List ShortCycleCall} {call : ShortCycleCall} {off : UInt32} :
    LatestOff (calls ++ [call]) off ↔ call = .recordOff off ∨ ((∃ t, call = .check t) ∧ LatestOff calls off) := by
  constructor
  · rintro ⟨earlier, since, split⟩
    rcases List.eq_nil_or_concat since with rfl | ⟨front, last, rfl⟩
    · exact .inl (List.append_singleton_inj.mp split).2
    · rw [List.concat_eq_append, List.map_append, ← List.cons_append, ← List.append_assoc] at split
      obtain ⟨same, found⟩ := List.append_singleton_inj.mp split
      exact .inr ⟨⟨last, found⟩, earlier, front, same⟩
  · rintro (rfl | ⟨⟨t, rfl⟩, earlier, since, rfl⟩)
    · exact ⟨calls, [], rfl⟩
    · exact ⟨earlier, since ++ [t], by simp⟩

theorem clockWentBack_nil : ¬ClockWentBack [] := by
  rintro ⟨earlier, t, later, off, split, -⟩
  simp at split

/-- The last call of a run either follows a backward check or is one. -/
theorem clockWentBack_concat {calls : List ShortCycleCall} {call : ShortCycleCall} :
    ClockWentBack (calls ++ [call]) ↔
      (ClockWentBack calls ∧ call ≠ .reset) ∨ ∃ t off, call = .check t ∧ LatestOff calls off ∧ t < off := by
  constructor
  · rintro ⟨earlier, t, later, off, split, latest, backward, kept⟩
    rcases List.eq_nil_or_concat later with rfl | ⟨front, last, rfl⟩
    · obtain ⟨rfl, same⟩ := List.append_singleton_inj.mp split
      exact .inr ⟨t, off, same, latest, backward⟩
    · rw [List.concat_eq_append, ← List.cons_append, ← List.append_assoc] at split
      obtain ⟨rfl, rfl⟩ := List.append_singleton_inj.mp split
      refine .inl ⟨⟨earlier, t, front, off, rfl, latest, backward, ?_⟩, ?_⟩
      · exact fun member => kept (by simp [member])
      · exact fun reset => kept (by simp [reset])
  · rintro (⟨⟨earlier, t, later, off, rfl, latest, backward, kept⟩, other⟩ | ⟨t, off, rfl, latest, backward⟩)
    · exact ⟨earlier, t, later ++ [call], off, by simp, latest, backward, by simp [kept, Ne.symm other]⟩
    · exact ⟨calls, t, [], off, rfl, latest, backward, List.not_mem_nil⟩

/-- The state that a run leaves, told by its calls. -/
structure ShortCycleState.Tells (calls : List ShortCycleCall) (s : ShortCycleState) : Prop where
  latest : ∀ off, LatestOff calls off ↔ s.tracked = true ∧ s.lastOffTimeSec = off
  unreliable : s.clockUnreliable = true ↔ ClockWentBack calls

theorem hvacShortCycleCheck_latest (s : ShortCycleState) (t : UInt32) :
    (hvacShortCycleCheck s t).1.tracked = s.tracked ∧
      (hvacShortCycleCheck s t).1.lastOffTimeSec = s.lastOffTimeSec := by
  unfold hvacShortCycleCheck
  dsimp only
  split_ifs <;> exact ⟨rfl, rfl⟩

theorem hvacShortCycleCheck_unreliable (s : ShortCycleState) (t : UInt32) :
    (hvacShortCycleCheck s t).1.clockUnreliable = true ↔
      s.clockUnreliable = true ∨ (s.tracked = true ∧ t < s.lastOffTimeSec) := by
  unfold hvacShortCycleCheck
  dsimp only
  split_ifs <;> simp_all

theorem tells_step {calls : List ShortCycleCall} {s : ShortCycleState} (tells : s.Tells calls) (call : ShortCycleCall) :
    (shortCycleStep s call).1.Tells (calls ++ [call]) := by
  cases call with
  | recordOff t =>
    refine ⟨fun off => ?_, ?_⟩
    · rw [latestOff_concat]
      simp [shortCycleStep, hvacShortCycleRecordOff]
    · rw [clockWentBack_concat]
      simp [shortCycleStep, hvacShortCycleRecordOff, tells.unreliable]
  | check t =>
    obtain ⟨tracked, last⟩ := hvacShortCycleCheck_latest s t
    refine ⟨fun off => ?_, ?_⟩
    · rw [latestOff_concat, tells.latest]
      simp [shortCycleStep, tracked, last]
    · rw [clockWentBack_concat]
      simp only [shortCycleStep, hvacShortCycleCheck_unreliable, tells.unreliable, tells.latest]
      simp
  | reset =>
    refine ⟨fun off => ?_, ?_⟩
    · rw [latestOff_concat]
      simp [shortCycleStep, hvacShortCycleReset]
    · rw [clockWentBack_concat]
      simp [shortCycleStep, hvacShortCycleReset]

theorem shortCycleAfter_tells (calls : List ShortCycleCall) : (shortCycleAfter calls).Tells calls := by
  induction calls using List.reverseRecOn with
  | nil =>
    refine ⟨fun off => ?_, ?_⟩
    · simp [latestOff_nil, shortCycleAfter, Run.finalState]
    · simp [clockWentBack_nil, shortCycleAfter, Run.finalState]
  | append_singleton calls call ih =>
    unfold shortCycleAfter at ih ⊢
    rw [Run.finalState_concat]
    exact tells_step ih call

/-! ### The delay of a cycle -/

theorem hvacShortCycleCheck_iff {s : ShortCycleState} (tracked : s.tracked = true) (t : UInt32) :
    (hvacShortCycleCheck s t).2 = true ↔
      s.lastOffTimeSec.toNat + (if s.clockUnreliable then 120 else 300) ≤ t.toNat := by
  unfold hvacShortCycleCheck
  rw [tracked, Bool.not_true, if_neg Bool.false_ne_true]
  by_cases backward : t < s.lastOffTimeSec
  · rw [if_pos backward]
    have before : t.toNat < s.lastOffTimeSec.toNat := UInt32.lt_iff_toNat_lt.mp backward
    simp only [Bool.false_eq_true, false_iff]
    omega
  · rw [if_neg backward]
    have after : s.lastOffTimeSec ≤ t := UInt32.not_lt.mp backward
    have elapsed := UInt32.toNat_sub_of_le t s.lastOffTimeSec after
    have ordered : s.lastOffTimeSec.toNat ≤ t.toNat := UInt32.le_iff_toNat_le.mp after
    dsimp only
    cases s.clockUnreliable with
    | true =>
      simp only [if_true, decide_eq_true_eq, ge_iff_le, UInt32.le_iff_toNat_le, elapsed, hvacClockUnreliableFallbackSec]
      change 120 ≤ _ ↔ _
      omega
    | false =>
      simp only [Bool.false_eq_true, if_false, decide_eq_true_eq, ge_iff_le, UInt32.le_iff_toNat_le, elapsed,
        hvacMinCompressorOffSec]
      change 300 ≤ _ ↔ _
      omega

/-- Checks at or after the shutdown leave the flag as the earlier cycles left it. -/
theorem clockWentBack_reliable {earlier : List ShortCycleCall} {off : UInt32} {since : List UInt32}
    (reliable : ∀ t ∈ since, off ≤ t) :
    ClockWentBack (earlier ++ .recordOff off :: List.map ShortCycleCall.check since) ↔ ClockWentBack earlier := by
  induction since using List.reverseRecOn with
  | nil =>
    rw [List.map_nil, clockWentBack_concat]
    simp
  | append_singleton since t ih =>
    have front : ∀ t ∈ since, off ≤ t := fun u member => reliable u (List.mem_append_left _ member)
    have split : earlier ++ .recordOff off :: List.map ShortCycleCall.check (since ++ [t]) =
        (earlier ++ .recordOff off :: List.map ShortCycleCall.check since) ++ [.check t] := by simp
    have latest : ∀ last, LatestOff (earlier ++ .recordOff off :: List.map ShortCycleCall.check since) last →
        last = off := by
      intro last found
      have state := shortCycleAfter_tells (earlier ++ .recordOff off :: List.map ShortCycleCall.check since)
      rw [← ((state.latest last).mp found).2, ((state.latest off).mp ⟨earlier, since, rfl⟩).2]
    rw [split, clockWentBack_concat, ih front]
    constructor
    · rintro (⟨before, -⟩ | ⟨u, last, same, found, backward⟩)
      · exact before
      · obtain rfl : t = u := by simpa using same
        rw [latest last found] at backward
        exact absurd backward (UInt32.not_lt.mpr (reliable t (by simp)))
    · exact fun before => .inl ⟨before, by simp⟩

/-- With a clock that did not run backward since the shutdown, a restart waits for five minutes exactly when it did not
run backward in an earlier cycle either; in the last two minutes of the 32-bit clock no restart is permitted at all. -/
theorem short_cycle_exact (earlier : List ShortCycleCall) (off : UInt32) (since : List UInt32)
    (reliable : ∀ t ∈ since, off ≤ t) :
    (∀ t, (hvacShortCycleCheck (shortCycleAfter
        (earlier ++ .recordOff off :: List.map ShortCycleCall.check since)) t).2 = true → off.toNat + 300 ≤ t.toNat) ↔
      ¬ClockWentBack earlier ∨ 2 ^ 32 ≤ off.toNat + 120 := by
  have state := shortCycleAfter_tells (earlier ++ .recordOff off :: List.map ShortCycleCall.check since)
  obtain ⟨tracked, last⟩ := (state.latest off).mp ⟨earlier, since, rfl⟩
  have flag := state.unreliable.trans (clockWentBack_reliable reliable)
  simp only [hvacShortCycleCheck_iff tracked, last]
  by_cases back : ClockWentBack earlier
  · rw [flag.mpr back]
    simp only [if_true, back, not_true, false_or]
    constructor
    · intro waits
      by_contra room
      have early := waits (UInt32.ofNat (off.toNat + 120))
      rw [UInt32.toNat_ofNat_of_lt' (Nat.not_le.mp room)] at early
      omega
    · intro late t elapsed
      have bound := t.toNat_lt
      omega
  · have steady : (shortCycleAfter (earlier ++ .recordOff off :: List.map ShortCycleCall.check since)).clockUnreliable =
        false := by simpa [back] using flag
    rw [steady]
    simp [back]

theorem short_cycle_exact_after_reset :
    (∀ t ∈ ([5001, 5299] : List UInt32), (5000 : UInt32) ≤ t) ∧
      ((∀ t, (hvacShortCycleCheck (shortCycleAfter ([.recordOff 2000, .check 1500, .reset] ++
          .recordOff 5000 :: List.map ShortCycleCall.check [5001, 5299])) t).2 = true →
            (5000 : UInt32).toNat + 300 ≤ t.toNat) ↔
        ¬ClockWentBack [.recordOff 2000, .check 1500, .reset] ∨ 2 ^ 32 ≤ (5000 : UInt32).toNat + 120) :=
  ⟨by simp, short_cycle_exact _ 5000 [5001, 5299] (by simp)⟩

/-- Off at 2000, a check at 1500, off again at 5000: the restart at 5120 is permitted. -/
theorem fallback_outlives_cycle :
    ¬∀ (earlier : List ShortCycleCall) (off : UInt32) (since : List UInt32), (∀ t ∈ since, off ≤ t) →
      ∀ t, (hvacShortCycleCheck (shortCycleAfter
        (earlier ++ .recordOff off :: List.map ShortCycleCall.check since)) t).2 = true → off.toNat + 300 ≤ t.toNat := by
  intro protects
  have waits := protects [.recordOff 2000, .check 1500] 5000 [] (by simp) 5120 (by decide)
  exact absurd waits (by decide)

end IotPlatform
