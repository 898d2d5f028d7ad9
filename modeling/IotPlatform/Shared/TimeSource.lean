import Mathlib.Algebra.Group.Nat.Defs
import IotPlatform.Shared.SafetyRuns

/-!
# The time source

`time_source.c`: the time is taken from NTP, else from the RTC, else it is 0. The safety monitor takes every reading for a time,
the one of an outage too.
-/

namespace IotPlatform
open Run

inductive TimeSourceState where
  | uninitialised | ntpActive | rtcOnly | unreliable
  deriving DecidableEq, Repr

/-- What the callbacks of the registered backend answer at a call; `none` is a null pointer. -/
structure TimeSourceBackend where
  ntpTimeGet : Option UInt64
  ntpIsSynced : Option Bool
  rtcTimeGet : Option UInt64
  rtcIsAvailable : Option Bool
  deriving DecidableEq, Repr

/-- The module's statics without the persistent time of the mocked RTC, which is saved and loaded but never read. -/
structure TimeSource where
  state : TimeSourceState := .uninitialised
  mockTime : UInt64 := 0
  mockReliable : Bool := false
  mockActive : Bool := false
  deriving DecidableEq, Repr

def timeSourceInit : TimeSource := {}

def TimeSourceBackend.ntp (backend : TimeSourceBackend) : Option UInt64 :=
  if backend.ntpIsSynced = some true then
    let ntpTime := backend.ntpTimeGet.getD 0
    if ntpTime > 0 then some ntpTime else none
  else none

def TimeSourceBackend.rtc (backend : TimeSourceBackend) : Option UInt64 :=
  if backend.rtcIsAvailable = some true then
    let rtcTime := backend.rtcTimeGet.getD 0
    if rtcTime > 0 then some rtcTime else none
  else none

/-- `backend` is empty when none is registered. -/
def timeSourceGetMs (s : TimeSource) (backend : Option TimeSourceBackend) : TimeSource × UInt64 :=
  if s.mockActive then
    ({ s with state := if s.mockReliable then .ntpActive else .unreliable }, s.mockTime)
  else
    match backend.bind TimeSourceBackend.ntp, backend.bind TimeSourceBackend.rtc with
    | some ntpTime, _ => ({ s with state := .ntpActive }, ntpTime)
    | none, some rtcTime => ({ s with state := .rtcOnly }, rtcTime)
    | none, none => ({ s with state := .unreliable }, 0)

def timeSourceIsReliable (s : TimeSource) : Bool := s.state == .ntpActive || s.state == .rtcOnly

def timeSourceGetState (s : TimeSource) : TimeSourceState := s.state

def timeSourceMockSet (s : TimeSource) (ms : UInt64) (reliable : Bool) : TimeSource :=
  { s with mockTime := ms, mockReliable := reliable, mockActive := true }

def timeSourceMockAdvance (s : TimeSource) (deltaMs : UInt64) : TimeSource :=
  if s.mockActive then { s with mockTime := s.mockTime + deltaMs } else s

/-! ### A monitor on this clock -/

/-- A moment: the milliseconds that have really gone by, and what the backend answers then. -/
structure Moment where
  ms : Nat
  backend : Option TimeSourceBackend

/-- Neither NTP nor the RTC gives a time. -/
def Moment.Outage (at_moment : Moment) : Prop :=
  at_moment.backend.bind TimeSourceBackend.ntp = none ∧ at_moment.backend.bind TimeSourceBackend.rtc = none

/-- A clock that gives a time is at most `skew` off, and the end of 64 bits is far. -/
structure Moment.Accurate (at_moment : Moment) (skew : Nat) : Prop where
  ntp : ∀ time ∈ at_moment.backend.bind TimeSourceBackend.ntp,
    at_moment.ms ≤ time.toNat + skew ∧ time.toNat ≤ at_moment.ms + skew
  rtc : ∀ time ∈ at_moment.backend.bind TimeSourceBackend.rtc,
    at_moment.ms ≤ time.toNat + skew ∧ time.toNat ≤ at_moment.ms + skew
  far : at_moment.ms + skew < 2 ^ 64 - 500

/-- The two modules, and the moment of the last heartbeat since the monitor was initialised. -/
structure WatchedNode where
  clock : TimeSource := {}
  monitor : SafetyMonitorContext := {}
  beat : Option Moment := none

inductive WatchOp where
  | init (failsafe : Bool)
  | heartbeat (moment : Moment)
  | ruleEvaluated (ruleId : UInt16) (timestamp : UInt64)
  | check (moment : Moment)
  | triggerFailsafe

def WatchOp.moment : WatchOp → Option Moment
  | heartbeat moment | check moment => some moment
  | init _ | ruleEvaluated _ _ | triggerFailsafe => none

def watchStep (n : WatchedNode) : WatchOp → WatchedNode × Option SafetyMonitorState
  | .init failsafe =>
    let (monitor, result) := safetyMonitorInit n.monitor failsafe
    ({ n with monitor := monitor, beat := if result = .ok then none else n.beat }, none)
  | .heartbeat moment =>
    if !n.monitor.initialized then ({ n with monitor := (safetyMonitorHeartbeat n.monitor 0).1 }, none)
    else
      let (clock, now) := timeSourceGetMs n.clock moment.backend
      ({ clock := clock, monitor := (safetyMonitorHeartbeat n.monitor now).1, beat := some moment }, none)
  | .ruleEvaluated ruleId timestamp =>
    ({ n with monitor := (safetyMonitorRuleEvaluated n.monitor ruleId timestamp).1 }, none)
  | .check moment =>
    -- A monitor without a state to check does not read the clock.
    if !n.monitor.initialized ∨ n.monitor.state = .emergency then (n, some (safetyMonitorCheck n.monitor 0))
    else
      let (clock, now) := timeSourceGetMs n.clock moment.backend
      ({ n with clock := clock }, some (safetyMonitorCheck n.monitor now))
  | .triggerFailsafe => ({ n with monitor := (safetyMonitorTriggerFailsafe n.monitor).1 }, none)

/-- The time that a clock without a mock reads at a moment. -/
def Moment.reading (at_moment : Moment) : UInt64 := (timeSourceGetMs {} at_moment.backend).2

section Clock

variable {moment : Moment} {skew : Nat}

theorem timeSourceGetMs_reading {s : TimeSource} (real : s.mockActive = false) (moment : Moment) :
    (timeSourceGetMs s moment.backend).2 = moment.reading ∧ (timeSourceGetMs s moment.backend).1.mockActive = false := by
  rw [Moment.reading, timeSourceGetMs, timeSourceGetMs, real]
  cases moment.backend.bind TimeSourceBackend.ntp with
  | some ntpTime => exact ⟨rfl, rfl⟩
  | none =>
    cases moment.backend.bind TimeSourceBackend.rtc with
    | some rtcTime => exact ⟨rfl, rfl⟩
    | none => exact ⟨rfl, rfl⟩

theorem reading_of_outage (out : moment.Outage) : moment.reading = 0 := by
  rw [Moment.reading, timeSourceGetMs, out.1, out.2]
  rfl

theorem ntp_pos {backend : TimeSourceBackend} {time : UInt64} (synced : backend.ntp = some time) : 0 < time.toNat := by
  rw [TimeSourceBackend.ntp] at synced
  split at synced
  · dsimp only at synced
    split at synced
    · rename_i positive
      rw [← Option.some.inj synced]
      exact UInt64.lt_iff_toNat_lt.mp positive
    · cases synced
  · cases synced

theorem rtc_pos {backend : TimeSourceBackend} {time : UInt64} (ticking : backend.rtc = some time) : 0 < time.toNat := by
  rw [TimeSourceBackend.rtc] at ticking
  split at ticking
  · dsimp only at ticking
    split at ticking
    · rename_i positive
      rw [← Option.some.inj ticking]
      exact UInt64.lt_iff_toNat_lt.mp positive
    · cases ticking
  · cases ticking

theorem reading_accurate (accurate : moment.Accurate skew) :
    moment.Outage ∨ (0 < moment.reading.toNat ∧ moment.ms ≤ moment.reading.toNat + skew ∧
      moment.reading.toNat ≤ moment.ms + skew) := by
  obtain ⟨ntp, rtc, -⟩ := accurate
  rw [Moment.Outage, Moment.reading, timeSourceGetMs]
  cases synced : moment.backend.bind TimeSourceBackend.ntp with
  | some ntpTime =>
    obtain ⟨backend, -, found⟩ := Option.bind_eq_some_iff.mp synced
    exact Or.inr ⟨ntp_pos found, ntp ntpTime synced⟩
  | none =>
    cases ticking : moment.backend.bind TimeSourceBackend.rtc with
    | some rtcTime =>
      obtain ⟨backend, -, found⟩ := Option.bind_eq_some_iff.mp ticking
      exact Or.inr ⟨rtc_pos found, rtc rtcTime ticking⟩
    | none => exact Or.inl ⟨rfl, rfl⟩

/-- Two readings that lie 500 ms apart in 64 bits are both from outages, or their moments lie no further apart than the skew
allows. -/
theorem recent_of_readings {beat : Moment} (accurate : moment.Accurate skew) (accurate' : beat.Accurate skew)
    (recent : moment.reading - beat.reading ≤ 500) :
    beat.Outage ∧ moment.Outage ∨ moment.ms ≤ beat.ms + 500 + 2 * skew := by
  have far := accurate.far
  have far' := accurate'.far
  rw [UInt64.le_iff_toNat_le, UInt64.toNat_sub, show (500 : UInt64).toNat = 500 from rfl] at recent
  have bound := moment.reading.toNat_lt
  have bound' := beat.reading.toNat_lt
  rcases reading_accurate accurate with out | close
  · rw [reading_of_outage out, UInt64.toNat_zero] at recent
    rcases reading_accurate accurate' with out' | close'
    · exact Or.inl ⟨out', out⟩
    · omega
  · rcases reading_accurate accurate' with out' | close'
    · rw [reading_of_outage out', UInt64.toNat_zero] at recent
      omega
    · omega

end Clock

/-! ### Runs -/

/-- The clock is no mock, and a monitor that beats has the reading of the last heartbeat. -/
structure WatchedNode.Follows (n : WatchedNode) (skew : Nat) : Prop where
  real : n.clock.mockActive = false
  beaten : n.monitor.state = .active ∨ n.monitor.state = .degraded →
    ∃ beat, n.beat = some beat ∧ beat.Accurate skew ∧ n.monitor.lastHeartbeatMs = beat.reading

section Runs

variable {n : WatchedNode} {skew : Nat}

theorem watchStep_follows (follows : n.Follows skew) {op : WatchOp} (accurate : ∀ moment ∈ op.moment, moment.Accurate skew) :
    (watchStep n op).1.Follows skew := by
  obtain ⟨real, beaten⟩ := follows
  cases op with
  | init failsafe =>
    cases failsafe with
    | false => exact ⟨real, beaten⟩
    | true =>
      refine ⟨real, fun beats => ?_⟩
      rcases beats with active | degraded
      · cases active
      · cases degraded
  | heartbeat moment =>
    rw [watchStep]
    cases ready : n.monitor.initialized with
    | false =>
      have ignored : (safetyMonitorHeartbeat n.monitor 0).1 = n.monitor := by simp [safetyMonitorHeartbeat, ready]
      simp only [Bool.not_false, if_true, ignored]
      exact ⟨real, beaten⟩
    | true =>
      obtain ⟨reading, still⟩ := timeSourceGetMs_reading real moment
      refine ⟨still, fun _ => ⟨moment, rfl, accurate moment rfl, ?_⟩⟩
      simp only [Bool.not_true, Bool.false_eq_true, if_false, safetyMonitorHeartbeat, ready]
      exact reading
  | ruleEvaluated ruleId timestamp =>
    obtain ⟨rules, kept⟩ := ruleEvaluated_keeps n.monitor ruleId timestamp
    rw [watchStep, kept]
    exact ⟨real, beaten⟩
  | check moment =>
    rw [watchStep]
    split
    · exact ⟨real, beaten⟩
    · exact ⟨(timeSourceGetMs_reading real moment).2, beaten⟩
  | triggerFailsafe =>
    rw [watchStep, safetyMonitorTriggerFailsafe]
    split
    · exact ⟨real, beaten⟩
    · refine ⟨real, fun beats => ?_⟩
      rcases beats with active | degraded
      · cases active
      · cases degraded

theorem check_reads {moment : Moment} (follows : n.Follows skew) (beating : n.monitor.state = .active)
    (ready : n.monitor.initialized = true) :
    (watchStep n (.check moment)).2 = some (safetyMonitorCheck n.monitor moment.reading) := by
  rw [watchStep, if_neg (by simp [beating, ready])]
  exact congrArg (some ∘ safetyMonitorCheck n.monitor) (timeSourceGetMs_reading follows.real moment).1

end Runs

/-- In every run a check that answers ACTIVE has a heartbeat behind it that is no older than the deadline and twice the skew of
the clocks, or one that was taken without a clock, as the check was: then it answers ACTIVE however old that heartbeat is. -/
theorem outage_hides_silence (skew : Nat) (ops : List WatchOp) (moment : Moment)
    (accurate : ∀ op ∈ ops, ∀ moment ∈ op.moment, moment.Accurate skew) (accurate' : moment.Accurate skew) :
    let n := finalState watchStep {} ops
    ((watchStep n (.check moment)).2 = some .active →
        ∃ beat ∈ n.beat, beat.Outage ∧ moment.Outage ∨ moment.ms ≤ beat.ms + 500 + 2 * skew) ∧
      (n.monitor.initialized = true → n.monitor.state = .active → (∀ beat ∈ n.beat, beat.Outage) → moment.Outage →
        (watchStep n (.check moment)).2 = some .active) := by
  intro n
  have follows : n.Follows skew := by
    have start : ({} : WatchedNode).Follows skew := by
      refine ⟨rfl, fun beats => ?_⟩
      rcases beats with active | degraded
      · cases active
      · cases degraded
    have keeps : ∀ n : WatchedNode, ∀ op ∈ ops, n.Follows skew → (watchStep n op).1.Follows skew :=
      fun _ op member follows => watchStep_follows follows (accurate op member)
    exact finalState_invariant_of_mem (P := fun n : WatchedNode => n.Follows skew) start keeps
  constructor
  · intro active
    have beating : n.monitor.Beating moment.reading := by
      rw [watchStep] at active
      split at active
      · rename_i unread
        have beating := (check_eq_active_iff n.monitor 0).mp (Option.some.inj active)
        rcases unread with blank | latched
        · simp [beating.1] at blank
        · rcases beating.2.1 with state | state <;> simp [latched] at state
      · have answer : safetyMonitorCheck n.monitor (timeSourceGetMs n.clock moment.backend).2 = .active :=
          Option.some.inj active
        rw [(timeSourceGetMs_reading follows.real moment).1] at answer
        exact (check_eq_active_iff n.monitor moment.reading).mp answer
    obtain ⟨beat, found, exact_beat, last⟩ := follows.beaten beating.2.1
    refine ⟨beat, found, ?_⟩
    exact recent_of_readings accurate' exact_beat (last ▸ beating.2.2)
  · intro ready active outages out
    obtain ⟨beat, found, -, last⟩ := follows.beaten (Or.inl active)
    rw [check_reads follows active ready]
    refine congrArg some ((check_eq_active_iff _ _).mpr ⟨ready, Or.inl active, ?_⟩)
    rw [last, reading_of_outage out, reading_of_outage (outages beat found)]
    decide

/-- An hour without a clock, and without a heartbeat. -/
theorem outage_hides_silence_hour :
    (watchStep (finalState watchStep {} [.init true, .heartbeat ⟨5000, none⟩]) (.check ⟨3605000, none⟩)).2 = some .active :=
  (outage_hides_silence 0 [.init true, .heartbeat ⟨5000, none⟩] ⟨3605000, none⟩
    (by
      intro op member moment own
      simp only [List.mem_cons, List.not_mem_nil, or_false] at member
      rcases member with rfl | rfl
      · cases own
      · cases own
        exact ⟨by simp, by simp, by decide⟩)
    ⟨by simp, by simp, by decide⟩).2 rfl rfl (by
      intro beat found
      cases found
      exact ⟨rfl, rfl⟩) ⟨rfl, rfl⟩

end IotPlatform
