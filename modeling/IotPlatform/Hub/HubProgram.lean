import IotPlatform.Lib.Run
import IotPlatform.Crypto.HmacSha256
import IotPlatform.Hub.ValidationGate
import IotPlatform.Profiles.CommandedState
import IotPlatform.Profiles.FailSafe

/-!
# The hub program

`hub_init` of `main.c` and the `setup` and `loop` of `app_main.cpp`, for each profile a hub is built for. The handler is
configured without history buffers, so that no reading is ever compared with an earlier one.
-/

namespace IotPlatform
open Run

namespace HubProfile

def vtable : HubProfile → DomainProfileVTable Binary32
  | home => homeProfileVtable
  | agriculture => agricultureProfileVtable
  | hvac => hvacProfileVtable
  | waterTreatment => waterProfileVtable

def boundsLookup : HubProfile → UInt8 → Option (SensorValidationBounds Binary32)
  | home => homeGetValidationBounds
  | agriculture => agricultureGetValidationBounds
  | hvac => hvacGetValidationBounds
  | waterTreatment => waterGetValidationBounds

def domainProfileId : HubProfile → UInt8
  | home => 0
  | agriculture => 1
  | hvac => 2
  | waterTreatment => 3

/-- `history_lookup` is a null pointer in every build. -/
def ingestionConfig (profile : HubProfile) : IngestionHandlerConfig :=
  { vtable := profile.vtable, boundsLookup := some profile.boundsLookup, historyLookup := none
    domainProfileId := profile.domainProfileId }

def rules : HubProfile → List (RuleEntry Binary32)
  | home => homeRules
  | agriculture => agricultureRules
  | hvac => hvacRules
  | waterTreatment => waterRules

end HubProfile

/-- The handler with its trackers, the fail-safe table, and `last_poll_ms` of `loop`. -/
structure Hub where
  handler : IngestionHandler
  failsafe : ActuatorFailsafe
  lastPollMs : UInt32

def zeroKey : Digest := Vector.replicate 32 0

/-- The handler before its configuration: both trackers are set up, the gateway's unauthenticated and the other empty. -/
def bootHandler : IngestionHandler :=
  { config := none, stats := {}, gwTracker := gatewayTrackerInit 0xF0 zeroKey, edgeTracker := .tracker (edgeTrackerInit 0)
    histories := fun _ => sensorHistoryReset, sensorValidationReady := true, ruleEngineReady := true }

def hubInit (profile : HubProfile) : Hub × Bool :=
  let (failsafe, registered) := profile.failsafeRegisterAll actuatorFailsafeInit
  if !registered then ({ handler := bootHandler, failsafe := failsafe, lastPollMs := 0 }, false)
  else
    let (handler, configured) := ingestionHandlerInit bootHandler profile.ingestionConfig
    ({ handler := handler, failsafe := failsafe, lastPollMs := 0 }, configured)

/-- One call of `loop`: `nowMs` is what `millis` returns, `received` what the radio adapter hands over if it is asked. The
events are those of the poll, if there is one. -/
def hubLoop (hmac : Hmac) (hub : Hub) (nowMs : UInt32) (received : Option (List UInt8)) : Hub × Option (List PollEvent) :=
  if nowMs - hub.lastPollMs ≥ 1000 then
    let o := ingestionHandlerPoll hmac hub.handler received nowMs.toUInt64
    ({ hub with handler := o.handler, lastPollMs := nowMs }, some o.events)
  else (hub, none)

/-- The loop is called so many milliseconds after the start; or the trackers are given what an attestation would leave in
them, which nothing under `hub/` does. -/
inductive HubProgramOp where
  | loop (ms : Nat) (received : Option (List UInt8))
  | trust (gwTracker : GatewayTracker) (edgeTracker : EdgeNodeTracker)

def hubProgramStep (hmac : Hmac) (hub : Hub) : HubProgramOp → Hub × Option (List PollEvent)
  | .loop ms received => hubLoop hmac hub (UInt32.ofNat ms) received
  | .trust gwTracker edgeTracker =>
    ({ hub with handler := { hub.handler with gwTracker := gwTracker, edgeTracker := .tracker edgeTracker } }, none)

/-- The clock does not go back, and the loop comes round within `d` milliseconds. -/
def Paced (d : Nat) : Nat → List HubProgramOp → Prop
  | _, [] => True
  | now, .loop ms _ :: rest => now ≤ ms ∧ ms ≤ now + d ∧ Paced d ms rest
  | now, .trust _ _ :: rest => Paced d now rest

def loopTimes (ops : List HubProgramOp) : List Nat :=
  ops.filterMap fun
    | .loop ms _ => some ms
    | .trust _ _ => none

/-- When the calls that polled were made. -/
def pollTimes (calls : List (HubProgramOp × Option (List PollEvent))) : List Nat :=
  calls.filterMap fun
    | (.loop ms _, some _) => some ms
    | _ => none

/-! ### A hub without memory -/

/-- What is done with an entry, from the entry alone. -/
def HubProfile.entryEvents (profile : HubProfile) (currentMs : UInt64) (entry : BatchFrameEntry) : List PollEvent :=
  let reading := entry.toReading currentMs
  if profile.vtable.validateSensorReading reading then
    [.validate entry reading, .historianWrite (historianRecordOf profile.ingestionConfig reading),
      .evaluateRules reading (ruleEngineEvaluate true profile.rules reading ruleEngineMaxActions)]
  else [.validate entry reading, .audit (vtableRejectedEvent reading.nodeId)]

/-- All that a hub needs to know: when it polled last, without a bound, and whom it trusts. -/
structure HubView where
  lastPollMs : Nat
  gwTracker : GatewayTracker
  edgeTracker : EdgeNodeTracker

/-- A poll: the gateway's tracker after it, and the events. -/
def HubProfile.viewPoll (hmac : Hmac) (profile : HubProfile) (v : HubView) (currentMs : UInt64) :
    Option (List UInt8) → GatewayTracker × List PollEvent
  | none => (v.gwTracker, [])
  | some frame =>
    let o := gatewayIngestFrame hmac v.gwTracker (.tracker v.edgeTracker) frame ingestionHandlerMaxEntries
    let entries := if o.result = .ok then o.entries else []
    (o.tracker, o.events.map PollEvent.audit ++ entries.flatMap (profile.entryEvents currentMs))

def HubProfile.viewStep (hmac : Hmac) (profile : HubProfile) (v : HubView) : HubProgramOp → HubView × Option (List PollEvent)
  | .loop ms received =>
    if ms < v.lastPollMs + 1000 then (v, none)
    else
      let (gwTracker, events) := profile.viewPoll hmac v (UInt32.ofNat ms).toUInt64 received
      ({ v with lastPollMs := ms, gwTracker := gwTracker }, some events)
  | .trust gwTracker edgeTracker => ({ v with gwTracker := gwTracker, edgeTracker := edgeTracker }, none)

def bootView : HubView := { lastPollMs := 0, gwTracker := gatewayTrackerInit 0xF0 zeroKey, edgeTracker := edgeTrackerInit 0 }

/-- The handler of a booted hub that trusts these. -/
structure IngestionHandler.Booted (h : IngestionHandler) (profile : HubProfile) (gwTracker : GatewayTracker)
    (edgeTracker : EdgeNodeTracker) : Prop where
  config : h.config = some profile.ingestionConfig
  gwTracker : h.gwTracker = gwTracker
  edgeTracker : h.edgeTracker = .tracker edgeTracker
  ruleEngineReady : h.ruleEngineReady = true

section Poll

variable {hmac : Hmac} {profile : HubProfile} {h : IngestionHandler} {gwTracker : GatewayTracker}
  {edgeTracker : EdgeNodeTracker}

theorem getRuleTable_rules (profile : HubProfile) : profile.vtable.getRuleTable = some profile.rules := by
  cases profile <;> rfl

theorem processEntry_booted (booted : h.Booted profile gwTracker edgeTracker) (currentMs : UInt64) (entry : BatchFrameEntry) :
    (processEntry profile.ingestionConfig currentMs h entry).1.Booted profile gwTracker edgeTracker ∧
      (processEntry profile.ingestionConfig currentMs h entry).2.2 = profile.entryEvents currentMs entry := by
  obtain ⟨config, gateway, edge, ready⟩ := booted
  have rules : ruleResults profile.ingestionConfig h (entry.toReading currentMs) =
      some (ruleEngineEvaluate true profile.rules (entry.toReading currentMs) ruleEngineMaxActions) := by
    rw [ruleResults, HubProfile.ingestionConfig, getRuleTable_rules, ready]
    rfl
  cases gate : profile.vtable.validateSensorReading (entry.toReading currentMs) with
  | false =>
    simp only [processEntry, HubProfile.entryEvents, HubProfile.ingestionConfig, gate, Bool.not_false, if_true,
      Bool.false_eq_true, if_false, and_true]
    exact ⟨config, gateway, edge, ready⟩
  | true =>
    have open_gate : sensorGate profile.ingestionConfig h (entry.toReading currentMs) currentMs = some h.histories := rfl
    have gate' : profile.ingestionConfig.vtable.validateSensorReading (entry.toReading currentMs) = true := gate
    simp only [processEntry, gate', HubProfile.entryEvents, gate, open_gate, rules, Bool.not_true, Bool.false_eq_true, if_false,
      if_true, Option.map_some, Option.toList_some, List.cons_append, List.nil_append, and_true]
    exact ⟨config, gateway, edge, ready⟩

theorem processEntries_booted (booted : h.Booted profile gwTracker edgeTracker) (currentMs : UInt64)
    (entries : List BatchFrameEntry) :
    (processEntries profile.ingestionConfig currentMs h entries).1.Booted profile gwTracker edgeTracker ∧
      (processEntries profile.ingestionConfig currentMs h entries).2.2 = entries.flatMap (profile.entryEvents currentMs) := by
  induction entries generalizing h with
  | nil => exact ⟨booted, rfl⟩
  | cons entry rest ih =>
    obtain ⟨next, first⟩ := processEntry_booted booted currentMs entry
    obtain ⟨last, later⟩ := ih next
    rw [List.flatMap_cons, ← first, ← later]
    exact ⟨last, rfl⟩

theorem poll_booted {v : HubView} (booted : h.Booted profile v.gwTracker v.edgeTracker) (received : Option (List UInt8))
    (currentMs : UInt64) :
    (ingestionHandlerPoll hmac h received currentMs).handler.Booted profile
        (profile.viewPoll hmac v currentMs received).1 v.edgeTracker ∧
      (ingestionHandlerPoll hmac h received currentMs).events = (profile.viewPoll hmac v currentMs received).2 := by
  obtain ⟨_, stats, _, _, histories, validationReady, _⟩ := h
  obtain ⟨rfl, rfl, rfl, rfl⟩ := booted
  rw [ingestionHandlerPoll]
  cases received with
  | none => exact ⟨⟨rfl, rfl, rfl, rfl⟩, rfl⟩
  | some frame =>
    rw [HubProfile.viewPoll]
    dsimp only
    generalize gatewayIngestFrame hmac v.gwTracker (.tracker v.edgeTracker) frame ingestionHandlerMaxEntries = o
    by_cases accepted : o.result = .ok
    · rw [if_neg (not_not.mpr accepted), if_pos accepted]
      have now : ∀ stats, IngestionHandler.Booted ⟨some profile.ingestionConfig, stats, o.tracker, .tracker v.edgeTracker,
          histories, validationReady, true⟩ profile o.tracker v.edgeTracker := fun _ => ⟨rfl, rfl, rfl, rfl⟩
      obtain ⟨still, events⟩ := processEntries_booted (now _) currentMs o.entries
      exact ⟨still, congrArg (o.events.map PollEvent.audit ++ ·) events⟩
    · rw [if_pos accepted, if_neg accepted, List.flatMap_nil, List.append_nil]
      exact ⟨⟨rfl, rfl, rfl, rfl⟩, rfl⟩

end Poll

/-! ### Runs of the loop -/

theorem due_iff {last ms : Nat} (past : last ≤ ms) (within : ms < last + 2 ^ 32) :
    UInt32.ofNat ms - UInt32.ofNat last ≥ 1000 ↔ last + 1000 ≤ ms := by
  have elapsed : (UInt32.ofNat ms - UInt32.ofNat last).toNat = ms - last := by
    rw [UInt32.toNat_sub, UInt32.toNat_ofNat', UInt32.toNat_ofNat']
    omega
  rw [ge_iff_le, UInt32.le_iff_toNat_le, elapsed, show (1000 : UInt32).toNat = 1000 from rfl]
  omega

/-- The hub is as the view says, and the loop was called last at `now`. -/
structure Hub.Shows (hub : Hub) (profile : HubProfile) (v : HubView) (now : Nat) : Prop where
  handler : hub.handler.Booted profile v.gwTracker v.edgeTracker
  lastPollMs : hub.lastPollMs = UInt32.ofNat v.lastPollMs
  past : v.lastPollMs ≤ now
  recent : now < v.lastPollMs + 1000

section Runs

variable {hmac : Hmac} {profile : HubProfile} {hub : Hub} {v : HubView} {now d : Nat}

theorem hubProgramStep_loop (small : 1000 + d ≤ 2 ^ 32) (shows_view : hub.Shows profile v now) {ms : Nat} (later : now ≤ ms)
    (soon : ms ≤ now + d) (received : Option (List UInt8)) :
    (hubProgramStep hmac hub (.loop ms received)).2 = (profile.viewStep hmac v (.loop ms received)).2 ∧
      (hubProgramStep hmac hub (.loop ms received)).1.Shows profile (profile.viewStep hmac v (.loop ms received)).1 ms := by
  obtain ⟨booted, last, past, recent⟩ := shows_view
  have due := due_iff (show v.lastPollMs ≤ ms by omega) (show ms < v.lastPollMs + 2 ^ 32 by omega)
  rw [hubProgramStep, hubLoop, last, HubProfile.viewStep]
  by_cases early : ms < v.lastPollMs + 1000
  · rw [if_neg (mt due.mp (Nat.not_le_of_lt early)), if_pos early]
    exact ⟨rfl, booted, last, Nat.le_trans past later, early⟩
  · rw [if_pos (due.mpr (Nat.le_of_not_lt early)), if_neg early]
    obtain ⟨still, events⟩ := poll_booted booted received (UInt32.ofNat ms).toUInt64
    exact ⟨congrArg some events, still, rfl, Nat.le_refl ms, by dsimp only; omega⟩

theorem hubProgramStep_trust (shows_view : hub.Shows profile v now) (gwTracker : GatewayTracker)
    (edgeTracker : EdgeNodeTracker) :
    (hubProgramStep hmac hub (.trust gwTracker edgeTracker)).1.Shows profile
      (profile.viewStep hmac v (.trust gwTracker edgeTracker)).1 now := by
  obtain ⟨booted, last, past, recent⟩ := shows_view
  exact ⟨⟨booted.config, rfl, rfl, booted.ruleEngineReady⟩, last, past, recent⟩

theorem hubRun_view (small : 1000 + d ≤ 2 ^ 32) (shows_view : hub.Shows profile v now) {ops : List HubProgramOp}
    (paced : Paced d now ops) : outputs (hubProgramStep hmac) hub ops = outputs (profile.viewStep hmac) v ops := by
  induction ops generalizing hub v now with
  | nil => rfl
  | cons op rest ih =>
    cases op with
    | loop ms received =>
      obtain ⟨later, soon, paced⟩ := paced
      obtain ⟨same, next⟩ := hubProgramStep_loop small shows_view later soon received
      rw [outputs, outputs, same, ih next paced]
    | trust gwTracker edgeTracker =>
      rw [outputs, outputs, ih (hubProgramStep_trust shows_view gwTracker edgeTracker) paced]
      rfl

theorem hubInit_shows (profile : HubProfile) : (hubInit profile).1.Shows profile bootView 0 := by
  have booted : (hubInit profile).1.handler.Booted profile bootView.gwTracker bootView.edgeTracker ∧
      (hubInit profile).1.lastPollMs = 0 := by
    cases profile <;> exact ⟨⟨rfl, rfl, rfl, rfl⟩, rfl⟩
  exact ⟨booted.1, booted.2, Nat.le_refl 0, by decide⟩

/-! ### When it polls -/

theorem viewStep_early {ms : Nat} (early : ms < v.lastPollMs + 1000) (received : Option (List UInt8)) :
    profile.viewStep hmac v (.loop ms received) = (v, none) := by
  rw [HubProfile.viewStep, if_pos early]

theorem viewStep_due {ms : Nat} (due : ¬ms < v.lastPollMs + 1000) (received : Option (List UInt8)) :
    (profile.viewStep hmac v (.loop ms received)).2.isSome = true ∧
      (profile.viewStep hmac v (.loop ms received)).1.lastPollMs = ms := by
  rw [HubProfile.viewStep, if_neg due]
  exact ⟨rfl, rfl⟩

theorem pollTimes_cons_none (op : HubProgramOp) (rest : List (HubProgramOp × Option (List PollEvent))) :
    pollTimes ((op, none) :: rest) = pollTimes rest := by
  cases op <;> rfl

/-- The chain from the last poll on, and a poll not long before every call of the loop. -/
def PollsSteadily (d last : Nat) (polls times : List Nat) : Prop :=
  (last :: polls).IsChain (fun p q => p + 1000 ≤ q ∧ q < p + 1000 + d) ∧
    ∀ ms ∈ times, ∃ p ∈ last :: polls, p ≤ ms ∧ ms < p + 1000

theorem view_polls_steadily (past : v.lastPollMs ≤ now) (recent : now < v.lastPollMs + 1000) {ops : List HubProgramOp}
    (paced : Paced d now ops) :
    PollsSteadily d v.lastPollMs (pollTimes (ops.zip (outputs (profile.viewStep hmac) v ops))) (loopTimes ops) := by
  induction ops generalizing v now with
  | nil => exact ⟨List.IsChain.singleton _, by simp [loopTimes]⟩
  | cons op rest ih =>
    rw [outputs, List.zip_cons_cons]
    cases op with
    | trust gwTracker edgeTracker =>
      exact ih (v := (profile.viewStep hmac v (.trust gwTracker edgeTracker)).1) past recent paced
    | loop ms received =>
      obtain ⟨later, soon, paced⟩ := paced
      by_cases early : ms < v.lastPollMs + 1000
      · rw [viewStep_early early, pollTimes_cons_none]
        obtain ⟨chain, near⟩ := ih (show v.lastPollMs ≤ ms by omega) early paced
        refine ⟨chain, List.forall_mem_cons.mpr ⟨?_, near⟩⟩
        exact ⟨v.lastPollMs, List.mem_cons_self, by omega, early⟩
      · have due : (profile.viewStep hmac v (.loop ms received)).2.isSome = true ∧
            (profile.viewStep hmac v (.loop ms received)).1.lastPollMs = ms := viewStep_due early received
        obtain ⟨polled, last⟩ := due
        obtain ⟨events, called⟩ := Option.isSome_iff_exists.mp polled
        obtain ⟨chain, near⟩ := ih (v := (profile.viewStep hmac v (.loop ms received)).1) (by omega) (by omega) paced
        rw [last] at chain near
        rw [called]
        refine ⟨List.isChain_cons_cons.mpr ⟨⟨by omega, by omega⟩, chain⟩, List.forall_mem_cons.mpr ⟨?_, ?_⟩⟩
        · exact ⟨ms, List.mem_cons_of_mem _ List.mem_cons_self, Nat.le_refl ms, by omega⟩
        · intro time member
          obtain ⟨p, polled_at, bounds⟩ := near time member
          exact ⟨p, List.mem_cons_of_mem _ polled_at, bounds⟩

/-! ### Before anyone is trusted -/

end Runs

/-- The loop polls a second or more after its last poll and less than `d` ms late, the wrap of the 32-bit clock included; after
every call of it the last poll is less than a second old. -/
theorem hub_polls_steadily (hmac : Hmac) (profile : HubProfile) (d : Nat) (ops : List HubProgramOp) (small : 1000 + d ≤ 2 ^ 32)
    (paced : Paced d 0 ops) :
    let polls := pollTimes (ops.zip (outputs (hubProgramStep hmac) (hubInit profile).1 ops))
    (0 :: polls).IsChain (fun p q => p + 1000 ≤ q ∧ q < p + 1000 + d) ∧
      ∀ ms ∈ loopTimes ops, ∃ p ∈ 0 :: polls, p ≤ ms ∧ ms < p + 1000 := by
  dsimp only
  rw [hubRun_view small (hubInit_shows profile) paced]
  exact view_polls_steadily (v := bootView) (Nat.le_refl 0) (by decide) paced

theorem hub_polls_steadily_twice :
    let ops : List HubProgramOp := [.loop 900 none, .loop 1900 none, .loop 2900 none]
    let polls := pollTimes (ops.zip (outputs (hubProgramStep iotHmacSha256) (hubInit .home).1 ops))
    (0 :: polls).IsChain (fun p q => p + 1000 ≤ q ∧ q < p + 1000 + 1000) ∧
      ∀ ms ∈ loopTimes ops, ∃ p ∈ 0 :: polls, p ≤ ms ∧ ms < p + 1000 :=
  hub_polls_steadily iotHmacSha256 .home 1000 [.loop 900 none, .loop 1900 none, .loop 2900 none] (by decide)
    (by simp [Paced])

/-- The results of all rule evaluations of a run. -/
def hubCommands (reports : List (Option (List PollEvent))) : List RuleEvaluationResult :=
  reports.flatMap fun events => (events.getD []).flatMap fun
    | .evaluateRules _ results => results
    | _ => []

/-- A rule of the profile gives this command whenever it fires. -/
def HubProfile.Commands (profile : HubProfile) (command : RuleEvaluationResult) : Prop :=
  ∃ rule ∈ profile.rules, command.actuatorId = rule.actuatorId ∧ command.actuatorState = rule.comparisonType.commandedState

section Commands

variable {hmac : Hmac} {profile : HubProfile}

theorem entryEvents_commands {currentMs : UInt64} {entry : BatchFrameEntry} {reading : SensorReading Binary32}
    {results : List RuleEvaluationResult} (evaluated : .evaluateRules reading results ∈ profile.entryEvents currentMs entry)
    {command : RuleEvaluationResult} (given : command ∈ results) : profile.Commands command := by
  rw [HubProfile.entryEvents] at evaluated
  split at evaluated
  · simp only [List.mem_cons, reduceCtorEq, PollEvent.evaluateRules.injEq, List.not_mem_nil, or_false, false_or] at evaluated
    obtain ⟨rfl, rfl⟩ := evaluated
    rw [ruleEngineEvaluate] at given
    split at given
    · cases given
    · obtain ⟨rule, member, fires, rfl⟩ := mem_evaluateRules given
      exact ⟨rule, member, rfl, RuleEntry.result_actuatorState fires.2⟩
  · simp at evaluated

theorem hubProgramStep_commands {hub : Hub} {gwTracker : GatewayTracker} {edgeTracker : EdgeNodeTracker}
    (booted : hub.handler.Booted profile gwTracker edgeTracker) (op : HubProgramOp) :
    (∃ gwTracker edgeTracker, (hubProgramStep hmac hub op).1.handler.Booted profile gwTracker edgeTracker) ∧
      ∀ command ∈ hubCommands [(hubProgramStep hmac hub op).2], profile.Commands command := by
  cases op with
  | trust gwTracker edgeTracker =>
    exact ⟨⟨gwTracker, edgeTracker, booted.config, rfl, rfl, booted.ruleEngineReady⟩, by simp [hubCommands, hubProgramStep]⟩
  | loop ms received =>
    rw [hubProgramStep, hubLoop]
    split
    · obtain ⟨still, events⟩ := @poll_booted hmac profile hub.handler ⟨0, gwTracker, edgeTracker⟩ booted received
        (UInt32.ofNat ms).toUInt64
      refine ⟨⟨_, _, still⟩, ?_⟩
      intro command given
      simp only [events, hubCommands, List.flatMap_cons, List.flatMap_nil, List.append_nil, Option.getD_some,
        List.mem_flatMap] at given
      obtain ⟨event, happened, given⟩ := given
      cases event with
      | evaluateRules reading results =>
        cases received with
        | none => cases happened
        | some frame =>
          rw [HubProfile.viewPoll, List.mem_append] at happened
          rcases happened with audit | processed
          · simp at audit
          · obtain ⟨entry, -, evaluated⟩ := List.mem_flatMap.mp processed
            exact entryEvents_commands evaluated given
      | audit | validate | historianWrite => cases given
    · exact ⟨⟨_, _, booted⟩, by simp [hubCommands]⟩

theorem hubRun_commands {hub : Hub} {gwTracker : GatewayTracker} {edgeTracker : EdgeNodeTracker}
    (booted : hub.handler.Booted profile gwTracker edgeTracker) (ops : List HubProgramOp) :
    ∀ command ∈ hubCommands (outputs (hubProgramStep hmac) hub ops), profile.Commands command := by
  induction ops generalizing hub gwTracker edgeTracker with
  | nil => simp [hubCommands, outputs]
  | cons op rest ih =>
    obtain ⟨⟨gateway, edge, still⟩, now⟩ := @hubProgramStep_commands hmac _ _ _ _ booted op
    intro command given
    rw [outputs, ← List.singleton_append, hubCommands, List.flatMap_append, List.mem_append] at given
    rcases given with first | later
    · exact now command first
    · exact ih still command later

end Commands

/-- In every run of a hub an actuator is only ever commanded into one state, the chlorine dosing valve excepted: nothing that
was switched on is switched off again, or the other way round. -/
theorem commands_never_reversed (hmac : Hmac) (profile : HubProfile) (ops : List HubProgramOp) (first second : RuleEvaluationResult)
    (given : first ∈ hubCommands (outputs (hubProgramStep hmac) (hubInit profile).1 ops))
    (given' : second ∈ hubCommands (outputs (hubProgramStep hmac) (hubInit profile).1 ops))
    (same : first.actuatorId = second.actuatorId)
    (other : ¬(profile = .waterTreatment ∧ first.actuatorId = waterActuatorDosingValve)) :
    first.actuatorState = second.actuatorState := by
  have booted := (hubInit_shows profile).handler
  obtain ⟨rule, member, actuator, state⟩ := hubRun_commands booted ops first given
  obtain ⟨rule', member', actuator', state'⟩ := hubRun_commands booted ops second given'
  have one_way : ∀ rule ∈ profile.rules, ∀ rule' ∈ profile.rules, rule.actuatorId = rule'.actuatorId →
      ¬(profile = .waterTreatment ∧ rule.actuatorId = waterActuatorDosingValve) →
      rule.comparisonType = rule'.comparisonType := by
    cases profile <;> decide
  rw [actuator] at other
  rw [state, state', one_way rule member rule' member' (by rw [← actuator, ← actuator', same]) other]

/-- A hot supply triggers both protections of the compressor. -/
def compressorCommand (ruleId : UInt16) : RuleEvaluationResult :=
  { ruleId := ruleId, triggered := true, actionType := .setActuator, actuatorId := 1, actuatorState := .on }

theorem commands_never_reversed_hot :
    compressorCommand 4003 ∈ hubCommands (outputs (hubProgramStep lengthHmac) (hubInit .hvac).1
        [.trust sampleTracker nodeFiveTrusted, .loop 2000 (some hotFrame)]) ∧
      (compressorCommand 4001).actuatorState = (compressorCommand 4003).actuatorState := by
  have given : compressorCommand 4003 ∈ hubCommands (outputs (hubProgramStep lengthHmac) (hubInit .hvac).1
      [.trust sampleTracker nodeFiveTrusted, .loop 2000 (some hotFrame)]) := by decide +kernel
  exact ⟨given, commands_never_reversed lengthHmac .hvac [.trust sampleTracker nodeFiveTrusted, .loop 2000 (some hotFrame)]
    (compressorCommand 4001) (compressorCommand 4003) (by decide +kernel) given rfl (by decide)⟩

end IotPlatform
