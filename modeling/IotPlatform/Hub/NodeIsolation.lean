import IotPlatform.Hub.TrustExpiry

/-!
# Readings of different nodes

A history belongs to "a single metric on a single node", and the profiles look it up by metric alone. Two nodes that
report one metric are therefore tested against each other's values; where every metric has one reporter, the verdict on
a node's readings does not depend on anybody else's.
-/

namespace IotPlatform
open Run

/-! ### The rounds of a run -/

/-- A reading that was handed to the gates, and whether it passed them. -/
structure GateRound where
  reading : SensorReading Binary32
  accepted : Bool
  deriving DecidableEq, Repr

/-- An accepted entry is the one that goes to the historian next. -/
def eventRounds : List PollEvent → List GateRound
  | [] => []
  | .validate _ reading :: .historianWrite _ :: rest => ⟨reading, true⟩ :: eventRounds rest
  | .validate _ reading :: rest => ⟨reading, false⟩ :: eventRounds rest
  | _ :: rest => eventRounds rest

def HubOutput.rounds : HubOutput → List GateRound
  | .attested _ => []
  | .polled _ events => eventRounds events

/-- Every reading that the polls of a run handed to the gates, in order. -/
def hubRounds (hmac : Hmac) (h : IngestionHandler) (ops : List HubOp) : List GateRound :=
  (outputs (hubStep hmac) h ops).flatMap HubOutput.rounds

def GateRound.isOf (nodeId metricId : UInt8) (round : GateRound) : Bool :=
  decide (round.reading.nodeId = nodeId) && decide (round.reading.metricId = metricId)

/-- Both gates on one reading, without the counters. -/
def gateStep (config : IngestionHandlerConfig) (h : IngestionHandler) (reading : SensorReading Binary32) :
    IngestionHandler × GateRound :=
  if !config.vtable.validateSensorReading reading then (h, ⟨reading, false⟩)
  else
    match sensorGate config h reading reading.timestampMs with
    | none => (h, ⟨reading, false⟩)
    | some histories => ({ h with histories := histories }, ⟨reading, true⟩)

section Rounds

variable {config : IngestionHandlerConfig} {currentMs : UInt64} {h h' : IngestionHandler}

theorem gateStep_reading (config : IngestionHandlerConfig) (h : IngestionHandler) (reading : SensorReading Binary32) :
    (gateStep config h reading).2.reading = reading := by
  unfold gateStep
  split
  · rfl
  · split <;> rfl

theorem map_reading_outputs (config : IngestionHandlerConfig) (h : IngestionHandler)
    (readings : List (SensorReading Binary32)) :
    (outputs (gateStep config) h readings).map GateRound.reading = readings := by
  induction readings generalizing h with
  | nil => rfl
  | cons reading rest ih => rw [outputs, List.map_cons, gateStep_reading, ih]

theorem gateStep_of_fails {entry : BatchFrameEntry} (fails : ¬Passes config currentMs h entry) :
    gateStep config h (entry.toReading currentMs) = (h, ⟨entry.toReading currentMs, false⟩) := by
  unfold gateStep
  split
  · rfl
  · rename_i accepted
    have closed : sensorGate config h (entry.toReading currentMs) currentMs = none := by
      by_contra opened
      exact fails ⟨by simpa using accepted, opened⟩
    change (match sensorGate config h (entry.toReading currentMs) currentMs with
      | none => _
      | some histories => _) = _
    rw [closed]

theorem gateStep_of_passes {entry : BatchFrameEntry} {histories : UInt8 → SensorHistory Binary32}
    (passes : Passes config currentMs h entry)
    (gate : sensorGate config h (entry.toReading currentMs) currentMs = some histories) :
    gateStep config h (entry.toReading currentMs) =
      ({ h with histories := histories }, ⟨entry.toReading currentMs, true⟩) := by
  unfold gateStep
  rw [passes.1, Bool.not_true, if_neg Bool.false_ne_true]
  change (match sensorGate config h (entry.toReading currentMs) currentMs with
    | none => _
    | some histories => _) = _
  rw [gate]

/-- A round of the entry loop does to the histories what the two gates do. -/
theorem processEntry_gateStep (config : IngestionHandlerConfig) (currentMs : UInt64) (same : SameGates h h')
    (entry : BatchFrameEntry) (later : List PollEvent) :
    eventRounds ((processEntry config currentMs h entry).2.2 ++ later) =
        (gateStep config h' (entry.toReading currentMs)).2 :: eventRounds later ∧
      SameGates (processEntry config currentMs h entry).1 (gateStep config h' (entry.toReading currentMs)).1 := by
  obtain ⟨fails, event, result⟩ | ⟨passes, histories, gate, result⟩ := processEntry_outcome config currentMs h entry
  · rw [result, gateStep_of_fails fun passes => fails (same.passes.mp passes)]
    exact ⟨rfl, same.histories, same.sensorValidationReady, same.ruleEngineReady⟩
  · rw [result, gateStep_of_passes (same.passes.mpr passes) ((same.sensorGate _).trans gate)]
    refine ⟨?_, rfl, same.sensorValidationReady, same.ruleEngineReady⟩
    cases ruleResults config h (entry.toReading currentMs) <;> rfl

theorem processEntries_gateStep (config : IngestionHandlerConfig) (currentMs : UInt64) (same : SameGates h h')
    (entries : List BatchFrameEntry) :
    let readings := entries.map (BatchFrameEntry.toReading · currentMs)
    eventRounds (processEntries config currentMs h entries).2.2 = outputs (gateStep config) h' readings ∧
      SameGates (processEntries config currentMs h entries).1 (finalState (gateStep config) h' readings) := by
  induction entries generalizing h h' with
  | nil => exact ⟨rfl, same⟩
  | cons entry rest ih =>
    obtain ⟨round, still⟩ := processEntry_gateStep config currentMs same entry
      (processEntries config currentMs (processEntry config currentMs h entry).1 rest).2.2
    obtain ⟨rounds, final⟩ := ih still
    exact ⟨round.trans (congrArg _ rounds), final⟩

theorem eventRounds_audits (audits : List AuditEvent) (later : List PollEvent) :
    eventRounds (audits.map PollEvent.audit ++ later) = eventRounds later := by
  induction audits with
  | nil => rfl
  | cons audit rest ih => exact ih

/-- The polls of a run put the readings they take through the gates one after the other. -/
theorem hubRounds_eq (hmac : Hmac) (configured : h.config = some config) (same : SameGates h h') (ops : List HubOp) :
    ∃ readings, hubRounds hmac h ops = outputs (gateStep config) h' readings := by
  induction ops generalizing h h' with
  | nil => exact ⟨[], rfl⟩
  | cons op rest ih =>
    cases op with
    | attest call =>
      have step : ((hubStep hmac h (.attest call)).1.config = some config ∧
          SameGates (hubStep hmac h (.attest call)).1 h') ∧ (hubStep hmac h (.attest call)).2.rounds = [] := by
        dsimp only [hubStep]
        split
        · exact ⟨⟨configured, same.histories, same.sensorValidationReady, same.ruleEngineReady⟩, rfl⟩
        · exact ⟨⟨configured, same⟩, rfl⟩
      obtain ⟨readings, rounds⟩ := ih step.1.1 step.1.2
      refine ⟨readings, ?_⟩
      rw [hubRounds, outputs, List.flatMap_cons, step.2]
      exact rounds
    | poll received currentMs =>
      obtain ⟨h₁, audits, setup, histories, result⟩ := ingestionHandlerPoll_spec hmac received currentMs configured
      have start : SameGates h₁ h' :=
        ⟨same.histories.trans histories.symm, same.sensorValidationReady.trans setup.sensorValidationReady.symm,
          same.ruleEngineReady.trans setup.ruleEngineReady.symm⟩
      obtain ⟨now, still⟩ := processEntries_gateStep config currentMs start
        (admittedEntries hmac h received)
      have configured' := (ingestionHandlerPoll_setup hmac received currentMs configured).config.trans configured
      rw [result] at configured'
      obtain ⟨readings, rounds⟩ := ih configured' still
      refine ⟨(admittedEntries hmac h received).map (BatchFrameEntry.toReading · currentMs) ++ readings, ?_⟩
      rw [outputs_append, ← now, ← rounds, hubRounds, outputs, List.flatMap_cons, hubStep, HubOutput.rounds]
      dsimp only
      rw [result, eventRounds_audits]
      rfl

end Rounds

/-! ### The water profile -/

def waterConfig (domainProfileId : UInt8) : IngestionHandlerConfig :=
  RangeProfile.water.config (some RangeProfile.water.historyLookup) domainProfileId

/-- Every metric has one node whose readings of it pass the range test. -/
def SingleReporter (readings : List (SensorReading Binary32)) : Prop :=
  ∃ reporter : UInt8 → UInt8, ∀ reading ∈ readings, waterValidateSensorReading reading = true →
    reading.nodeId = reporter reading.metricId

section Water

variable {domainProfileId : UInt8} {h h' : IngestionHandler} {reading : SensorReading Binary32}

theorem water_bounds_of_gate (accepted : waterValidateSensorReading reading = true) :
    ∃ bounds : SensorValidationBounds Binary32, waterGetValidationBounds reading.metricId = some bounds ∧
      waterGetMetricHistory reading.metricId = some reading.metricId := by
  obtain ⟨bounds, found, -, -⟩ := withinPhysicalRange_iff.mp accepted
  refine ⟨bounds, found, ?_⟩
  unfold waterGetValidationBounds at found
  unfold waterGetMetricHistory
  split_ifs at found ⊢ with first second third fourth
  all_goals
    simp_all

/-- What the gates do to a reading, in terms of the history of its metric alone. -/
theorem water_gateStep (domainProfileId : UInt8) (h : IngestionHandler) (reading : SensorReading Binary32) :
    (waterValidateSensorReading reading = false ∧
      gateStep (waterConfig domainProfileId) h reading = (h, ⟨reading, false⟩)) ∨
    (waterValidateSensorReading reading = true ∧ ∃ bounds,
      waterGetValidationBounds reading.metricId = some bounds ∧
      let history := h.histories reading.metricId
      gateStep (waterConfig domainProfileId) h reading =
        if sensorValidate h.sensorValidationReady reading.value bounds history reading.timestampMs = .valid then
          ({ h with
              histories := Function.update h.histories reading.metricId
                (sensorHistoryRecord history reading.nodeId reading.metricId reading.value reading.timestampMs) },
            ⟨reading, true⟩)
        else (h, ⟨reading, false⟩)) := by
  cases accepted : waterValidateSensorReading reading with
  | false =>
    refine .inl ⟨rfl, ?_⟩
    unfold gateStep
    have refused : (waterConfig domainProfileId).vtable.validateSensorReading reading = false := accepted
    rw [refused, Bool.not_false, if_pos rfl]
  | true =>
    obtain ⟨bounds, bounded, buffered⟩ := water_bounds_of_gate accepted
    refine .inr ⟨rfl, bounds, bounded, ?_⟩
    have passed : (waterConfig domainProfileId).vtable.validateSensorReading reading = true := accepted
    unfold gateStep
    rw [passed, Bool.not_true, if_neg Bool.false_ne_true]
    dsimp only [sensorGate, waterConfig, RangeProfile.config, RangeProfile.boundsLookup, RangeProfile.historyLookup]
    rw [bounded, buffered]
    dsimp only
    cases sensorValidate h.sensorValidationReady reading.value bounds (h.histories reading.metricId)
      reading.timestampMs <;> rfl

/-- Two handlers with the same validation flag and the same history for a metric. -/
structure SameMetric (metricId : UInt8) (h h' : IngestionHandler) : Prop where
  ready : h'.sensorValidationReady = h.sensorValidationReady
  history : h'.histories metricId = h.histories metricId

theorem gateStep_ready (domainProfileId : UInt8) (h : IngestionHandler) (reading : SensorReading Binary32) :
    (gateStep (waterConfig domainProfileId) h reading).1.sensorValidationReady = h.sensorValidationReady := by
  obtain ⟨-, result⟩ | ⟨-, bounds, -, result⟩ := water_gateStep domainProfileId h reading
  · rw [result]
  · rw [result]
    split_ifs <;> rfl

theorem gateStep_other {metricId : UInt8} (other : metricId ≠ reading.metricId) :
    (gateStep (waterConfig domainProfileId) h reading).1.histories metricId = h.histories metricId := by
  obtain ⟨-, result⟩ | ⟨-, bounds, -, result⟩ := water_gateStep domainProfileId h reading
  · rw [result]
  · rw [result]
    split_ifs
    · exact Function.update_of_ne other ..
    · rfl

theorem SameMetric.gateStep (domainProfileId : UInt8) (same : SameMetric reading.metricId h h') :
    (gateStep (waterConfig domainProfileId) h' reading).2 = (gateStep (waterConfig domainProfileId) h reading).2 ∧
      SameMetric reading.metricId (gateStep (waterConfig domainProfileId) h reading).1
        (gateStep (waterConfig domainProfileId) h' reading).1 := by
  obtain ⟨refused, result⟩ | ⟨accepted, bounds, bounded, result⟩ := water_gateStep domainProfileId h reading
  · obtain ⟨-, result'⟩ | ⟨accepted, -⟩ := water_gateStep domainProfileId h' reading
    · rw [result, result']
      exact ⟨rfl, same⟩
    · rw [refused] at accepted
      cases accepted
  · obtain ⟨refused, -⟩ | ⟨-, bounds', bounded', result'⟩ := water_gateStep domainProfileId h' reading
    · rw [accepted] at refused
      cases refused
    · obtain rfl : bounds' = bounds := Option.some.inj (bounded'.symm.trans bounded)
      rw [same.ready, same.history] at result'
      rw [result, result']
      split_ifs
      · refine ⟨rfl, rfl, ?_⟩
        dsimp only
        rw [Function.update_self, Function.update_self]
      · exact ⟨rfl, same⟩

/-- A reading of another node that passed the range test would make that node the reporter of its metric. -/
theorem gateStep_keeps_reported (domainProfileId : UInt8) {reporter : UInt8 → UInt8} {reading : SensorReading Binary32}
    {nodeId metricId : UInt8}
    (single : waterValidateSensorReading reading = true → reading.nodeId = reporter reading.metricId)
    (others : ¬(reading.nodeId = nodeId ∧ reading.metricId = metricId)) (reports : reporter metricId = nodeId) :
    (gateStep (waterConfig domainProfileId) h reading).1.histories metricId = h.histories metricId := by
  by_cases same : metricId = reading.metricId
  · obtain ⟨-, result⟩ | ⟨accepted, -⟩ := water_gateStep domainProfileId h reading
    · rw [result]
    · subst same
      exact absurd ⟨(single accepted).trans reports, rfl⟩ others
  · rw [gateStep_other same]

/-- What the gates say about the readings of one node and metric is what they say when nobody else reports. The two
handlers need to agree on the history of the metric only where the node is its reporter: elsewhere its readings fail the
range test, which has no history. -/
theorem rounds_alone (domainProfileId : UInt8) {reporter : UInt8 → UInt8} {readings : List (SensorReading Binary32)}
    (nodeId metricId : UInt8)
    (single : ∀ reading ∈ readings, waterValidateSensorReading reading = true →
      reading.nodeId = reporter reading.metricId)
    (ready : h'.sensorValidationReady = h.sensorValidationReady)
    (history : reporter metricId = nodeId → h'.histories metricId = h.histories metricId) :
    (outputs (gateStep (waterConfig domainProfileId)) h readings).filter (GateRound.isOf nodeId metricId) =
      outputs (gateStep (waterConfig domainProfileId)) h'
        (readings.filter fun reading => decide (reading.nodeId = nodeId) && decide (reading.metricId = metricId)) := by
  induction readings generalizing h h' with
  | nil => rfl
  | cons reading rest ih =>
    have later : ∀ reading ∈ rest, waterValidateSensorReading reading = true →
        reading.nodeId = reporter reading.metricId := fun other member => single other (List.mem_cons_of_mem _ member)
    have now := single reading List.mem_cons_self
    have ready_after := gateStep_ready domainProfileId h reading
    have isOf : (gateStep (waterConfig domainProfileId) h reading).2.isOf nodeId metricId =
        (decide (reading.nodeId = nodeId) && decide (reading.metricId = metricId)) := by
      rw [GateRound.isOf, gateStep_reading]
    rw [outputs, List.filter_cons, List.filter_cons, isOf]
    by_cases mine : reading.nodeId = nodeId ∧ reading.metricId = metricId
    · obtain ⟨rfl, rfl⟩ := mine
      simp only [decide_true, Bool.and_true, if_true, outputs]
      cases accepted : waterValidateSensorReading reading with
      | false =>
        obtain ⟨-, result⟩ | ⟨impossible, -⟩ := water_gateStep domainProfileId h reading
        · obtain ⟨-, result'⟩ | ⟨impossible, -⟩ := water_gateStep domainProfileId h' reading
          · rw [result, result']
            exact congrArg _ (ih later ready history)
          · cases accepted.symm.trans impossible
        · cases accepted.symm.trans impossible
      | true =>
        have same : SameMetric reading.metricId h h' := ⟨ready, history (now accepted).symm⟩
        obtain ⟨round, still⟩ := same.gateStep domainProfileId
        rw [round, ih later still.ready fun _ => still.history]
    · have skipped : (decide (reading.nodeId = nodeId) && decide (reading.metricId = metricId)) = false := by
        simpa using mine
      rw [skipped, if_neg Bool.false_ne_true, if_neg Bool.false_ne_true]
      refine ih later (ready.trans ready_after.symm) fun reports => (history reports).trans ?_
      exact (gateStep_keeps_reported domainProfileId now mine reports).symm

end Water

/-- The readings of one node and metric in a run, and what the gates said about them. -/
def roundsOf (hmac : Hmac) (h : IngestionHandler) (ops : List HubOp) (nodeId metricId : UInt8) : List GateRound :=
  (hubRounds hmac h ops).filter (GateRound.isOf nodeId metricId)

def acceptedReadings (rounds : List GateRound) : List (SensorReading Binary32) :=
  (rounds.filter GateRound.accepted).map GateRound.reading

/-- What two runs of a hub say about the readings of a node and metric: the verdict on a reading follows from it and the
accepted readings before it, and the same readings get the same verdicts. -/
structure Isolated (rounds rounds' : List GateRound) : Prop where
  verdict : ∀ before round after before' round' after', rounds = before ++ round :: after →
    rounds' = before' ++ round' :: after' → acceptedReadings before = acceptedReadings before' →
    round.reading = round'.reading → round.accepted = round'.accepted
  verdicts : rounds.map GateRound.reading = rounds'.map GateRound.reading → rounds = rounds'

section Isolation

variable {config : IngestionHandlerConfig} {h : IngestionHandler}

theorem gateStep_rejected {reading : SensorReading Binary32} (rejected : (gateStep config h reading).2.accepted = false) :
    (gateStep config h reading).1 = h := by
  unfold gateStep at rejected ⊢
  split at rejected
  · rename_i refused
    rw [if_pos refused]
  · rename_i accepted
    rw [if_neg accepted]
    split at rejected
    · rfl
    · cases rejected

theorem finalState_acceptedReadings (config : IngestionHandlerConfig) (h : IngestionHandler)
    (readings : List (SensorReading Binary32)) :
    finalState (gateStep config) h (acceptedReadings (outputs (gateStep config) h readings)) =
      finalState (gateStep config) h readings := by
  induction readings generalizing h with
  | nil => rfl
  | cons reading rest ih =>
    rw [outputs, finalState, acceptedReadings, List.filter_cons]
    cases verdict : (gateStep config h reading).2.accepted with
    | true =>
      rw [if_pos rfl, List.map_cons, gateStep_reading]
      exact ih _
    | false =>
      rw [if_neg Bool.false_ne_true, gateStep_rejected verdict]
      exact ih h

theorem round_of_split {readings : List (SensorReading Binary32)} {before after : List GateRound} {round : GateRound}
    (split : outputs (gateStep config) h readings = before ++ round :: after) :
    round = (gateStep config (finalState (gateStep config) h (acceptedReadings before)) round.reading).2 := by
  have readings_eq : readings = before.map GateRound.reading ++ round.reading :: after.map GateRound.reading := by
    rw [← map_reading_outputs config h readings, split, List.map_append, List.map_cons]
  have rounds := split
  rw [readings_eq, outputs_append, outputs] at rounds
  have lengths : (outputs (gateStep config) h (before.map GateRound.reading)).length = before.length := by
    rw [← List.length_map GateRound.reading, map_reading_outputs, List.length_map]
  obtain ⟨front, rest⟩ := List.append_inj rounds lengths
  have state := finalState_acceptedReadings config h (before.map GateRound.reading)
  rw [front] at state
  rw [state]
  exact (List.cons.inj rest).1.symm

theorem isolated_of_outputs {rounds rounds' : List GateRound}
    (alone : rounds = outputs (gateStep config) h (rounds.map GateRound.reading))
    (alone' : rounds' = outputs (gateStep config) h (rounds'.map GateRound.reading)) : Isolated rounds rounds' where
  verdict before round after before' round' after' split split' accepted same := by
    rw [round_of_split (alone.symm.trans split), round_of_split (alone'.symm.trans split'), accepted, same]
  verdicts same := by rw [alone, same, ← alone']

end Isolation

theorem roundsOf_alone (hmac : Hmac) {domainProfileId : UInt8} {h : IngestionHandler}
    (configured : h.config = some (waterConfig domainProfileId)) {ops : List HubOp}
    (single : SingleReporter ((hubRounds hmac h ops).map GateRound.reading)) (nodeId metricId : UInt8) :
    roundsOf hmac h ops nodeId metricId =
      outputs (gateStep (waterConfig domainProfileId)) h
        ((roundsOf hmac h ops nodeId metricId).map GateRound.reading) := by
  obtain ⟨readings, rounds⟩ := hubRounds_eq hmac configured ⟨rfl, rfl, rfl⟩ ops
  obtain ⟨reporter, owned⟩ := single
  rw [rounds, map_reading_outputs] at owned
  have alone := rounds_alone domainProfileId nodeId metricId owned (Eq.refl h.sensorValidationReady) fun _ => rfl
  rw [roundsOf, rounds, alone, map_reading_outputs]

/-- In runs where every metric has one reporter, other nodes have no say in what is accepted of a node's readings. -/
theorem nodes_isolated (hmac : Hmac) (domainProfileId : UInt8) (handler : IngestionHandler) (ops ops' : List HubOp) :
    let h := { handler with config := some (waterConfig domainProfileId) }
    SingleReporter ((hubRounds hmac h ops).map GateRound.reading) →
      SingleReporter ((hubRounds hmac h ops').map GateRound.reading) →
        ∀ nodeId metricId, Isolated (roundsOf hmac h ops nodeId metricId) (roundsOf hmac h ops' nodeId metricId) := by
  intro h single single' nodeId metricId
  have configured : h.config = some (waterConfig domainProfileId) := rfl
  exact isolated_of_outputs (roundsOf_alone hmac configured single nodeId metricId)
    (roundsOf_alone hmac configured single' nodeId metricId)

/-- A water treatment hub that trusts the nodes 5 and 6. -/
def waterHub : IngestionHandler :=
  { config := some (waterConfig 3), stats := {}, gwTracker := sampleTracker
    edgeTracker := .tracker (recordTrust nodeFiveTrusted 6 1000).1, histories := fun _ => sensorHistoryReset
    sensorValidationReady := true, ruleEngineReady := true }

/-- A signed frame with one reading. -/
def readingOf (sequence : UInt32) (nodeId : UInt16) (metricId : UInt8) (value : Binary32) : List UInt8 :=
  signedFrame lengthHmac { sampleContext with txSequence := sequence }
    [{ nodeId := nodeId, metricId := metricId, value := value, valid := true, dirty := true }]

/-- Node 6 reports a pH of 7 before node 5 reports 10 ppm of chlorine. -/
def phThenChlorine : List HubOp :=
  [.poll (some (readingOf 1 6 41 ⟨0x40E00000⟩)) 1000, .poll (some (readingOf 2 5 40 ⟨0x41200000⟩)) 2000]

/-- Node 6 reports no chlorine before node 5 reports 10 ppm of it. -/
def chlorineTwice : List HubOp :=
  [.poll (some (readingOf 1 6 40 ⟨0⟩)) 1000, .poll (some (readingOf 2 5 40 ⟨0x41200000⟩)) 2000]

def chlorineOnce : List HubOp := [.poll (some (readingOf 2 5 40 ⟨0x41200000⟩)) 2000]

theorem nodes_isolated_two_metrics :
    Isolated (roundsOf lengthHmac waterHub phThenChlorine 5 40) (roundsOf lengthHmac waterHub chlorineOnce 5 40) := by
  have readings : (hubRounds lengthHmac waterHub phThenChlorine).map GateRound.reading =
      [{ nodeId := 6, metricId := 41, value := ⟨0x40E00000⟩, timestampMs := 1000 },
        { nodeId := 5, metricId := 40, value := ⟨0x41200000⟩, timestampMs := 2000 }] := by
    decide +kernel
  have readings' : (hubRounds lengthHmac waterHub chlorineOnce).map GateRound.reading =
      [{ nodeId := 5, metricId := 40, value := ⟨0x41200000⟩, timestampMs := 2000 }] := by
    decide +kernel
  have configured : ({ waterHub with config := some (waterConfig 3) } : IngestionHandler) = waterHub := rfl
  refine nodes_isolated lengthHmac 3 waterHub phThenChlorine chlorineOnce ?_ ?_ 5 40
  · refine ⟨fun metricId => if metricId = 41 then 6 else 5, fun reading member _ => ?_⟩
    rw [configured, readings] at member
    rcases List.mem_cons.mp member with rfl | member
    · rfl
    · rw [List.mem_singleton.mp member]
      rfl
  · refine ⟨fun _ => 5, fun reading member _ => ?_⟩
    rw [configured, readings'] at member
    rw [List.mem_singleton.mp member]

/-- The chlorine that node 5 reports is ten above what node 6 reported a second earlier, and refused for it. -/
theorem nodes_mixed :
    ¬∀ (hmac : Hmac) (domainProfileId : UInt8) (handler : IngestionHandler) (ops ops' : List HubOp)
      (nodeId metricId : UInt8),
      let h := { handler with config := some (waterConfig domainProfileId) }
      Isolated (roundsOf hmac h ops nodeId metricId) (roundsOf hmac h ops' nodeId metricId) := by
  intro isolated
  have same := (isolated lengthHmac 3 waterHub chlorineTwice chlorineOnce 5 40).verdicts (by decide +kernel)
  exact absurd same (by decide +kernel)

end IotPlatform
