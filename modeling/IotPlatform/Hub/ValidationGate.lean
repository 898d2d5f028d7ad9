import IotPlatform.Gateway.Delivery
import IotPlatform.Hub.IngestionHandler
import IotPlatform.Profiles.Hvac
import IotPlatform.Profiles.WaterTreatment

/-!
# The validation gates of a poll

Which entries of a frame reach the historian and the rule engine. Both gates refuse what is below the minimum or
above the maximum, so a NaN, which is neither, passes them.
-/

namespace IotPlatform

/-! ### Entries and their events -/

def PollEvent.uses : PollEvent → Option (UInt8 × Binary32)
  | .historianWrite record => some (record.metricId, record.value)
  | .evaluateRules reading _ => some (reading.metricId, reading.value)
  | _ => none

def Passes (config : IngestionHandlerConfig) (currentMs : UInt64) (h : IngestionHandler) (entry : BatchFrameEntry) : Prop :=
  config.vtable.validateSensorReading (entry.toReading currentMs) = true ∧
    sensorGate config h (entry.toReading currentMs) currentMs ≠ none

def IngestionHandlerStats.countRejected (stats : IngestionHandlerStats) : IngestionHandlerStats :=
  { stats with entriesProcessed := stats.entriesProcessed + 1, entriesRejected := stats.entriesRejected + 1 }

def IngestionHandlerStats.countValid (stats : IngestionHandlerStats) (triggered : UInt8) : IngestionHandlerStats :=
  { stats with
    entriesProcessed := stats.entriesProcessed + 1
    entriesValid := stats.entriesValid + 1
    rulesTriggered := stats.rulesTriggered + triggered.toUInt32 }

section Entries

variable {config : IngestionHandlerConfig} {currentMs : UInt64} {h : IngestionHandler} {entry : BatchFrameEntry}

theorem processEntry_outcome (config : IngestionHandlerConfig) (currentMs : UInt64) (h : IngestionHandler)
    (entry : BatchFrameEntry) :
    (¬Passes config currentMs h entry ∧ ∃ event,
      processEntry config currentMs h entry =
        ({ h with stats := h.stats.countRejected }, 0,
          [.validate entry (entry.toReading currentMs), .audit event])) ∨
    (Passes config currentMs h entry ∧ ∃ histories,
      sensorGate config h (entry.toReading currentMs) currentMs = some histories ∧
      let results := ruleResults config h (entry.toReading currentMs)
      let triggered := UInt8.ofNat (results.getD []).length
      processEntry config currentMs h entry =
        ({ h with stats := h.stats.countValid triggered, histories := histories }, triggered,
          [.validate entry (entry.toReading currentMs),
            .historianWrite (historianRecordOf config (entry.toReading currentMs))] ++
          (results.map (PollEvent.evaluateRules (entry.toReading currentMs))).toList)) := by
  cases accepted : config.vtable.validateSensorReading (entry.toReading currentMs) with
  | false =>
    refine .inl ⟨fun passes => Bool.false_ne_true (accepted.symm.trans passes.1), ?_⟩
    dsimp only [processEntry]
    rw [accepted, Bool.not_false, if_pos rfl]
    exact ⟨_, rfl⟩
  | true =>
    cases gate : sensorGate config h (entry.toReading currentMs) currentMs with
    | none =>
      refine .inl ⟨fun passes => passes.2 gate, ?_⟩
      dsimp only [processEntry]
      rw [accepted, Bool.not_true, if_neg Bool.false_ne_true, gate]
      exact ⟨_, rfl⟩
    | some histories =>
      refine .inr ⟨⟨accepted, fun refused => Option.some_ne_none _ (gate.symm.trans refused)⟩, histories, rfl, ?_⟩
      dsimp only [processEntry]
      rw [accepted, Bool.not_true, if_neg Bool.false_ne_true, gate]
      rfl

/-- What a round does, without the counters. -/
theorem processEntry_cases (config : IngestionHandlerConfig) (currentMs : UInt64) (h : IngestionHandler)
    (entry : BatchFrameEntry) :
    (¬Passes config currentMs h entry ∧ ∃ stats event,
      processEntry config currentMs h entry =
        ({ h with stats := stats }, 0, [.validate entry (entry.toReading currentMs), .audit event])) ∨
    (Passes config currentMs h entry ∧ ∃ stats histories triggered,
      processEntry config currentMs h entry =
        ({ h with stats := stats, histories := histories }, triggered,
          [.validate entry (entry.toReading currentMs),
            .historianWrite (historianRecordOf config (entry.toReading currentMs))] ++
          ((ruleResults config h (entry.toReading currentMs)).map
            (PollEvent.evaluateRules (entry.toReading currentMs))).toList)) := by
  obtain ⟨fails, event, result⟩ | ⟨passes, histories, -, result⟩ := processEntry_outcome config currentMs h entry
  · exact .inl ⟨fails, _, event, result⟩
  · exact .inr ⟨passes, _, histories, _, result⟩

theorem processEntry_uses {event : PollEvent} (member : event ∈ (processEntry config currentMs h entry).2.2)
    {metricId : UInt8} {value : Binary32} (uses : event.uses = some (metricId, value)) :
    Passes config currentMs h entry ∧ metricId = entry.metricId ∧ value = entry.value := by
  obtain ⟨-, stats, audited, result⟩ | ⟨passes, stats, histories, triggered, result⟩ :=
    processEntry_cases config currentMs h entry
  · rw [result] at member
    rcases List.mem_cons.mp member with rfl | member
    · cases uses
    · rw [List.mem_singleton.mp member] at uses
      cases uses
  · rw [result] at member
    rcases List.mem_append.mp member with stored | evaluated
    · rcases List.mem_cons.mp stored with rfl | stored
      · cases uses
      · rw [List.mem_singleton.mp stored] at uses
        obtain ⟨rfl, rfl⟩ := Prod.mk.inj (Option.some.inj uses)
        exact ⟨passes, rfl, rfl⟩
    · rw [Option.mem_toList, Option.map_eq_some_iff] at evaluated
      obtain ⟨results, -, rfl⟩ := evaluated
      obtain ⟨rfl, rfl⟩ := Prod.mk.inj (Option.some.inj uses)
      exact ⟨passes, rfl, rfl⟩

theorem processEntry_stores (passes : Passes config currentMs h entry) :
    .historianWrite (historianRecordOf config (entry.toReading currentMs)) ∈
      (processEntry config currentMs h entry).2.2 := by
  obtain ⟨fails, -⟩ | ⟨-, stats, histories, triggered, result⟩ := processEntry_cases config currentMs h entry
  · exact absurd passes fails
  · rw [result]
    exact List.mem_append_left _ (by simp)

theorem processEntry_validates {e : BatchFrameEntry} {reading : SensorReading Binary32} :
    .validate e reading ∈ (processEntry config currentMs h entry).2.2 ↔ e = entry ∧ reading = entry.toReading currentMs := by
  obtain ⟨-, stats, audited, result⟩ | ⟨-, stats, histories, triggered, result⟩ :=
    processEntry_cases config currentMs h entry
  · rw [result]
    simp
  · rw [result]
    simp

structure SameSetup (h h' : IngestionHandler) : Prop where
  config : h'.config = h.config
  edgeTracker : h'.edgeTracker = h.edgeTracker
  sensorValidationReady : h'.sensorValidationReady = h.sensorValidationReady
  ruleEngineReady : h'.ruleEngineReady = h.ruleEngineReady

theorem SameSetup.trans {h₁ h₂ h₃ : IngestionHandler} (first : SameSetup h₁ h₂) (second : SameSetup h₂ h₃) :
    SameSetup h₁ h₃ :=
  ⟨second.config.trans first.config, second.edgeTracker.trans first.edgeTracker,
    second.sensorValidationReady.trans first.sensorValidationReady, second.ruleEngineReady.trans first.ruleEngineReady⟩

theorem processEntry_setup (config : IngestionHandlerConfig) (currentMs : UInt64) (h : IngestionHandler)
    (entry : BatchFrameEntry) : SameSetup h (processEntry config currentMs h entry).1 := by
  obtain ⟨-, stats, audited, result⟩ | ⟨-, stats, histories, triggered, result⟩ :=
    processEntry_cases config currentMs h entry
  · rw [result]
    exact ⟨rfl, rfl, rfl, rfl⟩
  · rw [result]
    exact ⟨rfl, rfl, rfl, rfl⟩

theorem processEntries_setup (config : IngestionHandlerConfig) (currentMs : UInt64) (h : IngestionHandler)
    (entries : List BatchFrameEntry) : SameSetup h (processEntries config currentMs h entries).1 := by
  induction entries generalizing h with
  | nil => exact ⟨rfl, rfl, rfl, rfl⟩
  | cons entry rest ih => exact (processEntry_setup config currentMs h entry).trans (ih _)

theorem mem_processEntries {event : PollEvent} {entries : List BatchFrameEntry} :
    event ∈ (processEntries config currentMs h entries).2.2 →
      ∃ entry ∈ entries, ∃ h', SameSetup h h' ∧ event ∈ (processEntry config currentMs h' entry).2.2 := by
  induction entries generalizing h with
  | nil => exact fun member => absurd member List.not_mem_nil
  | cons entry rest ih =>
    intro member
    rcases List.mem_append.mp member with now | later
    · exact ⟨entry, List.mem_cons_self, h, ⟨rfl, rfl, rfl, rfl⟩, now⟩
    · obtain ⟨other, other_member, h', setup, found⟩ := ih later
      exact ⟨other, List.mem_cons_of_mem _ other_member, h', (processEntry_setup config currentMs h entry).trans setup, found⟩

theorem processEntry_subset (config : IngestionHandlerConfig) (currentMs : UInt64) (h : IngestionHandler)
    {entries : List BatchFrameEntry} (member : entry ∈ entries) :
    ∃ h', SameSetup h h' ∧
      (processEntry config currentMs h' entry).2.2 ⊆ (processEntries config currentMs h entries).2.2 := by
  induction entries generalizing h with
  | nil => exact absurd member List.not_mem_nil
  | cons first rest ih =>
    rcases List.mem_cons.mp member with rfl | later
    · exact ⟨h, ⟨rfl, rfl, rfl, rfl⟩, List.subset_append_left ..⟩
    · obtain ⟨h', setup, subset⟩ := ih (processEntry config currentMs h first).1 later
      exact ⟨h', (processEntry_setup config currentMs h first).trans setup,
        List.Subset.trans subset (List.subset_append_right ..)⟩

end Entries

/-! ### What the gates read -/

/-- Two handlers that the gates and the rule engine cannot tell apart. -/
structure SameGates (h h' : IngestionHandler) : Prop where
  histories : h'.histories = h.histories
  sensorValidationReady : h'.sensorValidationReady = h.sensorValidationReady
  ruleEngineReady : h'.ruleEngineReady = h.ruleEngineReady

section Gates

variable {config : IngestionHandlerConfig} {currentMs : UInt64} {h h' : IngestionHandler} {entry : BatchFrameEntry}

theorem SameGates.sensorGate (same : SameGates h h') (reading : SensorReading Binary32) :
    sensorGate config h' reading currentMs = sensorGate config h reading currentMs := by
  unfold IotPlatform.sensorGate
  rw [same.histories, same.sensorValidationReady]

theorem SameGates.passes (same : SameGates h h') : Passes config currentMs h' entry ↔ Passes config currentMs h entry := by
  rw [Passes, Passes, same.sensorGate]

theorem SameGates.ruleResults (same : SameGates h h') (reading : SensorReading Binary32) :
    ruleResults config h' reading = ruleResults config h reading := by
  rw [IotPlatform.ruleResults, IotPlatform.ruleResults, same.ruleEngineReady]

theorem SameGates.processEntry (same : SameGates h h') :
    SameGates (processEntry config currentMs h entry).1 (processEntry config currentMs h' entry).1 := by
  obtain ⟨fails, event, result⟩ | ⟨passes, histories, gate, result⟩ := processEntry_outcome config currentMs h entry
  · obtain ⟨-, event', result'⟩ | ⟨passes', -⟩ := processEntry_outcome config currentMs h' entry
    · rw [result, result']
      exact ⟨same.histories, same.sensorValidationReady, same.ruleEngineReady⟩
    · exact absurd (same.passes.mp passes') fails
  · obtain ⟨fails', -⟩ | ⟨-, histories', gate', result'⟩ := processEntry_outcome config currentMs h' entry
    · exact absurd (same.passes.mpr passes) fails'
    · rw [same.sensorGate, gate] at gate'
      rw [result, result']
      exact ⟨(Option.some.inj gate').symm, same.sensorValidationReady, same.ruleEngineReady⟩

end Gates

/-! ### The entries of a poll -/

/-- The entries that a poll hands to the gates: those of an accepted frame that the trust filter keeps. -/
def admittedEntries (hmac : Hmac) (h : IngestionHandler) (received : Option (List UInt8)) : List BatchFrameEntry :=
  match received.bind (acceptedFrame hmac h.gwTracker) with
  | none => []
  | some (_, decoded) => decoded.filter fun e => h.edgeTracker.admits e.shortId

theorem ingested_eq (hmac : Hmac) (h : IngestionHandler) (frame : List UInt8) :
    (gatewayIngestFrame hmac h.gwTracker h.edgeTracker frame ingestionHandlerMaxEntries).entries =
      admittedEntries hmac h (some frame) := by
  rw [admittedEntries, Option.bind_some]
  cases accepted : acceptedFrame hmac h.gwTracker frame with
  | none =>
    obtain ⟨error, events, -, refused⟩ :=
      gatewayIngestFrame_refused h.edgeTracker ingestionHandlerMaxEntries accepted
    rw [refused]
  | some content =>
    have fits := length_acceptedFrame accepted
    rw [gatewayIngestFrame_entries accepted]
    exact List.take_of_length_le ((List.length_filter_le ..).trans fits)

section Poll

variable {hmac : Hmac} {h : IngestionHandler} {received : Option (List UInt8)} {currentMs : UInt64}
  {config : IngestionHandlerConfig}

/-- Everything a poll does: the audit records of the ingestion, then the entry loop. -/
theorem ingestionHandlerPoll_spec (hmac : Hmac) (received : Option (List UInt8)) (currentMs : UInt64)
    (configured : h.config = some config) :
    ∃ h' audits, SameSetup h h' ∧ h'.histories = h.histories ∧
      let loop := processEntries config currentMs h' (admittedEntries hmac h received)
      ingestionHandlerPoll hmac h received currentMs =
        { handler := loop.1, triggered := loop.2.1, events := List.map PollEvent.audit audits ++ loop.2.2 } := by
  rw [ingestionHandlerPoll, configured]
  cases received with
  | none =>
    refine ⟨_, [], ?_, ?_, rfl⟩
    · exact ⟨configured.symm, rfl, rfl, rfl⟩
    · rfl
  | some frame =>
    rw [← ingested_eq]
    dsimp only
    split
    · rename_i failed
      rw [gatewayIngestFrame_failed failed]
      refine ⟨_, _, ?_, ?_, congrArg (PollOutcome.mk _ 0) (List.append_nil _).symm⟩
      · exact ⟨configured.symm, rfl, rfl, rfl⟩
      · rfl
    · refine ⟨_, _, ?_, ?_, rfl⟩
      · exact ⟨configured.symm, rfl, rfl, rfl⟩
      · rfl

theorem ingestionHandlerPoll_setup (hmac : Hmac) (received : Option (List UInt8)) (currentMs : UInt64)
    (configured : h.config = some config) : SameSetup h (ingestionHandlerPoll hmac h received currentMs).handler := by
  obtain ⟨h', audits, setup, -, result⟩ := ingestionHandlerPoll_spec hmac received currentMs configured
  rw [result]
  exact setup.trans (processEntries_setup ..)

theorem poll_uses (configured : h.config = some config) {event : PollEvent}
    (member : event ∈ (ingestionHandlerPoll hmac h received currentMs).events) {metricId : UInt8} {value : Binary32}
    (uses : event.uses = some (metricId, value)) :
    ∃ e ∈ admittedEntries hmac h received, ∃ h', SameSetup h h' ∧ Passes config currentMs h' e ∧
      metricId = e.metricId ∧ value = e.value := by
  obtain ⟨h₁, audits, setup, -, result⟩ := ingestionHandlerPoll_spec hmac received currentMs configured
  rw [result] at member
  rcases List.mem_append.mp member with audited | looped
  · obtain ⟨audit, -, rfl⟩ := List.mem_map.mp audited
    cases uses
  · obtain ⟨e, admitted, h₂, later, found⟩ := mem_processEntries looped
    exact ⟨e, admitted, h₂, setup.trans later, processEntry_uses found uses⟩

theorem poll_stores (configured : h.config = some config) {e : BatchFrameEntry}
    (admitted : e ∈ admittedEntries hmac h received) (passes : ∀ h', SameSetup h h' → Passes config currentMs h' e) :
    .historianWrite (historianRecordOf config (e.toReading currentMs)) ∈
      (ingestionHandlerPoll hmac h received currentMs).events := by
  obtain ⟨h₁, audits, setup, -, result⟩ := ingestionHandlerPoll_spec hmac received currentMs configured
  obtain ⟨h₂, later, subset⟩ := processEntry_subset config currentMs h₁ admitted
  rw [result]
  exact List.mem_append_right _ (subset (processEntry_stores (passes h₂ (setup.trans later))))

theorem poll_validates (configured : h.config = some config) {e : BatchFrameEntry} :
    (∃ reading, .validate e reading ∈ (ingestionHandlerPoll hmac h received currentMs).events) ↔
      e ∈ admittedEntries hmac h received := by
  obtain ⟨h₁, audits, -, -, result⟩ := ingestionHandlerPoll_spec hmac received currentMs configured
  rw [result]
  constructor
  · rintro ⟨reading, member⟩
    rcases List.mem_append.mp member with audited | looped
    · obtain ⟨audit, -, impossible⟩ := List.mem_map.mp audited
      cases impossible
    · obtain ⟨entry, admitted, h₂, -, found⟩ := mem_processEntries looped
      rwa [(processEntry_validates.mp found).1]
  · intro admitted
    obtain ⟨h₂, -, subset⟩ := processEntry_subset config currentMs h₁ admitted
    exact ⟨_, List.mem_append_right _ (subset (processEntry_validates.mpr ⟨rfl, rfl⟩))⟩

end Poll

/-! ### The HVAC and water profiles -/

/-- The profiles whose vtable gate is a range test against their own bounds. -/
inductive RangeProfile where
  | hvac | water
  deriving DecidableEq, Repr

namespace RangeProfile

def vtable : RangeProfile → DomainProfileVTable Binary32
  | hvac => hvacProfileVtable
  | water => waterProfileVtable

def boundsLookup : RangeProfile → UInt8 → Option (SensorValidationBounds Binary32)
  | hvac => hvacGetValidationBounds
  | water => waterGetValidationBounds

def historyLookup : RangeProfile → UInt8 → Option UInt8
  | hvac => hvacGetMetricHistory
  | water => waterGetMetricHistory

def config (profile : RangeProfile) (historyLookup : Option (UInt8 → Option UInt8)) (domainProfileId : UInt8) :
    IngestionHandlerConfig :=
  { vtable := profile.vtable, boundsLookup := some profile.boundsLookup, historyLookup := historyLookup
    domainProfileId := domainProfileId }

theorem vtable_gate (profile : RangeProfile) (reading : SensorReading Binary32) :
    profile.vtable.validateSensorReading reading = withinPhysicalRange profile.boundsLookup reading := by
  cases profile <;> rfl

theorem boundsLookup_numeric {profile : RangeProfile} {metricId : UInt8} {bounds : SensorValidationBounds Binary32}
    (found : profile.boundsLookup metricId = some bounds) : bounds.Numeric := by
  cases profile with
  | hvac =>
    dsimp only [boundsLookup, hvacGetValidationBounds] at found
    split_ifs at found
    all_goals
      rw [← Option.some.inj found]
      exact ⟨Binary32.isNaN_ofRat _, Binary32.isNaN_ofRat _⟩
  | water =>
    dsimp only [boundsLookup, waterGetValidationBounds] at found
    split_ifs at found
    all_goals
      rw [← Option.some.inj found]
      exact ⟨Binary32.isNaN_ofRat _, Binary32.isNaN_ofRat _⟩

section Gates

variable {profile : RangeProfile} {historyLookup : Option (UInt8 → Option UInt8)} {domainProfileId : UInt8}
  {currentMs : UInt64} {h : IngestionHandler} {e : BatchFrameEntry} {bounds : SensorValidationBounds Binary32}

theorem inRange_of_passes (passes : Passes (profile.config historyLookup domainProfileId) currentMs h e)
    (found : profile.boundsLookup e.metricId = some bounds) (number : e.value.isNaN = false) : InRange bounds e.value := by
  have gate : withinPhysicalRange profile.boundsLookup (e.toReading currentMs) = true :=
    (vtable_gate profile _).symm.trans passes.1
  obtain ⟨bounds', found', below, above⟩ := withinPhysicalRange_iff.mp gate
  obtain rfl : bounds' = bounds := Option.some.inj (found'.symm.trans found)
  exact inRange_of_gate (boundsLookup_numeric found) number below above

/-- The second gate can only close on a NaN when it has a history and the validation module is not initialised. -/
def ClosedGate (historyLookup : Option (UInt8 → Option UInt8)) (h : IngestionHandler) (metricId : UInt8) : Prop :=
  h.sensorValidationReady = false ∧ ∃ lookup buffer, historyLookup = some lookup ∧ lookup metricId = some buffer

theorem passes_nan (found : profile.boundsLookup e.metricId = some bounds) (nan : e.value.isNaN = true) :
    Passes (profile.config historyLookup domainProfileId) currentMs h e ↔ ¬ClosedGate historyLookup h e.metricId := by
  have first : (profile.config historyLookup domainProfileId).vtable.validateSensorReading (e.toReading currentMs) = true :=
    (vtable_gate profile _).trans (withinPhysicalRange_iff.mpr
      ⟨bounds, found, Binary32.lt_nan_left nan, Binary32.lt_nan_right nan⟩)
  have second : sensorGate (profile.config historyLookup domainProfileId) h (e.toReading currentMs) currentMs = none ↔
      ClosedGate historyLookup h e.metricId := by
    dsimp only [sensorGate, config, BatchFrameEntry.toReading]
    cases historyLookup with
    | none => simp [ClosedGate]
    | some lookup =>
      dsimp only
      rw [found]
      cases buffered : lookup e.metricId with
      | none => simp [ClosedGate, buffered]
      | some buffer =>
        cases ready : h.sensorValidationReady with
        | false => simp [ClosedGate, buffered, ready, sensorValidate]
        | true => simp [ClosedGate, ready, sensorValidate_nan nan]
  rw [Passes, ne_eq, second]
  exact and_iff_right first

end Gates

end RangeProfile

/-- The values that a poll stores or evaluates are within their bounds exactly when no NaN for a bounded metric
is admitted, except where the second gate refuses everything. -/
theorem validation_gate_exact (hmac : Hmac) (profile : RangeProfile) (historyLookup : Option (UInt8 → Option UInt8))
    (domainProfileId : UInt8) (handler : IngestionHandler) (received : Option (List UInt8)) (currentMs : UInt64) :
    let h := { handler with config := some (profile.config historyLookup domainProfileId) }
    (∀ event ∈ (ingestionHandlerPoll hmac h received currentMs).events, ∀ metricId value bounds,
        event.uses = some (metricId, value) → profile.boundsLookup metricId = some bounds → InRange bounds value) ↔
      ∀ e ∈ admittedEntries hmac h received, (profile.boundsLookup e.metricId).isSome = true → e.value.isNaN = true →
        RangeProfile.ClosedGate historyLookup h e.metricId := by
  intro h
  have configured : h.config = some (profile.config historyLookup domainProfileId) := rfl
  have same_gate : ∀ h' metricId, SameSetup h h' →
      (RangeProfile.ClosedGate historyLookup h' metricId ↔ RangeProfile.ClosedGate historyLookup h metricId) := by
    intro h' metricId setup
    rw [RangeProfile.ClosedGate, RangeProfile.ClosedGate, setup.sensorValidationReady]
  constructor
  · intro gated e admitted bounded nan
    obtain ⟨bounds, found⟩ := Option.isSome_iff_exists.mp bounded
    by_contra opened
    have passes : ∀ h', SameSetup h h' → Passes (profile.config historyLookup domainProfileId) currentMs h' e := by
      intro h' setup
      exact (RangeProfile.passes_nan found nan).mpr fun closed => opened ((same_gate h' _ setup).mp closed)
    exact not_inRange_nan nan (gated _ (poll_stores configured admitted passes) e.metricId e.value bounds rfl found)
  · intro numbers event member metricId value bounds uses found
    obtain ⟨e, admitted, h', setup, passes, rfl, rfl⟩ := poll_uses configured member uses
    cases nan : e.value.isNaN with
    | false => exact RangeProfile.inRange_of_passes passes found nan
    | true =>
      have closed := numbers e admitted (Option.isSome_iff_exists.mpr ⟨bounds, found⟩) nan
      exact absurd ((same_gate h' _ setup).mpr closed) ((RangeProfile.passes_nan found nan).mp passes)

def hvacHandler : IngestionHandler :=
  { config := some (RangeProfile.hvac.config (some RangeProfile.hvac.historyLookup) 2), stats := {}
    gwTracker := sampleTracker, edgeTracker := .tracker nodeFiveTrusted, histories := fun _ => sensorHistoryReset
    sensorValidationReady := true, ruleEngineReady := true }

def nanFrame : List UInt8 :=
  signedFrame lengthHmac sampleContext
    [{ nodeId := 5, metricId := 30, value := ⟨0x7FC00000⟩, valid := true, dirty := true }]

/-- A signed frame with 60 degrees for it, where both compressor rules trigger. -/
def hotFrame : List UInt8 :=
  signedFrame lengthHmac sampleContext
    [{ nodeId := 5, metricId := 30, value := ⟨0x42700000⟩, valid := true, dirty := true }]

def nanRecord : HistorianRecord :=
  { timestampMs := 2000, value := ⟨0x7FC00000⟩, sequence := 0, nodeId := 5, metricId := 30, domainProfileId := 2
    reserved := 0 }

theorem nan_stored :
    ¬∀ event ∈ (ingestionHandlerPoll lengthHmac hvacHandler (some nanFrame) 2000).events, ∀ metricId value bounds,
      event.uses = some (metricId, value) → RangeProfile.hvac.boundsLookup metricId = some bounds → InRange bounds value := by
  intro gated
  have stored : .historianWrite nanRecord ∈ (ingestionHandlerPoll lengthHmac hvacHandler (some nanFrame) 2000).events := by
    decide +kernel
  exact not_inRange_nan (by decide) (gated _ stored 30 ⟨0x7FC00000⟩ _ rfl rfl)

end IotPlatform
