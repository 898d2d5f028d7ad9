import IotPlatform.Gateway.GatewayAuth
import IotPlatform.Shared.RuleEngineCore
import IotPlatform.Shared.SensorValidation
import IotPlatform.Hub.Historian

/-!
# The hub's ingestion handler

`ingestion_handler.c`: one poll takes a frame from the radio through the trust gate, two validation gates, the
historian and the rule engine. The calls it makes on the way are its events.
-/

namespace IotPlatform

def ingestionHandlerMaxEntries : UInt8 := 22

/-- The configuration without its trackers; `none` is a null lookup. A history buffer is named by the metric it
belongs to. -/
structure IngestionHandlerConfig where
  vtable : DomainProfileVTable Binary32
  boundsLookup : Option (UInt8 → Option (SensorValidationBounds Binary32))
  historyLookup : Option (UInt8 → Option UInt8)
  domainProfileId : UInt8

structure IngestionHandlerStats where
  pollCount : UInt32 := 0
  framesReceived : UInt32 := 0
  framesIngested : UInt32 := 0
  framesRejected : UInt32 := 0
  entriesProcessed : UInt32 := 0
  entriesValid : UInt32 := 0
  entriesRejected : UInt32 := 0
  rulesTriggered : UInt32 := 0
  deriving DecidableEq, Repr

/-- The handler's statics with what its pointers lead to: the trackers, the history buffers and the flags of the
validation module and the rule engine. `config` is empty before initialisation. -/
structure IngestionHandler where
  config : Option IngestionHandlerConfig
  stats : IngestionHandlerStats
  gwTracker : GatewayTracker
  edgeTracker : EdgeTrackerArg
  histories : UInt8 → SensorHistory Binary32
  sensorValidationReady : Bool
  ruleEngineReady : Bool

inductive PollEvent where
  | audit (event : AuditEvent)
  | validate (entry : BatchFrameEntry) (reading : SensorReading Binary32)
  | historianWrite (record : HistorianRecord)
  | evaluateRules (reading : SensorReading Binary32) (results : List RuleEvaluationResult)
  deriving DecidableEq, Repr

def ingestionHandlerInit (h : IngestionHandler) (config : IngestionHandlerConfig) : IngestionHandler × Bool :=
  match h.edgeTracker with
  | .null => (h, false)
  | _ => ({ h with config := some config, stats := {} }, true)

def vtableRejectedEvent (nodeId : UInt8) : AuditEvent :=
  { eventType := .authFailure, sessionId := nodeId, ruleId := 0
    detail := "Ingestion handler: vtable validation rejected entry" }

def sensorValidateRejectedEvent (nodeId : UInt8) : AuditEvent :=
  { eventType := .authFailure, sessionId := nodeId, ruleId := 0
    detail := "Ingestion handler: sensorValidate rejected entry" }

def BatchFrameEntry.toReading (e : BatchFrameEntry) (currentMs : UInt64) : SensorReading Binary32 :=
  { nodeId := e.nodeId.toUInt8, metricId := e.metricId, value := e.value, timestampMs := currentMs }

def historianRecordOf (config : IngestionHandlerConfig) (reading : SensorReading Binary32) : HistorianRecord :=
  { timestampMs := reading.timestampMs, value := reading.value, sequence := 0, nodeId := reading.nodeId.toUInt16
    metricId := reading.metricId, domainProfileId := config.domainProfileId, reserved := 0 }

/-- The second gate: the histories after an accepted reading, or `none` for a rejected one. Without both lookups, bounds
and a history the gate is open. -/
def sensorGate (config : IngestionHandlerConfig) (h : IngestionHandler) (reading : SensorReading Binary32)
    (currentMs : UInt64) : Option (UInt8 → SensorHistory Binary32) :=
  match config.boundsLookup, config.historyLookup with
  | some boundsLookup, some historyLookup =>
    match boundsLookup reading.metricId, historyLookup reading.metricId with
    | some bounds, some buffer =>
      match sensorValidate h.sensorValidationReady reading.value bounds (h.histories buffer) currentMs with
      | .valid =>
        some (Function.update h.histories buffer
          (sensorHistoryRecord (h.histories buffer) reading.nodeId reading.metricId reading.value currentMs))
      | _ => none
    | _, _ => some h.histories
  | _, _ => some h.histories

def ruleResults (config : IngestionHandlerConfig) (h : IngestionHandler) (reading : SensorReading Binary32) :
    Option (List RuleEvaluationResult) :=
  config.vtable.getRuleTable.map fun rules => ruleEngineEvaluate h.ruleEngineReady rules reading ruleEngineMaxActions

/-- One round of the entry loop: the handler, the rules triggered and the calls made. -/
def processEntry (config : IngestionHandlerConfig) (currentMs : UInt64) (h : IngestionHandler) (entry : BatchFrameEntry) :
    IngestionHandler × UInt8 × List PollEvent :=
  let stats := { h.stats with entriesProcessed := h.stats.entriesProcessed + 1 }
  let reading := entry.toReading currentMs
  let rejected : IngestionHandler := { h with stats := { stats with entriesRejected := stats.entriesRejected + 1 } }
  if !config.vtable.validateSensorReading reading then
    (rejected, 0, [.validate entry reading, .audit (vtableRejectedEvent reading.nodeId)])
  else
    match sensorGate config h reading currentMs with
    | none => (rejected, 0, [.validate entry reading, .audit (sensorValidateRejectedEvent reading.nodeId)])
    | some histories =>
      let results := ruleResults config h reading
      let triggered := UInt8.ofNat (results.getD []).length
      ({ h with
          histories := histories
          stats := { stats with
            entriesValid := stats.entriesValid + 1
            rulesTriggered := stats.rulesTriggered + triggered.toUInt32 } }, triggered,
        [.validate entry reading, .historianWrite (historianRecordOf config reading)] ++
          (results.map (PollEvent.evaluateRules reading)).toList)

def processEntries (config : IngestionHandlerConfig) (currentMs : UInt64) :
    IngestionHandler → List BatchFrameEntry → IngestionHandler × UInt8 × List PollEvent
  | h, [] => (h, 0, [])
  | h, entry :: rest =>
    let (h, triggered, events) := processEntry config currentMs h entry
    let (h, later, laterEvents) := processEntries config currentMs h rest
    (h, triggered + later, events ++ laterEvents)

structure PollOutcome where
  handler : IngestionHandler
  triggered : UInt8
  events : List PollEvent

/-- One poll; `received` is what the radio has. -/
def ingestionHandlerPoll (hmac : Hmac) (h : IngestionHandler) (received : Option (List UInt8)) (currentMs : UInt64) :
    PollOutcome :=
  match h.config with
  | none => { handler := h, triggered := 0, events := [] }
  | some config =>
    let polled := { h.stats with pollCount := h.stats.pollCount + 1 }
    match received with
    | none => { handler := { h with stats := polled }, triggered := 0, events := [] }
    | some frame =>
      let received := { polled with framesReceived := polled.framesReceived + 1 }
      let o := gatewayIngestFrame hmac h.gwTracker h.edgeTracker frame ingestionHandlerMaxEntries
      let audits := o.events.map PollEvent.audit
      if o.result ≠ .ok then
        { handler := { h with
            gwTracker := o.tracker
            stats := { received with framesRejected := received.framesRejected + 1 } }
          triggered := 0, events := audits }
      else
        let ingested : IngestionHandler :=
          { h with gwTracker := o.tracker, stats := { received with framesIngested := received.framesIngested + 1 } }
        let (h, triggered, events) := processEntries config currentMs ingested o.entries
        { handler := h, triggered := triggered, events := audits ++ events }

end IotPlatform
