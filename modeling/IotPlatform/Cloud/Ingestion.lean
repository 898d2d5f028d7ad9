import IotPlatform.Lib.Strtof
import IotPlatform.Cloud.Cardinality
import IotPlatform.Cloud.IngestionService

/-!
# Ingesting a message

`ingestion_ingest`: the topic names the tenant, the site and the device, the payload the metric and its value.
-/

namespace IotPlatform
open Segments

def colon : UInt8 := 0x3A

/-- `callback` says that one is registered. -/
structure IngestionService where
  cardinalityWarningThreshold : UInt32
  callback : Bool
  initialised : Bool
  deriving DecidableEq, Repr

structure CardinalityWarning where
  tenantId : List UInt8
  currentCount : UInt32
  threshold : UInt32
  deriving DecidableEq, Repr

/-- `payload` are the bytes from the pointer on; where they end a terminator is read. -/
def parsePayload (payload : List UInt8) : List UInt8 × Binary32 :=
  if colon ∈ cString payload then
    ((first colon payload).take (telemetryStoreMaxTagLen - 1), strtof (payload.dropWhile (· ≠ colon)).tail)
  else (asciiBytes "unknown", .zero false)

def ingestedPoint (ids : TopicIds) (payload : List UInt8) (timestampMs : UInt64) : TelemetryDataPoint :=
  let (metric, value) := parsePayload payload
  { tenantId := strncpy (telemetryStoreMaxTagLen - 1) ids.tenant, siteId := strncpy (telemetryStoreMaxTagLen - 1) ids.site
    nodeId := strncpy (telemetryStoreMaxTagLen - 1) ids.device, deviceClass := strncpy (telemetryStoreMaxTagLen - 1) []
    metricId := strncpy (telemetryStoreMaxTagLen - 1) metric
    domainProfileId := strncpy (telemetryStoreMaxTagLen - 1) (asciiBytes "unknown")
    value := value, timestampMs := timestampMs }

def cardinalityWarning (service : IngestionService) (s : TelemetryStore) (tenantId : List UInt8) : Option CardinalityWarning :=
  if 0 < service.cardinalityWarningThreshold ∧ service.callback = true then
    let cardinality := telemetryStoreGetCardinality s tenantId
    if service.cardinalityWarningThreshold < cardinality then
      some { tenantId := tenantId, currentCount := cardinality, threshold := service.cardinalityWarningThreshold }
    else none
  else none

/-- The length of the payload is not looked at, and of the errors of the store only the full one is passed on. -/
def ingestionIngest (service : IngestionService) (s : TelemetryStore) (topic payload : List UInt8) (_payloadLen : UInt16)
    (timestampMs : UInt64) : TelemetryStore × IngestionResult × Option CardinalityWarning :=
  if !service.initialised then (s, .errNotInit, none)
  else
    match ingestionParseTopic topic with
    | .error error => (s, error, none)
    | .ok ids =>
      let (s', result) := telemetryStoreWrite s (ingestedPoint ids payload timestampMs)
      if result = .errFull then (s', .errStoreFull, none)
      else (s', .ok, cardinalityWarning service s' ids.tenant)

/-! ### The ids of an accepted topic -/

theorem ingestionParseTopic_error {topic : List UInt8} {error : IngestionResult}
    (refused : ingestionParseTopic topic = .error error) : error = .errTopicParse := by
  unfold ingestionParseTopic at refused
  split at refused
  · split at refused
    · cases refused
    · exact (Except.error.inj refused).symm
  · exact (Except.error.inj refused).symm

theorem mem_of_skipLeading {text : List UInt8} {byte : UInt8} (member : byte ∈ skipLeading text) : byte ∈ text := by
  cases text with
  | nil => exact member
  | cons first rest =>
    rw [skipLeading] at member
    split at member
    · exact List.mem_cons_of_mem first member
    · exact member

theorem extractComponent_text {topic id : List UInt8} {index : Nat}
    (extracted : extractComponent topic index telemetryStoreMaxTagLen = some id) :
    (strncpy (telemetryStoreMaxTagLen - 1) id).text = id := by
  obtain ⟨p, skipped⟩ := exists_skip extracted
  obtain ⟨rfl, -⟩ := (extractComponent_of_skip skipped).mp extracted
  apply strncpy_text_of_short
  · intro byte member
    have inside := mem_of_skip skipped ((List.takeWhile_prefix _).mem (List.mem_of_mem_take member))
    exact ne_zero_of_mem_cString (mem_of_skipLeading inside)
  · rw [List.length_take]
    exact Nat.min_le_left ..

theorem ingestionParseTopic_text {topic : List UInt8} {ids : TopicIds} (accepted : ingestionParseTopic topic = .ok ids) :
    (strncpy (telemetryStoreMaxTagLen - 1) ids.tenant).text = ids.tenant ∧
      (strncpy (telemetryStoreMaxTagLen - 1) ids.site).text = ids.site ∧
      (strncpy (telemetryStoreMaxTagLen - 1) ids.device).text = ids.device := by
  unfold ingestionParseTopic at accepted
  split at accepted
  · rename_i tenant site device _ _ tenantRead siteRead deviceRead _
    split at accepted
    · obtain rfl := Except.ok.inj accepted
      exact ⟨extractComponent_text tenantRead, extractComponent_text siteRead, extractComponent_text deviceRead⟩
    · cases accepted
  · cases accepted

/-! ### The result and the store -/

section Truth

variable {service : IngestionService} {s : TelemetryStore} {topic payload : List UInt8} {payloadLen : UInt16}
  {timestampMs : UInt64} {ids : TopicIds}

/-- The store has one point more, of the ids read from the topic. -/
def AppendsOne (s s' : TelemetryStore) (topic : List UInt8) : Prop :=
  ∃ ids point, ingestionParseTopic topic = .ok ids ∧ s'.store = s.store ++ [point] ∧ point.tenantId.text = ids.tenant ∧
    point.siteId.text = ids.site ∧ point.nodeId.text = ids.device

/-- `INGEST_OK` says that one point was appended, and any other result that the store is as it was. -/
def IngestTruthful (service : IngestionService) (s : TelemetryStore) (topic payload : List UInt8) (payloadLen : UInt16)
    (timestampMs : UInt64) : Prop :=
  ((ingestionIngest service s topic payload payloadLen timestampMs).2.1 = .ok ↔
      AppendsOne s (ingestionIngest service s topic payload payloadLen timestampMs).1 topic) ∧
    ((ingestionIngest service s topic payload payloadLen timestampMs).2.1 ≠ .ok →
      (ingestionIngest service s topic payload payloadLen timestampMs).1 = s)

theorem not_appendsOne_self (s : TelemetryStore) (topic : List UInt8) : ¬AppendsOne s s topic := by
  rintro ⟨ids, point, -, same, -⟩
  have length := congrArg List.length same
  rw [List.length_append, List.length_singleton] at length
  omega

theorem ingestionIngest_idle (idle : service.initialised = false) :
    ingestionIngest service s topic payload payloadLen timestampMs = (s, .errNotInit, none) := by
  rw [ingestionIngest, idle]
  rfl

theorem ingestionIngest_refused (ready : service.initialised = true) {error : IngestionResult}
    (refused : ingestionParseTopic topic = .error error) :
    ingestionIngest service s topic payload payloadLen timestampMs = (s, .errTopicParse, none) := by
  rw [ingestionIngest, ready, refused, ingestionParseTopic_error refused]
  rfl

theorem ingestionIngest_full (ready : service.initialised = true) (accepted : ingestionParseTopic topic = .ok ids)
    (storeReady : s.initialised = true) (full : telemetryStoreMaxSeries ≤ s.store.length) :
    ingestionIngest service s topic payload payloadLen timestampMs = (s, .errStoreFull, none) := by
  simp [ingestionIngest, ready, accepted, telemetryStoreWrite, storeReady, full]

/-- A store that is not initialised takes nothing, and that is not reported. -/
theorem ingestionIngest_lost (ready : service.initialised = true) (accepted : ingestionParseTopic topic = .ok ids)
    (storeIdle : s.initialised = false) :
    ingestionIngest service s topic payload payloadLen timestampMs = (s, .ok, cardinalityWarning service s ids.tenant) := by
  simp [ingestionIngest, ready, accepted, telemetryStoreWrite, storeIdle]

theorem ingestionIngest_stored (ready : service.initialised = true) (accepted : ingestionParseTopic topic = .ok ids)
    (storeReady : s.initialised = true) (room : s.store.length < telemetryStoreMaxSeries) :
    ingestionIngest service s topic payload payloadLen timestampMs =
      ((telemetryStoreWrite s (ingestedPoint ids payload timestampMs)).1, .ok,
        cardinalityWarning service (telemetryStoreWrite s (ingestedPoint ids payload timestampMs)).1 ids.tenant) := by
  simp [ingestionIngest, ready, accepted, telemetryStoreWrite, storeReady, Nat.not_le.mpr room]

theorem appendsOne_of_write (accepted : ingestionParseTopic topic = .ok ids) (storeReady : s.initialised = true)
    (room : s.store.length < telemetryStoreMaxSeries) :
    AppendsOne s (telemetryStoreWrite s (ingestedPoint ids payload timestampMs)).1 topic := by
  obtain ⟨-, stored⟩ := telemetryStoreWrite_store storeReady room (ingestedPoint ids payload timestampMs)
  obtain ⟨tenant, site, device⟩ := ingestionParseTopic_text accepted
  exact ⟨ids, _, accepted, stored, tenant, site, device⟩

/-- A result is truthful exactly when the store is initialised or the message is refused before the store is asked. -/
theorem ingest_truthful_exact (service : IngestionService) (s : TelemetryStore) (topic payload : List UInt8)
    (payloadLen : UInt16) (timestampMs : UInt64) :
    IngestTruthful service s topic payload payloadLen timestampMs ↔
      s.initialised = true ∨ service.initialised = false ∨ ∃ error, ingestionParseTopic topic = .error error := by
  have refused_truthful : ∀ {result}, result ≠ .ok →
      ingestionIngest service s topic payload payloadLen timestampMs = (s, result, none) →
        IngestTruthful service s topic payload payloadLen timestampMs := by
    intro result failed outcome
    rw [IngestTruthful, outcome]
    exact ⟨iff_of_false failed (not_appendsOne_self s topic), fun _ => rfl⟩
  cases ready : service.initialised with
  | false =>
    exact iff_of_true (refused_truthful (by decide) (ingestionIngest_idle ready)) (.inr (.inl rfl))
  | true =>
    cases parsed : ingestionParseTopic topic with
    | error error =>
      exact iff_of_true (refused_truthful (by decide) (ingestionIngest_refused ready parsed)) (.inr (.inr ⟨error, rfl⟩))
    | ok ids =>
      cases storeReady : s.initialised with
      | false =>
        refine iff_of_false ?_ (by simp)
        rw [IngestTruthful, ingestionIngest_lost ready parsed storeReady]
        rintro ⟨truthful, -⟩
        exact not_appendsOne_self s topic (truthful.mp rfl)
      | true =>
        refine iff_of_true ?_ (.inl rfl)
        rcases Nat.lt_or_ge s.store.length telemetryStoreMaxSeries with room | full
        · rw [IngestTruthful, ingestionIngest_stored ready parsed storeReady room]
          exact ⟨iff_of_true rfl (appendsOne_of_write parsed storeReady room), fun failed => absurd rfl failed⟩
        · exact refused_truthful (by decide) (ingestionIngest_full ready parsed storeReady full)

end Truth

/-- The service is initialised and the store is not: the message is acknowledged and nothing is stored. -/
theorem lost_point_acknowledged :
    let service : IngestionService := { cardinalityWarningThreshold := 10000, callback := false, initialised := true }
    let fresh : TelemetryStore := { store := [], cardinality := [], nextTokenId := 1, initialised := false }
    let topic := asciiBytes "rainmaker/t/s/d/telemetry"
    ingestionIngest service fresh topic (asciiBytes "temp:21.5") 9 0 = (fresh, .ok, none) ∧
      ¬IngestTruthful service fresh topic (asciiBytes "temp:21.5") 9 0 := by
  intro service fresh topic
  have acknowledged : ingestionIngest service fresh topic (asciiBytes "temp:21.5") 9 0 = (fresh, .ok, none) := by
    decide +kernel
  refine ⟨acknowledged, fun truthful => ?_⟩
  rw [IngestTruthful, acknowledged] at truthful
  exact not_appendsOne_self fresh topic (truthful.1.mp rfl)

end IotPlatform
