import IotPlatform.Cloud.Ingestion
import IotPlatform.Shared.MqttClient

/-!
# From a device to its tenant

Devices publish on the topics they build, a broker brings the messages to the ingestion service in any order, any number of
times or never, and tenants query the store with their tokens. All of it is one log of points, each owned by the tenant whose
device measured it.
-/

namespace IotPlatform
open Run

/-- The broker has the topic and the payload of every message. -/
structure TelemetryCloud where
  broker : List (List UInt8 × List UInt8)
  service : IngestionService
  store : TelemetryStore

inductive CloudOp where
  /-- A device publishes on the topic of its ids, in a buffer of `bufSize` bytes. -/
  | publish (bufSize : Nat) (ids : TopicIds) (payload : List UInt8)
  | deliver (index : Nat) (payloadLen : UInt16) (timestampMs : UInt64)
  | issue (tenantId : List UInt8)
  | query (token : TenantToken) (maxPoints : UInt8)

inductive CloudOutcome where
  | published (built : Bool)
  | quiet
  | ingested (result : IngestionResult) (warning : Option CardinalityWarning)
  | issued (token : Except TelemetryStoreResult TenantToken)
  | answered (points : Except TelemetryStoreResult (List TelemetryDataPoint))
  deriving DecidableEq

def cloudStep (c : TelemetryCloud) : CloudOp → TelemetryCloud × CloudOutcome
  | .publish bufSize ids payload =>
    match mqttBuildTelemetryTopic bufSize ids.tenant ids.site ids.device with
    | none => (c, .published false)
    | some topic => ({ c with broker := c.broker ++ [(topic, payload)] }, .published true)
  | .deliver index payloadLen timestampMs =>
    match c.broker[index]? with
    | none => (c, .quiet)
    | some (topic, payload) =>
      let (store, result, warning) := ingestionIngest c.service c.store topic payload payloadLen timestampMs
      ({ c with store := store }, .ingested result warning)
  | .issue tenantId =>
    let (store, token) := telemetryIssueTenantToken c.store tenantId
    ({ c with store := store }, .issued token)
  | .query token maxPoints => (c, .answered (telemetryStoreQuery c.store token maxPoints))

/-- What was published under which ids, and the points in the order they came in. -/
structure TelemetryLog where
  published : List (TopicIds × List UInt8) := []
  points : List TelemetryDataPoint := []
  nextTokenId : UInt32 := 1

def TopicIds.text (ids : TopicIds) : TopicIds := ⟨cString ids.tenant, cString ids.site, cString ids.device⟩

/-- A message is one point of its publisher's, and a tenant sees the first of the points it owns. -/
def telemetryLogStep (l : TelemetryLog) : CloudOp → TelemetryLog × CloudOutcome
  | .publish bufSize ids payload =>
    if (expectedTopic ids.text).length < bufSize then
      ({ l with published := l.published ++ [(ids.text, payload)] }, .published true)
    else (l, .published false)
  | .deliver index _ timestampMs =>
    match l.published[index]? with
    | none => (l, .quiet)
    | some (ids, payload) =>
      if l.points.length < telemetryStoreMaxSeries then
        ({ l with points := l.points ++ [ingestedPoint ids payload timestampMs] }, .ingested .ok none)
      else (l, .ingested .errStoreFull none)
  | .issue tenantId =>
    ({ l with nextTokenId := l.nextTokenId + 1 },
      .issued (.ok { tokenId := l.nextTokenId, boundTenantId := strncpy (telemetryStoreMaxTagLen - 1) tenantId, valid := true }))
  | .query token maxPoints =>
    let refused := !token.valid || token.boundTenantId.text = []
    (l, .answered (if refused then .error .errUnauthorized
      else .ok ((tenantView token.boundTenantId.text l.points).take maxPoints.toNat)))

/-- The device's ids are the topic's. -/
def CloudOp.Plain : CloudOp → Prop
  | .publish _ ids _ => TopicId ids.tenant ∧ TopicId ids.site ∧ TopicId ids.device
  | _ => True

/-- The topics at the broker are those of the publications, and what is stored is the log. -/
structure TelemetryCloud.Shows (c : TelemetryCloud) (l : TelemetryLog) : Prop where
  broker : c.broker = l.published.map fun message => (expectedTopic message.1, message.2)
  read : ∀ ids payload, (ids, payload) ∈ l.published → ingestionParseTopic (expectedTopic ids) = .ok ids
  service : c.service.initialised = true ∧ c.service.callback = false
  ready : c.store.initialised = true
  stored : c.store.store = l.points
  nextTokenId : c.store.nextTokenId = l.nextTokenId

section Steps

variable {c : TelemetryCloud} {l : TelemetryLog}

theorem mqttBuildTelemetryTopic_eq (bufSize : Nat) (ids : TopicIds) :
    mqttBuildTelemetryTopic bufSize ids.tenant ids.site ids.device =
      if (expectedTopic ids.text).length < bufSize then some (expectedTopic ids.text) else none := by
  have nonempty : 0 < (expectedTopic ids.text).length := by
    have head : asciiBytes "rainmaker/" = 0x72 :: asciiBytes "ainmaker/" := by decide
    simp [expectedTopic, head]
  by_cases fits : (expectedTopic ids.text).length < bufSize
  · rw [if_pos fits, mqttBuildTelemetryTopic]
    exact (if_pos ⟨nonempty, fits⟩).trans (congrArg some (snprintf_of_lt fits))
  · rw [if_neg fits, mqttBuildTelemetryTopic]
    exact if_neg fun both => fits both.2

theorem TelemetryCloud.Shows.publish (shows : c.Shows l) (bufSize : Nat) (ids : TopicIds) (payload : List UInt8)
    (plain : (CloudOp.publish bufSize ids payload).Plain) :
    (cloudStep c (.publish bufSize ids payload)).2 = (telemetryLogStep l (.publish bufSize ids payload)).2 ∧
      (cloudStep c (.publish bufSize ids payload)).1.Shows (telemetryLogStep l (.publish bufSize ids payload)).1 := by
  obtain ⟨tenant, site, device⟩ := plain
  have built := mqttBuildTelemetryTopic_eq bufSize ids
  rw [cloudStep, telemetryLogStep]
  by_cases fits : (expectedTopic ids.text).length < bufSize
  · rw [if_pos fits] at built ⊢
    have reads : ingestionParseTopic (expectedTopic ids.text) = .ok ids.text :=
      telemetry_topic_round_trip bufSize ids.tenant ids.site ids.device tenant site device built
    rw [built]
    refine ⟨rfl, { shows with broker := ?_, read := ?_ }⟩
    · simp [shows.broker]
    · intro ids' payload' member
      rcases List.mem_append.mp member with old | new
      · exact shows.read ids' payload' old
      · obtain ⟨rfl, rfl⟩ := Prod.mk.inj (List.mem_singleton.mp new)
        exact reads
  · rw [if_neg fits] at built ⊢
    rw [built]
    exact ⟨rfl, shows⟩

theorem telemetryStoreWrite_nextTokenId (s : TelemetryStore) (point : TelemetryDataPoint) :
    (telemetryStoreWrite s point).1.nextTokenId = s.nextTokenId := by
  unfold telemetryStoreWrite
  split
  · rfl
  · split <;> rfl

theorem TelemetryCloud.Shows.deliver (shows : c.Shows l) (index : Nat) (payloadLen : UInt16) (timestampMs : UInt64) :
    (cloudStep c (.deliver index payloadLen timestampMs)).2 = (telemetryLogStep l (.deliver index payloadLen timestampMs)).2 ∧
      (cloudStep c (.deliver index payloadLen timestampMs)).1.Shows
        (telemetryLogStep l (.deliver index payloadLen timestampMs)).1 := by
  have at_index := congrArg (fun messages => messages[index]?) shows.broker
  rw [List.getElem?_map] at at_index
  rw [cloudStep, telemetryLogStep, at_index]
  cases found : l.published[index]? with
  | none => exact ⟨rfl, shows⟩
  | some message =>
    obtain ⟨ids, payload⟩ := message
    have reads := shows.read ids payload (List.mem_of_getElem? found)
    dsimp only [Option.map_some]
    split
    · rename_i room
      rw [← shows.stored] at room
      obtain ⟨ready, stored⟩ := telemetryStoreWrite_store shows.ready room (ingestedPoint ids payload timestampMs)
      have silent : ∀ s, cardinalityWarning c.service s ids.tenant = none := fun s => by
        simp [cardinalityWarning, shows.service.2]
      rw [ingestionIngest_stored shows.service.1 reads shows.ready room, silent]
      exact ⟨rfl, shows.broker, shows.read, shows.service, ready, shows.stored ▸ stored,
        (telemetryStoreWrite_nextTokenId c.store _).trans shows.nextTokenId⟩
    · rename_i full
      rw [← shows.stored] at full
      rw [ingestionIngest_full shows.service.1 reads shows.ready (Nat.le_of_not_lt full)]
      exact ⟨rfl, shows⟩

theorem TelemetryCloud.Shows.issue (shows : c.Shows l) (tenantId : List UInt8) :
    (cloudStep c (.issue tenantId)).2 = (telemetryLogStep l (.issue tenantId)).2 ∧
      (cloudStep c (.issue tenantId)).1.Shows (telemetryLogStep l (.issue tenantId)).1 := by
  rw [cloudStep, telemetryLogStep, telemetryIssueTenantToken, shows.ready, shows.nextTokenId]
  exact ⟨rfl, { shows with ready := rfl, nextTokenId := rfl }⟩

theorem TelemetryCloud.Shows.query (shows : c.Shows l) (token : TenantToken) (maxPoints : UInt8) :
    telemetryStoreQuery c.store token maxPoints =
      if !token.valid || token.boundTenantId.text = [] then .error .errUnauthorized
      else .ok ((tenantView token.boundTenantId.text l.points).take maxPoints.toNat) := by
  cases valid : token.valid with
  | false => simp [telemetryStoreQuery, shows.ready, valid]
  | true =>
    rw [telemetryStoreQuery_eq shows.ready valid, shows.stored]
    simp

theorem TelemetryCloud.Shows.step (shows : c.Shows l) (op : CloudOp) (plain : op.Plain) :
    (cloudStep c op).2 = (telemetryLogStep l op).2 ∧ (cloudStep c op).1.Shows (telemetryLogStep l op).1 := by
  cases op with
  | publish bufSize ids payload => exact shows.publish bufSize ids payload plain
  | deliver index payloadLen timestampMs => exact shows.deliver index payloadLen timestampMs
  | issue tenantId => exact shows.issue tenantId
  | query token maxPoints => exact ⟨congrArg CloudOutcome.answered (shows.query token maxPoints), shows⟩

end Steps

/-! ### Whose points a tenant sees -/

def PublishedIn (ops : List CloudOp) (message : TopicIds × List UInt8) : Prop :=
  ∃ bufSize ids payload, .publish bufSize ids payload ∈ ops ∧ message = (ids.text, payload)

theorem PublishedIn.mono {ops more : List CloudOp} {message : TopicIds × List UInt8} (published : PublishedIn ops message) :
    PublishedIn (ops ++ more) message := by
  obtain ⟨bufSize, ids, payload, member, rfl⟩ := published
  exact ⟨bufSize, ids, payload, List.mem_append_left more member, rfl⟩

end IotPlatform
