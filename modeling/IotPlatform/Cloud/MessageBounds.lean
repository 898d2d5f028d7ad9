import IotPlatform.Cloud.Ingestion

/-!
# The end of a message

A payload is not terminated, and its length is not looked at: what stands behind the message in the buffer is read on.
-/

namespace IotPlatform
open Segments

/-- Buffers that begin with the message are ingested alike, whatever stands behind it. -/
def MessageOnly (service : IngestionService) (s : TelemetryStore) (topic : List UInt8) (payloadLen : UInt16)
    (message : Vector UInt8 payloadLen.toNat) (timestampMs : UInt64) : Prop :=
  ∀ behind behind', ingestionIngest service s topic (message.toList ++ behind) payloadLen timestampMs =
    ingestionIngest service s topic (message.toList ++ behind') payloadLen timestampMs

/-- The message is stored. -/
def PayloadRead (service : IngestionService) (s : TelemetryStore) (topic : List UInt8) : Prop :=
  service.initialised = true ∧ (∃ ids, ingestionParseTopic topic = .ok ids) ∧ s.initialised = true ∧
    s.store.length < telemetryStoreMaxSeries

/-- The message has a terminator and no colon before it, or a colon and behind it a number that is decided. -/
def MessageDecides (message : List UInt8) : Prop :=
  (0 ∈ message ∧ colon ∉ cString message) ∨
    ∃ metric number, message = metric ++ colon :: number ∧ colon ∉ metric ∧ 0 ∉ metric ∧ (Scan.space.run number).Decided

/-! ### The payload -/

section Payload

variable {message metric number : List UInt8}

theorem exists_metric (separated : colon ∈ cString message) :
    ∃ metric number, message = metric ++ colon :: number ∧ colon ∉ metric ∧ 0 ∉ metric := by
  induction message with
  | nil => cases separated
  | cons byte rest ih =>
    by_cases ended : byte = 0
    · rw [ended] at separated
      cases separated
    · by_cases here : byte = colon
      · exact ⟨[], rest, by rw [here, List.nil_append], List.not_mem_nil, List.not_mem_nil⟩
      · rw [cString, List.takeWhile_cons_of_pos (by simpa using ended), ← cString, List.mem_cons] at separated
        obtain ⟨metric, number, split, free, unended⟩ := ih (separated.resolve_left (Ne.symm here))
        refine ⟨byte :: metric, number, by rw [split, List.cons_append], ?_, ?_⟩
        · rw [List.mem_cons, not_or]
          exact ⟨Ne.symm here, free⟩
        · rw [List.mem_cons, not_or]
          exact ⟨Ne.symm ended, unended⟩

theorem parsePayload_split (free : colon ∉ metric) (unended : 0 ∉ metric) (number : List UInt8) :
    parsePayload (metric ++ colon :: number) = (metric.take (telemetryStoreMaxTagLen - 1), strtof number) := by
  have separated : colon ∈ cString (metric ++ colon :: number) := by
    rw [cString, List.takeWhile_append_of_pos (keeps_of_free unended), List.takeWhile_cons_of_pos (by decide)]
    exact List.mem_append_right _ List.mem_cons_self
  rw [parsePayload, if_pos separated, first_append free, List.dropWhile_append_of_pos (keeps_of_free free),
    List.dropWhile_cons_of_neg (by simp), List.tail_cons]

theorem parsePayload_decided (decides : MessageDecides message) (behind : List UInt8) :
    parsePayload (message ++ behind) = parsePayload message := by
  rcases decides with ⟨ended, unseparated⟩ | ⟨metric, number, rfl, free, unended, decided⟩
  · rw [parsePayload, parsePayload, cString_append ended, if_neg unseparated, if_neg unseparated]
  · rw [List.append_assoc, List.cons_append, parsePayload_split free unended, parsePayload_split free unended, strtof,
      strtof, Scan.run_append, decided.run]

/-- Whatever stands behind a message that does not decide its payload, the number may be another. -/
theorem messageDecides_of_value
    (same : ∀ behind behind', (parsePayload (message ++ behind)).2 = (parsePayload (message ++ behind')).2) :
    MessageDecides message := by
  by_cases separated : colon ∈ cString message
  · obtain ⟨metric, number, rfl, free, unended⟩ := exists_metric separated
    refine .inr ⟨metric, number, rfl, free, unended, (Scan.decided_iff _).mp fun rest rest' => ?_⟩
    have values := same rest rest'
    simp only [List.append_assoc, List.cons_append, parsePayload_split free unended] at values
    rwa [strtof, strtof, Scan.run_append, Scan.run_append] at values
  · by_cases ended : 0 ∈ message
    · exact .inl ⟨ended, separated⟩
    · -- a colon and a number may follow
      exfalso
      have whole : cString message = message := List.takeWhile_eq_self_iff.mpr (keeps_of_free ended)
      rw [whole] at separated
      have values := same [] (colon :: asciiBytes "1")
      rw [List.append_nil, parsePayload_split separated ended, parsePayload, whole, if_neg separated] at values
      have different : Binary32.zero false ≠ strtof (asciiBytes "1") := by decide +kernel
      exact different values

end Payload

/-! ### The outcome -/

section Outcome

variable {service : IngestionService} {s : TelemetryStore} {topic payload payload' : List UInt8} {payloadLen : UInt16}
  {timestampMs : UInt64}

theorem ingestedPoint_value (ids : TopicIds) (payload : List UInt8) (timestampMs : UInt64) :
    (ingestedPoint ids payload timestampMs).value = (parsePayload payload).2 := rfl

theorem ingestedPoint_congr (ids : TopicIds) (same : parsePayload payload = parsePayload payload') (timestampMs : UInt64) :
    ingestedPoint ids payload timestampMs = ingestedPoint ids payload' timestampMs := by
  rw [ingestedPoint, ingestedPoint, same]

/-- The payload matters only for the point that is stored. -/
theorem ingestionIngest_congr
    (same : PayloadRead service s topic → parsePayload payload = parsePayload payload') :
    ingestionIngest service s topic payload payloadLen timestampMs =
      ingestionIngest service s topic payload' payloadLen timestampMs := by
  cases ready : service.initialised with
  | false => rw [ingestionIngest_idle ready, ingestionIngest_idle ready]
  | true =>
    cases parsed : ingestionParseTopic topic with
    | error error => rw [ingestionIngest_refused ready parsed, ingestionIngest_refused ready parsed]
    | ok ids =>
      cases storeReady : s.initialised with
      | false => rw [ingestionIngest_lost ready parsed storeReady, ingestionIngest_lost ready parsed storeReady]
      | true =>
        rcases Nat.lt_or_ge s.store.length telemetryStoreMaxSeries with room | full
        · rw [ingestionIngest_stored ready parsed storeReady room, ingestionIngest_stored ready parsed storeReady room,
            ingestedPoint_congr ids (same ⟨ready, ⟨ids, parsed⟩, storeReady, room⟩)]
        · rw [ingestionIngest_full ready parsed storeReady full, ingestionIngest_full ready parsed storeReady full]

theorem value_of_outcome (read : PayloadRead service s topic)
    (same : ingestionIngest service s topic payload payloadLen timestampMs =
      ingestionIngest service s topic payload' payloadLen timestampMs) :
    (parsePayload payload).2 = (parsePayload payload').2 := by
  obtain ⟨ready, ⟨ids, parsed⟩, storeReady, room⟩ := read
  have stored := congrArg (fun outcome => outcome.1.store) same
  rw [ingestionIngest_stored ready parsed storeReady room, ingestionIngest_stored ready parsed storeReady room] at stored
  dsimp only at stored
  rw [(telemetryStoreWrite_store storeReady room _).2, (telemetryStoreWrite_store storeReady room _).2] at stored
  have point := List.singleton_inj.mp (List.append_cancel_left stored)
  rw [← ingestedPoint_value ids payload timestampMs, point, ingestedPoint_value]

/-- Only the message is ingested exactly when, if it is stored at all, it decides its payload. -/
theorem message_only_exact (service : IngestionService) (s : TelemetryStore) (topic : List UInt8) (payloadLen : UInt16)
    (message : Vector UInt8 payloadLen.toNat) (timestampMs : UInt64) :
    MessageOnly service s topic payloadLen message timestampMs ↔
      (PayloadRead service s topic → MessageDecides message.toList) := by
  constructor
  · intro only read
    exact messageDecides_of_value fun behind behind' => value_of_outcome read (only behind behind')
  · intro decides behind behind'
    apply ingestionIngest_congr
    intro read
    rw [parsePayload_decided (decides read), parsePayload_decided (decides read)]

end Outcome

/-- The message `temp:21`, and `.5` left behind it in the buffer. -/
theorem stale_bytes_ingested :
    let service : IngestionService := { cardinalityWarningThreshold := 10000, callback := false, initialised := true }
    let topic := asciiBytes "rainmaker/t/s/d/telemetry"
    let message : Vector UInt8 (7 : UInt16).toNat := ⟨(asciiBytes "temp:21").toArray, by decide⟩
    let stored := fun behind => (ingestionIngest service telemetryStoreInit topic (message.toList ++ behind) 7 0).1.store.map
      TelemetryDataPoint.value
    stored [0] = [.ofRat 21] ∧ stored (asciiBytes ".5") = [.ofRat (43 / 2)] ∧
      ¬MessageOnly service telemetryStoreInit topic 7 message 0 := by
  intro service topic message stored
  have alone : stored [0] = [.ofRat 21] := by decide +kernel
  have behind : stored (asciiBytes ".5") = [.ofRat (43 / 2)] := by decide +kernel
  refine ⟨alone, behind, fun only => ?_⟩
  have same : stored [0] = stored (asciiBytes ".5") :=
    congrArg (fun outcome => outcome.1.store.map TelemetryDataPoint.value) (only [0] (asciiBytes ".5"))
  rw [alone, behind] at same
  exact absurd same (by decide +kernel)

end IotPlatform
