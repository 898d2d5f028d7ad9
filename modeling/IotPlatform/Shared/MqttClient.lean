import IotPlatform.Cloud.IngestionService

/-!
# Telemetry topics

`mqtt_client.c`: the topic a device publishes its telemetry on, which the ingestion service reads.
-/

namespace IotPlatform

/-- The ids are the bytes of C strings. -/
def mqttBuildTelemetryTopic (bufSize : Nat) (tenantId siteId deviceId : List UInt8) : Option (List UInt8) :=
  let text := asciiBytes "rainmaker/" ++ cString tenantId ++ asciiBytes "/" ++ cString siteId ++ asciiBytes "/" ++
    cString deviceId ++ asciiBytes "/telemetry"
  if 0 < text.length ∧ text.length < bufSize then some (snprintf bufSize text) else none

theorem mqttBuildTelemetryTopic_some {bufSize : Nat} {tenantId siteId deviceId topic : List UInt8}
    (built : mqttBuildTelemetryTopic bufSize tenantId siteId deviceId = some topic) :
    topic = expectedTopic ⟨cString tenantId, cString siteId, cString deviceId⟩ := by
  unfold mqttBuildTelemetryTopic at built
  dsimp only at built
  split at built
  · rename_i fits
    rw [← Option.some.inj built, snprintf_of_lt fits.2]
    rfl
  · cases built

/-- An id that its array holds whole and the topic keeps apart. -/
def TopicId (id : List UInt8) : Prop := cString id ≠ [] ∧ slash ∉ cString id ∧ (cString id).length < telemetryStoreMaxTagLen

theorem cString_expectedTopic {tenantId siteId deviceId : List UInt8} :
    cString (expectedTopic ⟨cString tenantId, cString siteId, cString deviceId⟩) =
      expectedTopic ⟨cString tenantId, cString siteId, cString deviceId⟩ := by
  rw [cString, List.takeWhile_eq_self_iff]
  intro byte member
  apply decide_eq_true
  have fixed : ∀ text : List UInt8, 0 ∉ text → byte ∈ text → byte ≠ 0 := fun text printable inside zero =>
    printable (zero ▸ inside)
  simp only [expectedTopic, List.mem_append] at member
  rcases member with (((((fix | id) | fix) | id) | fix) | id) | fix
  all_goals first | exact ne_zero_of_mem_cString id | exact fixed _ (by decide) fix

/-- The ingestion service reads the three ids off every topic a device has built from them. -/
theorem telemetry_topic_round_trip (bufSize : Nat) (tenantId siteId deviceId : List UInt8) {topic : List UInt8}
    (tenant : TopicId tenantId) (site : TopicId siteId) (device : TopicId deviceId)
    (built : mqttBuildTelemetryTopic bufSize tenantId siteId deviceId = some topic) :
    ingestionParseTopic topic = .ok ⟨cString tenantId, cString siteId, cString deviceId⟩ := by
  have separate : ∀ id ∈ (⟨cString tenantId, cString siteId, cString deviceId⟩ : TopicIds).all, id ≠ [] ∧ slash ∉ id :=
    TopicIds.forall_all.mpr ⟨⟨tenant.1, tenant.2.1⟩, ⟨site.1, site.2.1⟩, ⟨device.1, device.2.1⟩⟩
  let r : TopicReading := ⟨false, ⟨cString tenantId, cString siteId, cString deviceId⟩, none, separate⟩
  have plain : r.Plain := ⟨rfl, rfl, TopicIds.forall_all.mpr ⟨tenant.2.2, site.2.2, device.2.2⟩⟩
  have reads : cString topic = r.text := by
    rw [mqttBuildTelemetryTopic_some built, cString_expectedTopic, TopicReading.text_of_plain plain,
      TopicIds.cut_of_short plain.2.2]
  rw [ingestionParseTopic_of_reading r reads, TopicIds.cut_of_short plain.2.2]

theorem telemetry_topic_round_trip_sample :
    ingestionParseTopic (asciiBytes "rainmaker/acme/plant/gw1/telemetry") =
      .ok ⟨asciiBytes "acme", asciiBytes "plant", asciiBytes "gw1"⟩ := by
  exact telemetry_topic_round_trip 128 (asciiBytes "acme") (asciiBytes "plant") (asciiBytes "gw1")
    ⟨by decide, by decide, by decide⟩ ⟨by decide, by decide, by decide⟩ ⟨by decide, by decide, by decide⟩
    (show mqttBuildTelemetryTopic _ _ _ _ = some (asciiBytes "rainmaker/acme/plant/gw1/telemetry") by decide +kernel)

end IotPlatform
