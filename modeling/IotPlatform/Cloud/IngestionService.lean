import IotPlatform.Lib.Segments
import IotPlatform.Cloud.TelemetryStore

/-!
# The ingestion service

`ingestion_service.c`: the ids of tenant, site and device are read from the MQTT topic a message comes on.
-/

namespace IotPlatform
open Segments

def slash : UInt8 := 0x2F

inductive IngestionResult where
  | ok | errParamNull | errTopicParse | errStoreFull | errNotInit
  deriving DecidableEq, Repr

structure TopicIds where
  tenant : List UInt8
  site : List UInt8
  device : List UInt8
  deriving DecidableEq

/-- One leading separator is skipped. -/
def skipLeading : List UInt8 → List UInt8
  | [] => []
  | byte :: rest => if byte = slash then rest else byte :: rest

def extractComponent (topic : List UInt8) (index outSize : Nat) : Option (List UInt8) :=
  match skip slash index (skipLeading (cString topic)) with
  | none => none
  | some p =>
    let out := (first slash p).take (outSize - 1)
    if out = [] then none else some out

/-- `topic` are the bytes of a C string. Every failure has the same result. -/
def ingestionParseTopic (topic : List UInt8) : Except IngestionResult TopicIds :=
  match extractComponent topic 0 16, extractComponent topic 1 telemetryStoreMaxTagLen,
    extractComponent topic 2 telemetryStoreMaxTagLen, extractComponent topic 3 telemetryStoreMaxTagLen,
    extractComponent topic 4 16 with
  | some head, some tenant, some site, some device, some last =>
    if head = asciiBytes "rainmaker" ∧ last = asciiBytes "telemetry" then
      .ok { tenant := tenant, site := site, device := device }
    else .error .errTopicParse
  | _, _, _, _, _ => .error .errTopicParse

/-! ### Topics the parser reads -/

def expectedTopic (ids : TopicIds) : List UInt8 :=
  asciiBytes "rainmaker/" ++ ids.tenant ++ asciiBytes "/" ++ ids.site ++ asciiBytes "/" ++ ids.device ++
    asciiBytes "/telemetry"

def TopicIds.all (ids : TopicIds) : List (List UInt8) := [ids.tenant, ids.site, ids.device]

theorem TopicIds.forall_all {ids : TopicIds} {P : List UInt8 → Prop} :
    (∀ id ∈ ids.all, P id) ↔ P ids.tenant ∧ P ids.site ∧ P ids.device := by
  simp [TopicIds.all]

/-- The ids as far as their arrays hold them. -/
def TopicIds.cut (ids : TopicIds) : TopicIds :=
  { tenant := ids.tenant.take (telemetryStoreMaxTagLen - 1), site := ids.site.take (telemetryStoreMaxTagLen - 1)
    device := ids.device.take (telemetryStoreMaxTagLen - 1) }

def afterTopic : Option (List UInt8) → List UInt8
  | none => []
  | some more => slash :: more

/-- A topic of the expected form, but for a separator in front of it and components after it. -/
structure TopicReading where
  leading : Bool
  ids : TopicIds
  more : Option (List UInt8)
  separate : ∀ id ∈ ids.all, id ≠ [] ∧ slash ∉ id

def TopicReading.text (r : TopicReading) : List UInt8 :=
  (if r.leading then [slash] else []) ++ expectedTopic r.ids ++ afterTopic r.more

/-- Nothing is skipped, cut or left over. -/
def TopicReading.Plain (r : TopicReading) : Prop :=
  r.leading = false ∧ r.more = none ∧ ∀ id ∈ r.ids.all, id.length < telemetryStoreMaxTagLen

/-- An accepted topic is the expected one of the ids it is attributed to. -/
def TopicSound (topic : List UInt8) : Prop :=
  ∀ ids, ingestionParseTopic topic = .ok ids → cString topic = expectedTopic ids

theorem expectedTopic_append (ids : TopicIds) (rest : List UInt8) :
    expectedTopic ids ++ rest = asciiBytes "rainmaker" ++ slash :: (ids.tenant ++ slash :: (ids.site ++ slash ::
      (ids.device ++ slash :: (asciiBytes "telemetry" ++ rest)))) := by
  have head : asciiBytes "rainmaker/" = asciiBytes "rainmaker" ++ [slash] := by decide
  have between : asciiBytes "/" = [slash] := by decide
  have last : asciiBytes "/telemetry" = slash :: asciiBytes "telemetry" := by decide
  rw [expectedTopic, head, between, last]
  simp only [List.append_assoc, List.cons_append, List.nil_append]

section Extract

variable {topic p : List UInt8} {index size : Nat}

theorem extractComponent_of_skip {out : List UInt8} (skipped : skip slash index (skipLeading (cString topic)) = some p) :
    extractComponent topic index size = some out ↔ (first slash p).take (size - 1) = out ∧ out ≠ [] := by
  rw [extractComponent, skipped]
  dsimp only
  split
  · rename_i empty
    rw [empty]
    simp [eq_comm]
  · rename_i nonempty
    rw [Option.some.injEq]
    exact ⟨fun same => ⟨same, same ▸ nonempty⟩, And.left⟩

theorem exists_skip {out : List UInt8} (extracted : extractComponent topic index size = some out) :
    ∃ p, skip slash index (skipLeading (cString topic)) = some p := by
  rw [extractComponent] at extracted
  split at extracted
  · cases extracted
  · rename_i p skipped
    exact ⟨p, skipped⟩

theorem eq_of_take_eq {xs ys : List UInt8} {n : Nat} (same : xs.take n = ys) (short : ys.length < n) : xs = ys := by
  have length := congrArg List.length same
  rw [List.length_take] at length
  rw [← same, List.take_of_length_le (by omega)]

end Extract

theorem skipLeading_text (r : TopicReading) : skipLeading r.text = expectedTopic r.ids ++ afterTopic r.more := by
  rw [TopicReading.text]
  cases r.leading with
  | true => rfl
  | false =>
    rw [if_neg Bool.false_ne_true, List.nil_append, expectedTopic_append]
    rfl

theorem exists_leading (text : List UInt8) :
    ∃ leading : Bool, text = (if leading then [slash] else []) ++ skipLeading text := by
  cases text with
  | nil => exact ⟨false, rfl⟩
  | cons byte rest =>
    rw [skipLeading]
    by_cases separator : byte = slash
    · exact ⟨true, by rw [if_pos rfl, if_pos separator, separator, List.singleton_append]⟩
    · exact ⟨false, by rw [if_neg Bool.false_ne_true, if_neg separator, List.nil_append]⟩

section Components

variable {topic head tenant site device q : List UInt8}

/-- The four components before `q`, in the path of the topic. -/
structure Components (topic head tenant site device q : List UInt8) : Prop where
  path : skipLeading (cString topic) =
    head ++ slash :: (tenant ++ slash :: (site ++ slash :: (device ++ slash :: q)))
  headFree : slash ∉ head
  tenantFree : slash ∉ tenant
  siteFree : slash ∉ site
  deviceFree : slash ∉ device

theorem components_of_skip (skipped : skip slash 4 (skipLeading (cString topic)) = some q) :
    ∃ head tenant site device, Components topic head tenant site device q := by
  obtain ⟨head, after0, headFree, path, skipped⟩ := exists_of_skip skipped
  obtain ⟨tenant, after1, tenantFree, split1, skipped⟩ := exists_of_skip skipped
  obtain ⟨site, after2, siteFree, split2, skipped⟩ := exists_of_skip skipped
  obtain ⟨device, after3, deviceFree, split3, skipped⟩ := exists_of_skip skipped
  rw [skip_zero, Option.some.injEq] at skipped
  subst skipped split3 split2 split1
  exact ⟨head, tenant, site, device, path, headFree, tenantFree, siteFree, deviceFree⟩

theorem Components.extract (c : Components topic head tenant site device q) (size : Nat) (out : List UInt8) :
    (extractComponent topic 0 size = some out ↔ head.take (size - 1) = out ∧ out ≠ []) ∧
      (extractComponent topic 1 size = some out ↔ tenant.take (size - 1) = out ∧ out ≠ []) ∧
      (extractComponent topic 2 size = some out ↔ site.take (size - 1) = out ∧ out ≠ []) ∧
      (extractComponent topic 3 size = some out ↔ device.take (size - 1) = out ∧ out ≠ []) ∧
      (extractComponent topic 4 size = some out ↔ (first slash q).take (size - 1) = out ∧ out ≠ []) := by
  have skip0 := (skip_zero slash _).trans (congrArg some c.path)
  have skip1 := congrArg (skip slash 1) c.path
  have skip2 := congrArg (skip slash 2) c.path
  have skip3 := congrArg (skip slash 3) c.path
  have skip4 := congrArg (skip slash 4) c.path
  rw [skip_append 0 c.headFree, skip_zero] at skip1
  rw [skip_append 1 c.headFree, skip_append 0 c.tenantFree, skip_zero] at skip2
  rw [skip_append 2 c.headFree, skip_append 1 c.tenantFree, skip_append 0 c.siteFree, skip_zero] at skip3
  rw [skip_append 3 c.headFree, skip_append 2 c.tenantFree, skip_append 1 c.siteFree, skip_append 0 c.deviceFree,
    skip_zero] at skip4
  refine ⟨?_, ?_, ?_, ?_, extractComponent_of_skip skip4⟩
  · rw [extractComponent_of_skip skip0, first_append c.headFree]
  · rw [extractComponent_of_skip skip1, first_append c.tenantFree]
  · rw [extractComponent_of_skip skip2, first_append c.siteFree]
  · rw [extractComponent_of_skip skip3, first_append c.deviceFree]

end Components

theorem take_ne_nil {id : List UInt8} (nonempty : id ≠ []) : id.take (telemetryStoreMaxTagLen - 1) ≠ [] := by
  intro cut
  rcases List.take_eq_nil_iff.mp cut with zero | empty
  · cases zero
  · exact nonempty empty

theorem ne_nil_of_take {id : List UInt8} {n : Nat} (cut : id.take n ≠ []) : id ≠ [] := by
  rintro rfl
  exact cut List.take_nil

/-- A topic that reads so is accepted, its ids cut to their arrays. -/
theorem ingestionParseTopic_of_reading {topic : List UInt8} (r : TopicReading) (reads : cString topic = r.text) :
    ingestionParseTopic topic = .ok r.ids.cut := by
  obtain ⟨tenant, site, device⟩ := TopicIds.forall_all.mp r.separate
  have path := (congrArg skipLeading reads).trans (skipLeading_text r)
  rw [expectedTopic_append] at path
  have c : Components topic (asciiBytes "rainmaker") r.ids.tenant r.ids.site r.ids.device
      (asciiBytes "telemetry" ++ afterTopic r.more) := ⟨path, by decide, tenant.2, site.2, device.2⟩
  have last : first slash (asciiBytes "telemetry" ++ afterTopic r.more) = asciiBytes "telemetry" := by
    cases r.more with
    | none =>
      rw [afterTopic, List.append_nil]
      exact first_of_free (by decide)
    | some more => exact first_append (by decide)
  have extract0 := (c.extract 16 (asciiBytes "rainmaker")).1.mpr ⟨by decide, by decide⟩
  have extract1 := (c.extract telemetryStoreMaxTagLen _).2.1.mpr ⟨rfl, take_ne_nil tenant.1⟩
  have extract2 := (c.extract telemetryStoreMaxTagLen _).2.2.1.mpr ⟨rfl, take_ne_nil site.1⟩
  have extract3 := (c.extract telemetryStoreMaxTagLen _).2.2.2.1.mpr ⟨rfl, take_ne_nil device.1⟩
  have extract4 := (c.extract 16 (asciiBytes "telemetry")).2.2.2.2.mpr ⟨by rw [last]; decide, by decide⟩
  simp [ingestionParseTopic, extract0, extract1, extract2, extract3, extract4, TopicIds.cut]

/-- What the parser accepts is a topic it reads. -/
theorem reading_of_ingestionParseTopic {topic : List UInt8} {ids : TopicIds}
    (accepted : ingestionParseTopic topic = .ok ids) : ∃ r : TopicReading, cString topic = r.text ∧ r.ids.cut = ids := by
  unfold ingestionParseTopic at accepted
  split at accepted
  · rename_i head tenant site device last extract0 extract1 extract2 extract3 extract4
    split at accepted
    · rename_i named
      obtain ⟨rfl, rfl⟩ := named
      obtain rfl := Except.ok.inj accepted
      obtain ⟨q, skipped⟩ := exists_skip extract4
      obtain ⟨head', tenant', site', device', c⟩ := components_of_skip skipped
      obtain ⟨cut0, -⟩ := (c.extract _ _).1.mp extract0
      obtain ⟨cut1, nonempty1⟩ := (c.extract _ _).2.1.mp extract1
      obtain ⟨cut2, nonempty2⟩ := (c.extract _ _).2.2.1.mp extract2
      obtain ⟨cut3, nonempty3⟩ := (c.extract _ _).2.2.2.1.mp extract3
      obtain ⟨cut4, -⟩ := (c.extract _ _).2.2.2.2.mp extract4
      obtain ⟨rest, whole, ends⟩ := eq_first_append slash q
      obtain ⟨more, after⟩ : ∃ more : Option (List UInt8), rest = afterTopic more := by
        rcases ends with rfl | ⟨tail, rfl⟩
        · exact ⟨none, rfl⟩
        · exact ⟨some tail, rfl⟩
      rw [eq_of_take_eq cut4 (by decide), after] at whole
      obtain ⟨leading, start⟩ := exists_leading (cString topic)
      have separate : ∀ id ∈ (⟨tenant', site', device'⟩ : TopicIds).all, id ≠ [] ∧ slash ∉ id :=
        TopicIds.forall_all.mpr ⟨⟨ne_nil_of_take (cut1 ▸ nonempty1), c.tenantFree⟩,
          ⟨ne_nil_of_take (cut2 ▸ nonempty2), c.siteFree⟩, ⟨ne_nil_of_take (cut3 ▸ nonempty3), c.deviceFree⟩⟩
      refine ⟨⟨leading, ⟨tenant', site', device'⟩, more, separate⟩, ?_, ?_⟩
      · rw [start, c.path, whole, eq_of_take_eq cut0 (by decide), TopicReading.text, List.append_assoc,
          expectedTopic_append]
      · show (⟨_, _, _⟩ : TopicIds) = _
        rw [cut1, cut2, cut3]
    · cases accepted
  · cases accepted

theorem TopicIds.cut_of_short {ids : TopicIds} (short : ∀ id ∈ ids.all, id.length < telemetryStoreMaxTagLen) :
    ids.cut = ids := by
  have whole : ∀ id ∈ ids.all, id.take (telemetryStoreMaxTagLen - 1) = id := fun id member =>
    List.take_of_length_le (Nat.le_sub_one_of_lt (short id member))
  obtain ⟨tenant, site, device⟩ := forall_all.mp whole
  rw [cut, tenant, site, device]

theorem slash_notMem_take {id : List UInt8} (n : Nat) (free : slash ∉ id) : slash ∉ id.take n :=
  fun member => free (List.mem_of_mem_take member)

theorem length_lt_of_take_eq {id : List UInt8} (whole : id.take (telemetryStoreMaxTagLen - 1) = id) :
    id.length < telemetryStoreMaxTagLen := by
  have length := congrArg List.length whole
  have positive : 0 < telemetryStoreMaxTagLen := by decide
  rw [List.length_take] at length
  omega

/-- Where the expected topic of the ids as cut is the topic read, nothing was skipped or left over. -/
theorem TopicReading.plain_of_text (r : TopicReading) (same : r.text = expectedTopic r.ids.cut) : r.Plain := by
  obtain ⟨tenant, site, device⟩ := TopicIds.forall_all.mp r.separate
  have head : slash ∉ asciiBytes "rainmaker" := by decide
  have stripped := congrArg skipLeading same
  have cut := expectedTopic_append r.ids.cut []
  rw [List.append_nil] at cut
  rw [skipLeading_text, expectedTopic_append, cut] at stripped
  obtain ⟨-, rest⟩ := append_sep_inj head head stripped
  obtain ⟨sameTenant, rest⟩ := append_sep_inj tenant.2 (slash_notMem_take _ tenant.2) rest
  obtain ⟨sameSite, rest⟩ := append_sep_inj site.2 (slash_notMem_take _ site.2) rest
  obtain ⟨sameDevice, rest⟩ := append_sep_inj device.2 (slash_notMem_take _ device.2) rest
  refine ⟨?_, ?_, ?_⟩
  · cases leading : r.leading with
    | false => rfl
    | true =>
      rw [text, leading, cut] at same
      cases same
  · cases more : r.more with
    | none => rfl
    | some tail =>
      rw [more] at rest
      cases rest
  · exact TopicIds.forall_all.mpr
      ⟨length_lt_of_take_eq sameTenant.symm, length_lt_of_take_eq sameSite.symm, length_lt_of_take_eq sameDevice.symm⟩

theorem TopicReading.text_of_plain {r : TopicReading} (plain : r.Plain) : r.text = expectedTopic r.ids.cut := by
  obtain ⟨leading, more, short⟩ := plain
  rw [text, leading, more, TopicIds.cut_of_short short, if_neg Bool.false_ne_true, List.nil_append, afterTopic,
    List.append_nil]

theorem topicSound_iff (topic : List UInt8) : TopicSound topic ↔ ∀ r : TopicReading, cString topic = r.text → r.Plain := by
  constructor
  · intro sound r reads
    exact r.plain_of_text (reads ▸ sound _ (ingestionParseTopic_of_reading r reads))
  · intro plain ids accepted
    obtain ⟨r, reads, rfl⟩ := reading_of_ingestionParseTopic accepted
    rw [reads, TopicReading.text_of_plain (plain r reads)]

/-- An accepted topic is the one of its ids exactly when, if it reads as a telemetry topic at all, it has no separator in
front, no component after it and ids that fit their arrays; of such topics, different ones are attributed differently. -/
theorem topic_sound_exact (topic topic' : List UInt8) :
    (TopicSound topic ↔ ∀ r : TopicReading, cString topic = r.text → r.Plain) ∧
      ∀ ids, (∀ r : TopicReading, cString topic = r.text → r.Plain) →
        (∀ r : TopicReading, cString topic' = r.text → r.Plain) →
        ingestionParseTopic topic = .ok ids → ingestionParseTopic topic' = .ok ids → cString topic = cString topic' := by
  refine ⟨topicSound_iff topic, ?_⟩
  intro ids plain plain' accepted accepted'
  rw [(topicSound_iff topic).mpr plain ids accepted, (topicSound_iff topic').mpr plain' ids accepted']

/-- A topic whose tenant id has 64 bytes. -/
def overlongTopic : List UInt8 := asciiBytes "rainmaker/" ++ List.replicate 64 0x61 ++ asciiBytes "/s/d/telemetry"

/-- Its tenant is taken for the one of 63 bytes; a component behind and a separator in front are not noticed either. -/
theorem foreign_topics_accepted :
    ingestionParseTopic overlongTopic = .ok ⟨List.replicate 63 0x61, asciiBytes "s", asciiBytes "d"⟩ ∧
      ¬TopicSound overlongTopic ∧
      ingestionParseTopic (asciiBytes "rainmaker/t/s/d/telemetry/x") =
        .ok ⟨asciiBytes "t", asciiBytes "s", asciiBytes "d"⟩ ∧
      ingestionParseTopic (asciiBytes "/rainmaker/t/s/d/telemetry") =
        .ok ⟨asciiBytes "t", asciiBytes "s", asciiBytes "d"⟩ := by
  have taken : ingestionParseTopic overlongTopic = .ok ⟨List.replicate 63 0x61, asciiBytes "s", asciiBytes "d"⟩ := by
    decide +kernel
  refine ⟨taken, fun sound => ?_, by decide +kernel, by decide +kernel⟩
  have same := sound _ taken
  revert same
  decide +kernel

end IotPlatform
