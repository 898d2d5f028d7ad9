import IotPlatform.Shared.LineEncoding

/-!
# What the database reads

The line a telemetry write sends, read back by the rules of the line protocol.
-/

namespace IotPlatform
open LineProtocol

/-- The tags of a write: the tenant of the token, and each string that is given. -/
def telemetryTags (token : TenantToken) (strings : TelemetryStrings) : List TagPair :=
  (asciiBytes "tenant_id", token.boundTenantId.text) :: strings.given

def telemetryStamp (timestampMs : UInt64) : List UInt8 :=
  if timestampMs * 1000000 > 0 then space :: printUnsigned (timestampMs * 1000000).toNat else []

/-- The fields and the timestamp of a write. -/
def telemetryFields (value : Binary32) (timestampMs : UInt64) : List UInt8 :=
  asciiBytes "value=" ++ printG value ++ telemetryStamp timestampMs

def telemetryLine (tags : List TagPair) (value : Binary32) (timestampMs : UInt64) : List UInt8 :=
  asciiBytes "node_telemetry" ++ (printTags tags ++ space :: telemetryFields value timestampMs)

/-- The body is one record with exactly the tags of the write. -/
def LineFaithful (rule : EscapeRule) (token : TenantToken) (strings : TelemetryStrings) (body : List UInt8) : Prop :=
  newline ∉ body ∧ ∃ record, parseLine rule body = some record ∧ record.tags = telemetryTags token strings

/-- No request is sent. -/
def WriteRefused (c : InfluxDBClient) (token : TenantToken) (strings : TelemetryStrings) : Prop :=
  c.initialised = false ∨ c.transport = none ∨ validateToken token = false ∨ strings.nodeId = none ∨
    strings.metricId = none ∨ makeWriteUrl c.config token = none

/-- Each tag fits its array and the line its buffer; no value has a newline, or a backslash that the reader takes for an
escape. -/
structure LineKept (rule : EscapeRule) (token : TenantToken) (strings : TelemetryStrings) (value : Binary32)
    (timestampMs : UInt64) : Prop where
  tags : ∀ tag ∈ telemetryTags token strings, tag.1.length + 1 + tag.2.length < influxdbMaxTagLen
  values : ∀ tag ∈ telemetryTags token strings, newline ∉ tag.2 ∧ plainValue rule tag.2 = true
  line : (telemetryLine (telemetryTags token strings) value timestampMs).length + 1 < influxdbMaxLineLen

/-! ### The tags in the line -/

def telemetryKeys : List (List UInt8) :=
  ["tenant_id", "site_id", "node_id", "device_class", "metric_id", "domain_profile_id"].map asciiBytes

theorem telemetryKeys_plain : ∀ key ∈ telemetryKeys, (PlainName key ∧ Visible key) ∧ key.length < 62 := by
  decide +kernel

structure TelemetryTag (tag : TagPair) : Prop where
  key : tag.1 ∈ telemetryKeys
  printable : 0 ∉ tag.2

theorem givenTag_telemetryTag {key : String} (known : asciiBytes key ∈ telemetryKeys) {value : Option (List UInt8)}
    {tag : TagPair} (member : tag ∈ givenTag key value) : TelemetryTag tag := by
  unfold givenTag at member
  split at member
  · cases member
  · split at member
    · cases member
    · rw [List.mem_singleton.mp member]
      exact ⟨known, fun zero => ne_zero_of_mem_cString zero rfl⟩

theorem given_telemetryTag {strings : TelemetryStrings} {tag : TagPair} (member : tag ∈ strings.given) :
    TelemetryTag tag := by
  simp only [TelemetryStrings.given, List.mem_append] at member
  rcases member with (((given | given) | given) | given) | given
  all_goals exact givenTag_telemetryTag (by decide) given

theorem telemetryTags_telemetryTag {token : TenantToken} {strings : TelemetryStrings} :
    ∀ tag ∈ telemetryTags token strings, TelemetryTag tag := by
  have tenant : asciiBytes "tenant_id" ∈ telemetryKeys := by decide
  refine List.forall_mem_cons.mpr ⟨⟨tenant, fun zero => ne_zero_of_mem_cString zero rfl⟩, fun tag member => ?_⟩
  exact given_telemetryTag member

/-- The part of a tag that its array holds. -/
def cutTag (tag : TagPair) : TagPair := (tag.1, tag.2.take (influxdbMaxTagLen - 2 - tag.1.length))

theorem printTagPair_text {tag : TagPair} (known : TelemetryTag tag) :
    (printTagPair tag).text = tag.1 ++ equals :: (cutTag tag).2 := by
  obtain ⟨⟨-, visible⟩, short⟩ := telemetryKeys_plain tag.1 known.key
  have whole : cString (tag.1 ++ equals :: tag.2) = tag.1 ++ equals :: tag.2 := by
    rw [cString, List.takeWhile_eq_self_iff]
    intro byte member
    apply decide_eq_true
    rintro rfl
    rcases List.mem_append.mp member with name | rest
    · exact absurd (visible 0 name) (by decide)
    · rcases List.mem_cons.mp rest with isEquals | value
      · exact absurd isEquals (by decide)
      · exact known.printable value
  have size : influxdbMaxTagLen = 64 := rfl
  have left : influxdbMaxTagLen - 1 - tag.1.length = influxdbMaxTagLen - 2 - tag.1.length + 1 := by omega
  rw [printTagPair, strncpy_text, whole, List.take_append, List.take_of_length_le (by omega), left,
    List.take_succ_cons]
  rfl

theorem tagText_printTagPair {tag : TagPair} (known : TelemetryTag tag) :
    tagText (printTagPair tag) = printTag (cutTag tag) := by
  obtain ⟨⟨plain, -⟩, -⟩ := telemetryKeys_plain tag.1 known.key
  have keeps : ∀ byte ∈ tag.1, decide (byte ≠ equals) = true := by
    rintro byte member
    apply decide_eq_true
    rintro rfl
    exact absurd (plain equals member).1 (by decide)
  have here : equals ∈ tag.1 ++ equals :: (cutTag tag).2 := List.mem_append_right _ List.mem_cons_self
  rw [tagText, printTagPair_text known, if_neg (List.ne_nil_of_mem here), if_pos here,
    List.takeWhile_append_of_pos keeps, List.takeWhile_cons_of_neg (by simp), List.append_nil,
    List.dropWhile_append_of_pos keeps, List.dropWhile_cons_of_neg (by simp)]
  rfl

theorem length_givenTag (key : String) (value : Option (List UInt8)) : (givenTag key value).length ≤ 1 := by
  unfold givenTag
  split
  · exact Nat.zero_le 1
  · split
    · exact Nat.zero_le 1
    · exact Nat.le_refl 1

theorem length_given (strings : TelemetryStrings) : strings.given.length ≤ 5 := by
  have site := length_givenTag "site_id" strings.siteId
  have node := length_givenTag "node_id" strings.nodeId
  have device := length_givenTag "device_class" strings.deviceClass
  have metric := length_givenTag "metric_id" strings.metricId
  have profile := length_givenTag "domain_profile_id" strings.domainProfileId
  simp only [TelemetryStrings.given, List.length_append]
  omega

section Write

variable {rule : EscapeRule} {c : InfluxDBClient} {token : TenantToken} {strings : TelemetryStrings} {value : Binary32}
  {timestampMs : UInt64}

/-- What a write sends of its tags, when the line fits. -/
def cutTags (token : TenantToken) (strings : TelemetryStrings) : List TagPair := (telemetryTags token strings).map cutTag

theorem telemetryPoint_tags (valid : validateToken token = true) :
    ((telemetryPoint token strings value timestampMs).tags.take influxdbMaxTags).flatMap tagText =
      printTags (cutTags token strings) := by
  obtain ⟨-, named⟩ := Bool.and_eq_true_iff.mp valid
  have few := length_given strings
  have tenant : TelemetryTag (asciiBytes "tenant_id", token.boundTenantId.text.take (influxdbMaxTagLen - 11)) :=
    ⟨show asciiBytes "tenant_id" ∈ telemetryKeys by decide,
      fun zero => ne_zero_of_mem_cString (List.mem_of_mem_take zero) rfl⟩
  have once : cutTag (asciiBytes "tenant_id", token.boundTenantId.text.take (influxdbMaxTagLen - 11)) =
      cutTag (asciiBytes "tenant_id", token.boundTenantId.text) := by
    unfold cutTag
    rw [List.take_take]
    rfl
  have others : (strings.given.map printTagPair).flatMap tagText = printTags (strings.given.map cutTag) := by
    rw [printTags, List.flatMap_map, List.flatMap_map]
    exact List.flatMap_congr fun tag member => tagText_printTagPair (given_telemetryTag member)
  rw [telemetryPoint]
  dsimp only
  rw [if_neg (of_decide_eq_true named), List.take_of_length_le (by
    rw [List.length_append, List.length_map]
    exact Nat.le_trans (Nat.add_le_add_left few 1) (by decide)), List.flatMap_append, others, List.flatMap_singleton,
    tagText_printTagPair tenant, once]
  rfl

theorem lineText_telemetryPoint (valid : validateToken token = true) :
    lineText (telemetryPoint token strings value timestampMs) =
      telemetryLine (cutTags token strings) value timestampMs := by
  have measurement : escape (telemetryPoint token strings value timestampMs).measurement.text =
      asciiBytes "node_telemetry" := by
    rw [telemetryPoint, strncpy_text]
    decide
  have field : (telemetryPoint token strings value timestampMs).fieldKey.text ++ [equals] = asciiBytes "value=" := by
    rw [telemetryPoint, strncpy_text]
    decide
  rw [lineText, lineFront, measurement, field, telemetryPoint_tags valid, telemetryLine, telemetryFields]
  simp only [List.append_assoc, List.cons_append]
  rfl

/-! ### Reading the line -/

theorem cutTags_cut (token : TenantToken) (strings : TelemetryStrings) :
    List.Forall₂ (fun tag whole => tag.1 = whole.1 ∧ tag.2 <+: whole.2) (cutTags token strings)
      (telemetryTags token strings) := by
  rw [cutTags, List.forall₂_map_left_iff]
  exact List.forall₂_same.mpr fun tag _ => ⟨rfl, List.take_prefix _ _⟩

/-- Nothing is cut when every tag fits its array. -/
theorem cutTags_eq_iff : cutTags token strings = telemetryTags token strings ↔
    ∀ tag ∈ telemetryTags token strings, tag.1.length + 1 + tag.2.length < influxdbMaxTagLen := by
  have each : cutTags token strings = telemetryTags token strings ↔
      ∀ tag ∈ telemetryTags token strings, cutTag tag = tag := by
    conv_lhs => rhs; rw [← List.map_id (telemetryTags token strings)]
    exact List.map_inj_left
  rw [each]
  refine forall₂_congr fun tag member => ?_
  have size : influxdbMaxTagLen = 64 := rfl
  obtain ⟨-, short⟩ := telemetryKeys_plain tag.1 (telemetryTags_telemetryTag tag member).key
  rw [cutTag, Prod.ext_iff, List.take_eq_self_iff]
  constructor
  · rintro ⟨-, fits⟩
    replace fits : tag.2.length ≤ influxdbMaxTagLen - 2 - tag.1.length := fits
    omega
  · intro fits
    refine ⟨rfl, ?_⟩
    show tag.2.length ≤ influxdbMaxTagLen - 2 - tag.1.length
    omega

theorem telemetryFields_visible (value : Binary32) (timestampMs : UInt64) :
    ∀ byte ∈ telemetryFields value timestampMs, 0x20 ≤ byte := by
  have stamp : ∀ byte ∈ telemetryStamp timestampMs, 0x20 ≤ byte := by
    intro byte member
    rw [telemetryStamp] at member
    split at member
    · rcases List.mem_cons.mp member with rfl | digit
      · decide
      · exact UInt8.le_of_lt (printUnsigned_visible _ byte digit)
    · cases member
  intro byte member
  rcases List.mem_append.mp member with front | last
  · rcases List.mem_append.mp front with name | number
    · exact UInt8.le_of_lt ((show Visible (asciiBytes "value=") by decide) byte name)
    · exact UInt8.le_of_lt ((printG_visible value).1 byte number)
  · exact stamp byte last

theorem mem_cutTags {tag : TagPair} (member : tag ∈ cutTags token strings) :
    (PlainName tag.1 ∧ Visible tag.1) ∧ 0 ∉ tag.2 := by
  obtain ⟨whole, inside, rfl⟩ := List.mem_map.mp member
  have known := telemetryTags_telemetryTag whole inside
  exact ⟨(telemetryKeys_plain whole.1 known.key).1, fun zero => known.printable (List.mem_of_mem_take zero)⟩

/-- A line has a control character only where a value has it. -/
theorem mem_telemetryLine {byte : UInt8} (control : ¬0x20 ≤ byte) :
    byte ∈ telemetryLine (cutTags token strings) value timestampMs ↔ ∃ tag ∈ cutTags token strings, byte ∈ tag.2 := by
  constructor
  · intro member
    rcases List.mem_append.mp member with name | rest
    · exact absurd (UInt8.le_of_lt ((show Visible (asciiBytes "node_telemetry") by decide) byte name)) control
    · rcases List.mem_append.mp rest with tags | fields
      · rcases mem_printTags tags with mark | ⟨tag, inside, key | value⟩
        · exact absurd (UInt8.le_of_lt ((show Visible [comma, equals, backslash] by decide) byte mark)) control
        · exact absurd (UInt8.le_of_lt ((mem_cutTags inside).1.2 byte key)) control
        · exact ⟨tag, inside, value⟩
      · rcases List.mem_cons.mp fields with rfl | field
        · exact absurd (by decide) control
        · exact absurd (telemetryFields_visible _ _ byte field) control
  · rintro ⟨tag, inside, member⟩
    exact List.mem_append_right _ (List.mem_append_left _ (mem_printTags_of_value inside member))

theorem lineFaithful_iff : LineFaithful rule token strings (telemetryLine (cutTags token strings) value timestampMs) ↔
    cutTags token strings = telemetryTags token strings ∧
      ∀ tag ∈ telemetryTags token strings, newline ∉ tag.2 ∧ plainValue rule tag.2 = true := by
  have names : ∀ tag ∈ cutTags token strings, PlainName tag.1 := fun tag member => (mem_cutTags member).1.1
  have noZero : 0 ∉ telemetryLine (cutTags token strings) value timestampMs := by
    rw [mem_telemetryLine (by decide)]
    rintro ⟨tag, member, zero⟩
    exact (mem_cutTags member).2 zero
  have measurement : PlainName (asciiBytes "node_telemetry") := by decide
  rw [LineFaithful, telemetryLine, parseLine_printed measurement names (cutTags_cut token strings), ← telemetryLine,
    and_iff_left noZero, mem_telemetryLine (by decide)]
  constructor
  · rintro ⟨-, noNewline, whole, plain⟩
    rw [whole] at noNewline plain
    exact ⟨whole, fun tag member => ⟨fun inside => noNewline ⟨tag, member, inside⟩, plain tag member⟩⟩
  · rintro ⟨whole, values⟩
    rw [whole]
    have noNewline : ¬∃ tag ∈ telemetryTags token strings, newline ∈ tag.2 := by
      rintro ⟨tag, member, inside⟩
      exact (values tag member).1 inside
    exact ⟨noNewline, noNewline, rfl, fun tag member => (values tag member).2⟩

/-! ### The body of a write -/

/-- The bytes the encoder takes for the line. -/
def writtenLine (memory : Nat → UInt8) (token : TenantToken) (strings : TelemetryStrings) (value : Binary32)
    (timestampMs : UInt64) : List UInt8 :=
  (influxdbEncodeLine memory (telemetryPoint token strings value timestampMs) influxdbMaxLineLen).content

theorem validateToken_of_sends (sends : ¬WriteRefused c token strings) : validateToken token = true := by
  rw [← Bool.not_eq_false]
  exact fun invalid => sends (.inr (.inr (.inl invalid)))

/-- A body that is sent is the line, and every line but an empty one is sent unless the write is refused. -/
theorem write_body_iff {memory : Nat → UInt8} {body : List UInt8} :
    (∃ request, (influxdbWriteTelemetry memory c token strings value timestampMs).request = some request ∧
        request.body = body) ↔
      ¬WriteRefused c token strings ∧ body = writtenLine memory token strings value timestampMs ∧ body ≠ [] := by
  rw [WriteRefused]
  unfold influxdbWriteTelemetry
  cases valid : validateToken token with
  | false => simp [InfluxDBOutcome.refused]
  | true =>
    cases node : strings.nodeId with
    | none => simp [InfluxDBOutcome.refused]
    | some nodeId =>
      cases metric : strings.metricId with
      | none => simp [InfluxDBOutcome.refused]
      | some metricId =>
        simp only [Bool.not_true, Bool.false_eq_true, if_false, influxdbWrite_request_iff, valid, reduceCtorEq, false_or,
          not_or, Bool.not_eq_false, and_true]
        constructor
        · rintro ⟨request, ⟨ready, nonempty, made, whole⟩, rfl⟩
          rw [whole]
          exact ⟨⟨ready.1, ready.2, by rw [made]; exact Option.some_ne_none _⟩, rfl, nonempty⟩
        · rintro ⟨⟨initialised, transport, address⟩, rfl, nonempty⟩
          obtain ⟨url, made⟩ := Option.ne_none_iff_exists'.mp address
          exact ⟨writeRequest c.config url _, ⟨⟨initialised, transport⟩, nonempty, made, rfl⟩, rfl⟩

theorem writtenLine_eq (valid : validateToken token = true) (memory : Nat → UInt8)
    (fits : (telemetryLine (cutTags token strings) value timestampMs).length + 1 < influxdbMaxLineLen) :
    writtenLine memory token strings value timestampMs = telemetryLine (cutTags token strings) value timestampMs := by
  rw [← lineText_telemetryPoint valid] at fits ⊢
  exact content_encoded _ (by decide) (Nat.lt_sub_of_add_lt fits) memory

theorem zero_mem_writtenLine (valid : validateToken token = true)
    (long : influxdbMaxLineLen ≤ (telemetryLine (cutTags token strings) value timestampMs).length + 1) :
    0 ∈ writtenLine (fun _ => 0) token strings value timestampMs := by
  rw [← lineText_telemetryPoint valid] at long
  exact zero_mem_encoded _ (by decide) (Nat.sub_le_of_le_add long)

end Write

/-- A write sends one record with exactly its tags, whatever stood in memory, when it sends none at all or each tag fits its
array, no value has a newline or an escaping backslash, and the line leaves a byte of its buffer; and only then. -/
theorem line_protocol_exact (rule : EscapeRule) (c : InfluxDBClient) (token : TenantToken) (strings : TelemetryStrings)
    (value : Binary32) (timestampMs : UInt64) :
    (∀ memory request, (influxdbWriteTelemetry memory c token strings value timestampMs).request = some request →
      LineFaithful rule token strings request.body) ↔
    WriteRefused c token strings ∨ LineKept rule token strings value timestampMs := by
  constructor
  · intro faithful
    rw [Classical.or_iff_not_imp_left]
    intro sends
    have valid := validateToken_of_sends sends
    have read : writtenLine (fun _ => 0) token strings value timestampMs ≠ [] →
        LineFaithful rule token strings (writtenLine (fun _ => 0) token strings value timestampMs) := by
      intro nonempty
      obtain ⟨request, sent, body⟩ := write_body_iff.mpr ⟨sends, rfl, nonempty⟩
      exact body ▸ faithful _ request sent
    rcases Nat.lt_or_ge ((telemetryLine (cutTags token strings) value timestampMs).length + 1) influxdbMaxLineLen with
      fits | long
    · rw [writtenLine_eq valid _ fits] at read
      obtain ⟨whole, values⟩ := lineFaithful_iff.mp (read (List.append_ne_nil_of_left_ne_nil (by decide) _))
      exact ⟨cutTags_eq_iff.mp whole, values, whole ▸ fits⟩
    · have zero := zero_mem_writtenLine valid long
      obtain ⟨-, record, parsed, -⟩ := read (List.ne_nil_of_mem zero)
      exact absurd zero (parseLine_some parsed).2.1
  · rintro condition memory request sent
    obtain ⟨sends, body, -⟩ := write_body_iff.mp ⟨request, sent, rfl⟩
    obtain ⟨tags, values, line⟩ := condition.resolve_left sends
    have valid := validateToken_of_sends sends
    have whole := cutTags_eq_iff.mpr tags
    rw [body, writtenLine_eq valid memory (whole ▸ line)]
    exact lineFaithful_iff.mpr ⟨whole, values⟩

/-- A site's name of two lines. -/
def twoLineStrings : TelemetryStrings :=
  { siteId := some (asciiBytes "x\nm"), nodeId := some (asciiBytes "n"), deviceClass := none
    metricId := some (asciiBytes "t"), domainProfileId := none }

/-- The second line is a record without the tenant. -/
theorem newline_splits_record :
    ∃ request, (influxdbWriteTelemetry (fun _ => 0) openClient (tokenOf "a") twoLineStrings ⟨0x41AC0000⟩ 0).request =
        some request ∧
      request.body = asciiBytes "node_telemetry,tenant_id=a,site_id=x\nm,node_id=n,metric_id=t value=21.5" ∧
      ∀ rule, ¬LineFaithful rule (tokenOf "a") twoLineStrings request.body := by
  have sent : ((influxdbWriteTelemetry (fun _ => 0) openClient (tokenOf "a") twoLineStrings ⟨0x41AC0000⟩ 0).request.map
      fun request => request.body) =
        some (asciiBytes "node_telemetry,tenant_id=a,site_id=x\nm,node_id=n,metric_id=t value=21.5") := by
    decide +kernel
  obtain ⟨request, issued, body⟩ := Option.map_eq_some_iff.mp sent
  refine ⟨request, issued, body, fun rule faithful => faithful.1 ?_⟩
  rw [body]
  decide +kernel

end IotPlatform
