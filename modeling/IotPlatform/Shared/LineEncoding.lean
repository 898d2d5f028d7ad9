import Mathlib.Logic.Function.Basic
import IotPlatform.Lib.LineProtocol
import IotPlatform.Lib.Printf
import IotPlatform.Shared.InfluxdbClient

/-!
# The encoding of a point

`influxdb_client.c`: a point is written into a buffer as a line of the line protocol. The memory from the start of the
buffer on is a function; its end is where the code takes it to be.
-/

namespace IotPlatform
open LineProtocol

def influxdbMaxLineLen : Nat := 512

abbrev influxdbMaxTagLen : Nat := 64

def influxdbMaxTags : Nat := 8

/-- `tags` are the first `tag_count` slots. -/
structure InfluxDBPoint where
  measurement : CArray influxdbMaxTagLen
  tags : List (CArray influxdbMaxTagLen)
  fieldKey : CArray influxdbMaxTagLen
  fieldValue : Binary32
  timestampNs : UInt64

/-- The escaped text of a tag value in a buffer of that size, `written` bytes of which are used. -/
def escapeTagValue (bufSize : Nat) : Nat → List UInt8 → List UInt8
  | _, [] => []
  | written, byte :: rest =>
    if written < bufSize - 1 then
      if byte == comma || byte == space then
        if written + 1 < bufSize then backslash :: byte :: escapeTagValue bufSize (written + 2) rest else []
      else byte :: escapeTagValue bufSize (written + 1) rest
    else []

/-- The memory from `line_buf` on, and `pos`. -/
structure LineBuffer where
  memory : Nat → UInt8
  pos : Nat

/-- What was written, or taken to be written. -/
def LineBuffer.content (l : LineBuffer) : List UInt8 := (List.range l.pos).map l.memory

/-- `if (pos < remaining) line_buf[pos++] = byte;` -/
def LineBuffer.put (remaining : Nat) (l : LineBuffer) (byte : UInt8) : LineBuffer :=
  if l.pos < remaining then { memory := Function.update l.memory l.pos byte, pos := l.pos + 1 } else l

def LineBuffer.putAll (remaining : Nat) (l : LineBuffer) (bytes : List UInt8) : LineBuffer :=
  bytes.foldl (LineBuffer.put remaining) l

def storeBytes (memory : Nat → UInt8) (start : Nat) (bytes : List UInt8) : Nat → UInt8 := fun i =>
  if start ≤ i ∧ i < start + bytes.length then bytes.getD (i - start) 0 else memory i

/-- `pos += snprintf(line_buf + pos, remaining - pos, ..)`. The difference is one of `size_t`. -/
def LineBuffer.print (remaining : Nat) (l : LineBuffer) (text : List UInt8) : LineBuffer :=
  let size := (remaining + 2 ^ 64 - l.pos) % 2 ^ 64
  { memory := if size = 0 then l.memory else storeBytes l.memory l.pos (snprintf size text ++ [0])
    pos := l.pos + text.length }

def encodeTag (remaining : Nat) (l : LineBuffer) (tag : CArray influxdbMaxTagLen) : LineBuffer :=
  if tag.text = [] then l
  else
    let l := l.put remaining comma
    if equals ∈ tag.text then
      let key := tag.text.takeWhile (· ≠ equals)
      let value := (tag.text.dropWhile (· ≠ equals)).tail
      ((l.putAll remaining key).put remaining equals).putAll remaining (escapeTagValue 128 0 value)
    else l

def influxdbEncodeLine (memory : Nat → UInt8) (point : InfluxDBPoint) (bufSize : Nat) : LineBuffer :=
  if bufSize = 0 then { memory := memory, pos := 0 }
  else
    let remaining := bufSize - 1
    let l : LineBuffer := { memory := memory, pos := 0 }
    let l := l.putAll remaining (escape point.measurement.text)
    let l := (point.tags.take influxdbMaxTags).foldl (encodeTag remaining) l
    let l := l.put remaining space
    let l := l.putAll remaining point.fieldKey.text
    let l := l.put remaining equals
    let l := l.print remaining (printG point.fieldValue)
    let l := if point.timestampNs > 0 then (l.put remaining space).print remaining (printUnsigned point.timestampNs.toNat)
      else l
    { l with memory := Function.update l.memory l.pos 0 }

/-! ### Writing telemetry -/

/-- `snprintf(point.tags[i], 64, "key=%s", value)`. -/
def printTagPair (tag : TagPair) : CArray influxdbMaxTagLen :=
  strncpy (influxdbMaxTagLen - 1) (tag.1 ++ equals :: tag.2)

/-- A string that is given and not empty makes a tag. -/
def givenTag (key : String) : Option (List UInt8) → List TagPair
  | none => []
  | some value => if cString value = [] then [] else [(asciiBytes key, cString value)]

structure TelemetryStrings where
  siteId : Option (List UInt8)
  nodeId : Option (List UInt8)
  deviceClass : Option (List UInt8)
  metricId : Option (List UInt8)
  domainProfileId : Option (List UInt8)

def TelemetryStrings.given (strings : TelemetryStrings) : List TagPair :=
  givenTag "site_id" strings.siteId ++ givenTag "node_id" strings.nodeId ++ givenTag "device_class" strings.deviceClass ++
    givenTag "metric_id" strings.metricId ++ givenTag "domain_profile_id" strings.domainProfileId

/-- The tenant is printed with `%.*s`, at most 53 bytes of it. -/
def telemetryPoint (token : TenantToken) (strings : TelemetryStrings) (value : Binary32) (timestampMs : UInt64) :
    InfluxDBPoint :=
  let tenantId := token.boundTenantId.text
  { measurement := strncpy (influxdbMaxTagLen - 1) (asciiBytes "node_telemetry")
    tags := (if tenantId = [] then [] else [printTagPair (asciiBytes "tenant_id", tenantId.take (influxdbMaxTagLen - 11))]) ++
      strings.given.map printTagPair
    fieldKey := strncpy (influxdbMaxTagLen - 1) (asciiBytes "value")
    fieldValue := value
    timestampNs := timestampMs * 1000000 }

/-- `memory` is what stands in the array for the line and behind it. -/
def influxdbWriteTelemetry (memory : Nat → UInt8) (c : InfluxDBClient) (token : TenantToken) (strings : TelemetryStrings)
    (value : Binary32) (timestampMs : UInt64) : InfluxDBOutcome :=
  if !validateToken token then .refused .errUnauthorized
  else
    match strings.nodeId, strings.metricId with
    | some _, some _ =>
      influxdbWrite (fun point => (influxdbEncodeLine memory point influxdbMaxLineLen).content) c
        (telemetryPoint token strings value timestampMs) token
    | _, _ => .refused .errParamNull

/-! ### What the buffer holds -/

section Buffer

variable {memory : Nat → UInt8} {remaining : Nat} {text : List UInt8} {l : LineBuffer}

theorem LineBuffer.length_content (l : LineBuffer) : l.content.length = l.pos := by
  rw [content, List.length_map, List.length_range]

theorem LineBuffer.content_put (room : l.pos < remaining) (byte : UInt8) :
    (l.put remaining byte).content = l.content ++ [byte] := by
  have below : ∀ i ∈ List.range l.pos, Function.update l.memory l.pos byte i = l.memory i := fun i member =>
    Function.update_of_ne (Nat.ne_of_lt (List.mem_range.mp member)) ..
  rw [put, if_pos room, content, List.range_succ, List.map_append, List.map_singleton]
  dsimp only
  rw [Function.update_self, List.map_congr_left below]
  rfl

theorem LineBuffer.put_full (full : remaining ≤ l.pos) (byte : UInt8) : l.put remaining byte = l := by
  rw [put, if_neg (Nat.not_lt.mpr full)]

/-- The buffer holds the text as far as it goes, and the memory behind it is as it was. -/
structure Wrote (memory : Nat → UInt8) (remaining : Nat) (text : List UInt8) (l : LineBuffer) : Prop where
  content : l.content = text.take remaining
  behind : ∀ i, l.pos ≤ i → l.memory i = memory i

theorem Wrote.pos_eq (wrote : Wrote memory remaining text l) : l.pos = min remaining text.length := by
  rw [← l.length_content, wrote.content, List.length_take]

theorem Wrote.start (memory : Nat → UInt8) (remaining : Nat) : Wrote memory remaining [] { memory := memory, pos := 0 } :=
  ⟨List.take_nil.symm, fun _ _ => rfl⟩

theorem Wrote.put (wrote : Wrote memory remaining text l) (byte : UInt8) :
    Wrote memory remaining (text ++ [byte]) (l.put remaining byte) := by
  have pos := wrote.pos_eq
  rcases Nat.lt_or_ge l.pos remaining with room | full
  · have whole : text.length < remaining := by omega
    constructor
    · rw [LineBuffer.content_put room, wrote.content, List.take_of_length_le (Nat.le_of_lt whole),
        List.take_of_length_le (by rw [List.length_append, List.length_singleton]; omega)]
    · intro i later
      rw [LineBuffer.put, if_pos room] at later ⊢
      have beyond : l.pos < i := later
      exact (Function.update_of_ne (Nat.ne_of_gt beyond) ..).trans (wrote.behind i (Nat.le_of_lt beyond))
  · rw [LineBuffer.put_full full]
    refine ⟨?_, wrote.behind⟩
    rw [wrote.content, List.take_append_of_le_length (by omega)]

theorem Wrote.putAll (wrote : Wrote memory remaining text l) (bytes : List UInt8) :
    Wrote memory remaining (text ++ bytes) (l.putAll remaining bytes) := by
  induction bytes generalizing text l with
  | nil =>
    rw [List.append_nil]
    exact wrote
  | cons byte rest ih =>
    have step := ih (wrote.put byte)
    rwa [List.append_assoc] at step

/-- The text of a tag array in the line. -/
def tagText (tag : CArray influxdbMaxTagLen) : List UInt8 :=
  if tag.text = [] then []
  else if equals ∈ tag.text then
    comma :: tag.text.takeWhile (· ≠ equals) ++ equals :: escape (tag.text.dropWhile (· ≠ equals)).tail
  else [comma]

/-- A value of at most 63 bytes is escaped whole. -/
theorem escapeTagValue_eq {bufSize written : Nat} {value : List UInt8} (fits : written + 2 * value.length < bufSize) :
    escapeTagValue bufSize written value = escape value := by
  induction value generalizing written with
  | nil => rfl
  | cons byte rest ih =>
    rw [List.length_cons] at fits
    rw [escapeTagValue, if_pos (by omega)]
    split
    · rename_i isSpecial
      rw [if_pos (by omega), ih (by omega), escape_cons_special isSpecial]
    · rename_i other
      rw [ih (by omega), escape_cons_other (Bool.not_eq_true _ ▸ other)]

theorem Wrote.encodeTag (wrote : Wrote memory remaining text l) (tag : CArray influxdbMaxTagLen) :
    Wrote memory remaining (text ++ tagText tag) (encodeTag remaining l tag) := by
  unfold IotPlatform.encodeTag tagText
  split
  · rw [List.append_nil]
    exact wrote
  · dsimp only
    split
    · have short : 0 + 2 * (tag.text.dropWhile (· ≠ equals)).tail.length < 128 := by
        have whole : tag.text.length < 64 := tag.length_text
        have part : (tag.text.dropWhile (· ≠ equals)).length ≤ tag.text.length := (List.dropWhile_sublist _).length_le
        rw [List.length_tail]
        omega
      rw [escapeTagValue_eq short]
      have written := (((wrote.put comma).putAll (tag.text.takeWhile (· ≠ equals))).put equals).putAll
        (escape (tag.text.dropWhile (· ≠ equals)).tail)
      simp only [List.append_assoc, List.cons_append, List.nil_append] at written ⊢
      exact written
    · exact wrote.put comma

theorem Wrote.encodeTags (wrote : Wrote memory remaining text l) (tags : List (CArray influxdbMaxTagLen)) :
    Wrote memory remaining (text ++ tags.flatMap tagText) (tags.foldl (IotPlatform.encodeTag remaining) l) := by
  induction tags generalizing text l with
  | nil =>
    rw [List.flatMap_nil, List.append_nil]
    exact wrote
  | cons tag rest ih =>
    have step := ih (wrote.encodeTag tag)
    rwa [List.append_assoc] at step

/-! ### Printing into it -/

theorem storeBytes_outside {start i : Nat} {bytes : List UInt8} (outside : i < start ∨ start + bytes.length ≤ i) :
    storeBytes memory start bytes i = memory i := by
  rw [storeBytes, if_neg (by omega)]

theorem storeBytes_inside {start i : Nat} {bytes : List UInt8} (inside : i < bytes.length) :
    storeBytes memory start bytes (start + i) = bytes.getD i 0 := by
  rw [storeBytes, if_pos (by omega), Nat.add_sub_cancel_left]

theorem LineBuffer.print_size (small : remaining < 2 ^ 64) (within : l.pos ≤ remaining) :
    (remaining + 2 ^ 64 - l.pos) % 2 ^ 64 = remaining - l.pos := by
  omega

theorem LineBuffer.content_print (small : remaining < 2 ^ 64) (fits : l.pos + text.length < remaining) :
    (l.print remaining text).content = l.content ++ text := by
  have size := print_size (l := l) small (by omega)
  have whole : snprintf (remaining - l.pos) text = text := snprintf_of_lt (by omega)
  apply List.ext_getElem
  · rw [length_content, List.length_append, length_content]
    rfl
  · intro i inside inside'
    simp only [content, print, size, whole, List.getElem_map, List.getElem_range] at inside ⊢
    rw [if_neg (by omega)]
    rcases Nat.lt_or_ge i l.pos with old | new
    · rw [storeBytes_outside (.inl old), List.getElem_append_left (by simpa using old), List.getElem_map, List.getElem_range]
    · obtain ⟨j, rfl⟩ := Nat.exists_eq_add_of_le new
      have bound : j < text.length := by
        rw [List.length_map, List.length_range] at inside
        omega
      rw [storeBytes_inside (by rw [List.length_append]; omega), List.getElem_append_right (by simp)]
      simp [List.getElem?_append_left bound, bound]

theorem LineBuffer.print_before {z : Nat} (before : z < l.pos) : (l.print remaining text).memory z = l.memory z := by
  rw [print]
  dsimp only
  split
  · rfl
  · exact storeBytes_outside (.inl before)

/-- In blank memory a text that does not fit leaves a zero where its end was to be. -/
theorem LineBuffer.print_long (small : remaining < 2 ^ 64) (within : l.pos ≤ remaining) (nonempty : text ≠ [])
    (long : remaining ≤ l.pos + text.length) (blank : ∀ i, l.pos ≤ i → l.memory i = 0) :
    ∃ z, z < (l.print remaining text).pos ∧ (l.print remaining text).memory z = 0 := by
  have positive := List.length_pos_of_ne_nil nonempty
  have size := print_size (l := l) small within
  rcases Nat.eq_or_lt_of_le within with full | room
  · refine ⟨remaining, ?_, ?_⟩
    · show remaining < l.pos + text.length
      omega
    · rw [print, size, if_pos (by omega)]
      exact blank remaining (by omega)
  · refine ⟨l.pos + (remaining - l.pos - 1), ?_, ?_⟩
    · show l.pos + (remaining - l.pos - 1) < l.pos + text.length
      omega
    · have cut : (snprintf (remaining - l.pos) text).length = remaining - l.pos - 1 := by
        rw [snprintf, List.length_take]
        omega
      rw [print, size, if_neg (by omega)]
      dsimp only
      rw [storeBytes_inside (by rw [List.length_append, cut]; exact Nat.lt_succ_self _)]
      simp [← cut]

theorem LineBuffer.print_blank (small : remaining < 2 ^ 64) (fits : l.pos + text.length < remaining)
    (blank : ∀ i, l.pos ≤ i → l.memory i = 0) : ∀ i, (l.print remaining text).pos ≤ i → (l.print remaining text).memory i = 0 := by
  intro i later
  have size := print_size (l := l) small (by omega)
  have whole : snprintf (remaining - l.pos) text = text := snprintf_of_lt (by omega)
  replace later : l.pos + text.length ≤ i := later
  rw [print, size, if_neg (by omega), whole]
  dsimp only
  rcases Nat.eq_or_lt_of_le later with last | beyond
  · rw [← last, storeBytes_inside (by simp)]
    simp
  · rw [storeBytes_outside (.inr (by rw [List.length_append, List.length_singleton]; omega))]
    exact blank i (by omega)

/-! ### The line -/

/-- The line up to the value of its field. -/
def lineFront (point : InfluxDBPoint) : List UInt8 :=
  escape point.measurement.text ++ (point.tags.take influxdbMaxTags).flatMap tagText ++
    space :: (point.fieldKey.text ++ [equals])

def lineStamp (point : InfluxDBPoint) : List UInt8 :=
  if point.timestampNs > 0 then space :: printUnsigned point.timestampNs.toNat else []

def lineText (point : InfluxDBPoint) : List UInt8 := lineFront point ++ printG point.fieldValue ++ lineStamp point

/-- The buffer before the value of the field is printed. -/
def encodeFront (memory : Nat → UInt8) (point : InfluxDBPoint) (remaining : Nat) : LineBuffer :=
  ((((point.tags.take influxdbMaxTags).foldl (encodeTag remaining)
    (LineBuffer.putAll remaining { memory := memory, pos := 0 } (escape point.measurement.text))).put remaining
      space).putAll remaining point.fieldKey.text).put remaining equals

theorem encodeFront_wrote (memory : Nat → UInt8) (point : InfluxDBPoint) (remaining : Nat) :
    Wrote memory remaining (lineFront point) (encodeFront memory point remaining) := by
  have wrote := (((((Wrote.start memory remaining).putAll (escape point.measurement.text)).encodeTags
    (point.tags.take influxdbMaxTags)).put space).putAll point.fieldKey.text).put equals
  simp only [List.nil_append, List.append_assoc, List.cons_append] at wrote
  simp only [lineFront, List.append_assoc]
  exact wrote

def encodeStamp (l : LineBuffer) (point : InfluxDBPoint) (remaining : Nat) : LineBuffer :=
  if point.timestampNs > 0 then (l.put remaining space).print remaining (printUnsigned point.timestampNs.toNat) else l

theorem content_influxdbEncodeLine (memory : Nat → UInt8) (point : InfluxDBPoint) (remaining : Nat) :
    (influxdbEncodeLine memory point (remaining + 1)).content =
      (encodeStamp ((encodeFront memory point remaining).print remaining (printG point.fieldValue)) point remaining).content := by
  rw [influxdbEncodeLine, if_neg (Nat.succ_ne_zero remaining), Nat.add_sub_cancel]
  apply List.map_congr_left
  intro i member
  exact Function.update_of_ne (Nat.ne_of_lt (List.mem_range.mp member)) ..

theorem LineBuffer.put_pos (room : l.pos < remaining) (byte : UInt8) : (l.put remaining byte).pos = l.pos + 1 := by
  rw [put, if_pos room]

theorem zero_mem_content {z : Nat} (inside : z < l.pos) (zero : l.memory z = 0) : 0 ∈ l.content :=
  List.mem_map.mpr ⟨z, List.mem_range.mpr inside, zero⟩

theorem content_encodeStamp (small : remaining < 2 ^ 64) (point : InfluxDBPoint)
    (fits : l.pos + (lineStamp point).length < remaining) :
    (encodeStamp l point remaining).content = l.content ++ lineStamp point := by
  rw [encodeStamp]
  rw [lineStamp] at fits ⊢
  split
  · rename_i stamped
    rw [if_pos stamped, List.length_cons] at fits
    have room : l.pos < remaining := by omega
    rw [LineBuffer.content_print small (by rw [LineBuffer.put_pos room]; omega), LineBuffer.content_put room, List.append_assoc,
      List.singleton_append]
  · rw [List.append_nil]

/-- A line that leaves room for its terminator and one more byte is encoded whole, whatever the memory held. -/
theorem content_encoded (point : InfluxDBPoint) (small : remaining < 2 ^ 64) (fits : (lineText point).length < remaining)
    (memory : Nat → UInt8) : (influxdbEncodeLine memory point (remaining + 1)).content = lineText point := by
  have front := encodeFront_wrote memory point remaining
  have pos := front.pos_eq
  rw [lineText, List.length_append, List.length_append] at fits
  have value : ((encodeFront memory point remaining).print remaining (printG point.fieldValue)).content =
      (encodeFront memory point remaining).content ++ printG point.fieldValue := LineBuffer.content_print small (by omega)
  have stamp : ((encodeFront memory point remaining).print remaining (printG point.fieldValue)).pos +
      (lineStamp point).length < remaining := by
    show (encodeFront memory point remaining).pos + (printG point.fieldValue).length + _ < remaining
    omega
  rw [content_influxdbEncodeLine, content_encodeStamp small point stamp, value, front.content,
    List.take_of_length_le (by omega)]
  rfl

/-- A timestamp that does not fit leaves a zero in the line. -/
theorem zero_mem_encodeStamp (small : remaining < 2 ^ 64) (point : InfluxDBPoint) (room : l.pos < remaining)
    (long : remaining ≤ l.pos + (lineStamp point).length) (blank : ∀ i, l.pos ≤ i → l.memory i = 0) :
    0 ∈ (encodeStamp l point remaining).content := by
  rw [encodeStamp]
  rw [lineStamp] at long
  split
  · rename_i stamped
    rw [if_pos stamped, List.length_cons] at long
    have next := LineBuffer.put_pos room space
    have nextBlank : ∀ i, (l.put remaining space).pos ≤ i → (l.put remaining space).memory i = 0 := by
      intro i later
      rw [next] at later
      rw [LineBuffer.put, if_pos room]
      exact (Function.update_of_ne (by omega) ..).trans (blank i (by omega))
    obtain ⟨z, inside, zero⟩ := LineBuffer.print_long small (by omega)
      (printUnsigned_ne_nil point.timestampNs.toNat) (by omega) nextBlank
    exact zero_mem_content inside zero
  · rename_i plain
    rw [if_neg plain, List.length_nil] at long
    omega

/-- Behind a full buffer the timestamp leaves the line's own bytes alone. -/
theorem zero_mem_encodeStamp_full (point : InfluxDBPoint) (full : remaining ≤ l.pos) {z : Nat} (inside : z < l.pos)
    (zero : l.memory z = 0) : 0 ∈ (encodeStamp l point remaining).content := by
  rw [encodeStamp]
  split
  · rw [LineBuffer.put_full full]
    refine zero_mem_content (z := z) ?_ ((LineBuffer.print_before inside).trans zero)
    exact Nat.lt_of_lt_of_le inside (Nat.le_add_right ..)
  · exact zero_mem_content inside zero

/-- Of a longer line, in blank memory, a zero is taken for part of the line. -/
theorem zero_mem_encoded (point : InfluxDBPoint) (small : remaining < 2 ^ 64) (long : remaining ≤ (lineText point).length) :
    0 ∈ (influxdbEncodeLine (fun _ => 0) point (remaining + 1)).content := by
  have front := encodeFront_wrote (fun _ => 0) point remaining
  have pos := front.pos_eq
  rw [lineText, List.length_append, List.length_append] at long
  rw [content_influxdbEncodeLine]
  rcases Nat.lt_or_ge ((encodeFront (fun _ => 0) point remaining).pos + (printG point.fieldValue).length) remaining with
    fits | full
  · refine zero_mem_encodeStamp small point fits ?_ (LineBuffer.print_blank small fits front.behind)
    show remaining ≤ (encodeFront (fun _ => 0) point remaining).pos + (printG point.fieldValue).length + _
    omega
  · obtain ⟨z, inside, zero⟩ := LineBuffer.print_long small (by omega) (printG_visible _).2 full front.behind
    exact zero_mem_encodeStamp_full point full inside zero

end Buffer

end IotPlatform
