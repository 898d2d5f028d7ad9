import IotPlatform.Shared.LineEncoding

/-!
# The buffers of the line encoder

`influxdb_encode_line` moves its position by what `snprintf` would have written, and `influxdb_write_batch` computes the
space left for the next line from it. Sizes are of `size_t`, the differences of two sizes too.
-/

namespace IotPlatform
open LineProtocol

/-! ### Writing a batch -/

/-- One round of the loop: a line behind the first `total` bytes, and a newline if there is space for it. -/
def encodeBatchPoint (bufSize : UInt64) (l : LineBuffer) (point : InfluxDBPoint) : Option LineBuffer :=
  let line := influxdbEncodeLine (fun i => l.memory (l.pos + i)) point (bufSize - UInt64.ofNat l.pos - 1).toNat
  if line.pos = 0 then none
  else
    let l : LineBuffer :=
      { memory := fun i => if l.pos ≤ i then line.memory (i - l.pos) else l.memory i, pos := l.pos + line.pos }
    some (if l.pos < (bufSize - 1).toNat then
      { memory := Function.update l.memory l.pos newline, pos := l.pos + 1 } else l)

/-- The buffer after the loop, and `total` each time the loop comes to its condition. -/
def encodeBatch (bufSize : UInt64) (l : LineBuffer) : List InfluxDBPoint → List Nat × Option LineBuffer
  | [] => ([l.pos], some l)
  | point :: rest =>
    match encodeBatchPoint bufSize l point with
    | none => ([l.pos], none)
    | some next => (l.pos :: (encodeBatch bufSize next rest).1, (encodeBatch bufSize next rest).2)

def dropNewline (l : LineBuffer) : LineBuffer :=
  let l := if l.pos > 0 ∧ l.memory (l.pos - 1) = newline then { l with pos := l.pos - 1 } else l
  { l with memory := Function.update l.memory l.pos 0 }

/-- `memory` is what stands from `batch_buf` on. -/
def influxdbWriteBatch (memory : Nat → UInt8) (c : InfluxDBClient) (points : List InfluxDBPoint) (bufSize : UInt64)
    (token : TenantToken) : InfluxDBOutcome :=
  match c.initialised, c.transport with
  | true, some httpRequest =>
    if points.length = 0 then .refused .errParamNull
    else if !validateToken token then .refused .errUnauthorized
    else
      match (encodeBatch bufSize { memory := memory, pos := 0 } points).2 with
      | none => .refused .errBufferFull
      | some l =>
        match makeWriteUrl c.config token with
        | none => .refused .errBufferFull
        | some url =>
          let request := writeRequest c.config url (dropNewline l).content
          { request := some request, result := if (httpRequest request).1 then .ok else .errTransport, response := [] }
  | _, _ => .refused .errNotConfigured

/-- The batch is not refused before its first line. -/
def BatchStarts (c : InfluxDBClient) (points : List InfluxDBPoint) (token : TenantToken) : Prop :=
  c.initialised = true ∧ c.transport.isSome = true ∧ points ≠ [] ∧ validateToken token = true

/-! ### Staying inside -/

/-- Whatever the memory holds, the encoder returns less than the size and leaves what stands behind the buffer alone. -/
def EncodesInside (point : InfluxDBPoint) (bufSize : Nat) : Prop :=
  ∀ memory, (influxdbEncodeLine memory point bufSize).pos < bufSize ∧
    ∀ i, bufSize ≤ i → (influxdbEncodeLine memory point bufSize).memory i = memory i

/-- `total` stays below the size of the buffer, and so does what is sent of it. -/
def BatchInside (memory : Nat → UInt8) (c : InfluxDBClient) (points : List InfluxDBPoint) (bufSize : UInt64)
    (token : TenantToken) : Prop :=
  (BatchStarts c points token →
    ∀ total ∈ (encodeBatch bufSize { memory := memory, pos := 0 } points).1, total < bufSize.toNat) ∧
  ∀ r, (influxdbWriteBatch memory c points bufSize token).request = some r → r.body.length + 1 ≤ bufSize.toNat

/-- The line is one byte too long, or it is longer and what was cut from it leaves a number of one digit. -/
def OneOver (point : InfluxDBPoint) (room : Nat) : Prop :=
  (lineText point).length = room ∨
    if point.timestampNs > 0 then
      (printUnsigned point.timestampNs.toNat).length = 1 ∧ (lineText point).length = room + 1
    else (printG point.fieldValue).length = 1 ∧ room ≤ (lineFront point).length

/-- Every line that finds space for itself and a newline leaves the rest to the next; the first that does not finds no
space at all, or goes beyond it by one byte. -/
def BatchFits : Nat → List InfluxDBPoint → Prop
  | _, [] => True
  | room, point :: rest =>
    room = 0 ∨ OneOver point room ∨
      (lineText point).length < room ∧ BatchFits (room - (lineText point).length - 1) rest

/-! ### Where a line ends -/

section Line

variable {remaining : Nat} {l : LineBuffer}

/-- The position that the encoder returns. -/
def lineEnd (point : InfluxDBPoint) (remaining : Nat) : Nat :=
  let value := min remaining (lineFront point).length + (printG point.fieldValue).length
  if point.timestampNs > 0 then
    (if value < remaining then value + 1 else value) + (printUnsigned point.timestampNs.toNat).length
  else value

theorem influxdbEncodeLine_eq (memory : Nat → UInt8) (point : InfluxDBPoint) (remaining : Nat) :
    influxdbEncodeLine memory point (remaining + 1) =
      let l := encodeStamp ((encodeFront memory point remaining).print remaining (printG point.fieldValue)) point remaining
      { l with memory := Function.update l.memory l.pos 0 } := by
  rw [influxdbEncodeLine, if_neg (Nat.succ_ne_zero remaining), Nat.add_sub_cancel]
  rfl

theorem influxdbEncodeLine_pos (memory : Nat → UInt8) (point : InfluxDBPoint) (remaining : Nat) :
    (influxdbEncodeLine memory point (remaining + 1)).pos = lineEnd point remaining := by
  have front := (encodeFront_wrote memory point remaining).pos_eq
  have value : ((encodeFront memory point remaining).print remaining (printG point.fieldValue)).pos =
      min remaining (lineFront point).length + (printG point.fieldValue).length := by
    rw [← front]
    rfl
  rw [influxdbEncodeLine_eq, lineEnd, ← value]
  dsimp only
  rw [encodeStamp]
  split
  · rw [LineBuffer.put]
    split <;> rfl
  · rfl

theorem printed_pos (point : InfluxDBPoint) :
    0 < (printG point.fieldValue).length ∧ 0 < (printUnsigned point.timestampNs.toNat).length :=
  ⟨List.length_pos_of_ne_nil (printG_visible _).2, List.length_pos_of_ne_nil (printUnsigned_ne_nil _)⟩

theorem length_lineText (point : InfluxDBPoint) :
    (lineText point).length = (lineFront point).length + (printG point.fieldValue).length +
      if point.timestampNs > 0 then (printUnsigned point.timestampNs.toNat).length + 1 else 0 := by
  rw [lineText, List.length_append, List.length_append, lineStamp, apply_ite List.length, List.length_cons, List.length_nil]

theorem lineEnd_pos (point : InfluxDBPoint) (remaining : Nat) : 0 < lineEnd point remaining := by
  have printed := printed_pos point
  rw [lineEnd]
  split
  · split <;> omega
  · omega

theorem lineEnd_le_iff (point : InfluxDBPoint) (remaining : Nat) :
    lineEnd point remaining ≤ remaining ↔ (lineText point).length ≤ remaining := by
  have printed := printed_pos point
  rw [lineEnd, length_lineText]
  split
  · split <;> omega
  · omega

theorem lineEnd_of_le {point : InfluxDBPoint} (fits : (lineText point).length ≤ remaining) :
    lineEnd point remaining = (lineText point).length := by
  have printed := printed_pos point
  rw [length_lineText] at fits ⊢
  rw [lineEnd]
  split
  · rename_i stamped
    rw [if_pos stamped] at fits
    split <;> omega
  · rename_i plain
    rw [if_neg plain] at fits
    omega

theorem lineEnd_one_over (point : InfluxDBPoint) (remaining : Nat) :
    lineEnd point remaining = remaining + 1 ↔ OneOver point (remaining + 1) := by
  have printed := printed_pos point
  rw [lineEnd, OneOver, length_lineText]
  split
  · split <;> omega
  · omega

/-! ### The memory behind the buffer -/

theorem LineBuffer.put_behind {i : Nat} (behind : remaining ≤ i) (byte : UInt8) :
    (l.put remaining byte).memory i = l.memory i := by
  rw [put]
  split
  · exact Function.update_of_ne (by omega) ..
  · rfl

/-- As long as the position has not run over, printing stays in front of the last byte. -/
theorem LineBuffer.print_behind {text : List UInt8} (small : remaining < 2 ^ 64) (within : l.pos ≤ remaining) {i : Nat}
    (behind : remaining ≤ i) : (l.print remaining text).memory i = l.memory i := by
  rw [print, print_size small within]
  dsimp only
  split
  · rfl
  · apply storeBytes_outside
    right
    rw [List.length_append, snprintf, List.length_take, List.length_singleton]
    omega

theorem encodeStamp_behind (small : remaining < 2 ^ 64) {point : InfluxDBPoint}
    (within : (encodeStamp l point remaining).pos ≤ remaining) {i : Nat} (behind : remaining ≤ i) :
    (encodeStamp l point remaining).memory i = l.memory i := by
  rw [encodeStamp] at within ⊢
  split
  · rename_i stamped
    rw [if_pos stamped] at within
    have before : (l.put remaining space).pos ≤ remaining := Nat.le_trans (Nat.le_add_right ..) within
    rw [LineBuffer.print_behind small before behind, LineBuffer.put_behind behind]
  · rfl

theorem encodesInside_iff {point : InfluxDBPoint} {bufSize : Nat} (small : bufSize < 2 ^ 64) :
    EncodesInside point bufSize ↔ (lineText point).length < bufSize := by
  cases bufSize with
  | zero => exact iff_of_false (fun inside => Nat.not_lt_zero _ (inside fun _ => 0).1) (Nat.not_lt_zero _)
  | succ remaining =>
    rw [Nat.lt_succ_iff, ← lineEnd_le_iff]
    constructor
    · intro inside
      have returned := (inside fun _ => 0).1
      rw [influxdbEncodeLine_pos] at returned
      exact Nat.le_of_lt_succ returned
    · intro fits memory
      have ends := influxdbEncodeLine_pos memory point remaining
      refine ⟨by rw [ends]; omega, fun i behind => ?_⟩
      have front := encodeFront_wrote memory point remaining
      have frontPos := front.pos_eq
      rw [influxdbEncodeLine_eq] at ends ⊢
      dsimp only at ends ⊢
      rw [← ends] at fits
      rw [Function.update_of_ne (by omega), encodeStamp_behind (by omega) fits (by omega),
        LineBuffer.print_behind (by omega) (by omega) (by omega)]
      exact front.behind i (by omega)

end Line

/-! ### The loop over the points -/

section Batch

variable {bufSize : UInt64} {l : LineBuffer}

theorem toNat_room (within : l.pos < bufSize.toNat) :
    (bufSize - UInt64.ofNat l.pos - 1).toNat = bufSize.toNat - l.pos - 1 := by
  have bound := bufSize.toNat_lt
  have used : (UInt64.ofNat l.pos).toNat = l.pos := UInt64.toNat_ofNat_of_lt (Nat.lt_trans within bound)
  have left : (bufSize - UInt64.ofNat l.pos).toNat = bufSize.toNat - l.pos := by
    rw [UInt64.toNat_sub_of_le _ _ (UInt64.le_iff_toNat_le.mpr (by omega)), used]
  have one : (1 : UInt64) ≤ bufSize - UInt64.ofNat l.pos := by
    rw [UInt64.le_iff_toNat_le, left, UInt64.toNat_one]
    omega
  rw [UInt64.toNat_sub_of_le _ _ one, left, UInt64.toNat_one]

theorem encodeBatchPoint_full (full : l.pos + 1 = bufSize.toNat) (point : InfluxDBPoint) :
    encodeBatchPoint bufSize l point = none := by
  have room : (bufSize - UInt64.ofNat l.pos - 1).toNat = 0 := by
    rw [toNat_room (by omega)]
    omega
  rw [encodeBatchPoint, room]
  rfl

theorem encodeBatchPoint_room {remaining : Nat} (room : l.pos + 1 + (remaining + 1) = bufSize.toNat) (point : InfluxDBPoint) :
    ∃ next, encodeBatchPoint bufSize l point = some next ∧
      next.pos = l.pos + lineEnd point remaining + if lineEnd point remaining ≤ remaining then 1 else 0 := by
  have left : (bufSize - UInt64.ofNat l.pos - 1).toNat = remaining + 1 := by
    rw [toNat_room (by omega)]
    omega
  have one : (1 : UInt64) ≤ bufSize := by
    rw [UInt64.le_iff_toNat_le, UInt64.toNat_one]
    omega
  have last : (bufSize - 1).toNat = l.pos + (remaining + 1) := by
    rw [UInt64.toNat_sub_of_le _ _ one, UInt64.toNat_one]
    omega
  have ends := influxdbEncodeLine_pos (fun i => l.memory (l.pos + i)) point remaining
  have written := Nat.ne_of_gt (lineEnd_pos point remaining)
  refine ⟨_, by rw [encodeBatchPoint, left, ends]; exact if_neg written, ?_⟩
  dsimp only
  rw [last]
  by_cases fits : lineEnd point remaining ≤ remaining
  · rw [if_pos (by omega), if_pos fits]
  · rw [if_neg (by omega), if_neg fits]
    rfl

theorem pos_mem_totals (points : List InfluxDBPoint) : l.pos ∈ (encodeBatch bufSize l points).1 := by
  cases points with
  | nil => exact List.mem_singleton_self _
  | cons point rest =>
    rw [encodeBatch]
    split
    · exact List.mem_singleton_self _
    · exact List.mem_cons_self

theorem last_mem_totals {points : List InfluxDBPoint} {final : LineBuffer}
    (ended : (encodeBatch bufSize l points).2 = some final) : final.pos ∈ (encodeBatch bufSize l points).1 := by
  induction points generalizing l with
  | nil =>
    obtain rfl := Option.some.inj ended
    exact List.mem_singleton_self _
  | cons point rest ih =>
    rw [encodeBatch] at ended ⊢
    split
    · rename_i refused
      rw [refused] at ended
      cases ended
    · rename_i next called
      rw [called] at ended
      exact List.mem_cons_of_mem _ (ih ended)

/-- By induction on the points, one case for each way a line can end. -/
theorem totals_lt_iff {points : List InfluxDBPoint} (within : l.pos < bufSize.toNat) :
    (∀ total ∈ (encodeBatch bufSize l points).1, total < bufSize.toNat) ↔ BatchFits (bufSize.toNat - l.pos - 1) points := by
  induction points generalizing l with
  | nil => exact iff_of_true (fun total member => List.mem_singleton.mp member ▸ within) trivial
  | cons point rest ih =>
    rw [encodeBatch, BatchFits]
    cases left : bufSize.toNat - l.pos - 1 with
    | zero =>
      rw [encodeBatchPoint_full (by omega)]
      exact iff_of_true (fun total member => List.mem_singleton.mp member ▸ within) (.inl rfl)
    | succ remaining =>
      have room : l.pos + 1 + (remaining + 1) = bufSize.toNat := by omega
      obtain ⟨next, called, pos⟩ := encodeBatchPoint_room room point
      rw [called]
      simp only [List.forall_mem_cons, within, true_and, Nat.succ_ne_zero, false_or]
      rw [← lineEnd_one_over, Nat.lt_succ_iff, ← lineEnd_le_iff]
      rcases Nat.lt_trichotomy (lineEnd point remaining) (remaining + 1) with fits | single | beyond
      · have le := Nat.le_of_lt_succ fits
        have length := lineEnd_of_le ((lineEnd_le_iff point remaining).mp le)
        rw [if_pos le] at pos
        rw [ih (by omega), show bufSize.toNat - next.pos - 1 = remaining + 1 - (lineText point).length - 1 by omega]
        simp [le, Nat.ne_of_lt fits]
      · rw [if_neg (by omega)] at pos
        rw [ih (by omega), show bufSize.toNat - next.pos - 1 = 0 by omega]
        refine iff_of_true ?_ (.inl single)
        cases rest with
        | nil => trivial
        | cons point' rest => exact .inl rfl
      · rw [if_neg (by omega)] at pos
        refine iff_of_false (fun inside => ?_) (by omega)
        have below := inside next.pos (pos_mem_totals rest)
        omega

theorem length_dropNewline_le (l : LineBuffer) : (dropNewline l).content.length ≤ l.pos := by
  rw [LineBuffer.length_content, dropNewline]
  dsimp only
  split
  · exact Nat.sub_le ..
  · exact Nat.le_refl _

/-- A body that is sent is what the loop left, but for the last newline. -/
theorem influxdbWriteBatch_body {memory : Nat → UInt8} {c : InfluxDBClient} {points : List InfluxDBPoint} {token : TenantToken}
    {r : HttpRequest} (sent : (influxdbWriteBatch memory c points bufSize token).request = some r) :
    BatchStarts c points token ∧
      ∃ l, (encodeBatch bufSize { memory := memory, pos := 0 } points).2 = some l ∧ r.body = (dropNewline l).content := by
  unfold influxdbWriteBatch at sent
  split at sent
  · rename_i httpRequest ready open'
    split at sent
    · cases sent
    · rename_i nonempty
      split at sent
      · cases sent
      · rename_i valid
        split at sent
        · cases sent
        · rename_i l ended
          split at sent
          · cases sent
          · obtain rfl := Option.some.inj sent
            refine ⟨⟨ready, by rw [open']; rfl, ?_, by simpa using valid⟩, l, ended, rfl⟩
            exact fun empty => nonempty (congrArg List.length empty)
  · cases sent

theorem batchInside_iff {memory : Nat → UInt8} {c : InfluxDBClient} {points : List InfluxDBPoint} {token : TenantToken} :
    BatchInside memory c points bufSize token ↔
      (BatchStarts c points token → 0 < bufSize.toNat ∧ BatchFits (bufSize.toNat - 1) points) := by
  constructor
  · rintro ⟨inside, -⟩ starts
    have positive : 0 < bufSize.toNat := inside starts 0 (pos_mem_totals points)
    exact ⟨positive, (totals_lt_iff (l := { memory := memory, pos := 0 }) positive).mp (inside starts)⟩
  · intro fits
    have inside : BatchStarts c points token →
        ∀ total ∈ (encodeBatch bufSize { memory := memory, pos := 0 } points).1, total < bufSize.toNat := by
      intro starts
      obtain ⟨positive, lines⟩ := fits starts
      exact (totals_lt_iff (l := { memory := memory, pos := 0 }) positive).mpr lines
    refine ⟨inside, fun r sent => ?_⟩
    obtain ⟨starts, l, ended, body⟩ := influxdbWriteBatch_body sent
    have below := inside starts l.pos (last_mem_totals ended)
    have short := length_dropNewline_le l
    rw [body]
    omega

end Batch

/-- A line stays inside its buffer exactly when it is shorter than the buffer; the total of a batch stays below the size
exactly when the lines fit, or the first that does not finds no space or goes one byte beyond it. -/
theorem line_bounds_exact (point : InfluxDBPoint) (lineSize : UInt64) (memory : Nat → UInt8) (c : InfluxDBClient)
    (points : List InfluxDBPoint) (bufSize : UInt64) (token : TenantToken) :
    (EncodesInside point lineSize.toNat ↔ (lineText point).length < lineSize.toNat) ∧
      (BatchInside memory c points bufSize token ↔
        (BatchStarts c points token → 0 < bufSize.toNat ∧ BatchFits (bufSize.toNat - 1) points)) :=
  ⟨encodesInside_iff lineSize.toNat_lt, batchInside_iff⟩

/-- `m v=21.5` -/
def shortPoint : InfluxDBPoint :=
  { measurement := strncpy 63 (asciiBytes "m"), tags := [], fieldKey := strncpy 63 (asciiBytes "v")
    fieldValue := ⟨0x41AC0000⟩, timestampNs := 0 }

/-- In a buffer of five bytes the line ends at index 8, in a batch of that size at index 7, and as many bytes are sent. -/
theorem short_buffer_overrun :
    (¬∀ (point : InfluxDBPoint) (bufSize : UInt64), 1 ≤ bufSize.toNat → EncodesInside point bufSize.toNat) ∧
    ¬∀ (memory : Nat → UInt8) (c : InfluxDBClient) (points : List InfluxDBPoint) (bufSize : UInt64) (token : TenantToken),
      BatchInside memory c points bufSize token := by
  constructor
  · intro inside
    have returned := (inside shortPoint 5 (by decide) fun _ => 0).1
    revert returned
    decide +kernel
  · intro inside
    obtain ⟨-, short⟩ := inside (fun _ => 0) openClient [shortPoint] 5 (tokenOf "a")
    have sent : ((influxdbWriteBatch (fun _ => 0) openClient [shortPoint] 5 (tokenOf "a")).request.map
        fun r => r.body.length) = some 7 := by decide +kernel
    obtain ⟨r, request, length⟩ := Option.map_eq_some_iff.mp sent
    have bound := short r request
    rw [length] at bound
    exact absurd bound (by decide)

end IotPlatform
