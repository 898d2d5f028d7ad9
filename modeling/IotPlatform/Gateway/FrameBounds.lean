import IotPlatform.Lib.Cursor
import IotPlatform.Gateway.BatchFrame

/-!
# The encoder and its buffer

`batch_encode_frame` tests the size of the buffer for the header and the entries, and then appends the tag of a version 0x02
frame. Here the encoder is followed index by index.
-/

namespace IotPlatform
open Bytes

def putHeader (c : Cursor) (h : BatchFrameHeader) : Cursor :=
  ((((c.put h.magic).put h.version).put h.entryCount).put h.flags).copy (leBytes 4 h.sequenceNumber.toNat)

def putEntry (c : Cursor) (e : BatchFrameEntry) : Cursor :=
  ((c.copy (leBytes 2 e.nodeId.toNat)).put e.metricId).copy (leBytes 4 e.value.bits.toNat)

structure EncodeOutcome where
  result : Bool
  /-- The writes to `out_buf`, in order. -/
  writes : List (Nat × UInt8)
  /-- What `*out_len` was set to. -/
  outLen : Option Nat

/-- `entries i` is what the code reads as `entries[i]`. -/
def batchEncodeInto (header : BatchFrameHeader) (entries : Nat → BatchFrameEntry) (entryCount : UInt8) (bufSize : Nat) :
    EncodeOutcome :=
  let needed := batchFrameHeaderSize + entryCount.toNat * batchFrameEntrySize
  if bufSize < needed then { result := false, writes := [], outLen := none }
  else
    let body := (List.range entryCount.toNat).foldl (fun c i => putEntry c (entries i)) (putHeader .start header)
    let c := if header.version = 0x02 then body.copy (List.replicate batchFrameHmacSize 0) else body
    { result := true, writes := c.writes, outLen := some c.pos }

def EncodeOutcome.StaysInside (o : EncodeOutcome) (bufSize : Nat) : Prop :=
  if o.result then (∀ write ∈ o.writes, write.1 < bufSize) ∧ ∃ length, o.outLen = some length ∧ length ≤ bufSize
  else o.writes = [] ∧ o.outLen = none

/-- Either the buffer is too small for the entries, or it has room for a tag as well. -/
def RoomForTag (entryCount : UInt8) (bufSize tagSize : Nat) : Prop :=
  let needed := batchFrameHeaderSize + entryCount.toNat * batchFrameEntrySize
  bufSize < needed ∨ needed + tagSize ≤ bufSize

def tagSize (header : BatchFrameHeader) : Nat := if header.version = 0x02 then batchFrameHmacSize else 0

/-! ### What the encoder writes -/

@[simp] theorem bytes_putHeader (c : Cursor) (h : BatchFrameHeader) : (putHeader c h).bytes = c.bytes ++ encodeHeader h := by
  simp [putHeader, encodeHeader]

@[simp] theorem bytes_putEntry (c : Cursor) (e : BatchFrameEntry) : (putEntry c e).bytes = c.bytes ++ encodeEntry e := by
  simp [putEntry, encodeEntry]

section Encoder

variable {header : BatchFrameHeader} {entries : Nat → BatchFrameEntry} {entryCount : UInt8} {bufSize : Nat}

theorem batchEncodeInto_refused (short : bufSize < batchFrameHeaderSize + entryCount.toNat * batchFrameEntrySize) :
    batchEncodeInto header entries entryCount bufSize = { result := false, writes := [], outLen := none } := if_pos short

theorem batchEncodeInto_accepted (header : BatchFrameHeader) (entries : Nat → BatchFrameEntry)
    (fits : batchFrameHeaderSize + entryCount.toNat * batchFrameEntrySize ≤ bufSize) :
    ∃ c : Cursor, batchEncodeInto header entries entryCount bufSize =
        { result := true, writes := c.writes, outLen := some c.pos } ∧
      c.bytes = encodeHeader header ++ (List.range entryCount.toNat).flatMap (fun i => encodeEntry (entries i)) ++
        if header.version = 0x02 then List.replicate batchFrameHmacSize 0 else [] := by
  refine ⟨_, if_neg (Nat.not_lt.mpr fits), ?_⟩
  have body : ((List.range entryCount.toNat).foldl (fun c i => putEntry c (entries i)) (putHeader .start header)).bytes =
      encodeHeader header ++ (List.range entryCount.toNat).flatMap fun i => encodeEntry (entries i) := by
    rw [Cursor.bytes_foldl fun c i => bytes_putEntry c (entries i)]
    simp
  split
  · rw [Cursor.bytes_copy, body]
  · rw [body, List.append_nil]

/-- The frame of `batchEncodeFrame` is what these writes leave in the buffer. -/
theorem batchEncodeInto_frame {listed : List BatchFrameEntry} (array : ∀ i < entryCount.toNat, listed[i]? = some (entries i)) :
    batchEncodeFrame header listed entryCount bufSize =
      if (batchEncodeInto header entries entryCount bufSize).result then
        some ((batchEncodeInto header entries entryCount bufSize).writes.map Prod.snd)
      else none := by
  have same : listed.take entryCount.toNat = (List.range entryCount.toNat).map entries := by
    apply List.ext_getElem?
    intro i
    rw [List.getElem?_map]
    by_cases inside : i < entryCount.toNat
    · rw [List.getElem?_take_of_lt inside, array i inside, List.getElem?_range inside, Option.map_some]
    · rw [List.getElem?_eq_none, List.getElem?_eq_none, Option.map_none]
      · simpa using inside
      · rw [List.length_take]
        omega
  unfold batchEncodeFrame
  rw [same, List.flatMap_map]
  rcases Nat.lt_or_ge bufSize (batchFrameHeaderSize + entryCount.toNat * batchFrameEntrySize) with short | fits
  · rw [if_pos short, batchEncodeInto_refused short]
    rfl
  · obtain ⟨c, outcome, bytes⟩ := batchEncodeInto_accepted header entries fits
    rw [if_neg (Nat.not_lt.mpr fits), outcome, if_pos rfl, ← bytes]
    rfl

theorem length_flatMap_range (n : Nat) :
    ((List.range n).flatMap fun i => encodeEntry (entries i)).length = n * batchFrameEntrySize := by
  rw [← List.flatMap_map, length_flatMap_encodeEntry, List.length_map, List.length_range, batchFrameEntrySize]

theorem staysInside_iff_room :
    (batchEncodeInto header entries entryCount bufSize).StaysInside bufSize ↔
      RoomForTag entryCount bufSize (tagSize header) := by
  unfold EncodeOutcome.StaysInside RoomForTag
  dsimp only
  rcases Nat.lt_or_ge bufSize (batchFrameHeaderSize + entryCount.toNat * batchFrameEntrySize) with short | fits
  · rw [batchEncodeInto_refused short]
    simp [short]
  · obtain ⟨c, outcome, bytes⟩ := batchEncodeInto_accepted header entries fits
    have length : c.pos = batchFrameHeaderSize + entryCount.toNat * batchFrameEntrySize + tagSize header := by
      rw [← c.length_bytes, bytes, List.length_append, List.length_append, length_encodeHeader, length_flatMap_range,
        tagSize, apply_ite List.length, List.length_replicate, List.length_nil, batchFrameHeaderSize]
    rw [outcome, if_pos rfl, c.inside_iff, ← length]
    simp [Nat.not_lt.mpr fits]

/-- The buffer of `batch_forwarder_flush` has room for the largest batch and its tag. -/
theorem flush_staysInside (header : BatchFrameHeader) (entries : Nat → BatchFrameEntry)
    (few : entryCount.toNat ≤ batchMaxEntries) :
    (batchEncodeInto header entries entryCount batchFrameMaxSize).StaysInside batchFrameMaxSize := by
  have tag : tagSize header ≤ batchFrameHmacSize := by
    unfold tagSize
    split
    · exact Nat.le_refl _
    · exact Nat.zero_le _
  refine staysInside_iff_room.mpr (.inr ?_)
  calc batchFrameHeaderSize + entryCount.toNat * batchFrameEntrySize + tagSize header
      ≤ batchFrameHeaderSize + batchMaxEntries * batchFrameEntrySize + tagSize header :=
        Nat.add_le_add_right (Nat.add_le_add_left (Nat.mul_le_mul_right _ few) _) _
    _ ≤ batchFrameMaxSize := Nat.add_le_add_left tag _

/-- The encoder stays inside its buffer exactly when a version 0x02 frame is refused or has room for its tag. -/
theorem encode_inside_exact (header : BatchFrameHeader) (entries : Nat → BatchFrameEntry) (entryCount : UInt8)
    (bufSize : Nat) :
    (batchEncodeInto header entries entryCount bufSize).StaysInside bufSize ↔
      (header.version = 0x02 → RoomForTag entryCount bufSize batchFrameHmacSize) := by
  rw [staysInside_iff_room, tagSize]
  by_cases tagged : header.version = 0x02
  · simp only [tagged, if_true, true_imp_iff]
  · simp only [tagged, if_false, false_imp_iff, iff_true]
    exact Nat.lt_or_ge ..

end Encoder

def bareHeader : BatchFrameHeader := { magic := 0xB7, version := 0x02, entryCount := 0, flags := 0, sequenceNumber := 0 }

/-- A buffer for the header alone: the tag goes behind it. -/
theorem tag_behind_buffer :
    ¬∀ (header : BatchFrameHeader) (entries : Nat → BatchFrameEntry) (entryCount : UInt8) (bufSize : Nat),
      (batchEncodeInto header entries entryCount bufSize).StaysInside bufSize := by
  intro inside
  obtain ⟨all, -⟩ := inside bareHeader (fun _ => { nodeId := 0, metricId := 0, value := ⟨0⟩ }) 0 batchFrameHeaderSize
  exact absurd (all (8, 0) (by decide)) (by decide)

end IotPlatform
