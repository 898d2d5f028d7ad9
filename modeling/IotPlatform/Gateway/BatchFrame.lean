import IotPlatform.Lib.Bytes
import IotPlatform.Lib.Binary32

/-!
# Batch frames on the wire

`batch_encode_frame` and `batch_decode_frame_untrusted`. A version 0x02 frame is 8 header bytes, 7 bytes
for each entry and a 32-byte tag; a version 0x01 frame has 4 header bytes and no tag.
-/

namespace IotPlatform
open Bytes

def batchMaxEntries : Nat := 22

def batchFrameHeaderSize : Nat := 8

def batchFrameEntrySize : Nat := 7

def batchFrameHmacSize : Nat := 32

def batchFrameMaxSize : Nat := batchFrameHeaderSize + batchMaxEntries * batchFrameEntrySize + batchFrameHmacSize

def batchFrameMagic : UInt8 := 0xB7

def batchFrameVersion : UInt8 := 0x02

structure BatchFrameHeader where
  magic : UInt8
  version : UInt8
  entryCount : UInt8
  flags : UInt8
  sequenceNumber : UInt32
  deriving DecidableEq, Repr

structure BatchFrameEntry where
  nodeId : UInt16
  metricId : UInt8
  value : Binary32
  deriving DecidableEq, Repr

def encodeHeader (h : BatchFrameHeader) : List UInt8 :=
  [h.magic, h.version, h.entryCount, h.flags] ++ leBytes 4 h.sequenceNumber.toNat

def encodeEntry (e : BatchFrameEntry) : List UInt8 :=
  leBytes 2 e.nodeId.toNat ++ [e.metricId] ++ leBytes 4 e.value.bits.toNat

/-- The bytes written from the start of the buffer, or `none` when the size check fails. The check leaves the
tag of a version 0x02 frame out. -/
def batchEncodeFrame (header : BatchFrameHeader) (entries : List BatchFrameEntry) (entryCount : UInt8) (bufSize : Nat) :
    Option (List UInt8) :=
  let needed := batchFrameHeaderSize + entryCount.toNat * batchFrameEntrySize
  if bufSize < needed then none
  else
    some (encodeHeader header ++ (entries.take entryCount.toNat).flatMap encodeEntry ++
      if header.version = 0x02 then List.replicate batchFrameHmacSize 0 else [])

def decodeEntry (bytes : List UInt8) : BatchFrameEntry :=
  { nodeId := UInt16.ofNat (leNat (bytes.take 2))
    metricId := bytes.getD 2 0
    value := ⟨UInt32.ofNat (leNat ((bytes.drop 3).take 4))⟩ }

def decodeEntries : Nat → List UInt8 → List BatchFrameEntry
  | 0, _ => []
  | n + 1, bytes => decodeEntry bytes :: decodeEntries n (bytes.drop batchFrameEntrySize)

def wireSequence (wire : List UInt8) : UInt32 := UInt32.ofNat (leNat ((wire.drop 4).take 4))

/-- The header and at most `maxEntries` entries, or `none` when the parser refuses the bytes. -/
def batchDecodeFrameUntrusted (wire : List UInt8) (maxEntries : UInt8) :
    Option (BatchFrameHeader × List BatchFrameEntry) :=
  if wire.length < 4 then none
  else
    let header : BatchFrameHeader :=
      { magic := wire.getD 0 0, version := wire.getD 1 0, entryCount := wire.getD 2 0, flags := wire.getD 3 0
        sequenceNumber := 0 }
    let count := min header.entryCount.toNat maxEntries.toNat
    let expectedEntryBytes := header.entryCount.toNat * batchFrameEntrySize
    if header.magic ≠ batchFrameMagic then none
    else if header.version = 0x01 then
      if wire.length < 4 + expectedEntryBytes then none
      else some (header, decodeEntries count (wire.drop 4))
    else if header.version ≠ 0x02 then none
    else if wire.length < batchFrameHeaderSize then none
    else
      let entriesAndHmacLen := wire.length - batchFrameHeaderSize
      if entriesAndHmacLen < batchFrameHmacSize then none
      else if entriesAndHmacLen - batchFrameHmacSize < expectedEntryBytes then none
      else
        some ({ header with sequenceNumber := wireSequence wire },
          decodeEntries count (wire.drop batchFrameHeaderSize))

/-! ### What the parser returns -/

theorem length_decodeEntries (n : Nat) (bytes : List UInt8) : (decodeEntries n bytes).length = n := by
  induction n generalizing bytes with
  | zero => rfl
  | succ n ih => rw [decodeEntries, List.length_cons, ih]

theorem batchDecode_some {wire : List UInt8} {maxEntries : UInt8} {header : BatchFrameHeader}
    {decoded : List BatchFrameEntry} (result : batchDecodeFrameUntrusted wire maxEntries = some (header, decoded)) :
    (wire.getD 1 0 = 0x02 → header.sequenceNumber = wireSequence wire) ∧
      ∃ body, decoded = decodeEntries (min (wire.getD 2 0).toNat maxEntries.toNat) body := by
  unfold batchDecodeFrameUntrusted at result
  dsimp only at result
  split at result
  · cases result
  split at result
  · cases result
  split at result
  · rename_i first
    split at result
    · cases result
    · obtain ⟨-, rfl⟩ := Prod.mk.inj (Option.some.inj result)
      exact ⟨fun second => absurd (first.symm.trans second) (by decide), _, rfl⟩
  split at result
  · cases result
  split at result
  · cases result
  split at result
  · cases result
  split at result
  · cases result
  · obtain ⟨rfl, rfl⟩ := Prod.mk.inj (Option.some.inj result)
    exact ⟨fun _ => rfl, _, rfl⟩

theorem length_batchDecode {wire : List UInt8} {maxEntries : UInt8} {header : BatchFrameHeader}
    {decoded : List BatchFrameEntry} (result : batchDecodeFrameUntrusted wire maxEntries = some (header, decoded)) :
    decoded.length ≤ maxEntries.toNat := by
  obtain ⟨-, body, rfl⟩ := batchDecode_some result
  rw [length_decodeEntries]
  exact Nat.min_le_right ..

/-! ### Round trip of a version 0x02 frame -/

@[simp] theorem length_encodeHeader (h : BatchFrameHeader) : (encodeHeader h).length = 8 := by simp [encodeHeader]

@[simp] theorem length_encodeEntry (e : BatchFrameEntry) : (encodeEntry e).length = 7 := by simp [encodeEntry]

theorem length_flatMap_encodeEntry (entries : List BatchFrameEntry) :
    (entries.flatMap encodeEntry).length = entries.length * 7 := by
  induction entries with
  | nil => rfl
  | cons e rest ih =>
    rw [List.flatMap_cons, List.length_append, length_encodeEntry, ih, List.length_cons]
    omega

theorem decodeEntry_encodeEntry (e : BatchFrameEntry) (rest : List UInt8) : decodeEntry (encodeEntry e ++ rest) = e := by
  have two : (leBytes 2 e.nodeId.toNat).length = 2 := length_leBytes ..
  have four : (leBytes 4 e.value.bits.toNat).length = 4 := length_leBytes ..
  have shape : encodeEntry e ++ rest =
      leBytes 2 e.nodeId.toNat ++ (e.metricId :: (leBytes 4 e.value.bits.toNat ++ rest)) := by
    simp [encodeEntry]
  have node : (encodeEntry e ++ rest).take 2 = leBytes 2 e.nodeId.toNat := by
    rw [shape, List.take_left' two]
  have tail : (encodeEntry e ++ rest).drop 2 = e.metricId :: (leBytes 4 e.value.bits.toNat ++ rest) := by
    rw [shape, List.drop_left' two]
  have metric : (encodeEntry e ++ rest).getD 2 0 = e.metricId := by
    rw [List.getD_eq_getElem?_getD, ← List.head?_drop, tail]
    rfl
  have value : ((encodeEntry e ++ rest).drop 3).take 4 = leBytes 4 e.value.bits.toNat := by
    rw [show 3 = 2 + 1 from rfl, ← List.drop_drop, tail, List.drop_one, List.tail_cons, List.take_left' four]
  rw [decodeEntry, node, metric, value, ofNat_leNat16, ofNat_leNat32]

theorem decodeEntries_flatMap (entries : List BatchFrameEntry) (rest : List UInt8) :
    decodeEntries entries.length (entries.flatMap encodeEntry ++ rest) = entries := by
  induction entries with
  | nil => rfl
  | cons e entries ih =>
    have next : (encodeEntry e ++ (entries.flatMap encodeEntry ++ rest)).drop batchFrameEntrySize =
        entries.flatMap encodeEntry ++ rest := List.drop_left' (length_encodeEntry e)
    rw [List.length_cons, List.flatMap_cons, List.append_assoc, decodeEntries, decodeEntry_encodeEntry, next, ih]

theorem wireSequence_encodeHeader (h : BatchFrameHeader) (rest : List UInt8) :
    wireSequence (encodeHeader h ++ rest) = h.sequenceNumber := by
  have bytes : ((encodeHeader h ++ rest).drop 4).take 4 = leBytes 4 h.sequenceNumber.toNat := by
    have four : [h.magic, h.version, h.entryCount, h.flags].length = 4 := rfl
    rw [encodeHeader, List.append_assoc, List.drop_left' four, List.take_left' (length_leBytes ..)]
  rw [wireSequence, bytes, ofNat_leNat32]

theorem batchDecode_frame (h : BatchFrameHeader) (entries : List BatchFrameEntry) (tag : List UInt8) (maxEntries : UInt8)
    (magic : h.magic = batchFrameMagic) (version : h.version = 0x02) (count : h.entryCount.toNat = entries.length)
    (fits : entries.length ≤ maxEntries.toNat) (tagged : tag.length = 32) :
    batchDecodeFrameUntrusted (encodeHeader h ++ entries.flatMap encodeEntry ++ tag) maxEntries = some (h, entries) := by
  have total : (encodeHeader h ++ entries.flatMap encodeEntry ++ tag).length = 8 + entries.length * 7 + 32 := by
    rw [List.length_append, List.length_append, length_encodeHeader, length_flatMap_encodeEntry, tagged]
  have body : (encodeHeader h ++ entries.flatMap encodeEntry ++ tag).drop batchFrameHeaderSize =
      entries.flatMap encodeEntry ++ tag := by
    rw [List.append_assoc]
    exact List.drop_left' (length_encodeHeader h)
  have sequence : wireSequence (encodeHeader h ++ entries.flatMap encodeEntry ++ tag) = h.sequenceNumber := by
    rw [List.append_assoc, wireSequence_encodeHeader]
  have byte : ∀ i < 4, (encodeHeader h ++ entries.flatMap encodeEntry ++ tag).getD i 0 =
      [h.magic, h.version, h.entryCount, h.flags].getD i 0 := by
    intro i hi
    rw [List.getD_eq_getElem?_getD, List.getD_eq_getElem?_getD, encodeHeader, List.append_assoc, List.append_assoc,
      List.getElem?_append_left hi]
  unfold batchDecodeFrameUntrusted
  rw [total, body, sequence, byte 0 (by omega), byte 1 (by omega), byte 2 (by omega), byte 3 (by omega)]
  simp only [List.getD_cons_zero, List.getD_cons_succ, magic, version, count, batchFrameHeaderSize, batchFrameEntrySize,
    batchFrameHmacSize, Nat.min_eq_left fits, decodeEntries_flatMap]
  rw [if_neg (by omega), if_neg (fun differs => differs rfl), if_neg (by decide), if_neg (fun differs => differs rfl),
    if_neg (by omega), if_neg (by omega), if_neg (by omega)]
  cases h
  simp_all

end IotPlatform
