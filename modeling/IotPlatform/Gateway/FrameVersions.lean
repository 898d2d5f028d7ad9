import IotPlatform.Gateway.BatchFrame

/-!
# Two versions of the batch frame

The encoder writes the eight header bytes of version 0x02 whatever the version says, the parser expects four of a version
0x01 frame. There the sequence number is read as the first bytes of the entries.
-/

namespace IotPlatform
open Bytes

/-! ### Entries and their bytes -/

theorem leBytes_take {bytes : List UInt8} {w : Nat} (enough : w ≤ bytes.length) :
    leBytes w (leNat (bytes.take w)) = bytes.take w := by
  have length : (bytes.take w).length = w := by rw [List.length_take, Nat.min_eq_left enough]
  have back := leBytes_leNat (bytes.take w)
  rwa [length] at back

theorem leNat_take_lt (bytes : List UInt8) (w : Nat) : leNat (bytes.take w) < 256 ^ w :=
  Nat.lt_of_lt_of_le (leNat_lt _) (Nat.pow_le_pow_right (by decide) (List.length_take_le ..))

theorem encodeEntry_decodeEntry {bytes : List UInt8} (enough : 7 ≤ bytes.length) :
    encodeEntry (decodeEntry bytes) = bytes.take 7 := by
  have node : (UInt16.ofNat (leNat (bytes.take 2))).toNat = leNat (bytes.take 2) := by
    rw [UInt16.toNat_ofNat']
    exact Nat.mod_eq_of_lt (leNat_take_lt bytes 2)
  have value : (UInt32.ofNat (leNat ((bytes.drop 3).take 4))).toNat = leNat ((bytes.drop 3).take 4) := by
    rw [UInt32.toNat_ofNat']
    exact Nat.mod_eq_of_lt (leNat_take_lt (bytes.drop 3) 4)
  have metric : [bytes.getD 2 0] = (bytes.drop 2).take 1 := by
    rw [List.drop_eq_getElem_cons (by omega), List.take_succ_cons, List.take_zero, List.getD_eq_getElem?_getD,
      List.getElem?_eq_getElem (by omega), Option.getD_some]
  unfold encodeEntry decodeEntry
  dsimp only
  rw [node, value, leBytes_take (by omega), leBytes_take (by rw [List.length_drop]; omega), metric, ← List.take_add,
    ← List.take_add]

theorem flatMap_decodeEntries {n : Nat} {bytes : List UInt8} (enough : n * 7 ≤ bytes.length) :
    (decodeEntries n bytes).flatMap encodeEntry = bytes.take (n * 7) := by
  induction n generalizing bytes with
  | zero => simp [decodeEntries]
  | succ n ih =>
    have rest : n * 7 ≤ (bytes.drop batchFrameEntrySize).length := by
      rw [List.length_drop, batchFrameEntrySize]
      omega
    rw [decodeEntries, List.flatMap_cons, encodeEntry_decodeEntry (by omega), ih rest, batchFrameEntrySize,
      ← List.take_add, Nat.add_mul, Nat.add_comm]

/-- Bytes decode to the entries exactly when they start with the bytes of the entries. -/
theorem decodeEntries_eq_iff {entries : List BatchFrameEntry} {bytes : List UInt8}
    (enough : entries.length * 7 ≤ bytes.length) :
    decodeEntries entries.length bytes = entries ↔ bytes.take (entries.length * 7) = entries.flatMap encodeEntry := by
  constructor
  · intro decoded
    rw [← flatMap_decodeEntries enough, decoded]
  · intro start
    rw [← List.take_append_drop (entries.length * 7) bytes, start]
    exact decodeEntries_flatMap entries _

/-- A list is its own continuation of `p` exactly when it repeats `p` over and over. -/
theorem take_append_self_iff {α : Type} {p xs : List α} (nonempty : 0 < p.length) :
    (p ++ xs).take xs.length = xs ↔ ∀ i x, xs[i]? = some x → p[i % p.length]? = some x := by
  constructor
  · intro same i
    induction i using Nat.strongRecOn with
    | ind i ih =>
      intro x found
      obtain ⟨inside, -⟩ := List.getElem?_eq_some_iff.mp found
      rw [← same, List.getElem?_take_of_lt inside] at found
      rcases Nat.lt_or_ge i p.length with low | high
      · rw [List.getElem?_append_left low] at found
        rw [Nat.mod_eq_of_lt low]
        exact found
      · rw [List.getElem?_append_right high] at found
        rw [Nat.mod_eq_sub_mod high]
        exact ih (i - p.length) (by omega) x found
  · intro repeats
    apply List.ext_getElem?
    intro i
    rcases Nat.lt_or_ge i xs.length with inside | outside
    · have here := repeats i _ (List.getElem?_eq_getElem inside)
      rw [List.getElem?_take_of_lt inside, List.getElem?_eq_getElem inside]
      rcases Nat.lt_or_ge i p.length with low | high
      · rw [Nat.mod_eq_of_lt low] at here
        rw [List.getElem?_append_left low, here]
      · have back : i - p.length < xs.length := by omega
        have there := repeats _ _ (List.getElem?_eq_getElem back)
        rw [Nat.mod_eq_sub_mod high, there] at here
        rw [List.getElem?_append_right high, List.getElem?_eq_getElem back, here]
    · rw [List.getElem?_eq_none outside, List.getElem?_eq_none]
      rw [List.length_take]
      omega

/-! ### Encoding and decoding -/

/-- In every buffer with room for the frame, what the encoder writes is parsed as the same header and entries; version 0x01
has no sequence number. -/
def RoundTrips (header : BatchFrameHeader) (entries : List BatchFrameEntry) (maxEntries : UInt8) : Prop :=
  ∀ bufSize, batchFrameHeaderSize + entries.length * batchFrameEntrySize + batchFrameHmacSize ≤ bufSize →
    ∃ wire decoded, batchEncodeFrame header entries header.entryCount bufSize = some wire ∧
      batchDecodeFrameUntrusted wire maxEntries = some (decoded, entries) ∧
      decoded.magic = header.magic ∧ decoded.version = header.version ∧ decoded.entryCount = header.entryCount ∧
      decoded.flags = header.flags ∧ (header.version = 0x02 → decoded.sequenceNumber = header.sequenceNumber)

/-- The bytes of the entries are those of the sequence number, over and over. -/
def RepeatsSequence (header : BatchFrameHeader) (entries : List BatchFrameEntry) : Prop :=
  ∀ i byte, (entries.flatMap encodeEntry)[i]? = some byte →
    (leBytes 4 header.sequenceNumber.toNat)[i % 4]? = some byte

section Versions

variable {header : BatchFrameHeader} {entries : List BatchFrameEntry} {maxEntries : UInt8} {bufSize : Nat}

theorem batchEncodeFrame_fits (count : header.entryCount.toNat = entries.length)
    (room : batchFrameHeaderSize + entries.length * batchFrameEntrySize + batchFrameHmacSize ≤ bufSize) :
    batchEncodeFrame header entries header.entryCount bufSize =
      some (encodeHeader header ++ entries.flatMap encodeEntry ++
        if header.version = 0x02 then List.replicate batchFrameHmacSize 0 else []) := by
  unfold batchEncodeFrame
  rw [count, List.take_length, if_neg (by omega)]

theorem batchDecode_first (magic : header.magic = batchFrameMagic) (version : header.version = 0x01)
    (count : header.entryCount.toNat = entries.length) (fits : entries.length ≤ maxEntries.toNat) :
    batchDecodeFrameUntrusted (encodeHeader header ++ entries.flatMap encodeEntry) maxEntries =
      some ({ header with sequenceNumber := 0 },
        decodeEntries entries.length (leBytes 4 header.sequenceNumber.toNat ++ entries.flatMap encodeEntry)) := by
  have total : (encodeHeader header ++ entries.flatMap encodeEntry).length = 8 + entries.length * 7 := by
    rw [List.length_append, length_encodeHeader, length_flatMap_encodeEntry]
  have body : (encodeHeader header ++ entries.flatMap encodeEntry).drop 4 =
      leBytes 4 header.sequenceNumber.toNat ++ entries.flatMap encodeEntry := by
    rw [encodeHeader, List.append_assoc]
    exact List.drop_left' rfl
  have byte : ∀ i < 4, (encodeHeader header ++ entries.flatMap encodeEntry).getD i 0 =
      [header.magic, header.version, header.entryCount, header.flags].getD i 0 := by
    intro i hi
    rw [List.getD_eq_getElem?_getD, List.getD_eq_getElem?_getD, encodeHeader, List.append_assoc,
      List.getElem?_append_left hi]
  unfold batchDecodeFrameUntrusted
  rw [total, body, byte 0 (by omega), byte 1 (by omega), byte 2 (by omega), byte 3 (by omega)]
  simp only [List.getD_cons_zero, List.getD_cons_succ, magic, version, count, batchFrameEntrySize, Nat.min_eq_left fits]
  rw [if_neg (by omega), if_neg (fun differs => differs rfl), if_pos trivial, if_neg (by omega)]

theorem first_roundTrips_iff (magic : header.magic = batchFrameMagic) (version : header.version = 0x01)
    (count : header.entryCount.toNat = entries.length) (fits : entries.length ≤ maxEntries.toNat) :
    RoundTrips header entries maxEntries ↔ RepeatsSequence header entries := by
  have four : (leBytes 4 header.sequenceNumber.toNat).length = 4 := length_leBytes ..
  have bytes := length_flatMap_encodeEntry entries
  have enough : entries.length * 7 ≤ (leBytes 4 header.sequenceNumber.toNat ++ entries.flatMap encodeEntry).length := by
    rw [List.length_append]
    omega
  have other : ¬header.version = 0x02 := by
    rw [version]
    decide
  have shifted : decodeEntries entries.length
        (leBytes 4 header.sequenceNumber.toNat ++ entries.flatMap encodeEntry) = entries ↔
      RepeatsSequence header entries := by
    rw [decodeEntries_eq_iff enough, ← bytes, take_append_self_iff (by omega), four]
    exact Iff.rfl
  rw [← shifted]
  constructor
  · intro roundTrips
    obtain ⟨wire, decoded, encoded, parsed, -⟩ := roundTrips _ (Nat.le_refl _)
    rw [batchEncodeFrame_fits count (Nat.le_refl _), if_neg other, List.append_nil] at encoded
    rw [← Option.some.inj encoded, batchDecode_first magic version count fits] at parsed
    exact (Prod.mk.inj (Option.some.inj parsed)).2
  · intro same bufSize room
    refine ⟨_, { header with sequenceNumber := 0 }, batchEncodeFrame_fits count room, ?_, rfl, rfl, rfl, rfl,
      fun second => absurd second other⟩
    rw [if_neg other, List.append_nil, batchDecode_first magic version count fits, same]

theorem second_roundTrips (magic : header.magic = batchFrameMagic) (version : header.version = 0x02)
    (count : header.entryCount.toNat = entries.length) (fits : entries.length ≤ maxEntries.toNat) :
    RoundTrips header entries maxEntries := by
  intro bufSize room
  refine ⟨_, header, batchEncodeFrame_fits count room, ?_, rfl, rfl, rfl, rfl, fun _ => rfl⟩
  rw [if_pos version]
  exact batchDecode_frame header entries _ maxEntries magic version count fits (List.length_replicate ..)

/-- A frame comes back as it was encoded if its version is 0x02, and under version 0x01 only if its entries spell out the
sequence number. -/
theorem frame_round_trip_exact (header : BatchFrameHeader) (entries : List BatchFrameEntry) (maxEntries : UInt8)
    (magic : header.magic = batchFrameMagic) (version : header.version = 0x01 ∨ header.version = 0x02)
    (count : header.entryCount.toNat = entries.length) (fits : entries.length ≤ maxEntries.toNat) :
    RoundTrips header entries maxEntries ↔ header.version = 0x02 ∨ RepeatsSequence header entries := by
  rcases version with first | second
  · rw [first_roundTrips_iff magic first count fits, or_iff_right]
    rw [first]
    decide
  · simp only [second, true_or, iff_true]
    exact second_roundTrips magic second count fits

end Versions

def oneEntryHeader (version : UInt8) (sequenceNumber : UInt32) : BatchFrameHeader :=
  { magic := 0xB7, version := version, entryCount := 1, flags := 0, sequenceNumber := sequenceNumber }

/-- 42.0 for metric 0 of node 1. -/
def oneEntry : BatchFrameEntry := { nodeId := 1, metricId := 0, value := ⟨0x42280000⟩ }

theorem frame_round_trip_exact_one_entry :
    RoundTrips (oneEntryHeader 0x02 42) [oneEntry] 22 :=
  (frame_round_trip_exact (oneEntryHeader 0x02 42) [oneEntry] 22 rfl (.inr rfl) rfl (by decide)).mpr (.inl rfl)

/-- In the version 0x01 frame node 1 turns into node 42. -/
theorem first_version_shifted :
    ¬∀ (header : BatchFrameHeader) (entries : List BatchFrameEntry) (maxEntries : UInt8),
      header.magic = batchFrameMagic → header.version = 0x01 ∨ header.version = 0x02 →
        header.entryCount.toNat = entries.length → entries.length ≤ 22 → entries.length ≤ maxEntries.toNat →
          RoundTrips header entries maxEntries := by
  intro roundTrips
  obtain ⟨wire, decoded, encoded, parsed, -⟩ :=
    roundTrips (oneEntryHeader 0x01 42) [oneEntry] 22 rfl (.inl rfl) rfl (by decide) (by decide) 47 (by decide)
  rw [← Option.some.inj encoded] at parsed
  have read := congrArg (fun result => result.map fun frame => frame.2.map BatchFrameEntry.nodeId) parsed
  rw [Option.map_some] at read
  change _ = some [1] at read
  exact absurd read (by decide)

end IotPlatform
