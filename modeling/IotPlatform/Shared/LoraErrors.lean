import IotPlatform.Lib.Crc
import IotPlatform.Shared.LoraCodec

/-!
# Errors a LoRa packet cannot hide

`lora_crc16` is the register of `Lib.Crc` for the polynomial 0x1021. The CRC field is stored low byte first, so the bits
of a packet are those of a codeword once its last two bytes change places.
-/

namespace IotPlatform
open Bytes Crc

def loraPoly : BitVec 16 := 0x1021#16

def loraCrcInit : BitVec 16 := 0xFFFF#16

theorem loraPoly_low : loraPoly.getLsbD 0 = true := by decide

theorem loraPoly_odd : parity loraPoly = true := by decide

/-- A packet has at most 265 bytes. -/
theorem loraPoly_noReturn : NoReturn loraPoly 2120 := noReturn_of_avoids loraPoly (by decide +kernel)

/-! ### The loop is the register -/

theorem toBitVec_loraCrcBit (crc : UInt16) : (loraCrcBit crc).toBitVec = shift loraPoly crc.toBitVec := by
  have top : crc &&& 0x8000 ≠ 0 ↔ crc.toBitVec.msb = true := by
    rw [ne_eq, ← UInt16.toBitVec_inj, UInt16.toBitVec_and,
      show (0x8000 : UInt16).toBitVec = BitVec.twoPow 16 15 from rfl, BitVec.and_twoPow, BitVec.msb_eq_getLsbD_last]
    cases crc.toBitVec.getLsbD 15 <;> decide
  rw [loraCrcBit, shift]
  by_cases out : crc.toBitVec.msb = true
  · rw [if_pos (top.mpr out), if_pos out]
    rfl
  · rw [if_neg (mt top.mp out), if_neg out]
    rfl

theorem toBitVec_iterate_loraCrcBit (n : Nat) (crc : UInt16) :
    (loraCrcBit^[n] crc).toBitVec = (shift loraPoly)^[n] crc.toBitVec := by
  induction n generalizing crc with
  | zero => rfl
  | succ n ih => rw [Function.iterate_succ_apply, Function.iterate_succ_apply, ih, toBitVec_loraCrcBit]

theorem msbBits_high (b : BitVec 8) : msbBits 8 ((b.setWidth 16) <<< 8) = msbBits 8 b := by
  revert b
  decide

theorem toBitVec_loraCrcByte (crc : UInt16) (byte : UInt8) :
    (loraCrcByte crc byte).toBitVec = feedAll loraPoly crc.toBitVec (msbBits 8 byte.toBitVec) := by
  have high : (byte.toUInt16 <<< 8).toBitVec = (byte.toBitVec.setWidth 16) <<< 8 := rfl
  have gone : ((byte.toBitVec.setWidth 16) <<< 8) <<< 8 = 0#16 := by
    rw [← BitVec.shiftLeft_add]
    exact BitVec.shiftLeft_eq_zero (by decide)
  rw [loraCrcByte, toBitVec_iterate_loraCrcBit, UInt16.toBitVec_xor, high, ← msbBits_high, feedAll_msbBits, gone,
    BitVec.xor_zero]

theorem toBitVec_loraCrc16 (data : List UInt8) :
    (loraCrc16 data).toBitVec = feedAll loraPoly loraCrcInit (bitsOf data) := by
  have run : ∀ crc : UInt16, (data.foldl loraCrcByte crc).toBitVec = feedAll loraPoly crc.toBitVec (bitsOf data) := by
    induction data with
    | nil => exact fun _ => rfl
    | cons byte data ih =>
      intro crc
      rw [List.foldl_cons, ih, toBitVec_loraCrcByte, bitsOf_cons, feedAll_append]
  exact run 0xFFFF

/-! ### Packets are codewords -/

/-- The bits of a packet with the two CRC bytes in the order of their weight. -/
def loraCodeBits (packet : List UInt8) : List Bool :=
  bitsOf (packet.take (packet.length - 2)) ++ bitsOf (packet.drop (packet.length - 2)).reverse

theorem length_loraCodeBits (packet : List UInt8) : (loraCodeBits packet).length = 8 * packet.length := by
  simp only [loraCodeBits, List.length_append, length_bitsOf, List.length_take, List.length_reverse, List.length_drop]
  omega

theorem count_loraCodeBits (packet : List UInt8) : (loraCodeBits packet).count true = (bitsOf packet).count true := by
  have parts := congrArg (fun bytes => (bitsOf bytes).count true) (List.take_append_drop (packet.length - 2) packet)
  simp only [bitsOf_append, List.count_append] at parts
  rw [loraCodeBits, List.count_append, count_bitsOf_perm (List.reverse_perm _), parts]

theorem loraCodeBits_xor {packet error : List UInt8} (sameLength : packet.length = error.length) :
    loraCodeBits (List.zipWith (· ^^^ ·) packet error) = List.zipWith xor (loraCodeBits packet) (loraCodeBits error) := by
  have length : (List.zipWith (· ^^^ ·) packet error).length = packet.length := by
    rw [List.length_zipWith, sameLength, Nat.min_self]
  rw [loraCodeBits, length, List.take_zipWith, List.drop_zipWith,
    List.reverse_zipWith (by rw [List.length_drop, List.length_drop, sameLength]),
    bitsOf_zipWith_xor (by rw [List.length_take, List.length_take, sameLength]),
    bitsOf_zipWith_xor (by rw [List.length_reverse, List.length_reverse, List.length_drop, List.length_drop, sameLength]),
    loraCodeBits, loraCodeBits, sameLength, List.zipWith_append]
  simp [sameLength]

theorem msbBits_crcField (low high : UInt8) :
    msbBits 16 (UInt16.ofNat (leNat [low, high])).toBitVec = bitsOf [high, low] := by
  have word : (UInt16.ofNat (leNat [low, high])).toBitVec = high.toBitVec ++ low.toBitVec := by
    apply BitVec.eq_of_toNat_eq
    have lowByte : low.toNat < 2 ^ 8 := low.toNat_lt
    have highByte := high.toNat_lt
    rw [BitVec.toNat_append]
    show (UInt16.ofNat (leNat [low, high])).toNat = high.toNat <<< 8 ||| low.toNat
    rw [← Nat.shiftLeft_add_eq_or_of_lt lowByte, Nat.shiftLeft_eq, UInt16.toNat_ofNat', leNat, leNat, leNat]
    omega
  rw [word, bitsOf_cons, bitsOf_cons]
  exact (msbBits_append high.toBitVec low.toBitVec).trans (by simp [bitsOf])

theorem loraCrc_matches_iff {input : List UInt8} (long : 2 ≤ input.length) :
    UInt16.ofNat (leNat (input.drop (input.length - 2))) = loraCrc16 (input.take (input.length - 2)) ↔
      feedAll loraPoly loraCrcInit (loraCodeBits input) = 0#16 := by
  have two : (input.drop (input.length - 2)).length = 2 := by
    rw [List.length_drop]
    omega
  have field := List.eq_getElem_of_length_eq_two _ two
  generalize (input.drop (input.length - 2))[0] = low at field
  generalize (input.drop (input.length - 2))[1] = high at field
  rw [loraCodeBits, field, List.reverse_cons, List.reverse_singleton, List.singleton_append, ← msbBits_crcField,
    codeword_iff loraPoly loraPoly_low, ← toBitVec_loraCrc16, UInt16.toBitVec_inj]

theorem loraBuildPacket_codeword (destAddr srcAddr : UInt16) (seqNum msgType : UInt8) {payload : List UInt8}
    (fits : payload.length ≤ 255) :
    feedAll loraPoly loraCrcInit (loraCodeBits (loraBuildPacket destAddr srcAddr seqNum msgType payload)) = 0#16 := by
  have length := length_loraBuildPacket destAddr srcAddr seqNum msgType payload
  have accepted := loraParsePacket_build {} destAddr srcAddr seqNum msgType fits
  rw [← loraCrc_matches_iff (by omega)]
  exact (loraParsePacket_ok_iff.mp accepted).2.1

/-! ### Detection -/

def flippedBits (error : List UInt8) : Nat := (bitsOf error).count true

/-- One, two or an odd number of flipped bits, or a burst of at most 16 bits ahead of the CRC field. -/
def LoraDetectable (error : List UInt8) : Prop :=
  flippedBits error = 1 ∨ flippedBits error = 2 ∨ flippedBits error % 2 = 1 ∨
    0 < flippedBits error ∧ ∃ k, Burst k 16 (bitsOf error) ∧ Burst 0 (8 * (error.length - 2)) (bitsOf error)

/-- A burst ahead of the CRC field does not see its two bytes change places. -/
theorem burst_loraCodeBits {error : List UInt8} {k n : Nat} (burst : Burst k n (bitsOf error))
    (ahead : Burst 0 (8 * (error.length - 2)) (bitsOf error)) : Burst k n (loraCodeBits error) := by
  intro i flipped
  have whole : bitsOf error = bitsOf (error.take (error.length - 2)) ++ bitsOf (error.drop (error.length - 2)) := by
    rw [← bitsOf_append, List.take_append_drop]
  have front : (bitsOf (error.take (error.length - 2))).length = 8 * (error.length - 2) := by
    rw [length_bitsOf, List.length_take]
    omega
  rcases Nat.lt_or_ge i (8 * (error.length - 2)) with inside | field
  · apply burst
    rw [whole, List.getElem?_append_left (by omega)]
    rwa [loraCodeBits, List.getElem?_append_left (by omega)] at flipped
  · rw [loraCodeBits, List.getElem?_append_right (by omega)] at flipped
    have some : 0 < (bitsOf (error.drop (error.length - 2))).count true := by
      rw [← count_bitsOf_perm (List.reverse_perm _)]
      exact List.count_pos_iff.mpr (List.mem_of_getElem? flipped)
    obtain ⟨j, at_j⟩ := List.mem_iff_getElem?.mp (List.count_pos_iff.mp some)
    have outside := ahead (8 * (error.length - 2) + j) (by
      rw [whole, List.getElem?_append_right (by omega), front, Nat.add_sub_cancel_left, at_j])
    omega

theorem detectable_syndrome {error : List UInt8} (fits : error.length ≤ 265) (detectable : LoraDetectable error) :
    feedAll loraPoly 0#16 (loraCodeBits error) ≠ 0#16 := by
  have weight : (loraCodeBits error).count true = flippedBits error := count_loraCodeBits error
  rcases detectable with one | two | odd | ⟨some, k, burst, ahead⟩
  · exact detects_odd loraPoly loraPoly_odd (by omega)
  · apply detects_two loraPoly loraPoly_low loraPoly_noReturn _ (by omega)
    rw [length_loraCodeBits]
    omega
  · exact detects_odd loraPoly loraPoly_odd (by omega)
  · exact detects_burst loraPoly_low (burst_loraCodeBits burst ahead) (by omega)

theorem loraParsePacket_mismatch {stats : LoraStats} {input : List UInt8} (long : 10 ≤ input.length)
    (mismatch : UInt16.ofNat (leNat (input.drop (input.length - 2))) ≠ loraCrc16 (input.take (input.length - 2))) :
    loraParsePacket stats input = ({ stats with rxCrcErrors := stats.rxCrcErrors + 1 }, .error .errCrcFail) := by
  have enough : ¬input.length < loraPacketOverhead := Nat.not_lt.mpr long
  simp only [loraParsePacket, if_neg enough, ne_eq, mismatch, not_false_eq_true, if_true]

/-- An altered packet is refused and counted. -/
theorem loraParsePacket_detects (stats : LoraStats) (destAddr srcAddr : UInt16) (seqNum msgType : UInt8)
    (payload : List UInt8) (fits : payload.length ≤ 255) (error : List UInt8)
    (sameLength : error.length = (loraBuildPacket destAddr srcAddr seqNum msgType payload).length)
    (detectable : LoraDetectable error) :
    loraParsePacket stats (List.zipWith (· ^^^ ·) (loraBuildPacket destAddr srcAddr seqNum msgType payload) error) =
      ({ stats with rxCrcErrors := stats.rxCrcErrors + 1 }, .error .errCrcFail) := by
  have built := length_loraBuildPacket destAddr srcAddr seqNum msgType payload
  have codeword := loraBuildPacket_codeword destAddr srcAddr seqNum msgType fits
  generalize loraBuildPacket destAddr srcAddr seqNum msgType payload = packet at sameLength built codeword ⊢
  have length : (List.zipWith (· ^^^ ·) packet error).length = packet.length := by
    rw [List.length_zipWith, sameLength, Nat.min_self]
  apply loraParsePacket_mismatch (by omega)
  rw [ne_eq, loraCrc_matches_iff (by omega), loraCodeBits_xor sameLength.symm,
    altered_codeword_iff loraPoly (by rw [length_loraCodeBits, length_loraCodeBits, sameLength]) codeword]
  exact detectable_syndrome (by omega) detectable

/-- Two flipped bits, one in the length byte and one in the CRC field. -/
theorem loraParsePacket_detects_length_byte :
    loraParsePacket {} (List.zipWith (· ^^^ ·) (loraBuildPacket 1 2 7 1 [10, 20, 30])
        [0, 0, 0, 0, 0, 0, 1, 0, 0, 0, 0, 0, 0x40]) =
      ({ rxCrcErrors := 1 }, .error .errCrcFail) :=
  loraParsePacket_detects {} 1 2 7 1 [10, 20, 30] (by decide) [0, 0, 0, 0, 0, 0, 1, 0, 0, 0, 0, 0, 0x40]
    (length_loraBuildPacket 1 2 7 1 [10, 20, 30]).symm (Or.inr (Or.inl (by decide)))

end IotPlatform
