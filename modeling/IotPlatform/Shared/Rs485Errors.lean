import IotPlatform.Lib.Checksum
import IotPlatform.Shared.Rs485Protocol

/-!
# One flipped bit on the RS-485 line

The CRC field covers the addresses, the length byte and the payload, but the length byte also says where the field is, and
the parser takes a wire that is longer than its frame.
-/

namespace IotPlatform
open Checksum

/-! ### The CRC tells messages apart that differ in one byte -/

/-- The bit shifted out comes back as the highest bit of the next register. -/
theorem rs485CrcBit_injective : Function.Injective rs485CrcBit := by
  have step (crc : UInt16) : (rs485CrcBit crc).toBitVec =
      (crc.toBitVec >>> 1) ^^^ if crc.toBitVec.getLsbD 0 then 0xA001#16 else 0#16 := by
    have low : crc &&& 1 ≠ 0 ↔ crc.toBitVec.getLsbD 0 = true := by
      rw [ne_eq, ← UInt16.toBitVec_inj, UInt16.toBitVec_and]
      show ¬crc.toBitVec &&& 1#16 = 0#16 ↔ _
      rw [BitVec.and_one_eq_setWidth_ofBool_getLsbD]
      cases crc.toBitVec.getLsbD 0 <;> decide
    rw [rs485CrcBit]
    by_cases out : crc.toBitVec.getLsbD 0 = true
    · rw [if_pos (low.mpr out), if_pos out]
      rfl
    · rw [if_neg (mt low.mp out), if_neg out, BitVec.xor_zero]
      rfl
  intro a b same
  replace same := congrArg UInt16.toBitVec same
  rw [step, step] at same
  have lowest : a.toBitVec.getLsbD 0 = b.toBitVec.getLsbD 0 := by
    have top := congrArg (fun crc : BitVec 16 => crc.getLsbD 15) same
    simp only [BitVec.getLsbD_xor, BitVec.getLsbD_ushiftRight] at top
    revert top
    cases a.toBitVec.getLsbD 0 <;> cases b.toBitVec.getLsbD 0 <;> simp
  rw [lowest] at same
  have others := (BitVec.xor_left_inj _).mp same
  apply UInt16.toBitVec_inj.mp
  apply BitVec.eq_of_getLsbD_eq
  intro i inside
  cases i with
  | zero => exact lowest
  | succ i =>
    have bit := congrArg (fun crc : BitVec 16 => crc.getLsbD i) others
    simpa only [BitVec.getLsbD_ushiftRight, Nat.add_comm 1] using bit

theorem rs485CrcByte_injective_crc (byte : UInt8) : Function.Injective fun crc => rs485CrcByte crc byte := by
  intro a b same
  exact (UInt16.xor_left_inj _).mp (rs485CrcBit_injective.iterate 8 same)

theorem rs485CrcByte_injective_byte (crc : UInt16) : Function.Injective (rs485CrcByte crc) := by
  intro a b same
  have word := (UInt16.xor_right_inj _).mp (rs485CrcBit_injective.iterate 8 same)
  have value := congrArg UInt16.toNat word
  rw [UInt8.toNat_toUInt16, UInt8.toNat_toUInt16] at value
  exact UInt8.toNat_inj.mp value

theorem crcBytes_injective : Function.Injective fun crc : UInt16 => [(crc >>> 8).toUInt8, crc.toUInt8] :=
  fun crc crc' same => ((crc_bytes_iff _ _ crc).mpr rfl).symm.trans ((crc_bytes_iff _ _ crc').mpr same)

theorem rs485CrcBytes_separates : Separates rs485CrcBytes := by
  have separates := separates_foldl rs485CrcByte_injective_crc rs485CrcByte_injective_byte 0xFFFF
  exact separates.comp crcBytes_injective

/-! ### What follows the start byte -/

/-- What the CRC field is computed over. -/
def Rs485Frame.covered (f : Rs485Frame) : List UInt8 := f.destAddr :: f.srcAddr :: f.payloadLen :: f.content

theorem Rs485Frame.wire_eq_covered (f : Rs485Frame) : f.wire = rs485StartByte :: (f.covered ++ rs485CrcBytes f.covered) := rfl

theorem Rs485Frame.length_covered {f : Rs485Frame} (fits : f.Fits) : f.covered.length = f.payloadLen.toNat + 3 := by
  rw [Rs485Frame.covered, List.length_cons, List.length_cons, List.length_cons, f.length_content fits]

theorem Rs485Frame.length_wire {f : Rs485Frame} (fits : f.Fits) : f.wire.length = f.payloadLen.toNat + 6 := by
  rw [f.wire_eq_covered, List.length_cons, List.length_append, f.length_covered fits]
  rfl

theorem rs485Encode_some {f : Rs485Frame} {bufSize : Nat} {bytes : List UInt8} (encoded : rs485Encode f bufSize = some bytes) :
    f.Fits ∧ bytes = f.wire := by
  have fits : f.Fits := by
    rw [rs485Encode] at encoded
    split at encoded
    · cases encoded
    · split at encoded
      · cases encoded
      · rename_i within
        exact Nat.le_of_not_lt within
  rw [rs485Encode_eq fits] at encoded
  split at encoded
  · exact ⟨fits, (Option.some.inj encoded).symm⟩
  · cases encoded

/-! ### One flipped bit -/

def bitMask (bit : Nat) : UInt8 := 1 <<< UInt8.ofNat bit

def flipBit (bytes : List UInt8) (i : Nat) : List UInt8 := bytes.modify (i / 8) (· ^^^ bitMask (i % 8))

theorem xor_bitMask_ne (byte : UInt8) {bit : Nat} (inside : bit < 8) : byte ≠ byte ^^^ bitMask bit := by
  intro same
  have mask : bitMask bit = 0 := by
    rw [← UInt8.xor_right_inj byte, ← same, UInt8.xor_zero]
  revert mask
  have nonzero : ∀ b : Fin 8, bitMask b.val ≠ 0 := by decide
  exact nonzero ⟨bit, inside⟩

theorem exists_flipped {bytes : List UInt8} {i : Nat} (inside : i < 8 * bytes.length) :
    ∃ before byte after, bytes = before ++ byte :: after ∧ before.length = i / 8 ∧
      flipBit bytes i = before ++ (byte ^^^ bitMask (i % 8)) :: after ∧ byte ≠ byte ^^^ bitMask (i % 8) := by
  obtain ⟨before, byte, after, whole, length, altered⟩ :=
    List.exists_of_modify (· ^^^ bitMask (i % 8)) (show i / 8 < bytes.length by omega)
  exact ⟨before, byte, after, whole, length, altered, xor_bitMask_ne byte (Nat.mod_lt i (by decide))⟩

/-- The frame with another length byte. -/
def Rs485Frame.cut (f : Rs485Frame) (n : UInt8) : Rs485Frame := { f with payloadLen := n }

/-- Behind the first `n` bytes of the payload stands what would be the CRC of the frame cut there. -/
def Rs485Frame.HidesCut (f : Rs485Frame) (n : UInt8) : Prop :=
  n < f.payloadLen ∧ (f.wire.drop (rs485HeaderSize + n.toNat)).take rs485CrcSize =
    rs485CrcBytes (f.destAddr :: f.srcAddr :: n :: f.content.take n.toNat)

instance (f : Rs485Frame) (n : UInt8) : Decidable (f.HidesCut n) := inferInstanceAs (Decidable (_ ∧ _))

theorem Rs485Frame.fits_cut {f : Rs485Frame} (fits : f.Fits) {n : UInt8} (within : n.toNat ≤ f.payloadLen.toNat) :
    (f.cut n).Fits := Nat.le_trans within fits

theorem Rs485Frame.content_cut {f : Rs485Frame} {n : UInt8} (within : n.toNat ≤ f.payloadLen.toNat) :
    (f.cut n).content = f.content.take n.toNat := by
  rw [Rs485Frame.content, Rs485Frame.content, List.take_take, Nat.min_eq_left within]
  rfl

theorem Rs485Frame.drop_wire (f : Rs485Frame) (n : Nat) :
    f.wire.drop (rs485HeaderSize + n) = (f.content ++ rs485CrcBytes f.covered).drop n := by
  rw [f.wire_eq_covered, rs485HeaderSize, Nat.add_comm]
  rfl

/-- No frame begins a wire that has one altered byte, not the length byte. -/
theorem altered_not_framed {f g : Rs485Frame} (fits : f.Fits) (gFits : g.Fits) {before after : List UInt8} {byte byte' : UInt8}
    (whole : f.wire = before ++ byte :: after) (different : byte ≠ byte') (elsewhere : before.length ≠ 3) :
    ¬g.wire <+: before ++ byte' :: after := by
  rintro ⟨rest, altered⟩
  have sameLength : g.payloadLen = f.payloadLen := by
    have here : (g.wire ++ rest)[3]? = some g.payloadLen := rfl
    have there : f.wire[3]? = some f.payloadLen := rfl
    rw [altered, getElem?_altered byte' byte elsewhere, ← whole, there] at here
    exact (Option.some.inj here).symm
  have nothing : rest = [] := by
    have total := congrArg List.length altered
    have length := f.length_wire fits
    rw [whole] at length
    rw [List.length_append, g.length_wire gFits, sameLength] at total
    simp only [List.length_append, List.length_cons] at total length
    exact List.length_eq_zero_iff.mp (by omega)
  rw [nothing, List.append_nil, g.wire_eq_covered] at altered
  rw [f.wire_eq_covered] at whole
  cases before with
  | nil =>
    rw [List.nil_append, List.cons.injEq] at altered whole
    exact different (whole.1.symm.trans altered.1)
  | cons start before =>
    rw [List.cons_append, List.cons.injEq] at altered whole
    have covered : g.covered.length = f.covered.length := by
      rw [g.length_covered gFits, f.length_covered fits, sameLength]
    exact rs485CrcBytes_separates.altered_ne whole.2 different covered altered.2

/-- Another length byte makes a frame exactly where one is hidden. -/
theorem framed_length_iff {f : Rs485Frame} (fits : f.Fits) {n : UInt8} (different : f.payloadLen ≠ n) :
    (∃ g : Rs485Frame, g.Fits ∧
        g.wire <+: rs485StartByte :: f.destAddr :: f.srcAddr :: n :: (f.content ++ rs485CrcBytes f.covered)) ↔
      f.HidesCut n := by
  have length := f.length_content fits
  rw [Rs485Frame.HidesCut, f.drop_wire, rs485CrcSize]
  constructor
  · rintro ⟨g, gFits, rest, framed⟩
    have gLength := g.length_content gFits
    simp only [Rs485Frame.wire, List.cons_append, List.cons.injEq, true_and, List.append_assoc] at framed
    obtain ⟨dest, src, len, tail⟩ := framed
    have total := congrArg List.length tail
    simp only [List.length_append, rs485CrcBytes, List.length_cons, List.length_nil, length, gLength, len] at total
    have within : n.toNat ≤ f.payloadLen.toNat := by omega
    have before : n < f.payloadLen := by
      rw [UInt8.lt_iff_toNat_lt]
      exact Nat.lt_of_le_of_ne within fun same => different (UInt8.toNat_inj.mp same).symm
    have content : g.content = f.content.take n.toNat := by
      have front := congrArg (List.take n.toNat) tail
      rwa [← len, ← gLength, List.take_left, gLength, len, List.take_append_of_le_length (by omega)] at front
    have field := congrArg (fun bytes => (bytes.drop n.toNat).take 2) tail
    refine ⟨before, ?_⟩
    rw [← content, ← len, ← dest, ← src]
    rw [← len, ← gLength, List.drop_left, gLength] at field
    exact field.symm
  · rintro ⟨before, hidden⟩
    have within := Nat.le_of_lt (UInt8.lt_iff_toNat_lt.mp before)
    have tail : f.content ++ rs485CrcBytes f.covered = f.content.take n.toNat ++
        (rs485CrcBytes (f.destAddr :: f.srcAddr :: n :: f.content.take n.toNat) ++
          ((f.content ++ rs485CrcBytes f.covered).drop n.toNat).drop 2) := by
      have front : (f.content ++ rs485CrcBytes f.covered).take n.toNat = f.content.take n.toNat :=
        List.take_append_of_le_length (by omega)
      rw [← hidden, List.take_append_drop, ← front, List.take_append_drop]
    generalize ((f.content ++ rs485CrcBytes f.covered).drop n.toNat).drop 2 = rest at tail
    refine ⟨f.cut n, Rs485Frame.fits_cut fits within, rest, ?_⟩
    rw [tail, Rs485Frame.wire, Rs485Frame.content_cut within]
    simp [Rs485Frame.cut]

/-- A flipped bit makes the parser return an error exactly when it is not one of the length byte, or the shorter frame it
makes is not hidden in the payload. -/
theorem rs485_flip_exact {f : Rs485Frame} {bufSize : Nat} {bytes : List UInt8}
    (encoded : rs485Encode f bufSize = some bytes) {i : Nat} (inside : i < 8 * bytes.length) (out : Rs485Frame) :
    (∃ error, error ≠ .ok ∧ rs485Parse (flipBit bytes i) out = some (error, out)) ↔
      (i / 8 = 3 → ¬f.HidesCut (f.payloadLen ^^^ bitMask (i % 8))) := by
  obtain ⟨fits, rfl⟩ := rs485Encode_some encoded
  obtain ⟨before, byte, after, whole, position, flipped, different⟩ := exists_flipped inside
  rw [rs485Parse_refuses_iff, flipped]
  by_cases lengthByte : i / 8 = 3
  · have three : before = [rs485StartByte, f.destAddr, f.srcAddr] := by
      have front := congrArg (List.take 3) whole
      rw [← lengthByte, ← position, List.take_left, position, lengthByte] at front
      exact front.symm
    rw [three, f.wire_eq_covered, Rs485Frame.covered] at whole
    simp only [List.cons_append, List.nil_append, List.cons.injEq, true_and] at whole
    obtain ⟨rfl, rfl⟩ := whole
    rw [three, ← framed_length_iff fits different]
    exact ⟨fun unframed _ => unframed, fun unframed => unframed lengthByte⟩
  · refine iff_of_true ?_ fun here => absurd here lengthByte
    rintro ⟨g, gFits, framed⟩
    exact altered_not_framed fits gFits whole different (position ▸ lengthByte) framed

def frameOf (payload : List UInt8) : Rs485Frame := rs485CreateFrame ⟨0, 0, 0, Vector.replicate 128 0⟩ 9 1 payload

theorem rs485_flip_exact_payload_bit :
    ∃ error, error ≠ .ok ∧ rs485Parse (flipBit [0xAA, 9, 1, 2, 5, 6, 0x6F, 0xDB] 35) (frameOf []) = some (error, frameOf []) := by
  have encoded : rs485Encode (frameOf [5, 6]) 8 = some [0xAA, 9, 1, 2, 5, 6, 0x6F, 0xDB] := by decide +kernel
  exact (rs485_flip_exact encoded (i := 35) (by decide) (frameOf [])).mpr fun here => absurd here (by decide)

/-- A payload of two bytes that are the CRC of the frame without a payload. -/
theorem empty_frame_hidden :
    ¬∀ (f : Rs485Frame) (bufSize : Nat) (bytes : List UInt8), f.payloadLen.toNat ≤ rs485MaxFramePayload →
      rs485Encode f bufSize = some bytes → ∀ i < 8 * bytes.length, ∀ out g,
        rs485Parse (flipBit bytes i) out ≠ some (.ok, g) := by
  intro detected
  have encoded : rs485Encode (frameOf [0x52, 0xA0]) 8 = some [0xAA, 9, 1, 2, 0x52, 0xA0, 0x25, 0x65] := by decide +kernel
  have accepted : (rs485Parse (flipBit [0xAA, 9, 1, 2, 0x52, 0xA0, 0x25, 0x65] 25) (frameOf [])).map Prod.fst = some .ok := by
    decide +kernel
  obtain ⟨⟨result, g⟩, parsed, rfl⟩ := Option.map_eq_some_iff.mp accepted
  exact detected _ 8 _ (by decide) encoded 25 (by decide) (frameOf []) g parsed

end IotPlatform
