import IotPlatform.Shared.LoraHandler

/-!
# The LoRa packet codec

`lora_parse_packet` reads back what `lora_build_packet` wrote, and of the packets it accepts those with the reserved
flags clear are all of that form.
-/

namespace IotPlatform
open Bytes

def loraPacketBody (destAddr srcAddr : UInt16) (seqNum msgType : UInt8) (payload : List UInt8) : List UInt8 :=
  leBytes 2 destAddr.toNat ++ leBytes 2 srcAddr.toNat ++ [seqNum, msgType, UInt8.ofNat payload.length, 0] ++ payload

theorem loraBuildPacket_eq (destAddr srcAddr : UInt16) (seqNum msgType : UInt8) (payload : List UInt8) :
    loraBuildPacket destAddr srcAddr seqNum msgType payload =
      loraPacketBody destAddr srcAddr seqNum msgType payload ++
        leBytes 2 (loraCrc16 (loraPacketBody destAddr srcAddr seqNum msgType payload)).toNat := rfl

theorem length_loraPacketBody (destAddr srcAddr : UInt16) (seqNum msgType : UInt8) (payload : List UInt8) :
    (loraPacketBody destAddr srcAddr seqNum msgType payload).length = payload.length + 8 := by
  simp only [loraPacketBody, List.length_append, length_leBytes, List.length_cons, List.length_nil]
  omega

def loraBuiltHeader (destAddr srcAddr : UInt16) (seqNum msgType : UInt8) (payload : List UInt8) : LoraPacketHeader :=
  { destAddr := destAddr
    srcAddr := srcAddr
    seqNum := seqNum
    msgType := msgType
    payloadLen := UInt8.ofNat payload.length
    flags := 0 }

theorem loraParseHeader_body (destAddr srcAddr : UInt16) (seqNum msgType : UInt8) (payload crc : List UInt8) :
    loraParseHeader (loraPacketBody destAddr srcAddr seqNum msgType payload ++ crc) =
      loraBuiltHeader destAddr srcAddr seqNum msgType payload := by
  have dest := ofNat_leNat16 destAddr
  have src := ofNat_leNat16 srcAddr
  simp only [leBytes] at dest src
  simp only [loraParseHeader, loraBuiltHeader, loraPacketBody, leBytes, List.cons_append, List.nil_append,
    List.take_succ_cons, List.take_zero, List.drop_succ_cons, List.drop_zero, List.getD_cons_succ,
    List.getD_cons_zero, dest, src]

/-- What `lora_parse_packet` has checked when it accepts, and what it then returns. -/
theorem loraParsePacket_ok_iff {stats stats' : LoraStats} {input : List UInt8} {header : LoraPacketHeader}
    {frame : LoraFrame} :
    loraParsePacket stats input = (stats', .ok (header, frame)) ↔
      input.length = 10 + (loraParseHeader input).payloadLen.toNat ∧
        UInt16.ofNat (leNat (input.drop (input.length - 2))) = loraCrc16 (input.take (input.length - 2)) ∧
        stats' = stats ∧ header = loraParseHeader input ∧ frame = loraFillFrame (loraParseHeader input) input := by
  rw [loraParsePacket, loraPacketOverhead]
  by_cases short : input.length < 10
  · rw [if_pos short]
    constructor
    · intro h
      cases h
    · intro ⟨length, _⟩
      omega
  · rw [if_neg short]
    by_cases crc : UInt16.ofNat (leNat (input.drop (input.length - 2))) = loraCrc16 (input.take (input.length - 2))
    · simp only [crc, ne_eq, not_true_eq_false, if_false, true_and]
      by_cases length : input.length = 10 + (loraParseHeader input).payloadLen.toNat
      · simp only [length, not_true_eq_false, if_false, true_and, Prod.mk.injEq, Except.ok.injEq]
        constructor
        · intro ⟨hs, hh, hf⟩
          exact ⟨hs.symm, hh.symm, hf.symm⟩
        · intro ⟨hs, hh, hf⟩
          exact ⟨hs.symm, hh.symm, hf.symm⟩
      · simp only [length, not_false_eq_true, if_true, false_and, Prod.mk.injEq, reduceCtorEq, and_false]
    · simp only [crc, ne_eq, not_false_eq_true, if_true, false_and, and_false, Prod.mk.injEq, reduceCtorEq]

theorem loraParsePacket_build (stats : LoraStats) (destAddr srcAddr : UInt16) (seqNum msgType : UInt8)
    {payload : List UInt8} (fits : payload.length ≤ 255) :
    loraParsePacket stats (loraBuildPacket destAddr srcAddr seqNum msgType payload) =
      (stats, .ok (loraBuiltHeader destAddr srcAddr seqNum msgType payload,
        { srcAddr := srcAddr, destAddr := destAddr, seqNum := seqNum, payloadLen := UInt8.ofNat payload.length
          payload := payload })) := by
  have length := length_loraBuildPacket destAddr srcAddr seqNum msgType payload
  have body := length_loraPacketBody destAddr srcAddr seqNum msgType payload
  have count : (UInt8.ofNat payload.length).toNat = payload.length := UInt8.toNat_ofNat_of_lt' (by
    show payload.length < 256
    omega)
  have split : (loraBuildPacket destAddr srcAddr seqNum msgType payload).length - 2 =
      (loraPacketBody destAddr srcAddr seqNum msgType payload).length := by omega
  have header : loraParseHeader (loraBuildPacket destAddr srcAddr seqNum msgType payload) =
      loraBuiltHeader destAddr srcAddr seqNum msgType payload := by
    rw [loraBuildPacket_eq, loraParseHeader_body]
  rw [loraParsePacket_ok_iff, header]
  refine ⟨?_, ?_, rfl, rfl, ?_⟩
  · show _ = 10 + (UInt8.ofNat payload.length).toNat
    omega
  · rw [split, loraBuildPacket_eq, List.drop_left, List.take_left, ofNat_leNat16]
  · have stored : ((loraBuildPacket destAddr srcAddr seqNum msgType payload).drop 8).take payload.length = payload := by
      rw [loraBuildPacket_eq, loraPacketBody]
      simp only [leBytes, List.cons_append, List.nil_append, List.drop_succ_cons, List.drop_zero, List.take_left]
    simp only [loraFillFrame, loraBuiltHeader, count, stored]

theorem header_bytes (input : List UInt8) (long : 8 ≤ input.length) :
    input.take 8 = leBytes 2 (loraParseHeader input).destAddr.toNat ++ leBytes 2 (loraParseHeader input).srcAddr.toNat ++
      [(loraParseHeader input).seqNum, (loraParseHeader input).msgType, (loraParseHeader input).payloadLen,
        (loraParseHeader input).flags] := by
  match input, long with
  | b0 :: b1 :: b2 :: b3 :: b4 :: b5 :: b6 :: b7 :: rest, _ =>
    have word : ∀ a b : UInt8, leBytes 2 (UInt16.ofNat (leNat [a, b])).toNat = [a, b] := fun _ _ => leBytes_ofNat16 rfl
    simp only [loraParseHeader, List.take_succ_cons, List.take_zero, List.drop_succ_cons, List.drop_zero, word,
      List.getD_cons_succ, List.getD_cons_zero, List.cons_append, List.nil_append]

theorem loraBuildPacket_parse {stats stats' : LoraStats} {input : List UInt8} {header : LoraPacketHeader}
    {frame : LoraFrame} (accepted : loraParsePacket stats input = (stats', .ok (header, frame)))
    (reserved : header.flags = 0) :
    loraBuildPacket header.destAddr header.srcAddr header.seqNum header.msgType frame.payload = input := by
  obtain ⟨length, crc, -, rfl, rfl⟩ := loraParsePacket_ok_iff.mp accepted
  generalize counted : (loraParseHeader input).payloadLen.toNat = n at length
  have payloadLength : ((input.drop 8).take n).length = n := by
    rw [List.length_take, List.length_drop]
    omega
  have body : loraPacketBody (loraParseHeader input).destAddr (loraParseHeader input).srcAddr
      (loraParseHeader input).seqNum (loraParseHeader input).msgType ((input.drop 8).take n) =
        input.take (input.length - 2) := by
    have first := header_bytes input (by omega)
    rw [reserved] at first
    rw [loraPacketBody, payloadLength, ← counted, UInt8.ofNat_toNat, ← first, counted,
      show input.length - 2 = 8 + n by omega, List.take_add]
  have check : leBytes 2 (loraCrc16 (input.take (input.length - 2))).toNat = input.drop (input.length - 2) := by
    have two : (input.drop (input.length - 2)).length = 2 := by
      rw [List.length_drop]
      omega
    rw [← crc, leBytes_ofNat16 two]
  show loraBuildPacket _ _ _ _ ((input.drop 8).take (loraParseHeader input).payloadLen.toNat) = input
  rw [counted, loraBuildPacket_eq, body, check, List.take_append_drop]

/-- The codec loses nothing in either direction. -/
theorem lora_codec_round_trip :
    (∀ (stats : LoraStats) (destAddr srcAddr : UInt16) (seqNum msgType : UInt8) (payload : List UInt8),
      payload.length ≤ 255 →
      loraParsePacket stats (loraBuildPacket destAddr srcAddr seqNum msgType payload) =
        (stats, .ok
          ({ destAddr := destAddr, srcAddr := srcAddr, seqNum := seqNum, msgType := msgType
             payloadLen := UInt8.ofNat payload.length, flags := 0 },
           { srcAddr := srcAddr, destAddr := destAddr, seqNum := seqNum
             payloadLen := UInt8.ofNat payload.length, payload := payload }))) ∧
      ∀ (stats stats' : LoraStats) (input : List UInt8) (header : LoraPacketHeader) (frame : LoraFrame),
        loraParsePacket stats input = (stats', .ok (header, frame)) → header.flags = 0 →
        loraBuildPacket header.destAddr header.srcAddr header.seqNum header.msgType frame.payload = input :=
  ⟨fun stats destAddr srcAddr seqNum msgType _ fits => loraParsePacket_build stats destAddr srcAddr seqNum msgType fits,
    fun _ _ _ _ _ accepted reserved => loraBuildPacket_parse accepted reserved⟩

/-- A DATA packet of three bytes there, and its bytes back. -/
theorem lora_codec_round_trip_three_bytes :
    loraParsePacket {} (loraBuildPacket 1 2 7 1 [10, 20, 30]) =
        ({}, .ok
          ({ destAddr := 1, srcAddr := 2, seqNum := 7, msgType := 1, payloadLen := 3, flags := 0 },
           { srcAddr := 2, destAddr := 1, seqNum := 7, payloadLen := 3, payload := [10, 20, 30] })) ∧
      loraBuildPacket 1 2 7 1 [10, 20, 30] = [1, 0, 2, 0, 7, 1, 3, 0, 10, 20, 30, 158, 131] :=
  ⟨lora_codec_round_trip.1 {} 1 2 7 1 [10, 20, 30] (by decide),
    lora_codec_round_trip.2 {} {} [1, 0, 2, 0, 7, 1, 3, 0, 10, 20, 30, 158, 131]
      { destAddr := 1, srcAddr := 2, seqNum := 7, msgType := 1, payloadLen := 3, flags := 0 }
      { srcAddr := 2, destAddr := 1, seqNum := 7, payloadLen := 3, payload := [10, 20, 30] }
      (loraParsePacket_ok_iff.mpr (by decide +kernel)) rfl⟩

end IotPlatform
