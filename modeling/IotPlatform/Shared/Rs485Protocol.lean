import Mathlib.Logic.Function.Iterate

/-!
# RS-485 frames

`rs485_protocol.c`: a start byte, two addresses, a length, the payload and a CRC over everything after the start byte,
high byte first. A read of the parser that the wire does not cover is `none`.
-/

namespace IotPlatform

def rs485MaxFramePayload : Nat := 128

def rs485StartByte : UInt8 := 0xAA

def rs485HeaderSize : Nat := 4

def rs485CrcSize : Nat := 2

def rs485MinFrame : Nat := rs485HeaderSize + rs485CrcSize

def rs485CrcBit (crc : UInt16) : UInt16 := if crc &&& 1 ≠ 0 then (crc >>> 1) ^^^ 0xA001 else crc >>> 1

def rs485CrcByte (crc : UInt16) (byte : UInt8) : UInt16 := rs485CrcBit^[8] (crc ^^^ byte.toUInt16)

def rs485Crc16 (data : List UInt8) : UInt16 := data.foldl rs485CrcByte 0xFFFF

structure Rs485Frame where
  destAddr : UInt8
  srcAddr : UInt8
  payloadLen : UInt8
  payload : Vector UInt8 128
  deriving DecidableEq, Repr

inductive Rs485ParseResult where
  | ok | errCrc | errTooShort | errTooLong | errBadStart | errParamNull
  deriving DecidableEq, Repr

def copyPayload (bytes : List UInt8) (old : Vector UInt8 128) : Vector UInt8 128 :=
  Vector.ofFn fun i => bytes.getD i.val old[i]

def Rs485Frame.content (f : Rs485Frame) : List UInt8 := f.payload.toList.take f.payloadLen.toNat

def rs485Encode (frame : Rs485Frame) (bufSize : Nat) : Option (List UInt8) :=
  if rs485HeaderSize + frame.payloadLen.toNat + rs485CrcSize > bufSize then none
  else if frame.payloadLen.toNat > rs485MaxFramePayload then none
  else
    let out := [rs485StartByte, frame.destAddr, frame.srcAddr, frame.payloadLen] ++ frame.content
    let crc := rs485Crc16 ((out.drop 1).take (3 + frame.payloadLen.toNat))
    some (out ++ [(crc >>> 8).toUInt8, crc.toUInt8])

def readBytes (wire : List UInt8) (offset n : Nat) : Option (List UInt8) :=
  if offset + n ≤ wire.length then some ((wire.drop offset).take n) else none

def rs485Parse (wire : List UInt8) (outFrame : Rs485Frame) : Option (Rs485ParseResult × Rs485Frame) :=
  if wire.length < rs485MinFrame then some (.errTooShort, outFrame)
  else do
    let start ← wire[0]?
    if start ≠ rs485StartByte then some (.errBadStart, outFrame)
    else do
      let dest ← wire[1]?
      let src ← wire[2]?
      let plen ← wire[3]?
      if wire.length < rs485HeaderSize + plen.toNat + rs485CrcSize then some (.errTooShort, outFrame)
      else if plen.toNat > rs485MaxFramePayload then some (.errTooLong, outFrame)
      else do
        let high ← wire[rs485HeaderSize + plen.toNat]?
        let low ← wire[rs485HeaderSize + plen.toNat + 1]?
        let covered ← readBytes wire 1 (3 + plen.toNat)
        if (high.toUInt16 <<< 8) ||| low.toUInt16 ≠ rs485Crc16 covered then some (.errCrc, outFrame)
        else do
          let payload ← readBytes wire rs485HeaderSize plen.toNat
          some (.ok,
            { destAddr := dest, srcAddr := src, payloadLen := plen, payload := copyPayload payload outFrame.payload })

/-- `payload` stands for the buffer and its `uint8_t` length. -/
def rs485CreateFrame (outFrame : Rs485Frame) (destAddr srcAddr : UInt8) (payload : List UInt8) : Rs485Frame :=
  { destAddr := destAddr
    srcAddr := srcAddr
    payloadLen := UInt8.ofNat payload.length
    payload :=
      if 0 < payload.length ∧ payload.length ≤ rs485MaxFramePayload then copyPayload payload outFrame.payload
      else outFrame.payload }

/-! ### Words and payloads -/

theorem crc_bytes_iff (high low : UInt8) (crc : UInt16) :
    (high.toUInt16 <<< 8) ||| low.toUInt16 = crc ↔ [high, low] = [(crc >>> 8).toUInt8, crc.toUInt8] := by
  have low' := low.toNat_lt
  have high' := high.toNat_lt
  have crc' := crc.toNat_lt
  have word : ((high.toUInt16 <<< 8) ||| low.toUInt16).toNat = high.toNat * 256 + low.toNat := by
    have shifted : (high.toUInt16 <<< 8).toNat = high.toNat <<< 8 % 2 ^ 16 := rfl
    rw [UInt16.toNat_or, shifted, Nat.mod_eq_of_lt (by rw [Nat.shiftLeft_eq]; omega), UInt8.toNat_toUInt16,
      ← Nat.shiftLeft_add_eq_or_of_lt (show low.toNat < 2 ^ 8 from low'), Nat.shiftLeft_eq]
  have top : (crc >>> 8).toUInt8.toNat = crc.toNat / 256 % 256 := by
    have shifted : (crc >>> 8).toNat = crc.toNat >>> 8 := rfl
    rw [UInt16.toNat_toUInt8, shifted, Nat.shiftRight_eq_div_pow]
  have bottom : crc.toUInt8.toNat = crc.toNat % 256 := UInt16.toNat_toUInt8 crc
  rw [← UInt16.toNat_inj, word, List.cons.injEq, List.cons.injEq, ← UInt8.toNat_inj, ← UInt8.toNat_inj, top, bottom]
  simp only [and_true]
  omega

theorem take_copyPayload {bytes : List UInt8} (fits : bytes.length ≤ rs485MaxFramePayload) (old : Vector UInt8 128) :
    (copyPayload bytes old).toList.take bytes.length = bytes := by
  apply List.ext_getElem
  · rw [List.length_take, Vector.length_toList]
    exact Nat.min_eq_left fits
  · intro i _ inside
    simp [copyPayload, List.getElem?_eq_getElem inside]

/-! ### The encoder's frames -/

def rs485CrcBytes (covered : List UInt8) : List UInt8 :=
  [(rs485Crc16 covered >>> 8).toUInt8, (rs485Crc16 covered).toUInt8]

def Rs485Frame.wire (f : Rs485Frame) : List UInt8 :=
  rs485StartByte :: f.destAddr :: f.srcAddr :: f.payloadLen :: (f.content ++
    rs485CrcBytes (f.destAddr :: f.srcAddr :: f.payloadLen :: f.content))

def Rs485Frame.Fits (f : Rs485Frame) : Prop := f.payloadLen.toNat ≤ rs485MaxFramePayload

theorem Rs485Frame.length_content {f : Rs485Frame} (fits : f.Fits) : f.content.length = f.payloadLen.toNat := by
  rw [Rs485Frame.content, List.length_take, Vector.length_toList]
  exact Nat.min_eq_left fits

/-- What `rs485_encode` writes, and when the buffer is large enough for it. -/
theorem rs485Encode_eq {f : Rs485Frame} (fits : f.Fits) (bufSize : Nat) :
    rs485Encode f bufSize = if f.payloadLen.toNat + 6 ≤ bufSize then some f.wire else none := by
  have within : ¬f.payloadLen.toNat > rs485MaxFramePayload := Nat.not_lt.mpr fits
  have covered : (([rs485StartByte, f.destAddr, f.srcAddr, f.payloadLen] ++ f.content).drop 1).take
      (3 + f.payloadLen.toNat) = f.destAddr :: f.srcAddr :: f.payloadLen :: f.content := by
    apply List.take_of_length_le
    simp only [List.cons_append, List.nil_append, List.drop_succ_cons, List.drop_zero, List.length_cons,
      f.length_content fits]
    omega
  simp only [rs485Encode, rs485HeaderSize, rs485CrcSize, within, covered, if_false]
  by_cases room : f.payloadLen.toNat + 6 ≤ bufSize
  · rw [if_neg (by omega), if_pos room]
    rfl
  · rw [if_pos (by omega), if_neg room]

/-! ### The parser -/

/-- A wire is too short for any frame, or has a header but not all that its length byte announces, or has it all. -/
theorem wire_cases (wire : List UInt8) :
    wire.length < 6 ∨ ∃ start dest src plen tail, wire = start :: dest :: src :: plen :: tail ∧ 2 ≤ tail.length ∧
      (tail.length < plen.toNat + 2 ∨
        ∃ content high low rest, tail = content ++ high :: low :: rest ∧ content.length = plen.toNat) := by
  match wire with
  | [] | [_] | [_, _] | [_, _, _] => exact Or.inl (by simp)
  | start :: dest :: src :: plen :: tail =>
    rcases Nat.lt_or_ge tail.length 2 with short | enough
    · exact Or.inl (by simp only [List.length_cons]; omega)
    · refine Or.inr ⟨start, dest, src, plen, tail, rfl, enough, ?_⟩
      rcases Nat.lt_or_ge tail.length (plen.toNat + 2) with cut | whole
      · exact Or.inl cut
      · have length : (tail.drop plen.toNat).length = tail.length - plen.toNat := List.length_drop
        match dropped : tail.drop plen.toNat with
        | [] | [_] =>
          rw [dropped] at length
          simp only [List.length_nil, List.length_singleton] at length
          omega
        | high :: low :: rest =>
          refine Or.inr ⟨tail.take plen.toNat, high, low, rest, ?_, ?_⟩
          · rw [← dropped, List.take_append_drop]
          · rw [List.length_take]
            omega

theorem rs485Parse_short {wire : List UInt8} (short : wire.length < 6) (out : Rs485Frame) :
    rs485Parse wire out = some (.errTooShort, out) := by
  have refused : wire.length < rs485MinFrame := short
  rw [rs485Parse, if_pos refused]

theorem rs485Parse_cut {tail : List UInt8} (start dest src : UInt8) {plen : UInt8} (enough : 2 ≤ tail.length)
    (cut : tail.length < plen.toNat + 2) (out : Rs485Frame) :
    rs485Parse (start :: dest :: src :: plen :: tail) out =
      some (if start ≠ rs485StartByte then .errBadStart else .errTooShort, out) := by
  have header : ¬(start :: dest :: src :: plen :: tail).length < rs485MinFrame := by
    simp only [List.length_cons, rs485MinFrame, rs485HeaderSize, rs485CrcSize]
    omega
  have missing : (start :: dest :: src :: plen :: tail).length < rs485HeaderSize + plen.toNat + rs485CrcSize := by
    simp only [List.length_cons, rs485HeaderSize, rs485CrcSize]
    omega
  rw [rs485Parse, if_neg header]
  simp only [List.getElem?_cons_zero, List.getElem?_cons_succ, Option.bind_eq_bind, Option.bind_some, if_pos missing]
  by_cases bad : start ≠ rs485StartByte
  · rw [if_pos bad, if_pos bad]
  · rw [if_neg bad, if_neg bad]

/-- On a wire that has all its length byte announces, every read is covered, and three checks are left. -/
theorem rs485Parse_framed (start dest src : UInt8) {plen : UInt8} {content : List UInt8} (high low : UInt8)
    (rest : List UInt8) (length : content.length = plen.toNat) (out : Rs485Frame) :
    rs485Parse (start :: dest :: src :: plen :: (content ++ high :: low :: rest)) out =
      if start ≠ rs485StartByte then some (.errBadStart, out)
      else if plen.toNat > rs485MaxFramePayload then some (.errTooLong, out)
      else if (high.toUInt16 <<< 8) ||| low.toUInt16 ≠ rs485Crc16 (dest :: src :: plen :: content) then some (.errCrc, out)
      else some (.ok,
        { destAddr := dest, srcAddr := src, payloadLen := plen, payload := copyPayload content out.payload }) := by
  generalize whole : start :: dest :: src :: plen :: (content ++ high :: low :: rest) = wire
  have total : wire.length = plen.toNat + 6 + rest.length := by
    rw [← whole]
    simp only [List.length_cons, List.length_append, length]
    omega
  have crcHigh : wire[rs485HeaderSize + plen.toNat]? = some high := by
    rw [← whole, rs485HeaderSize, ← length, Nat.add_comm]
    simp
  have crcLow : wire[rs485HeaderSize + plen.toNat + 1]? = some low := by
    rw [← whole, rs485HeaderSize, ← length, Nat.add_comm 4, Nat.add_right_comm]
    simp
  have covered : readBytes wire 1 (3 + plen.toNat) = some (dest :: src :: plen :: content) := by
    rw [readBytes, if_pos (by omega), ← whole, ← length, Nat.add_comm 3]
    simp
  have payload : readBytes wire rs485HeaderSize plen.toNat = some content := by
    rw [readBytes, rs485HeaderSize, if_pos (by omega), ← whole, ← length]
    simp
  have header : ¬wire.length < rs485MinFrame := by
    rw [rs485MinFrame, rs485HeaderSize, rs485CrcSize]
    omega
  have announced : ¬wire.length < rs485HeaderSize + plen.toNat + rs485CrcSize := by
    rw [rs485HeaderSize, rs485CrcSize]
    omega
  have reads : wire[0]? = some start ∧ wire[1]? = some dest ∧ wire[2]? = some src ∧ wire[3]? = some plen := by
    rw [← whole]
    exact ⟨rfl, rfl, rfl, rfl⟩
  simp only [rs485Parse, if_neg header, if_neg announced, reads, crcHigh, crcLow, covered, payload, Option.bind_eq_bind,
    Option.bind_some]

/-! ### Exactly the encoder's frames -/

/-- The same addresses, length and payload; the rest of the array is not on the wire. -/
structure Rs485Frame.Agrees (g f : Rs485Frame) : Prop where
  destAddr : g.destAddr = f.destAddr
  srcAddr : g.srcAddr = f.srcAddr
  payloadLen : g.payloadLen = f.payloadLen
  content : g.content = f.content

theorem Rs485Frame.Agrees.wire_eq {g f : Rs485Frame} (agrees : g.Agrees f) : g.wire = f.wire := by
  rw [Rs485Frame.wire, Rs485Frame.wire, agrees.destAddr, agrees.srcAddr, agrees.payloadLen, agrees.content]

/-- Every read is covered by the wire, and a refused wire leaves the output frame alone. -/
theorem rs485Parse_total (wire : List UInt8) (out : Rs485Frame) :
    ∃ result g, rs485Parse wire out = some (result, g) ∧ (result ≠ .ok → g = out) := by
  rcases wire_cases wire with short | ⟨start, dest, src, plen, tail, rfl, enough, cut | ⟨content, high, low, rest, rfl, length⟩⟩
  · exact ⟨_, _, rs485Parse_short short out, fun _ => rfl⟩
  · exact ⟨_, _, rs485Parse_cut start dest src enough cut out, fun _ => rfl⟩
  · rw [rs485Parse_framed start dest src high low rest length]
    split
    · exact ⟨_, _, rfl, fun _ => rfl⟩
    · split
      · exact ⟨_, _, rfl, fun _ => rfl⟩
      · split
        · exact ⟨_, _, rfl, fun _ => rfl⟩
        · exact ⟨_, _, rfl, fun refused => absurd rfl refused⟩

theorem rs485Parse_sound {wire : List UInt8} {out g : Rs485Frame} (accepted : rs485Parse wire out = some (.ok, g)) :
    g.Fits ∧ g.wire <+: wire := by
  rcases wire_cases wire with short | ⟨start, dest, src, plen, tail, rfl, enough, cut | ⟨content, high, low, rest, rfl, length⟩⟩
  · rw [rs485Parse_short short] at accepted
    cases accepted
  · rw [rs485Parse_cut start dest src enough cut] at accepted
    split at accepted <;> cases accepted
  · rw [rs485Parse_framed start dest src high low rest length] at accepted
    split at accepted
    · cases accepted
    · rename_i started
      split at accepted
      · cases accepted
      · rename_i fits
        split at accepted
        · cases accepted
        · rename_i crc
          cases accepted
          have fits : content.length ≤ rs485MaxFramePayload := by omega
          have kept : Rs485Frame.content ⟨dest, src, plen, copyPayload content out.payload⟩ = content := by
            rw [Rs485Frame.content, ← length, take_copyPayload fits]
          refine ⟨by rwa [length] at fits, rest, ?_⟩
          rw [ne_eq, not_not, crc_bytes_iff] at crc
          rw [ne_eq, not_not] at started
          simp only [Rs485Frame.wire, rs485CrcBytes, kept, ← crc, started, List.cons_append, List.append_assoc,
            List.nil_append]

theorem rs485Parse_complete {wire : List UInt8} {f : Rs485Frame} (fits : f.Fits) (framed : f.wire <+: wire)
    (out : Rs485Frame) : ∃ g, rs485Parse wire out = some (.ok, g) ∧ g.Agrees f := by
  obtain ⟨rest, rfl⟩ := framed
  have length := f.length_content fits
  have accepted := rs485Parse_framed rs485StartByte f.destAddr f.srcAddr
    (rs485Crc16 (f.destAddr :: f.srcAddr :: f.payloadLen :: f.content) >>> 8).toUInt8
    (rs485Crc16 (f.destAddr :: f.srcAddr :: f.payloadLen :: f.content)).toUInt8 rest length out
  rw [if_neg (not_not.mpr rfl), if_neg (Nat.not_lt.mpr fits),
    if_neg (not_not.mpr ((crc_bytes_iff _ _ _).mpr rfl))] at accepted
  refine ⟨⟨f.destAddr, f.srcAddr, f.payloadLen, copyPayload f.content out.payload⟩, ?_, rfl, rfl, rfl, ?_⟩
  · rw [← accepted]
    simp only [Rs485Frame.wire, rs485CrcBytes, List.cons_append, List.append_assoc, List.nil_append]
  · have short : f.content.length ≤ rs485MaxFramePayload := Nat.le_trans (Nat.le_of_eq length) fits
    show (copyPayload f.content out.payload).toList.take f.payloadLen.toNat = f.content
    rw [← length, take_copyPayload short]

/-- The parser takes a wire exactly where it begins with a frame, and leaves its output alone on any other. -/
theorem rs485Parse_refuses_iff (wire : List UInt8) (out : Rs485Frame) :
    (∃ error, error ≠ .ok ∧ rs485Parse wire out = some (error, out)) ↔ ¬∃ g : Rs485Frame, g.Fits ∧ g.wire <+: wire := by
  constructor
  · rintro ⟨error, refused, parsed⟩ ⟨g, fits, framed⟩
    obtain ⟨g', accepted, -⟩ := rs485Parse_complete fits framed out
    rw [parsed] at accepted
    exact refused (congrArg Prod.fst (Option.some.inj accepted))
  · intro unframed
    obtain ⟨result, g, parsed, kept⟩ := rs485Parse_total wire out
    by_cases accepted : result = .ok
    · rw [accepted] at parsed
      exact absurd ⟨g, rs485Parse_sound parsed⟩ unframed
    · rw [kept accepted] at parsed
      exact ⟨result, accepted, parsed⟩

/-- The parser accepts a frame exactly where the wire begins with what the encoder writes for it, and on any other wire
returns an error; no read goes past the wire. -/
theorem rs485_parse_exact (wire : List UInt8) (out : Rs485Frame) :
    (∀ f : Rs485Frame, f.payloadLen.toNat ≤ rs485MaxFramePayload →
      ((∃ g, rs485Parse wire out = some (.ok, g) ∧ g.Agrees f) ↔
        ∃ bufSize bytes, rs485Encode f bufSize = some bytes ∧ bytes <+: wire)) ∧
      ((¬∃ (f : Rs485Frame) (bufSize : Nat) (bytes : List UInt8), rs485Encode f bufSize = some bytes ∧ bytes <+: wire) →
        ∃ error, error ≠ .ok ∧ rs485Parse wire out = some (error, out)) := by
  have encoded : ∀ {f : Rs485Frame}, f.Fits → rs485Encode f (f.payloadLen.toNat + 6) = some f.wire := by
    intro f fits
    rw [rs485Encode_eq fits, if_pos (Nat.le_refl _)]
  constructor
  · intro f fits
    constructor
    · rintro ⟨g, accepted, agrees⟩
      have framed := (rs485Parse_sound accepted).2
      rw [agrees.wire_eq] at framed
      exact ⟨_, _, encoded fits, framed⟩
    · rintro ⟨bufSize, bytes, written, framed⟩
      rw [rs485Encode_eq fits] at written
      split at written
      · obtain rfl := Option.some.inj written
        exact rs485Parse_complete fits framed out
      · cases written
  · intro other
    apply (rs485Parse_refuses_iff wire out).mpr
    rintro ⟨g, fits, framed⟩
    exact other ⟨g, _, _, encoded fits, framed⟩

/-- A frame of two bytes with a trailing byte, and a wire that is only a start byte. -/
theorem rs485_parse_exact_two_bytes :
    (∃ g, rs485Parse [0xAA, 9, 1, 2, 5, 6, 0x6F, 0xDB, 0xFF] ⟨0, 0, 0, Vector.replicate 128 0⟩ = some (.ok, g) ∧
      g.Agrees ⟨9, 1, 2, copyPayload [5, 6] (Vector.replicate 128 0)⟩) ∧
      ∃ error, error ≠ .ok ∧ rs485Parse [0xAA] ⟨0, 0, 0, Vector.replicate 128 0⟩ =
        some (error, ⟨0, 0, 0, Vector.replicate 128 0⟩) := by
  constructor
  · apply ((rs485_parse_exact _ _).1 ⟨9, 1, 2, copyPayload [5, 6] (Vector.replicate 128 0)⟩ (by decide)).mpr
    exact ⟨8, [0xAA, 9, 1, 2, 5, 6, 0x6F, 0xDB], by decide +kernel, [0xFF], rfl⟩
  · apply (rs485_parse_exact _ _).2
    rintro ⟨f, bufSize, bytes, written, framed⟩
    have length := framed.length_le
    rw [rs485Encode] at written
    split at written
    · cases written
    · split at written
      · cases written
      · obtain rfl := Option.some.inj written
        simp only [List.length_append, List.length_cons] at length
        omega

theorem rs485CreateFrame_carries (blank : Rs485Frame) (destAddr srcAddr : UInt8) {payload : List UInt8}
    (fits : payload.length ≤ rs485MaxFramePayload) :
    (rs485CreateFrame blank destAddr srcAddr payload).payloadLen.toNat = payload.length ∧
      (rs485CreateFrame blank destAddr srcAddr payload).content = payload := by
  have counted : (UInt8.ofNat payload.length).toNat = payload.length := by
    rw [UInt8.toNat_ofNat']
    exact Nat.mod_eq_of_lt (Nat.lt_of_le_of_lt fits (by decide))
  refine ⟨counted, ?_⟩
  rw [Rs485Frame.content, rs485CreateFrame, counted]
  by_cases empty : payload.length = 0
  · rw [empty, List.take_zero, List.length_eq_zero_iff.mp empty]
  · rw [if_pos ⟨Nat.pos_of_ne_zero empty, fits⟩, take_copyPayload fits]

/-- A created frame is encoded in every buffer that has room for it, and parsed back whatever follows it. -/
theorem rs485CreateFrame_round_trip (blank : Rs485Frame) (destAddr srcAddr : UInt8) {payload : List UInt8}
    (fits : payload.length ≤ rs485MaxFramePayload) {bufSize : Nat} (room : payload.length + 6 ≤ bufSize) :
    ∃ bytes, rs485Encode (rs485CreateFrame blank destAddr srcAddr payload) bufSize = some bytes ∧
      ∀ rest out, ∃ g, rs485Parse (bytes ++ rest) out = some (.ok, g) ∧ g.destAddr = destAddr ∧ g.srcAddr = srcAddr ∧
        g.content = payload := by
  obtain ⟨counted, content⟩ := rs485CreateFrame_carries blank destAddr srcAddr fits
  have created : (rs485CreateFrame blank destAddr srcAddr payload).Fits := by
    rw [Rs485Frame.Fits, counted]
    exact fits
  refine ⟨_, (rs485Encode_eq created bufSize).trans (if_pos ?_), fun rest out => ?_⟩
  · rw [counted]
    exact room
  · obtain ⟨g, parsed, dest, src, -, same⟩ := rs485Parse_complete created (List.prefix_append _ rest) out
    exact ⟨g, parsed, dest, src, same.trans content⟩

/-- A frame made by `rs485_create_frame` comes through the wire, whatever follows it. -/
theorem rs485_round_trip (blank out : Rs485Frame) (destAddr srcAddr : UInt8) {payload : List UInt8}
    (fits : payload.length ≤ rs485MaxFramePayload) (rest : List UInt8) :
    ∃ bytes g, rs485Encode (rs485CreateFrame blank destAddr srcAddr payload) (payload.length + 6) = some bytes ∧
      rs485Parse (bytes ++ rest) out = some (.ok, g) ∧ g.destAddr = destAddr ∧ g.srcAddr = srcAddr ∧
      g.content = payload := by
  obtain ⟨bytes, encoded, parsed⟩ := rs485CreateFrame_round_trip blank destAddr srcAddr fits (Nat.le_refl _)
  obtain ⟨g, read⟩ := parsed rest out
  exact ⟨bytes, g, encoded, read⟩

end IotPlatform
