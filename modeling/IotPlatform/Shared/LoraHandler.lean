import Mathlib.Logic.Function.Iterate
import IotPlatform.Lib.Bytes

/-!
# The LoRa link

`lora_handler.c`: a packet is built under the next sequence number, transmitted up to four times and held until its
ACK arrives; the other node polls its radio and parses what came. The transceiver is a parameter.
-/

namespace IotPlatform
open Bytes

def loraMaxRetries : Nat := 3

inductive LoraInternalState where
  | uninit | joining | joined | txBusy | waitAck
  deriving DecidableEq, Repr

structure LoraConfig where
  spreadingFactor : UInt8
  bandwidth : UInt8
  codingRate : UInt8
  txPowerDbm : UInt8
  frequencyMhz : UInt16
  crcEnabled : Bool
  deriving DecidableEq, Repr

inductive LoraMsgType where
  | data | ack | nack
  deriving DecidableEq, Repr

def LoraMsgType.code : LoraMsgType → UInt8
  | .data => 0x01
  | .ack => 0x02
  | .nack => 0x03

inductive LoraResult where
  | ok | errNotInit | errSendFailed | errNoData | errParamNull | errBusy | errCrcFail | errAckTimeout | errNoSpace
  | errNotJoined | errJoinFailed
  deriving DecidableEq, Repr

structure LoraStats where
  txPackets : UInt32 := 0
  txRetries : UInt32 := 0
  txAcksReceived : UInt32 := 0
  txAckTimeouts : UInt32 := 0
  rxPackets : UInt32 := 0
  rxCrcErrors : UInt32 := 0
  joinAttempts : UInt32 := 0
  joinFailures : UInt32 := 0
  deriving DecidableEq, Repr

def loraDefaultConfig (region : Option String) : LoraConfig :=
  { spreadingFactor := 10, bandwidth := 0, codingRate := 1, txPowerDbm := 14
    frequencyMhz := if region = some "US915" then 915 else 868
    crcEnabled := true }

structure LoraHandler where
  state : LoraInternalState := .uninit
  config : LoraConfig
  initialised : Bool := false
  txSeq : UInt8 := 0
  rxExpectedSeq : UInt8 := 0
  stats : LoraStats := {}
  deriving DecidableEq, Repr

def loraInit (config : Option LoraConfig) : LoraHandler :=
  let config := config.getD (loraDefaultConfig (some "EU868"))
  { state := .joining
    config :=
      { config with
        spreadingFactor :=
          if config.spreadingFactor < 7 ∨ config.spreadingFactor > 12 then 10 else config.spreadingFactor
        txPowerDbm := if config.txPowerDbm < 2 ∨ config.txPowerDbm > 20 then 14 else config.txPowerDbm }
    initialised := true }

/-! ### The packet -/

def loraCrcBit (crc : UInt16) : UInt16 :=
  if crc &&& 0x8000 ≠ 0 then (crc <<< 1) ^^^ 0x1021 else crc <<< 1

def loraCrcByte (crc : UInt16) (byte : UInt8) : UInt16 := loraCrcBit^[8] (crc ^^^ (byte.toUInt16 <<< 8))

def loraCrc16 (data : List UInt8) : UInt16 := data.foldl loraCrcByte 0xFFFF

/-- `payload` stands for the buffer and its `uint8_t` length, `msgType` for the byte the enumeration is cast to. -/
def loraBuildPacket (destAddr srcAddr : UInt16) (seqNum msgType : UInt8) (payload : List UInt8) : List UInt8 :=
  let out := leBytes 2 destAddr.toNat ++ leBytes 2 srcAddr.toNat ++
    [seqNum, msgType, UInt8.ofNat payload.length, 0] ++ payload
  out ++ leBytes 2 (loraCrc16 out).toNat

theorem length_loraBuildPacket (destAddr srcAddr : UInt16) (seqNum msgType : UInt8) (payload : List UInt8) :
    (loraBuildPacket destAddr srcAddr seqNum msgType payload).length = payload.length + 10 := by
  simp only [loraBuildPacket, List.length_append, length_leBytes, List.length_cons, List.length_nil]
  omega

def loraPacketOverhead : Nat := 10

structure LoraPacketHeader where
  destAddr : UInt16
  srcAddr : UInt16
  seqNum : UInt8
  msgType : UInt8
  payloadLen : UInt8
  flags : UInt8
  deriving DecidableEq, Repr

/-- `payload` holds the first `payloadLen` bytes of the array. -/
structure LoraFrame where
  srcAddr : UInt16
  destAddr : UInt16
  seqNum : UInt8
  payloadLen : UInt8
  payload : List UInt8
  deriving DecidableEq, Repr

def loraParseHeader (input : List UInt8) : LoraPacketHeader :=
  { destAddr := UInt16.ofNat (leNat (input.take 2))
    srcAddr := UInt16.ofNat (leNat ((input.drop 2).take 2))
    seqNum := input.getD 4 0
    msgType := input.getD 5 0
    payloadLen := input.getD 6 0
    flags := input.getD 7 0 }

def loraFillFrame (header : LoraPacketHeader) (input : List UInt8) : LoraFrame :=
  { srcAddr := header.srcAddr
    destAddr := header.destAddr
    seqNum := header.seqNum
    payloadLen := header.payloadLen
    payload := (input.drop 8).take header.payloadLen.toNat }

/-- The statistics afterwards, and the header and frame of an accepted packet. -/
def loraParsePacket (stats : LoraStats) (input : List UInt8) :
    LoraStats × Except LoraResult (LoraPacketHeader × LoraFrame) :=
  if input.length < loraPacketOverhead then (stats, .error .errCrcFail)
  else
    let receivedCrc := UInt16.ofNat (leNat (input.drop (input.length - 2)))
    let computedCrc := loraCrc16 (input.take (input.length - 2))
    if receivedCrc ≠ computedCrc then ({ stats with rxCrcErrors := stats.rxCrcErrors + 1 }, .error .errCrcFail)
    else
      let header := loraParseHeader input
      if input.length ≠ loraPacketOverhead + header.payloadLen.toNat then (stats, .error .errCrcFail)
      else (stats, .ok (header, loraFillFrame header input))

/-! ### Send with ACK and retry -/

/-- The transceiver: what a transmission does to the world around it, and whether the ACK of a sequence number comes
within the timeout. -/
structure LoraRadio (W : Type) where
  send : W → List UInt8 → W × Bool
  waitAck : W → UInt8 → W × Bool

structure LoraSendOutcome (W : Type) where
  handler : LoraHandler
  world : W
  result : LoraResult

section Send

variable {W : Type}

/-- The `for` loop of `lora_send` with `attempts` rounds left. -/
def loraSendAttempts (radio : LoraRadio W) (destAddr : UInt16) (payload : List UInt8) :
    Nat → LoraHandler → W → LoraSendOutcome W
  | 0, h, world => { handler := { h with state := .joined }, world := world, result := .errAckTimeout }
  | attempts + 1, h, world =>
    let h := { h with state := .txBusy }
    -- Both branches of the source's conditional for the source address are 0x0000.
    let packet := loraBuildPacket destAddr (if h.config.crcEnabled then 0x0000 else 0x0000) h.txSeq LoraMsgType.data.code payload
    if packet.length = 0 then { handler := { h with state := .joined }, world := world, result := .errSendFailed }
    else
      let h := { h with stats := { h.stats with txPackets := h.stats.txPackets + 1 } }
      let (world, sendOk) := radio.send world packet
      if !sendOk then { handler := { h with state := .joined }, world := world, result := .errSendFailed }
      else
        let h := { h with state := .waitAck }
        let (world, ackReceived) := radio.waitAck world h.txSeq
        if ackReceived then
          { handler :=
              { h with
                stats := { h.stats with txAcksReceived := h.stats.txAcksReceived + 1 }
                txSeq := h.txSeq + 1
                state := .joined }
            world := world, result := .ok }
        else
          let stats := { h.stats with
            txRetries := h.stats.txRetries + 1
            txAckTimeouts := h.stats.txAckTimeouts + 1 }
          loraSendAttempts radio destAddr payload attempts { h with stats := stats } world

def loraSend (radio : LoraRadio W) (h : LoraHandler) (world : W) (destAddr : UInt16) (payload : List UInt8) :
    LoraSendOutcome W :=
  if !h.initialised then { handler := h, world := world, result := .errNotInit }
  else if h.state = .joining then { handler := h, world := world, result := .errNotJoined }
  else if h.state ≠ .joined then { handler := h, world := world, result := .errBusy }
  else loraSendAttempts radio destAddr payload (loraMaxRetries + 1) h world

def LoraHandler.Joined (h : LoraHandler) : Prop := h.initialised = true ∧ h.state = .joined

/-- What `lora_send` transmits while its next sequence number is that of `h`. -/
def LoraHandler.dataPacket (h : LoraHandler) (destAddr : UInt16) (payload : List UInt8) : List UInt8 :=
  loraBuildPacket destAddr (if h.config.crcEnabled then 0x0000 else 0x0000) h.txSeq LoraMsgType.data.code payload

theorem length_dataPacket_ne_zero (h : LoraHandler) (destAddr : UInt16) (payload : List UInt8) :
    ¬(h.dataPacket destAddr payload).length = 0 := by
  rw [LoraHandler.dataPacket, length_loraBuildPacket]
  omega

section Round

variable {radio : LoraRadio W} {h : LoraHandler} {destAddr : UInt16} {payload : List UInt8} {world : W}

theorem loraSendAttempts_refused (attempts : Nat) (world' : W)
    (refused : radio.send world (h.dataPacket destAddr payload) = (world', false)) :
    loraSendAttempts radio destAddr payload (attempts + 1) h world =
      { handler := { h with state := .joined, stats := { h.stats with txPackets := h.stats.txPackets + 1 } }
        world := world', result := .errSendFailed } := by
  have nonempty := length_dataPacket_ne_zero h destAddr payload
  simp only [LoraHandler.dataPacket] at nonempty refused
  simp only [loraSendAttempts, nonempty, refused, if_false, Bool.not_false, if_true]

theorem loraSendAttempts_acked (attempts : Nat) (world' world'' : W)
    (transmitted : radio.send world (h.dataPacket destAddr payload) = (world', true))
    (acked : radio.waitAck world' h.txSeq = (world'', true)) :
    loraSendAttempts radio destAddr payload (attempts + 1) h world =
      { handler :=
          { h with
            stats := { h.stats with
              txPackets := h.stats.txPackets + 1
              txAcksReceived := h.stats.txAcksReceived + 1 }
            txSeq := h.txSeq + 1
            state := .joined }
        world := world'', result := .ok } := by
  have nonempty := length_dataPacket_ne_zero h destAddr payload
  simp only [LoraHandler.dataPacket] at nonempty transmitted
  simp only [loraSendAttempts, nonempty, transmitted, acked, if_false, Bool.not_true, Bool.false_eq_true, if_true]

/-- A round without an acknowledgement is followed by the next, under the same sequence number. -/
theorem loraSendAttempts_retry (attempts : Nat) (world' world'' : W)
    (transmitted : radio.send world (h.dataPacket destAddr payload) = (world', true))
    (unacked : radio.waitAck world' h.txSeq = (world'', false)) :
    loraSendAttempts radio destAddr payload (attempts + 1) h world =
      loraSendAttempts radio destAddr payload attempts
        { h with
          state := .waitAck
          stats := { h.stats with
            txPackets := h.stats.txPackets + 1
            txRetries := h.stats.txRetries + 1
            txAckTimeouts := h.stats.txAckTimeouts + 1 } }
        world'' := by
  have nonempty := length_dataPacket_ne_zero h destAddr payload
  simp only [LoraHandler.dataPacket] at nonempty transmitted
  simp only [loraSendAttempts, nonempty, transmitted, unacked, if_false, Bool.not_true, Bool.false_eq_true]

end Round

def LoraRadio.Acknowledges (radio : LoraRadio W) : Prop :=
  (∀ world packet, packet ≠ [] → (radio.send world packet).2 = true) ∧ ∀ world seq, (radio.waitAck world seq).2 = true

/-- An acknowledged packet goes out once, whatever its size. -/
theorem loraSend_acknowledged {radio : LoraRadio W} (acknowledges : radio.Acknowledges) {h : LoraHandler}
    (joined : h.Joined) (world : W) (destAddr : UInt16) (payload : List UInt8) :
    (loraSend radio h world destAddr payload).result = .ok ∧
      (loraSend radio h world destAddr payload).handler.Joined ∧
      (loraSend radio h world destAddr payload).handler.txSeq = h.txSeq + 1 := by
  obtain ⟨initialised, state⟩ := joined
  have nonempty : h.dataPacket destAddr payload ≠ [] := fun empty =>
    length_dataPacket_ne_zero h destAddr payload (by rw [empty, List.length_nil])
  obtain ⟨world', transmitted⟩ : ∃ world', radio.send world (h.dataPacket destAddr payload) = (world', true) :=
    ⟨_, Prod.ext rfl (acknowledges.1 _ _ nonempty)⟩
  obtain ⟨world'', acked⟩ : ∃ world'', radio.waitAck world' h.txSeq = (world'', true) :=
    ⟨_, Prod.ext rfl (acknowledges.2 _ _)⟩
  rw [loraSend, initialised, state]
  simp only [Bool.not_true, Bool.false_eq_true, if_false, reduceCtorEq, ne_eq, not_true_eq_false]
  rw [loraSendAttempts_acked loraMaxRetries world' world'' transmitted acked]
  exact ⟨rfl, ⟨initialised, rfl⟩, rfl⟩

end Send

/-! ### Receive -/

structure LoraReceiveOutcome (W : Type) where
  handler : LoraHandler
  world : W
  result : LoraResult
  frame : Option LoraFrame

/-- `poll` is the radio's receive FIFO; the frame is the caller's buffer as far as it was filled. -/
def loraReceive {W : Type} (poll : W → W × Option (List UInt8)) (h : LoraHandler) (world : W) : LoraReceiveOutcome W :=
  if !h.initialised then { handler := h, world := world, result := .errNotInit, frame := none }
  else if h.state = .joining then { handler := h, world := world, result := .errNotJoined, frame := none }
  else
    match poll world with
    | (world, none) => { handler := h, world := world, result := .errNoData, frame := none }
    | (world, some raw) =>
      if raw.length = 0 then { handler := h, world := world, result := .errNoData, frame := none }
      else
        match loraParsePacket h.stats raw with
        | (stats, .error error) =>
          { handler := { h with stats := stats }, world := world, result := error, frame := none }
        | (stats, .ok (header, frame)) =>
          if header.msgType ≠ LoraMsgType.data.code then
            { handler := { h with stats := stats }, world := world, result := .errNoData, frame := some frame }
          else
            { handler :=
                { h with
                  stats := { stats with rxPackets := stats.rxPackets + 1 }
                  rxExpectedSeq := header.seqNum + 1 }
              world := world, result := .ok, frame := some frame }

end IotPlatform
