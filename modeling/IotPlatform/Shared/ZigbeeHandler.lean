import IotPlatform.Lib.Bytes

/-!
# Sending over Zigbee

`zigbee_handler.c`: an application payload is wrapped in an APS frame and given to the transceiver, which is a parameter.
-/

namespace IotPlatform
open Bytes

def zigbeeMaxPayload : Nat := 72

def zigbeeShortAddrInvalid : UInt16 := 0xFFFF

def zigbeeChannelDefault : UInt8 := 15

def zigbeeApsOverhead : Nat := 7

def zigbeeProfileHome : UInt16 := 0x0104

def zigbeeClusterDefault : UInt16 := 0x0000

inductive ZigbeeInternalState where
  | uninit | idle | joining | joined | leavePending
  deriving DecidableEq, Repr

inductive ZigbeeResult where
  | ok | errNotJoined | errSendFailed | errNoData | errParamNull
  deriving DecidableEq, Repr

structure ZigbeeNodeInfo where
  shortAddr : UInt16 := 0
  extendedAddr : UInt64 := 0
  endpoint : UInt8 := 0
  nodeId : UInt8 := 0
  joined : Bool := false
  deriving DecidableEq, Repr

structure ZigbeeHandler where
  state : ZigbeeInternalState := .uninit
  nodeInfo : ZigbeeNodeInfo := {}
  channel : UInt8 := zigbeeChannelDefault
  initialised : Bool := false
  apsSequence : UInt8 := 0
  deriving DecidableEq, Repr

def zigbeeInit (channel : UInt8) : ZigbeeHandler :=
  { state := .idle, initialised := true
    channel := if channel ≥ 11 ∧ channel ≤ 26 then channel else zigbeeChannelDefault }

/-- The association is simulated: a join in state IDLE succeeds. -/
def zigbeeJoin (h : ZigbeeHandler) : ZigbeeHandler × ZigbeeResult :=
  if !h.initialised then (h, .errParamNull)
  else if h.state ≠ .idle then (h, .errSendFailed)
  else
    ({ h with
      state := .joined
      nodeInfo := { shortAddr := 0x1234, extendedAddr := 0x00124B0014D2A1B2, endpoint := 1, nodeId := 1, joined := true } },
      .ok)

def zigbeeLeave (h : ZigbeeHandler) : ZigbeeHandler × ZigbeeResult :=
  if !h.initialised then (h, .errNotJoined)
  else if h.state ≠ .joined then (h, .errNotJoined)
  else ({ h with state := .idle, nodeInfo := { shortAddr := zigbeeShortAddrInvalid } }, .ok)

/-- The empty list is the frame length 0 of an error. -/
def zigbeeBuildApsFrame (h : ZigbeeHandler) (srcEndpoint destEndpoint : UInt8) (payload : List UInt8) :
    ZigbeeHandler × List UInt8 :=
  if payload.length > zigbeeMaxPayload - zigbeeApsOverhead then (h, [])
  else
    ({ h with apsSequence := h.apsSequence + 1 },
      [destEndpoint, srcEndpoint] ++ leBytes 2 zigbeeClusterDefault.toNat ++ leBytes 2 zigbeeProfileHome.toNat ++
        [h.apsSequence] ++ payload)

/-- What a transmission to an address does to the world around it, and whether it went out. -/
structure ZigbeeRadio (W : Type) where
  send : W → UInt16 → List UInt8 → W × Bool

structure ZigbeeSendOutcome (W : Type) where
  handler : ZigbeeHandler
  world : W
  result : ZigbeeResult

section Send

variable {W : Type}

def zigbeeSend (radio : ZigbeeRadio W) (h : ZigbeeHandler) (world : W) (destAddr : UInt16) (destEndpoint : UInt8)
    (payload : List UInt8) : ZigbeeSendOutcome W :=
  if !h.initialised then { handler := h, world := world, result := .errParamNull }
  else if h.state ≠ .joined then { handler := h, world := world, result := .errNotJoined }
  else if payload.length > zigbeeMaxPayload then { handler := h, world := world, result := .errParamNull }
  else
    let (h, apsFrame) := zigbeeBuildApsFrame h h.nodeInfo.endpoint destEndpoint payload
    if apsFrame.length = 0 then { handler := h, world := world, result := .errParamNull }
    else
      let (world, sendOk) := radio.send world destAddr apsFrame
      { handler := h, world := world, result := if sendOk then .ok else .errSendFailed }

def ZigbeeHandler.Joined (h : ZigbeeHandler) : Prop := h.initialised = true ∧ h.state = .joined

def ZigbeeRadio.Transmits (radio : ZigbeeRadio W) : Prop :=
  ∀ world destAddr frame, frame ≠ [] → (radio.send world destAddr frame).2 = true

/-- A payload that leaves no room for the APS header is refused before anything happens. -/
theorem zigbeeSend_oversized {radio : ZigbeeRadio W} {h : ZigbeeHandler} (joined : h.Joined) (world : W) (destAddr : UInt16)
    (destEndpoint : UInt8) {payload : List UInt8} (oversized : 65 < payload.length) :
    zigbeeSend radio h world destAddr destEndpoint payload =
      { handler := h, world := world, result := .errParamNull } := by
  have refused : zigbeeBuildApsFrame h h.nodeInfo.endpoint destEndpoint payload = (h, []) := if_pos oversized
  rw [zigbeeSend, joined.1, joined.2, refused]
  simp

theorem zigbeeSend_fits {radio : ZigbeeRadio W} (transmits : radio.Transmits) {h : ZigbeeHandler} (joined : h.Joined)
    (world : W) (destAddr : UInt16) (destEndpoint : UInt8) {payload : List UInt8} (fits : payload.length ≤ 65) :
    (zigbeeSend radio h world destAddr destEndpoint payload).result = .ok ∧
      (zigbeeSend radio h world destAddr destEndpoint payload).handler = { h with apsSequence := h.apsSequence + 1 } := by
  have small : ¬payload.length > zigbeeMaxPayload := by
    unfold zigbeeMaxPayload
    omega
  have room : ¬payload.length > zigbeeMaxPayload - zigbeeApsOverhead := Nat.not_lt.mpr fits
  obtain ⟨initialised, state⟩ := joined
  unfold zigbeeSend zigbeeBuildApsFrame
  simp [initialised, state, small, room, transmits world destAddr]

end Send

end IotPlatform
