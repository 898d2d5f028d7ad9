import IotPlatform.Lib.Run
import IotPlatform.Shared.ZigbeeHandler

/-!
# Zigbee as a mailbox

The receiving side of `zigbee_handler.c` and the radio behind it, which keeps the frame sent last, and the hub's adapter over
both. Together they are a box for one letter.
-/

namespace IotPlatform
open Run Bytes

/-- `payload` are the first `payload_len` bytes of its array. -/
structure ZigbeeFrame where
  srcAddr : UInt16 := 0
  destAddr : UInt16 := 0
  srcEndpoint : UInt8 := 0
  destEndpoint : UInt8 := 0
  payload : List UInt8 := []
  deriving DecidableEq, Repr

/-- The cluster, the profile and the counter are skipped. -/
def zigbeeParseApsFrame (frame : ZigbeeFrame) : List UInt8 → Option ZigbeeFrame
  | destEndpoint :: srcEndpoint :: _ :: _ :: _ :: _ :: _ :: payload =>
    if payload.length > zigbeeMaxPayload then none
    else some { frame with srcEndpoint := srcEndpoint, destEndpoint := destEndpoint, payload := payload }
  | _ => none

structure ZigbeeMock where
  rxBuffer : ZigbeeFrame := {}
  rxPending : Bool := false
  deriving DecidableEq, Repr

/-- What is sent comes back. -/
def mockRadioSend (mock : ZigbeeMock) (destAddr : UInt16) (frame : List UInt8) : ZigbeeMock × Bool :=
  if frame.length = 0 then (mock, false)
  else if frame.length ≤ zigbeeMaxPayload + zigbeeApsOverhead then
    match zigbeeParseApsFrame { srcAddr := 0x0000, destAddr := destAddr } frame with
    | some rx => ({ rxBuffer := rx, rxPending := true }, true)
    | none => (mock, true)
  else (mock, true)

def mockRadio : ZigbeeRadio ZigbeeMock := { send := mockRadioSend }

def mockRadioReceive (mock : ZigbeeMock) : ZigbeeMock × Option ZigbeeFrame :=
  if !mock.rxPending then (mock, none) else ({ mock with rxPending := false }, some mock.rxBuffer)

structure ZigbeeNode where
  handler : ZigbeeHandler := {}
  mock : ZigbeeMock := {}
  deriving DecidableEq, Repr

def zigbeeReceive (n : ZigbeeNode) : ZigbeeNode × ZigbeeResult × Option ZigbeeFrame :=
  if !n.handler.initialised then (n, .errParamNull, none)
  else if n.handler.state ≠ .joined then (n, .errNotJoined, none)
  else
    match mockRadioReceive n.mock with
    | (mock, some frame) => ({ n with mock := mock }, .ok, some frame)
    | (mock, none) => ({ n with mock := mock }, .errNoData, none)

def zigbeeIsJoined (n : ZigbeeNode) : Bool := n.handler.state == .joined

/-- The hub takes the payload of a frame, if there is one and it fits. -/
def zigbeeRadioAdapter (n : ZigbeeNode) (maxLen : Nat) : ZigbeeNode × Option (List UInt8) :=
  match zigbeeReceive n with
  | (n, .ok, some frame) =>
    if frame.payload.length = 0 then (n, none)
    else if frame.payload.length > maxLen then (n, none)
    else (n, some frame.payload)
  | (n, _, _) => (n, none)

inductive ZigbeeOp where
  | init (channel : UInt8)
  | join
  | leave
  | send (destAddr : UInt16) (destEndpoint : UInt8) (payload : List UInt8)
  | receive
  | poll (maxLen : Nat)

structure ZigbeeOutcome where
  result : ZigbeeResult := .ok
  received : Option ZigbeeFrame := none
  polled : Option (List UInt8) := none
  deriving DecidableEq, Repr

def zigbeeStep (n : ZigbeeNode) : ZigbeeOp → ZigbeeNode × ZigbeeOutcome
  | .init channel => ({ handler := zigbeeInit channel, mock := { n.mock with rxPending := false } }, {})
  | .join =>
    let (handler, result) := zigbeeJoin n.handler
    ({ n with handler := handler }, { result := result })
  | .leave =>
    let (handler, result) := zigbeeLeave n.handler
    let mock := if result = .ok then { n.mock with rxPending := false } else n.mock
    ({ handler := handler, mock := mock }, { result := result })
  | .send destAddr destEndpoint payload =>
    let o := zigbeeSend mockRadio n.handler n.mock destAddr destEndpoint payload
    ({ handler := o.handler, mock := o.world }, { result := o.result })
  | .receive =>
    let (n, result, received) := zigbeeReceive n
    (n, { result := result, received := received })
  | .poll maxLen =>
    let (n, polled) := zigbeeRadioAdapter n maxLen
    (n, { polled := polled })

/-! ### A box for one letter -/

inductive MailboxPhase where
  | off | idle | joined
  deriving DecidableEq

structure Mailbox where
  phase : MailboxPhase := .off
  letter : Option ZigbeeFrame := none
  deriving DecidableEq

/-- A letter is put in place of the one before; whoever looks takes it out. -/
def mailboxStep (m : Mailbox) : ZigbeeOp → Mailbox × ZigbeeOutcome
  | .init _ => ({ phase := .idle }, {})
  | .join =>
    match m.phase with
    | .off => (m, { result := .errParamNull })
    | .idle => ({ m with phase := .joined }, {})
    | .joined => (m, { result := .errSendFailed })
  | .leave => if m.phase = .joined then ({ phase := .idle }, {}) else (m, { result := .errNotJoined })
  | .send destAddr destEndpoint payload =>
    match m.phase with
    | .off => (m, { result := .errParamNull })
    | .idle => (m, { result := .errNotJoined })
    | .joined =>
      if payload.length ≤ zigbeeMaxPayload - zigbeeApsOverhead then
        let letter : ZigbeeFrame :=
          { destAddr := destAddr, srcEndpoint := 1, destEndpoint := destEndpoint, payload := payload }
        ({ m with letter := some letter }, {})
      else (m, { result := .errParamNull })
  | .receive =>
    match m.phase, m.letter with
    | .off, _ => (m, { result := .errParamNull })
    | .idle, _ => (m, { result := .errNotJoined })
    | .joined, none => (m, { result := .errNoData })
    | .joined, some letter => ({ m with letter := none }, { received := some letter })
  | .poll maxLen =>
    match m.phase with
    | .joined =>
      ({ m with letter := none },
        { polled := (m.letter.map ZigbeeFrame.payload).filter fun payload => 0 < payload.length ∧ payload.length ≤ maxLen })
    | _ => (m, {})

/-- A frame that is built is read as what it was built from. -/
theorem zigbeeParse_build (h : ZigbeeHandler) (frame : ZigbeeFrame) (srcEndpoint destEndpoint : UInt8) {payload : List UInt8}
    (fits : payload.length ≤ zigbeeMaxPayload - zigbeeApsOverhead) :
    (zigbeeBuildApsFrame h srcEndpoint destEndpoint payload).2.length = zigbeeApsOverhead + payload.length ∧
      zigbeeParseApsFrame frame (zigbeeBuildApsFrame h srcEndpoint destEndpoint payload).2 =
        some { frame with srcEndpoint := srcEndpoint, destEndpoint := destEndpoint, payload := payload } := by
  have whole : ¬payload.length > zigbeeMaxPayload := by
    unfold zigbeeMaxPayload zigbeeApsOverhead at *
    omega
  rw [zigbeeBuildApsFrame, if_neg (Nat.not_lt.mpr fits)]
  refine ⟨?_, if_neg whole⟩
  simp only [List.length_append, length_leBytes, List.length_cons, List.length_nil, zigbeeApsOverhead]

theorem mockRadioSend_build (mock : ZigbeeMock) (h : ZigbeeHandler) (destAddr : UInt16) (srcEndpoint destEndpoint : UInt8)
    {payload : List UInt8} (fits : payload.length ≤ zigbeeMaxPayload - zigbeeApsOverhead) :
    mockRadioSend mock destAddr (zigbeeBuildApsFrame h srcEndpoint destEndpoint payload).2 =
      ({ rxBuffer := { destAddr := destAddr, srcEndpoint := srcEndpoint, destEndpoint := destEndpoint, payload := payload }
         rxPending := true }, true) := by
  obtain ⟨length, parsed⟩ := zigbeeParse_build h { srcAddr := 0x0000, destAddr := destAddr } srcEndpoint destEndpoint fits
  have some : ¬(zigbeeBuildApsFrame h srcEndpoint destEndpoint payload).2.length = 0 := by
    rw [length, zigbeeApsOverhead]
    omega
  have short : (zigbeeBuildApsFrame h srcEndpoint destEndpoint payload).2.length ≤ zigbeeMaxPayload + zigbeeApsOverhead := by
    unfold zigbeeMaxPayload zigbeeApsOverhead at *
    omega
  rw [mockRadioSend, if_neg some, if_pos short, parsed]

theorem zigbeeSend_mailed {h : ZigbeeHandler} (joined : h.Joined) (mock : ZigbeeMock) (destAddr : UInt16)
    (destEndpoint : UInt8) {payload : List UInt8} (fits : payload.length ≤ zigbeeMaxPayload - zigbeeApsOverhead) :
    zigbeeSend mockRadio h mock destAddr destEndpoint payload =
      { handler := { h with apsSequence := h.apsSequence + 1 }
        world :=
          { rxBuffer :=
              { destAddr := destAddr, srcEndpoint := h.nodeInfo.endpoint, destEndpoint := destEndpoint, payload := payload }
            rxPending := true }
        result := .ok } := by
  obtain ⟨length, -⟩ := zigbeeParse_build h {} h.nodeInfo.endpoint destEndpoint fits
  have some : ¬(zigbeeBuildApsFrame h h.nodeInfo.endpoint destEndpoint payload).2.length = 0 := by
    rw [length, zigbeeApsOverhead]
    omega
  have small : ¬payload.length > zigbeeMaxPayload := by
    unfold zigbeeMaxPayload zigbeeApsOverhead at *
    omega
  have counted : (zigbeeBuildApsFrame h h.nodeInfo.endpoint destEndpoint payload).1 =
      { h with apsSequence := h.apsSequence + 1 } := by
    rw [zigbeeBuildApsFrame, if_neg (Nat.not_lt.mpr fits)]
  obtain ⟨initialised, state⟩ := joined
  simp only [zigbeeSend, initialised, state, Bool.not_true, Bool.false_eq_true, ne_eq, not_true_eq_false, if_false, small, some,
    mockRadio, mockRadioSend_build mock h destAddr h.nodeInfo.endpoint destEndpoint fits, counted, if_true]

/-- The mailbox of a node. -/
inductive ZigbeeNode.Shows : ZigbeeNode → Mailbox → Prop where
  | off : ZigbeeNode.Shows {} {}
  | idle {nodeInfo : ZigbeeNodeInfo} {channel apsSequence : UInt8} {rxBuffer : ZigbeeFrame} :
    ZigbeeNode.Shows ⟨⟨.idle, nodeInfo, channel, true, apsSequence⟩, ⟨rxBuffer, false⟩⟩ ⟨.idle, none⟩
  | joined {nodeInfo : ZigbeeNodeInfo} {channel apsSequence : UInt8} {rxBuffer : ZigbeeFrame} (rxPending : Bool)
    (endpoint : nodeInfo.endpoint = 1) :
    ZigbeeNode.Shows ⟨⟨.joined, nodeInfo, channel, true, apsSequence⟩, ⟨rxBuffer, rxPending⟩⟩
      ⟨.joined, if rxPending then some rxBuffer else none⟩

namespace ZigbeeNode.Shows

variable {n : ZigbeeNode} {m : Mailbox}

theorem init (n : ZigbeeNode) (m : Mailbox) (channel : UInt8) :
    (zigbeeStep n (.init channel)).2 = (mailboxStep m (.init channel)).2 ∧
      (zigbeeStep n (.init channel)).1.Shows (mailboxStep m (.init channel)).1 :=
  ⟨rfl, .idle⟩

theorem join (shows : n.Shows m) :
    (zigbeeStep n .join).2 = (mailboxStep m .join).2 ∧ (zigbeeStep n .join).1.Shows (mailboxStep m .join).1 := by
  cases shows with
  | off => exact ⟨rfl, .off⟩
  | idle => exact ⟨rfl, .joined false rfl⟩
  | joined rxPending endpoint => exact ⟨rfl, .joined rxPending endpoint⟩

theorem leave (shows : n.Shows m) :
    (zigbeeStep n .leave).2 = (mailboxStep m .leave).2 ∧ (zigbeeStep n .leave).1.Shows (mailboxStep m .leave).1 := by
  cases shows with
  | off => exact ⟨rfl, .off⟩
  | idle => exact ⟨rfl, .idle⟩
  | joined rxPending endpoint => exact ⟨rfl, .idle⟩

theorem send (shows : n.Shows m) (destAddr : UInt16) (destEndpoint : UInt8) (payload : List UInt8) :
    (zigbeeStep n (.send destAddr destEndpoint payload)).2 = (mailboxStep m (.send destAddr destEndpoint payload)).2 ∧
      (zigbeeStep n (.send destAddr destEndpoint payload)).1.Shows
        (mailboxStep m (.send destAddr destEndpoint payload)).1 := by
  cases shows with
  | off => exact ⟨rfl, .off⟩
  | idle => exact ⟨rfl, .idle⟩
  | @joined nodeInfo channel apsSequence rxBuffer rxPending endpoint =>
    have ready : ZigbeeHandler.Joined ⟨.joined, nodeInfo, channel, true, apsSequence⟩ := ⟨rfl, rfl⟩
    let mock : ZigbeeMock := ⟨rxBuffer, rxPending⟩
    rw [zigbeeStep, mailboxStep]
    by_cases fits : payload.length ≤ zigbeeMaxPayload - zigbeeApsOverhead
    · dsimp only
      rw [zigbeeSend_mailed ready mock destAddr destEndpoint fits, if_pos fits, ← endpoint]
      exact ⟨rfl, .joined true endpoint⟩
    · dsimp only
      rw [zigbeeSend_oversized ready mock destAddr destEndpoint (Nat.lt_of_not_le fits), if_neg fits]
      exact ⟨rfl, .joined rxPending endpoint⟩

theorem receive (shows : n.Shows m) :
    (zigbeeStep n .receive).2 = (mailboxStep m .receive).2 ∧ (zigbeeStep n .receive).1.Shows (mailboxStep m .receive).1 := by
  cases shows with
  | off => exact ⟨rfl, .off⟩
  | idle => exact ⟨rfl, .idle⟩
  | @joined nodeInfo channel apsSequence rxBuffer rxPending endpoint =>
    cases rxPending with
    | false => exact ⟨rfl, .joined false endpoint⟩
    | true => exact ⟨rfl, .joined false endpoint⟩

theorem poll (shows : n.Shows m) (maxLen : Nat) :
    (zigbeeStep n (.poll maxLen)).2 = (mailboxStep m (.poll maxLen)).2 ∧
      (zigbeeStep n (.poll maxLen)).1.Shows (mailboxStep m (.poll maxLen)).1 := by
  cases shows with
  | off => exact ⟨rfl, .off⟩
  | idle => exact ⟨rfl, .idle⟩
  | @joined nodeInfo channel apsSequence rxBuffer rxPending endpoint =>
    cases rxPending with
    | false => exact ⟨rfl, .joined false endpoint⟩
    | true =>
      rw [zigbeeStep, mailboxStep, zigbeeRadioAdapter]
      have taken : zigbeeReceive ⟨⟨.joined, nodeInfo, channel, true, apsSequence⟩, ⟨rxBuffer, true⟩⟩ =
        (⟨⟨.joined, nodeInfo, channel, true, apsSequence⟩, ⟨rxBuffer, false⟩⟩, .ok, some rxBuffer) := rfl
      rw [taken]
      dsimp only
      by_cases blank : rxBuffer.payload.length = 0
      · rw [if_pos blank]
        refine ⟨?_, .joined false endpoint⟩
        simp [Option.filter, blank]
      · rw [if_neg blank]
        by_cases long : rxBuffer.payload.length > maxLen
        · rw [if_pos long]
          refine ⟨?_, .joined false endpoint⟩
          simp [Option.filter, Nat.not_le.mpr long]
        · rw [if_neg long]
          refine ⟨?_, .joined false endpoint⟩
          simp [Option.filter, Nat.pos_of_ne_zero blank, Nat.le_of_not_lt long]

theorem step (shows : n.Shows m) (op : ZigbeeOp) :
    (zigbeeStep n op).2 = (mailboxStep m op).2 ∧ (zigbeeStep n op).1.Shows (mailboxStep m op).1 := by
  cases op with
  | init channel => exact init n m channel
  | join => exact shows.join
  | leave => exact shows.leave
  | send destAddr destEndpoint payload => exact shows.send destAddr destEndpoint payload
  | receive => exact shows.receive
  | poll maxLen => exact shows.poll maxLen

theorem isJoined (shows : n.Shows m) : zigbeeIsJoined n = decide (m.phase = .joined) := by
  cases shows <;> rfl

end ZigbeeNode.Shows

/-- Over every run a node with its radio answers as a box for one letter does: what is received or polled is the payload sent
last, if it was sent since the network was joined and nobody has looked since. -/
theorem zigbee_is_mailbox (ops : List ZigbeeOp) :
    outputs zigbeeStep {} ops = outputs mailboxStep {} ops ∧
      zigbeeIsJoined (finalState zigbeeStep {} ops) = decide ((finalState mailboxStep {} ops).phase = .joined) := by
  obtain ⟨answers, shows⟩ := simulation (R := ZigbeeNode.Shows) .off (fun _ _ op shows => shows.step op) ops
  exact ⟨answers, shows.isJoined⟩

end IotPlatform
