import IotPlatform.Shared.LoraHandler

/-!
# The retries of a LoRa packet

What one call of `lora_send` asks of the radio, answer by answer, and where it leaves the handler.
-/

namespace IotPlatform

/-- What the radio was asked, with its answer. -/
inductive LoraEvent where
  | sent (packet : List UInt8) (taken : Bool)
  | waited (seqNum : UInt8) (acked : Bool)
  deriving DecidableEq

def LoraEvent.transmission : LoraEvent → Option (List UInt8)
  | .sent packet _ => some packet
  | .waited .. => none

def transmissions (events : List LoraEvent) : List (List UInt8) := events.filterMap LoraEvent.transmission

def LoraEvent.isRefusal : LoraEvent → Bool
  | .sent _ taken => !taken
  | .waited .. => false

def refusals (events : List LoraEvent) : Nat := events.countP LoraEvent.isRefusal

def Acknowledged (events : List LoraEvent) : Prop := ∃ seqNum, .waited seqNum true ∈ events

section Send

variable {W : Type}

/-- The same radio, with a record of what it was asked. -/
def LoraRadio.recorded (radio : LoraRadio W) : LoraRadio (W × List LoraEvent) where
  send world packet :=
    let (next, taken) := radio.send world.1 packet
    ((next, world.2 ++ [.sent packet taken]), taken)
  waitAck world seqNum :=
    let (next, acked) := radio.waitAck world.1 seqNum
    ((next, world.2 ++ [.waited seqNum acked]), acked)

/-- What a call asks of the radio. -/
def loraSendEvents (radio : LoraRadio W) (h : LoraHandler) (world : W) (destAddr : UInt16) (payload : List UInt8) :
    List LoraEvent :=
  (loraSend radio.recorded h (world, []) destAddr payload).world.2

/-! ### The ends of a call -/

/-- How a call ends, after the attempts that timed out. -/
inductive LoraSendEnd where
  | acked | refused | exhausted
  deriving DecidableEq

namespace LoraSendEnd

def result : LoraSendEnd → LoraResult
  | acked => .ok
  | refused => .errSendFailed
  | exhausted => .errAckTimeout

/-- Transmissions of the last round. -/
def sends : LoraSendEnd → Nat
  | exhausted => 0
  | _ => 1

def events (packet : List UInt8) (seqNum : UInt8) : LoraSendEnd → List LoraEvent
  | acked => [.sent packet true, .waited seqNum true]
  | refused => [.sent packet false]
  | exhausted => []

end LoraSendEnd

/-- The rounds whose ACK did not come. -/
def timeoutEvents (packet : List UInt8) (seqNum : UInt8) : Nat → List LoraEvent
  | 0 => []
  | timeouts + 1 => .sent packet true :: .waited seqNum false :: timeoutEvents packet seqNum timeouts

/-- The handler after so many timeouts and that end. -/
def LoraHandler.afterSend (h : LoraHandler) (timeouts : Nat) (ending : LoraSendEnd) : LoraHandler :=
  { h with
    state := .joined
    txSeq := if ending = .acked then h.txSeq + 1 else h.txSeq
    stats := { h.stats with
      txPackets := h.stats.txPackets + UInt32.ofNat (timeouts + ending.sends)
      txRetries := h.stats.txRetries + UInt32.ofNat timeouts
      txAcksReceived := h.stats.txAcksReceived + if ending = .acked then 1 else 0
      txAckTimeouts := h.stats.txAckTimeouts + UInt32.ofNat timeouts } }

def LoraHandler.timedOut (h : LoraHandler) : LoraHandler :=
  { h with
    state := .waitAck
    stats := { h.stats with
      txPackets := h.stats.txPackets + 1
      txRetries := h.stats.txRetries + 1
      txAckTimeouts := h.stats.txAckTimeouts + 1 } }

theorem afterSend_timedOut (h : LoraHandler) (timeouts : Nat) (ending : LoraSendEnd) :
    h.timedOut.afterSend timeouts ending = h.afterSend (timeouts + 1) ending := by
  have succ : ∀ (x : UInt32) (n : Nat), x + 1 + UInt32.ofNat n = x + UInt32.ofNat (n + 1) := by
    intro x n
    rw [UInt32.ofNat_add, UInt32.add_assoc, UInt32.add_comm 1]
    rfl
  simp only [LoraHandler.timedOut, LoraHandler.afterSend, succ, Nat.add_right_comm timeouts 1]

/-- A run of the loop: how it ends, what it asked, and the handler it leaves. -/
structure SendRuns (radio : LoraRadio W) (h : LoraHandler) (world : W) (destAddr : UInt16) (payload : List UInt8)
    (attempts timeouts : Nat) (ending : LoraSendEnd) (world' : W) : Prop where
  within : timeouts + ending.sends ≤ attempts
  plain : loraSendAttempts radio destAddr payload attempts h world =
    { handler := h.afterSend timeouts ending, world := world', result := ending.result }
  recorded : ∀ events, loraSendAttempts radio.recorded destAddr payload attempts h (world, events) =
    { handler := h.afterSend timeouts ending
      world := (world', events ++ (timeoutEvents (h.dataPacket destAddr payload) h.txSeq timeouts ++
        ending.events (h.dataPacket destAddr payload) h.txSeq))
      result := ending.result }

variable {radio : LoraRadio W} {h : LoraHandler} {destAddr : UInt16} {payload : List UInt8} {world world' world'' : W}

theorem SendRuns.exhausted : SendRuns radio h world destAddr payload 0 0 .exhausted world := by
  have same : { h with state := .joined } = h.afterSend 0 .exhausted := by
    simp [LoraHandler.afterSend, LoraSendEnd.sends]
  refine ⟨Nat.le_refl 0, ?_, fun events => ?_⟩
  · rw [loraSendAttempts, same]
    rfl
  · rw [loraSendAttempts, same]
    simp [timeoutEvents, LoraSendEnd.events, LoraSendEnd.result]

theorem SendRuns.refused (attempts : Nat)
    (refused : radio.send world (h.dataPacket destAddr payload) = (world', false)) :
    SendRuns radio h world destAddr payload (attempts + 1) 0 .refused world' := by
  have same : { h with state := .joined, stats := { h.stats with txPackets := h.stats.txPackets + 1 } } =
      h.afterSend 0 .refused := by
    simp [LoraHandler.afterSend, LoraSendEnd.sends]
  refine ⟨Nat.succ_le_succ (Nat.zero_le attempts), ?_, fun events => ?_⟩
  · rw [loraSendAttempts_refused attempts world' refused, same]
    rfl
  · rw [loraSendAttempts_refused attempts (world', events ++ [.sent (h.dataPacket destAddr payload) false])
      (by simp only [LoraRadio.recorded, refused]), same]
    rfl

theorem SendRuns.acked (attempts : Nat)
    (transmitted : radio.send world (h.dataPacket destAddr payload) = (world', true))
    (acked : radio.waitAck world' h.txSeq = (world'', true)) :
    SendRuns radio h world destAddr payload (attempts + 1) 0 .acked world'' := by
  have same : { h with
      stats := { h.stats with
        txPackets := h.stats.txPackets + 1
        txAcksReceived := h.stats.txAcksReceived + 1 }
      txSeq := h.txSeq + 1
      state := .joined } = h.afterSend 0 .acked := by
    simp [LoraHandler.afterSend, LoraSendEnd.sends]
  refine ⟨Nat.succ_le_succ (Nat.zero_le attempts), ?_, fun events => ?_⟩
  · rw [loraSendAttempts_acked attempts world' world'' transmitted acked, same]
    rfl
  · rw [loraSendAttempts_acked attempts (world', events ++ [.sent (h.dataPacket destAddr payload) true])
      (world'', events ++ [.sent (h.dataPacket destAddr payload) true] ++ [.waited h.txSeq true])
      (by simp only [LoraRadio.recorded, transmitted]) (by simp only [LoraRadio.recorded, acked]), same]
    simp [timeoutEvents, LoraSendEnd.events, LoraSendEnd.result]

theorem SendRuns.retry {attempts timeouts : Nat} {ending : LoraSendEnd} {last : W}
    (transmitted : radio.send world (h.dataPacket destAddr payload) = (world', true))
    (unacked : radio.waitAck world' h.txSeq = (world'', false))
    (rest : SendRuns radio h.timedOut world'' destAddr payload attempts timeouts ending last) :
    SendRuns radio h world destAddr payload (attempts + 1) (timeouts + 1) ending last := by
  refine ⟨?_, ?_, fun events => ?_⟩
  · have within := rest.within
    omega
  · rw [loraSendAttempts_retry attempts world' world'' transmitted unacked, ← afterSend_timedOut]
    exact rest.plain
  · rw [loraSendAttempts_retry attempts (world', events ++ [.sent (h.dataPacket destAddr payload) true])
      (world'', events ++ [.sent (h.dataPacket destAddr payload) true] ++ [.waited h.txSeq false])
      (by simp only [LoraRadio.recorded, transmitted]) (by simp only [LoraRadio.recorded, unacked]), ← afterSend_timedOut]
    refine (rest.recorded _).trans ?_
    simp only [timeoutEvents, List.append_assoc, List.cons_append, List.nil_append]
    rfl

/-- By induction on the rounds left, one case for each answer of the radio. -/
theorem exists_sendRuns (radio : LoraRadio W) (destAddr : UInt16) (payload : List UInt8) (attempts : Nat) (h : LoraHandler)
    (world : W) : ∃ timeouts ending world', SendRuns radio h world destAddr payload attempts timeouts ending world' := by
  induction attempts generalizing h world with
  | zero => exact ⟨0, .exhausted, world, .exhausted⟩
  | succ attempts ih =>
    rcases sent : radio.send world (h.dataPacket destAddr payload) with ⟨world', taken⟩
    cases taken with
    | false => exact ⟨0, .refused, world', .refused attempts sent⟩
    | true =>
      rcases waited : radio.waitAck world' h.txSeq with ⟨world'', acked⟩
      cases acked with
      | true => exact ⟨0, .acked, world'', .acked attempts sent waited⟩
      | false =>
        obtain ⟨timeouts, ending, last, rest⟩ := ih h.timedOut world''
        exact ⟨timeouts + 1, ending, last, .retry sent waited rest⟩

/-! ### What is asked of the radio -/

theorem transmissions_timeoutEvents (packet : List UInt8) (seqNum : UInt8) (timeouts : Nat) :
    transmissions (timeoutEvents packet seqNum timeouts) = List.replicate timeouts packet := by
  induction timeouts with
  | zero => rfl
  | succ timeouts ih => exact congrArg (packet :: ·) ih

theorem refusals_timeoutEvents (packet : List UInt8) (seqNum : UInt8) (timeouts : Nat) :
    refusals (timeoutEvents packet seqNum timeouts) = 0 := by
  induction timeouts with
  | zero => rfl
  | succ timeouts ih => exact ih

theorem not_acknowledged_timeoutEvents (packet : List UInt8) (seqNum : UInt8) (timeouts : Nat) :
    ¬Acknowledged (timeoutEvents packet seqNum timeouts) := by
  rintro ⟨seqNum', member⟩
  induction timeouts with
  | zero => cases member
  | succ timeouts ih =>
    apply ih
    simpa [timeoutEvents] using member

/-- The events of a call that ends so. -/
structure SendAsks (packet : List UInt8) (timeouts : Nat) (ending : LoraSendEnd) (events : List LoraEvent) : Prop where
  packets : transmissions events = List.replicate (timeouts + ending.sends) packet
  acked : Acknowledged events ↔ ending = .acked
  refused : refusals events = if ending = .refused then 1 else 0

theorem sendAsks (packet : List UInt8) (seqNum : UInt8) (timeouts : Nat) (ending : LoraSendEnd) :
    SendAsks packet timeouts ending (timeoutEvents packet seqNum timeouts ++ ending.events packet seqNum) := by
  have packets := transmissions_timeoutEvents packet seqNum timeouts
  have refused := refusals_timeoutEvents packet seqNum timeouts
  have silent := not_acknowledged_timeoutEvents packet seqNum timeouts
  simp only [transmissions, refusals, Acknowledged, not_exists] at packets refused silent
  constructor
  · rw [transmissions, List.filterMap_append, packets, ← List.replicate_append_replicate]
    cases ending <;> rfl
  · simp only [Acknowledged, List.mem_append, silent, false_or]
    cases ending <;> simp [LoraSendEnd.events]
  · rw [refusals, List.countP_append, refused]
    cases ending <;> rfl

/-- One call of `lora_send` makes at most four transmissions of one packet, succeeds and moves to the next sequence number
exactly when it is acknowledged, is ready for the next call, and counts every packet by what became of it. -/
theorem lora_send_protocol (radio : LoraRadio W) {h : LoraHandler} (joined : h.Joined) (world : W) (destAddr : UInt16)
    (payload : List UInt8) :
    let o := loraSend radio h world destAddr payload
    let events := loraSendEvents radio h world destAddr payload
    ((transmissions events).length ≤ loraMaxRetries + 1 ∧
        ∀ packet ∈ transmissions events, packet = h.dataPacket destAddr payload) ∧
      (o.result = .ok ↔ Acknowledged events) ∧
      (o.handler.txSeq = h.txSeq + 1 ↔ o.result = .ok) ∧
      (o.handler.txSeq = h.txSeq ↔ o.result ≠ .ok) ∧
      o.handler.state = .joined ∧
      o.handler.stats.txPackets - h.stats.txPackets =
        (o.handler.stats.txAcksReceived - h.stats.txAcksReceived) +
          (o.handler.stats.txAckTimeouts - h.stats.txAckTimeouts) + UInt32.ofNat (refusals events) := by
  intro o events
  obtain ⟨initialised, state⟩ := joined
  obtain ⟨timeouts, ending, world', runs⟩ := exists_sendRuns radio destAddr payload (loraMaxRetries + 1) h world
  have called : o = { handler := h.afterSend timeouts ending, world := world', result := ending.result } := by
    rw [← runs.plain]
    simp [o, loraSend, initialised, state]
  have asked : events = timeoutEvents (h.dataPacket destAddr payload) h.txSeq timeouts ++
      ending.events (h.dataPacket destAddr payload) h.txSeq := by
    have recorded := runs.recorded []
    rw [List.nil_append] at recorded
    simp [events, loraSendEvents, loraSend, initialised, state, recorded]
  have asks := sendAsks (h.dataPacket destAddr payload) h.txSeq timeouts ending
  rw [← asked] at asks
  have next : h.txSeq + 1 ≠ h.txSeq := by
    intro same
    exact absurd (UInt8.add_eq_left.mp same) (by decide)
  have grown : ∀ x n : UInt32, x + n - x = n := fun x n => by rw [UInt32.add_comm, UInt32.add_sub_cancel]
  rw [called, asks.acked, asks.refused, asks.packets]
  refine ⟨⟨?_, fun packet member => List.eq_of_mem_replicate member⟩, ?_, ?_, ?_, rfl, ?_⟩
  · rw [List.length_replicate]
    exact runs.within
  · cases ending <;> simp [LoraSendEnd.result]
  · cases ending <;> simp [LoraHandler.afterSend, LoraSendEnd.result, next.symm]
  · cases ending <;> simp [LoraHandler.afterSend, LoraSendEnd.result, next]
  · cases ending <;> simp [LoraHandler.afterSend, LoraSendEnd.sends, grown, UInt32.add_comm]

end Send

/-- A radio that gives the answers of a script, and refuses everything after its end. -/
def scriptedRadio : LoraRadio (List Bool) where
  send answers _ := (answers.tail, answers.headD false)
  waitAck answers _ := (answers.tail, answers.headD false)

/-- The second attempt is acknowledged. -/
theorem lora_send_protocol_second_attempt :
    let h : LoraHandler := { loraInit none with state := .joined }
    (loraSend scriptedRadio h [true, false, true, true] 2 [7]).result = .ok ∧
      Acknowledged (loraSendEvents scriptedRadio h [true, false, true, true] 2 [7]) := by
  intro h
  have protocol := lora_send_protocol scriptedRadio (h := h) ⟨rfl, rfl⟩ [true, false, true, true] 2 [7]
  have ok : (loraSend scriptedRadio h [true, false, true, true] 2 [7]).result = .ok := by decide +kernel
  exact ⟨ok, protocol.2.1.mp ok⟩

end IotPlatform
