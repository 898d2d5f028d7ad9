import IotPlatform.Lib.Run
import IotPlatform.Edge.EdgeConfig
import IotPlatform.Edge.EdgeAttestation
import IotPlatform.Shared.Rs485Protocol

/-!
# The edge node

`edge_node.c`: one call reads the sensor, checks it and sends a frame. The contents of the auth context, the configuration
and the hardware may change between calls.
-/

namespace IotPlatform
open Run Bytes

structure EdgeNodeStats where
  readsTotal : UInt32 := 0
  readsValid : UInt32 := 0
  readsInvalid : UInt32 := 0
  framesSent : UInt32 := 0
  framesFailed : UInt32 := 0
  deriving DecidableEq, Repr

/-- The `auth_ctx` argument: a null pointer, `EDGE_AUTH_UNGATED_TESTING_ONLY` or a context. -/
inductive EdgeAuthArg where
  | null | ungatedTestingOnly | context
  deriving DecidableEq, Repr

/-- The module's statics; of the two pointers, whether they are set. -/
structure EdgeNode where
  sendFn : Bool := false
  authCtx : Bool := false
  authDisabledTestOnly : Bool := false
  stats : EdgeNodeStats := {}

structure EdgeNodeResult where
  value : Binary32 := ⟨0⟩
  valid : Bool := false
  nodeId : UInt8 := 0
  gwAddr : UInt8 := 0
  frameSent : Bool := false
  deriving DecidableEq

/-- What a call finds: the auth context, the configuration and the hardware, what the send function makes of the bytes, and
what stands in the memory of the frame. -/
structure EdgeCycle where
  auth : EdgeAuthContext
  config : EdgeConfig
  mocks : SensorMocks
  send : List UInt8 → Bool
  frame : Rs485Frame

/-- What a call returns, and the bytes it handed to the send function. -/
structure EdgeNodeReport where
  result : EdgeNodeResult
  handed : Option (List UInt8)

def edgeNodeInit (sendFn : Bool) (auth : EdgeAuthArg) : EdgeNode :=
  { sendFn := sendFn, authCtx := auth == .context, authDisabledTestOnly := auth == .ungatedTestingOnly, stats := {} }

def edgeNodeResetStats (s : EdgeNode) : EdgeNode := { s with stats := {} }

def EdgeNode.countTotal (s : EdgeNode) : EdgeNode :=
  { s with stats := { s.stats with readsTotal := s.stats.readsTotal + 1 } }

def EdgeNode.countInvalid (s : EdgeNode) : EdgeNode :=
  { s with stats := { s.stats with readsInvalid := s.stats.readsInvalid + 1 } }

def EdgeNode.countValid (s : EdgeNode) : EdgeNode :=
  { s with stats := { s.stats with readsValid := s.stats.readsValid + 1 } }

def EdgeNode.countFrame (s : EdgeNode) (sent : Bool) : EdgeNode :=
  { s with
    stats :=
      if sent then { s.stats with framesSent := s.stats.framesSent + 1 }
      else { s.stats with framesFailed := s.stats.framesFailed + 1 } }

/-- `reading.value * scale_factor + offset`. -/
def physicalValue (config : EdgeNodeConfig) (reading : SensorDriverReading) : Binary32 :=
  Binary32.add (Binary32.mul reading.value config.driverConfig.scaleFactor) config.driverConfig.offset

/-- Node, metric and the four bytes of the value, lowest first. -/
def edgePayload (config : EdgeNodeConfig) (value : Binary32) : List UInt8 :=
  [config.nodeId, config.metricId] ++ leBytes 4 value.bits.toNat

/-- Steps 5 and 6 of a call, after its reading was accepted. -/
def edgeNodeSend (s : EdgeNode) (cycle : EdgeCycle) (config : EdgeNodeConfig) (reading : SensorDriverReading) :
    EdgeNode × EdgeNodeReport :=
  let value := physicalValue config reading
  let result : EdgeNodeResult := { value := value, valid := true, nodeId := config.nodeId, gwAddr := config.gwDestAddr }
  let s := s.countValid
  let frame := rs485CreateFrame cycle.frame config.gwDestAddr config.nodeId (edgePayload config value)
  match rs485Encode frame (rs485MaxFramePayload + 8) with
  | none => (s.countFrame false, { result := result, handed := none })
  | some wire =>
    if s.sendFn && cycle.send wire then
      (s.countFrame true, { result := { result with frameSent := true }, handed := some wire })
    else (s.countFrame false, { result := result, handed := if s.sendFn then some wire else none })

def edgeNodeReadAndSend (s : EdgeNode) (cycle : EdgeCycle) : EdgeNode × EdgeNodeReport :=
  let s := s.countTotal
  if !s.authDisabledTestOnly && !s.authCtx then (s.countInvalid, { result := {}, handed := none })
  else if !s.authDisabledTestOnly && !edgeAuthIsAuthenticated cycle.auth then
    (s.countInvalid, { result := {}, handed := none })
  else
    match edgeConfigGet cycle.config with
    | none => (s.countInvalid, { result := {}, handed := none })
    | some config =>
      let result : EdgeNodeResult := { nodeId := config.nodeId, gwAddr := config.gwDestAddr }
      match sensorDriverFind config.activeDriver with
      | none => (s.countInvalid, { result := result, handed := none })
      | some driver =>
        let reading := driver.read cycle.mocks
        if !reading.valid then (s.countInvalid, { result := result, handed := none })
        else if !driver.validate reading.value then (s.countInvalid, { result := result, handed := none })
        else edgeNodeSend s cycle config reading

/-! ### Runs -/

inductive EdgeNodeOp where
  | init (sendFn : Bool) (auth : EdgeAuthArg)
  | readAndSend (cycle : EdgeCycle)
  | resetStats

def edgeNodeStep (s : EdgeNode) : EdgeNodeOp → EdgeNode × Option EdgeNodeReport
  | .init sendFn auth => (edgeNodeInit sendFn auth, none)
  | .readAndSend cycle => ((edgeNodeReadAndSend s cycle).1, some (edgeNodeReadAndSend s cycle).2)
  | .resetStats => (edgeNodeResetStats s, none)

/-- The bytes are a frame of the node for its gateway: the parser reads its six bytes of payload from it. -/
def CarriesReading (config : EdgeNodeConfig) (reading : SensorDriverReading) (bytes : List UInt8) : Prop :=
  ∀ out, ∃ frame, rs485Parse bytes out = some (.ok, frame) ∧ frame.destAddr = config.gwDestAddr ∧
    frame.srcAddr = config.nodeId ∧ frame.content = edgePayload config (physicalValue config reading)

/-- The node may send, and the bytes are what it has to send. -/
def EdgeCycle.Sends (cycle : EdgeCycle) (bytes : List UInt8) : Prop :=
  edgeAuthIsAuthenticated cycle.auth = true ∧
    ∃ config driver, edgeConfigGet cycle.config = some config ∧ sensorDriverFind config.activeDriver = some driver ∧
      (driver.read cycle.mocks).valid = true ∧ driver.validate (driver.read cycle.mocks).value = true ∧
      CarriesReading config (driver.read cycle.mocks) bytes

/-! ### One call -/

theorem length_edgePayload (config : EdgeNodeConfig) (value : Binary32) : (edgePayload config value).length = 6 := by
  rw [edgePayload, List.length_append, length_leBytes]
  rfl

/-- The frame always fits its buffer, and the parser reads it back. -/
theorem edgeFrame_encoded (blank : Rs485Frame) (config : EdgeNodeConfig) (reading : SensorDriverReading) :
    ∃ wire, rs485Encode (rs485CreateFrame blank config.gwDestAddr config.nodeId
        (edgePayload config (physicalValue config reading))) (rs485MaxFramePayload + 8) = some wire ∧
      CarriesReading config reading wire := by
  have six := length_edgePayload config (physicalValue config reading)
  have fits : (edgePayload config (physicalValue config reading)).length ≤ rs485MaxFramePayload := by
    rw [six]
    decide
  have room : (edgePayload config (physicalValue config reading)).length + 6 ≤ rs485MaxFramePayload + 8 :=
    Nat.add_le_add fits (by decide)
  obtain ⟨wire, encoded, parsed⟩ := rs485CreateFrame_round_trip blank config.gwDestAddr config.nodeId fits room
  refine ⟨wire, encoded, fun out => ?_⟩
  have read := parsed [] out
  rwa [List.append_nil] at read

/-- What a call did: it handed nothing over, or it accepted a reading, whose frame was sent or not. -/
inductive EdgeCall (s : EdgeNode) (cycle : EdgeCycle) : EdgeNode → Option (List UInt8) → Prop where
  | invalid : EdgeCall s cycle s.countTotal.countInvalid none
  | accepted (sent : Bool) (handed : Option (List UInt8)) (allowed : ∀ bytes ∈ handed, cycle.Sends bytes) :
    EdgeCall s cycle (s.countTotal.countValid.countFrame sent) handed

/-- An accepted reading is counted, and only its frame is handed over. -/
theorem edgeNodeSend_call (s : EdgeNode) {cycle : EdgeCycle} {config : EdgeNodeConfig} {reading : SensorDriverReading}
    (allowed : ∀ bytes, CarriesReading config reading bytes → cycle.Sends bytes) :
    EdgeCall s cycle (edgeNodeSend s.countTotal cycle config reading).1
      (edgeNodeSend s.countTotal cycle config reading).2.handed := by
  obtain ⟨wire, encoded, carries⟩ := edgeFrame_encoded cycle.frame config reading
  have sends : cycle.Sends wire := allowed wire carries
  rw [edgeNodeSend]
  dsimp only
  rw [encoded]
  dsimp only
  split
  · exact .accepted true _ fun bytes handed => Option.mem_some.mp handed ▸ sends
  · refine .accepted false _ fun bytes handed => ?_
    split at handed
    · exact Option.mem_some.mp handed ▸ sends
    · cases handed

theorem edgeNodeReadAndSend_call {s : EdgeNode} (gated : s.authDisabledTestOnly = false) (cycle : EdgeCycle) :
    EdgeCall s cycle (edgeNodeReadAndSend s cycle).1 (edgeNodeReadAndSend s cycle).2.handed := by
  have gatedTotal : s.countTotal.authDisabledTestOnly = false := gated
  unfold edgeNodeReadAndSend
  dsimp only
  rw [gatedTotal, Bool.not_false, Bool.true_and, Bool.true_and]
  split
  · exact .invalid
  · split
    · exact .invalid
    · rename_i authenticated
      rw [Bool.not_eq_true, Bool.not_eq_false'] at authenticated
      split
      · exact .invalid
      · rename_i config present
        split
        · exact .invalid
        · rename_i driver found
          split
          · exact .invalid
          · rename_i valid
            split
            · exact .invalid
            · rename_i accepted
              rw [Bool.not_eq_true, Bool.not_eq_false'] at valid accepted
              refine edgeNodeSend_call s fun bytes carries => ?_
              exact ⟨authenticated, config, driver, present, found, valid, accepted, carries⟩

/-! ### The counters -/

/-- After at most `calls` calls; the sums of the counters do not wrap before `calls` does. -/
structure EdgeNodeStats.Balanced (calls : Nat) (stats : EdgeNodeStats) : Prop where
  reads : stats.readsTotal = stats.readsValid + stats.readsInvalid
  frames : stats.readsValid = stats.framesSent + stats.framesFailed
  reads_le : stats.readsValid.toNat + stats.readsInvalid.toNat ≤ calls
  frames_le : stats.framesSent.toNat + stats.framesFailed.toNat ≤ calls

theorem EdgeNodeStats.balanced_zero (calls : Nat) : EdgeNodeStats.Balanced calls {} :=
  ⟨rfl, rfl, Nat.zero_le _, Nat.zero_le _⟩

theorem toNat_succ_le (n : UInt32) : (n + 1).toNat ≤ n.toNat + 1 := by
  rw [UInt32.toNat_add]
  exact Nat.mod_le ..

theorem countFrame_once (s : EdgeNode) (sent : Bool) :
    (s.countFrame sent).stats.framesSent + (s.countFrame sent).stats.framesFailed =
        s.stats.framesSent + s.stats.framesFailed + 1 ∧
      (s.countFrame sent).stats.framesSent.toNat + (s.countFrame sent).stats.framesFailed.toNat ≤
        s.stats.framesSent.toNat + s.stats.framesFailed.toNat + 1 := by
  cases sent with
  | true =>
    have next := toNat_succ_le s.stats.framesSent
    constructor
    · show s.stats.framesSent + 1 + s.stats.framesFailed = _
      rw [UInt32.add_assoc, UInt32.add_comm 1, ← UInt32.add_assoc]
    · show (s.stats.framesSent + 1).toNat + s.stats.framesFailed.toNat ≤ _
      omega
  | false =>
    have next := toNat_succ_le s.stats.framesFailed
    constructor
    · exact (UInt32.add_assoc ..).symm
    · show s.stats.framesSent.toNat + (s.stats.framesFailed + 1).toNat ≤ _
      omega

theorem EdgeCall.balanced {s after : EdgeNode} {cycle : EdgeCycle} {handed : Option (List UInt8)} {calls : Nat}
    (call : EdgeCall s cycle after handed) (before : s.stats.Balanced calls) : after.stats.Balanced (calls + 1) := by
  obtain ⟨reads, frames, reads_le, frames_le⟩ := before
  cases call with
  | invalid =>
    have next := toNat_succ_le s.stats.readsInvalid
    constructor
    · show s.stats.readsTotal + 1 = s.stats.readsValid + (s.stats.readsInvalid + 1)
      rw [reads, UInt32.add_assoc]
    · exact frames
    · show s.stats.readsValid.toNat + (s.stats.readsInvalid + 1).toNat ≤ calls + 1
      omega
    · exact Nat.le_succ_of_le frames_le
  | accepted sent handed allowed =>
    obtain ⟨once, once_le⟩ := countFrame_once s.countTotal.countValid sent
    have next := toNat_succ_le s.stats.readsValid
    have kept : (s.countTotal.countValid.countFrame sent).stats.readsTotal = s.stats.readsTotal + 1 ∧
        (s.countTotal.countValid.countFrame sent).stats.readsValid = s.stats.readsValid + 1 ∧
        (s.countTotal.countValid.countFrame sent).stats.readsInvalid = s.stats.readsInvalid := by
      cases sent <;> exact ⟨rfl, rfl, rfl⟩
    obtain ⟨total, valid, invalid⟩ := kept
    constructor
    · rw [total, valid, invalid, reads, UInt32.add_assoc, UInt32.add_comm s.stats.readsInvalid, ← UInt32.add_assoc]
    · rw [valid, once, frames]
      rfl
    · rw [valid, invalid]
      omega
    · exact once_le.trans (Nat.succ_le_succ frames_le)

/-- Below 2³² calls the counters add up as numbers. -/
theorem EdgeNodeStats.Balanced.toNat {stats : EdgeNodeStats} {calls : Nat} (balanced : stats.Balanced calls)
    (few : calls < 2 ^ 32) :
    stats.readsTotal.toNat = stats.readsValid.toNat + stats.readsInvalid.toNat ∧
      stats.readsValid.toNat = stats.framesSent.toNat + stats.framesFailed.toNat := by
  obtain ⟨reads, frames, reads_le, frames_le⟩ := balanced
  constructor
  · rw [reads, UInt32.toNat_add]
    exact Nat.mod_eq_of_lt (Nat.lt_of_le_of_lt reads_le few)
  · rw [frames, UInt32.toNat_add]
    exact Nat.mod_eq_of_lt (Nat.lt_of_le_of_lt frames_le few)

/-! ### Every run -/

theorem EdgeCall.gated {s after : EdgeNode} {cycle : EdgeCycle} {handed : Option (List UInt8)}
    (call : EdgeCall s cycle after handed) : after.authDisabledTestOnly = s.authDisabledTestOnly := by
  cases call <;> rfl

theorem edgeNodeStep_gated {s : EdgeNode} {op : EdgeNodeOp} (production : ∀ sendFn, op ≠ .init sendFn .ungatedTestingOnly)
    (gated : s.authDisabledTestOnly = false) : (edgeNodeStep s op).1.authDisabledTestOnly = false := by
  cases op with
  | init sendFn auth =>
    cases auth with
    | null => rfl
    | ungatedTestingOnly => exact absurd rfl (production sendFn)
    | context => rfl
  | readAndSend cycle => exact (edgeNodeReadAndSend_call gated cycle).gated.trans gated
  | resetStats => exact gated

theorem edgeNodeStep_balanced {s : EdgeNode} {calls : Nat} (op : EdgeNodeOp) (gated : s.authDisabledTestOnly = false)
    (before : s.stats.Balanced calls) : (edgeNodeStep s op).1.stats.Balanced (calls + 1) := by
  cases op with
  | init sendFn auth => exact EdgeNodeStats.balanced_zero _
  | readAndSend cycle => exact (edgeNodeReadAndSend_call gated cycle).balanced before
  | resetStats => exact EdgeNodeStats.balanced_zero _

theorem edgeNode_run {s : EdgeNode} {calls : Nat} (gated : s.authDisabledTestOnly = false) (before : s.stats.Balanced calls)
    (ops : List EdgeNodeOp) (production : ∀ sendFn, .init sendFn .ungatedTestingOnly ∉ ops) :
    (finalState edgeNodeStep s ops).authDisabledTestOnly = false ∧
      (finalState edgeNodeStep s ops).stats.Balanced (calls + ops.length) := by
  induction ops generalizing s calls with
  | nil => exact ⟨gated, before⟩
  | cons op rest ih =>
    have here : ∀ sendFn, op ≠ .init sendFn .ungatedTestingOnly := fun sendFn same =>
      production sendFn (List.mem_cons.mpr (.inl same.symm))
    have later := ih (edgeNodeStep_gated here gated) (edgeNodeStep_balanced op gated before)
      fun sendFn member => production sendFn (List.mem_cons_of_mem _ member)
    rwa [Nat.add_assoc, Nat.add_comm 1] at later

/-- In every run of a node that is never initialised for ungated tests, bytes are handed to the send function only by an
authenticated node with a configuration, and are the frame of its reading; the counters add up, and do so as numbers
below 2³² calls. -/
theorem edge_pipeline (ops : List EdgeNodeOp) (production : ∀ sendFn, .init sendFn .ungatedTestingOnly ∉ ops) :
    (∀ (n : Nat) cycle report bytes, ops[n]? = some (.readAndSend cycle) →
      (outputs edgeNodeStep {} ops)[n]? = some (some report) → report.handed = some bytes → cycle.Sends bytes) ∧
    let stats := (finalState edgeNodeStep {} ops).stats
    stats.readsTotal = stats.readsValid + stats.readsInvalid ∧
      stats.readsValid = stats.framesSent + stats.framesFailed ∧
      (ops.length < 2 ^ 32 → stats.readsTotal.toNat = stats.readsValid.toNat + stats.readsInvalid.toNat ∧
        stats.readsValid.toNat = stats.framesSent.toNat + stats.framesFailed.toNat) := by
  constructor
  · intro n cycle report bytes called answered handed
    obtain ⟨gated, -⟩ := edgeNode_run (s := {}) rfl (EdgeNodeStats.balanced_zero 0) (ops.take n)
      fun sendFn member => production sendFn (List.mem_of_mem_take member)
    rw [getElem?_outputs, called] at answered
    obtain rfl := Option.some.inj (Option.some.inj answered)
    have call := edgeNodeReadAndSend_call gated cycle
    rw [handed] at call
    generalize (edgeNodeReadAndSend (finalState edgeNodeStep {} (ops.take n)) cycle).1 = after at call
    cases call with
    | accepted _ _ allowed => exact allowed bytes rfl
  · obtain ⟨-, balanced⟩ := edgeNode_run (s := {}) rfl (EdgeNodeStats.balanced_zero 0) ops production
    rw [Nat.zero_add] at balanced
    exact ⟨balanced.reads, balanced.frames, balanced.toNat⟩

/-- An authenticated node reads 21.5 degrees. -/
def warmRoom : EdgeCycle :=
  { auth := { nodeId := 5, preSharedKey := Vector.replicate 32 7, keySet := true, state := .authenticated }
    config :=
      { config :=
          { nodeId := 5, activeDriver := .i2c, metricId := 3
            driverConfig := { pinOrAddr := 0, scaleFactor := ⟨0x3F800000⟩, offset := ⟨0⟩, sampleCount := 1 }
            gwDestAddr := 1, valid := true }
        initialised := true }
    mocks :=
      { distanceCm := ⟨0⟩, distanceFault := false, adcRaw := ⟨0⟩, adcFault := false, i2cTempC := ⟨0x41AC0000⟩
        i2cFault := false }
    send := fun _ => true
    frame := ⟨0, 0, 0, Vector.replicate 128 0⟩ }

def warmRoomRun : List EdgeNodeOp := [.init true .context, .readAndSend warmRoom]

theorem edge_pipeline_warm_room :
    warmRoom.Sends [0xAA, 1, 5, 6, 5, 3, 0, 0, 0xAC, 0x41, 0x3A, 0x58] ∧
      (let stats := (finalState edgeNodeStep {} warmRoomRun).stats
      stats.readsTotal.toNat = stats.readsValid.toNat + stats.readsInvalid.toNat ∧
        stats.readsValid.toNat = stats.framesSent.toNat + stats.framesFailed.toNat) := by
  obtain ⟨sends, -, -, counted⟩ := edge_pipeline warmRoomRun (by simp [warmRoomRun])
  refine ⟨sends 1 warmRoom (edgeNodeReadAndSend (edgeNodeInit true .context) warmRoom).2 _ rfl rfl ?_, counted (by decide)⟩
  decide +kernel

end IotPlatform
