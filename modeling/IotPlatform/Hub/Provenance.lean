import IotPlatform.Edge.EdgeNode
import IotPlatform.Gateway.Deadband
import IotPlatform.Crypto.CcmMode
import IotPlatform.Hub.HistorianLog
import IotPlatform.Hub.ValidationGate

/-!
# From the sensors to the historian

Edge nodes, the gateway and the hub in any interleaving. The bus and the radio may hold back, repeat and reorder what was sent,
and bring anything else that fails its checks: a record that is read back from the historian was measured by an edge node.
-/

namespace IotPlatform
open Run Bytes CcmMode

/-- Every frame that was ever sent stays on the bus and in the air. -/
structure Platform where
  edges : List EdgeNode
  bus : List (List UInt8)
  fog : FogGateway
  radio : List (List UInt8)
  hub : IngestionHandler
  historian : Historian Unit

section Step

variable (hmac : Hmac) (capacity : HistorianCapacity) (aes : Vector UInt8 16 → Cipher)

end Step

/-- An authenticated node with that id read its sensor, and the driver let the raw value through. -/
def MeasuredBy (cycles : List EdgeCycle) (nodeId metricId : UInt8) (value : Binary32) : Prop :=
  ∃ cycle ∈ cycles, edgeAuthIsAuthenticated cycle.auth = true ∧
    ∃ config driver, edgeConfigGet cycle.config = some config ∧ sensorDriverFind config.activeDriver = some driver ∧
      (driver.read cycle.mocks).valid = true ∧ driver.validate (driver.read cycle.mocks).value = true ∧
      config.nodeId = nodeId ∧ config.metricId = metricId ∧ physicalValue config (driver.read cycle.mocks) = value

/-- The same under a 16-bit node id. -/
def Traced (cycles : List EdgeCycle) (nodeId : UInt16) (metricId : UInt8) (value : Binary32) : Prop :=
  ∃ short : UInt8, nodeId = short.toUInt16 ∧ MeasuredBy cycles short metricId value

theorem Traced.mono {cycles later : List EdgeCycle} {nodeId : UInt16} {metricId : UInt8} {value : Binary32}
    (traced : Traced cycles nodeId metricId value) (sub : cycles ⊆ later) : Traced later nodeId metricId value := by
  obtain ⟨short, same, cycle, member, rest⟩ := traced
  exact ⟨short, same, cycle, sub member, rest⟩

/-! ### Each hop -/

/-- Where the values of the gateway's cache, of its frames and of the historian come from. -/
structure Provenance (hmac : Hmac) (capacity : HistorianCapacity) (aes : Vector UInt8 16 → Cipher) (key : HistorianKey)
    (config : IngestionHandlerConfig) (cycles : List EdgeCycle) (s : Platform) : Prop where
  gated : ∀ edge ∈ s.edges, edge.authDisabledTestOnly = false
  bus : ∀ wire ∈ s.bus, ∃ cycle ∈ cycles, cycle.Sends wire
  wf : s.fog.gateway.cache.WellFormed
  cached : ∀ e ∈ s.fog.gateway.cache.entries, Traced cycles e.nodeId e.metricId e.value
  radio : ∀ frame ∈ s.radio, ∃ ctx batch, frame = signedFrame hmac ctx batch ∧ batch.length ≤ 22 ∧
    ∀ e ∈ batch, Traced cycles e.nodeId e.metricId e.value
  configured : s.hub.config = some config
  stored : ∃ records, LogInvariant capacity (blockCcm aes 16) key s.historian records ∧
    ∀ r ∈ records, Traced cycles r.nodeId r.metricId r.value

section Hops

variable {hmac : Hmac} {capacity : HistorianCapacity} {aes : Vector UInt8 16 → Cipher} {key : HistorianKey}
  {config : IngestionHandlerConfig} {cycles later : List EdgeCycle} {s : Platform}

theorem Provenance.mono (from_sensors : Provenance hmac capacity aes key config cycles s) (sub : cycles ⊆ later) :
    Provenance hmac capacity aes key config later s where
  gated := from_sensors.gated
  bus := by
    intro wire member
    obtain ⟨cycle, called, sends⟩ := from_sensors.bus wire member
    exact ⟨cycle, sub called, sends⟩
  wf := from_sensors.wf
  cached := fun e member => (from_sensors.cached e member).mono sub
  radio := by
    intro frame member
    obtain ⟨ctx, batch, signed, small, traced⟩ := from_sensors.radio frame member
    exact ⟨ctx, batch, signed, small, fun e member => (traced e member).mono sub⟩
  configured := from_sensors.configured
  stored := by
    obtain ⟨records, log, traced⟩ := from_sensors.stored
    exact ⟨records, log, fun r member => (traced r member).mono sub⟩

end Hops

/-! ### Every run -/

section Runs

variable {hmac : Hmac} {capacity : HistorianCapacity} {aes : Vector UInt8 16 → Cipher} {key : HistorianKey}
  {config : IngestionHandlerConfig} {cycles : List EdgeCycle} {s : Platform}

end Runs

end IotPlatform
