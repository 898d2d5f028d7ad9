import IotPlatform.Edge.SensorDriver

/-!
# The configuration of an edge node

`edge_config.c`. The storage backend is a pair of optional callbacks on a medium, whose state they take and return.
-/

namespace IotPlatform

structure EdgeNodeConfig where
  nodeId : UInt8
  activeDriver : SensorType
  metricId : UInt8
  driverConfig : SensorConfig
  gwDestAddr : UInt8
  valid : Bool
  deriving DecidableEq

/-- A record cleared by `memset`. -/
def edgeNodeConfigZero : EdgeNodeConfig :=
  { nodeId := 0, activeDriver := .distance, metricId := 0
    driverConfig := { pinOrAddr := 0, scaleFactor := ⟨0⟩, offset := ⟨0⟩, sampleCount := 0 }
    gwDestAddr := 0, valid := false }

structure EdgeConfigStorage (M : Type) where
  save : Option (M → EdgeNodeConfig → M × Bool)
  load : Option (M → Option EdgeNodeConfig)

inductive EdgeConfigResult where
  | ok | errNotProvisioned | errDriverNotFound | errDriverInitFail | errParamNull | errStorage
  deriving DecidableEq, Repr

/-- `s_config` and `s_initialised`; the storage is an argument of the functions that use it. -/
structure EdgeConfig where
  config : EdgeNodeConfig := edgeNodeConfigZero
  initialised : Bool := false

variable {M : Type}

def edgeConfigInit (storage : Option (EdgeConfigStorage M)) (medium : M) : EdgeConfig :=
  match storage.bind EdgeConfigStorage.load with
  | none => { initialised := true }
  | some load =>
    match load medium with
    | none => { initialised := true }
    | some loaded => if loaded.valid then { config := loaded, initialised := true } else { initialised := true }

def edgeConfigGet (s : EdgeConfig) : Option EdgeNodeConfig :=
  if !s.initialised then none else if !s.config.valid then none else some s.config

def edgeConfigSet (storage : Option (EdgeConfigStorage M)) (medium : M) (s : EdgeConfig) (config : EdgeNodeConfig) :
    EdgeConfig × M × EdgeConfigResult :=
  if !s.initialised then (s, medium, .errStorage)
  else if (sensorDriverFind config.activeDriver).isNone then (s, medium, .errDriverNotFound)
  else
    let s : EdgeConfig := { s with config := { config with valid := true } }
    match storage.bind EdgeConfigStorage.save with
    | none => (s, medium, .ok)
    | some save =>
      let (medium, saved) := save medium s.config
      (s, medium, if saved then .ok else .errStorage)

end IotPlatform
