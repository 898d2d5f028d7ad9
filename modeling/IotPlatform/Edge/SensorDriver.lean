import IotPlatform.Lib.Binary32

/-!
# Sensor drivers

`sensor_driver.c`: the registry of an edge node. The hardware is the module's mock state, which a test sets to any value.
-/

namespace IotPlatform

/-- `typeCount` stands for every number that is no type of a driver. -/
inductive SensorType where
  | distance | analog | i2c | typeCount
  deriving DecidableEq, Repr

structure SensorConfig where
  pinOrAddr : UInt8
  scaleFactor : Binary32
  offset : Binary32
  sampleCount : UInt8
  deriving DecidableEq

structure SensorDriverReading where
  value : Binary32
  valid : Bool
  deriving DecidableEq

/-- The `g_mock_` statics that a driver reads. -/
structure SensorMocks where
  distanceCm : Binary32
  distanceFault : Bool
  adcRaw : Binary32
  adcFault : Bool
  i2cTempC : Binary32
  i2cFault : Bool

structure SensorDriver where
  type : SensorType
  read : SensorMocks → SensorDriverReading
  validate : Binary32 → Bool

/-- `raw_value >= low && raw_value <= high`. -/
def rawWithin (low high : ℚ) (rawValue : Binary32) : Bool :=
  FloatOps.le (FloatOps.ofRat low) rawValue && FloatOps.le rawValue (FloatOps.ofRat high)

def distanceDriver : SensorDriver :=
  { type := .distance
    read := fun mocks => { value := mocks.distanceCm, valid := !mocks.distanceFault }
    validate := rawWithin 2 400 }

def analogDriver : SensorDriver :=
  { type := .analog
    read := fun mocks => { value := mocks.adcRaw, valid := !mocks.adcFault }
    validate := rawWithin 0 4095 }

def i2cDriver : SensorDriver :=
  { type := .i2c
    read := fun mocks => { value := mocks.i2cTempC, valid := !mocks.i2cFault }
    validate := rawWithin (-40) 125 }

def sensorDriverRegistry : List SensorDriver := [distanceDriver, analogDriver, i2cDriver]

def sensorDriverFind (type : SensorType) : Option SensorDriver := sensorDriverRegistry.find? (·.type == type)

/-- No driver lets a value through that is not a number. -/
theorem validate_number {driver : SensorDriver} (registered : driver ∈ sensorDriverRegistry) {rawValue : Binary32}
    (accepted : driver.validate rawValue = true) : rawValue.isNaN = false := by
  have within : ∃ low high, rawWithin low high rawValue = true := by
    simp only [sensorDriverRegistry, List.mem_cons, List.not_mem_nil, or_false] at registered
    rcases registered with rfl | rfl | rfl
    · exact ⟨2, 400, accepted⟩
    · exact ⟨0, 4095, accepted⟩
    · exact ⟨-40, 125, accepted⟩
  obtain ⟨low, high, both⟩ := within
  exact (Binary32.le_iff.mp (Bool.and_eq_true_iff.mp both).1).2.1

end IotPlatform
