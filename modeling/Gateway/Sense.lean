import Mathlib.Tactic

/-!
# `sense.h`: sensor frames

The record that the daemons pass along: `processingd` builds it from a packet, `loggingd` and
`telemetryd` receive it over message queues.

An enumeration object of C can hold any value of its underlying type, and the program does make
one that is no enumerator: a zero-initialised `Sensor_t` has type `0`.  `SensorType` therefore has,
beside the five enumerators, the remaining 32 bit values.  The union `SensorData_u` is its twelve
bytes, read as three words; each member of the union names some of them.
-/

namespace Gateway

def sensorsLimitMax : ℕ := 128
def sensorNameSize : ℕ := 13
def sensorInactiveSecsMax : ℕ := 30

/-- `struct timespec`. -/
structure Timespec where
  tvSec : ℤ
  tvNsec : ℤ
  deriving DecidableEq

/-! ### Scale factors -/

def temperatureScale : ℕ := 10
def pressureScale : ℕ := 100
def voltageScale : ℕ := 100
def currentScale : ℕ := 100
def powerScale : ℕ := 10
def torqueScale : ℕ := 10
def proximityScale : ℕ := 10

/-! ### Enumerations -/

/-- `SensorType_e`: the enumerators, and the values of the underlying type that are none. -/
inductive SensorType
  | tempPress
  | powCurrVolt
  | torque
  | proximity
  | unsupported
  | unnamed (value : UInt32) (h : value ∉ [(0x1B : UInt32), 0x2B, 0x4B, 0x8B, 0x8C])
  deriving DecidableEq

/-- The number behind a sensor type. -/
def SensorType.value : SensorType → UInt32
  | .tempPress => 0x1B
  | .powCurrVolt => 0x2B
  | .torque => 0x4B
  | .proximity => 0x8B
  | .unsupported => 0x8C
  | .unnamed value _ => value

/-- The types of sensors that exist. -/
def SensorType.Supported (type : SensorType) : Prop :=
  type ∈ [.tempPress, .powCurrVolt, .torque, .proximity]

instance (type : SensorType) : Decidable type.Supported := inferInstanceAs (Decidable (_ ∈ _))

/-- `SensorState_e`. -/
inductive SensorState
  | frameDefault
  | offline
  | online
  deriving DecidableEq

/-- `SensorFrameType_e`. -/
inductive SensorFrameType
  | heartbeat
  | data
  deriving DecidableEq

/-! ### Measurements -/

/-- `SensorData_u`: the twelve bytes of the union as three little-endian words. -/
@[ext]
structure SensorData where
  word₀ : UInt32
  word₁ : UInt32
  word₂ : UInt32
  deriving DecidableEq

namespace SensorData

def power (d : SensorData) : Int32 := d.word₀.toInt32
def current (d : SensorData) : Int32 := d.word₁.toInt32
def voltage (d : SensorData) : Int32 := d.word₂.toInt32
def temperature (d : SensorData) : Int32 := d.word₀.toInt32
def pressure (d : SensorData) : UInt32 := d.word₁
def torque (d : SensorData) : Int32 := d.word₀.toInt32
def proximity (d : SensorData) : UInt32 := d.word₀

end SensorData

/-- `Sensor_t`. The name is the C string in `name[SENSOR_NAME_SIZE]`. -/
@[ext]
structure Sensor where
  data : SensorData
  timestamp : Timespec
  lastSeenTime : Timespec
  id : UInt16
  name : List Char
  type : SensorType
  state : SensorState
  frameType : SensorFrameType
  deriving DecidableEq

/-- The pair under which the registry knows a sensor. -/
structure SensorKey where
  id : UInt16
  type : SensorType
  deriving DecidableEq

namespace Sensor

/-- `Sensor_t s = {0}`. -/
def zero : Sensor where
  data := ⟨0, 0, 0⟩
  timestamp := ⟨0, 0⟩
  lastSeenTime := ⟨0, 0⟩
  id := 0
  name := []
  type := .unnamed 0 (by decide)
  state := .frameDefault
  frameType := .heartbeat

def key (s : Sensor) : SensorKey := ⟨s.id, s.type⟩

end Sensor

end Gateway
