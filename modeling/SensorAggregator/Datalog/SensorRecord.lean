import Mathlib.Data.Nat.Notation

/-!
# One sample on its way from the producer to the consumer

Models `datalog/sensor_record.h` and the sample type of `drivers/xadc_drv.h`.
-/

namespace SensorAggregator

/-- `xadc_sensor_t`, `xadc_drv.h:38–48`. -/
inductive XadcSensor where
  | dieTemp
  | vccint
  | vccaux
  | vccbram
  | vccpint
  | vccpaux
  | vccoDdr
  deriving DecidableEq, Repr

/-- The sensors in the order of their numbers, `0U .. XADC_SENSOR_COUNT - 1`. -/
def XadcSensor.all : List XadcSensor :=
  [dieTemp, vccint, vccaux, vccbram, vccpint, vccpaux, vccoDdr]

/-- The list names every sensor. -/
theorem XadcSensor.mem_all (sensor : XadcSensor) : sensor ∈ XadcSensor.all := by
  cases sensor <;> decide

/-- `xadc_sample_t`, `xadc_drv.h:51–54`. -/
structure XadcSample where
  rawCode : XadcSensor → UInt16

namespace Datalog

/-- `sensor_record_t`, `sensor_record.h:20–26`. -/
structure SensorRecord where
  captureUs : UInt64
  seq : UInt32
  sensors : XadcSample
  buttons : UInt8

end Datalog
end SensorAggregator
