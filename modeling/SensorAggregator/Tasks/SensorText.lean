import SensorAggregator.Console.FmtMilli
import SensorAggregator.Drivers.XadcDrv

/-!
# Sensor values as the consumer prints them

Models `consumer_fmt_sensor` of `tasks/task_consumer.c`, and bounds how far the number is from what
the XADC's transfer function makes of the code.
-/

namespace SensorAggregator.Tasks

open Base.Decimal
open Console
open Drivers

/-- `CONSUMER_NUM_BUF_LEN`, `task_consumer.c:24`. -/
def consumerNumBufLen : ℕ := 16

/-- `decimals` of `consumer_fmt_sensor`, `task_consumer.c:57`. -/
def sensorDecimals (sensor : XadcSensor) : UInt32 :=
  if xadcDrvIsTemperature sensor then 2 else 3

/-- `consumer_fmt_sensor`, `task_consumer.c:55–60`. -/
def consumerFmtSensor (buf : Option (List Char)) (sensor : XadcSensor) (rawCode : UInt16) :
    Option (List Char) × List Char :=
  consoleFmtMilli buf consumerNumBufLen (xadcDrvCodeToMilli sensor rawCode) (sensorDecimals sensor)

private theorem sensorDecimals_le (sensor : XadcSensor) : (sensorDecimals sensor).toNat ≤ 3 := by
  rw [sensorDecimals]
  split <;> decide

/-- The numeral that is printed for a code. -/
def sensorNumeral (sensor : XadcSensor) (rawCode : UInt16) : Numeral :=
  numeral (xadcDrvCodeToMilli sensor rawCode) (limitDecimals (sensorDecimals sensor))

/-- Whatever the buffer held, it is that numeral. -/
theorem consumerFmtSensor_text (chars : List Char) (sensor : XadcSensor) (rawCode : UInt16) :
    (consumerFmtSensor (some chars) sensor rawCode).2 = (sensorNumeral sensor rawCode).toChars := by
  rw [consumerFmtSensor, consoleFmtMilli_full chars (by decide)]
  exact fmtMilliText_eq _ _

/-- The numeral is the value rounded. -/
theorem rounds_sensorNumeral (sensor : XadcSensor) (rawCode : UInt16) :
    RoundsHalfAway (sensorDecimals sensor).toNat
      ((xadcDrvCodeToMilli sensor rawCode).toInt / 1000) (sensorNumeral sensor rawCode).value := by
  have hrounds := rounds_numeral (xadcDrvCodeToMilli sensor rawCode)
    (limitDecimals (sensorDecimals sensor))
  rwa [toNat_limitDecimals, Nat.min_eq_left (sensorDecimals_le sensor)] at hrounds

/-- It never takes more than twelve characters. -/
theorem length_sensorNumeral (sensor : XadcSensor) (rawCode : UInt16) :
    (sensorNumeral sensor rawCode).toChars.length ≤ 12 := by
  rw [sensorNumeral, ← fmtMilliText_eq]
  exact length_fmtMilliText_le _ _

/-- A 12-bit code stands for a value within half a thousandth of the transfer function. -/
theorem codeToMilli_div_near (sensor : XadcSensor) {rawCode : UInt16}
    (hcode : rawCode.toNat < 4096) :
    |((xadcDrvCodeToMilli sensor rawCode).toInt : ℚ) / 1000 - transferMilli sensor rawCode / 1000| ≤
      1 / 2000 := by
  have hnear := xadcDrvCodeToMilli_near sensor hcode
  rw [← sub_div, abs_div, abs_of_pos (by norm_num : (0 : ℚ) < 1000), div_le_iff₀ (by norm_num)]
  exact hnear.trans (by norm_num)

end SensorAggregator.Tasks
