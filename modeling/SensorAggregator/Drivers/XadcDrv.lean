import SensorAggregator.Base.Decimal
import SensorAggregator.Datalog.SensorRecord

/-!
# The XADC's codes

Models the reads of `drivers/xadc_drv.c`, its table of sensors, and `xadc_drv_code_to_milli`. The
sensor is one of those in the table, so the checks against `XADC_SENSOR_COUNT` are not modelled.
-/

namespace SensorAggregator.Drivers

open Base.Decimal

/-- `XADC_CODE_FULL_SCALE`, `xadc_drv.c:26`. -/
def xadcCodeFullScale : UInt32 := 4096

/-- `XADC_TEMP_GAIN_MILLI`, `xadc_drv.c:34`. -/
def xadcTempGainMilli : UInt32 := 503975

/-- `XADC_TEMP_OFFSET_MILLI`, `xadc_drv.c:35`. -/
def xadcTempOffsetMilli : Int32 := 273150

/-- `XADC_SUPPLY_FS_MV`, `xadc_drv.c:36`. -/
def xadcSupplyFsMv : UInt32 := 3000

/-- `xadc_drv_is_temperature`, `xadc_drv.c:209–212`. -/
def xadcDrvIsTemperature : XadcSensor → Bool
  | .dieTemp => true
  | _ => false

/-- `scaled`, `xadc_drv.c:201` and `xadc_drv.c:205`. -/
def xadcScaled (rawCode : UInt16) (gain : UInt32) : UInt32 :=
  (rawCode.toUInt32 * gain + xadcCodeFullScale / 2) / xadcCodeFullScale

/-- `xadc_drv_code_to_milli`, `xadc_drv.c:189–207`. -/
def xadcDrvCodeToMilli (sensor : XadcSensor) (rawCode : UInt16) : Int32 :=
  if xadcDrvIsTemperature sensor then
    (xadcScaled rawCode xadcTempGainMilli).toInt32 - xadcTempOffsetMilli
  else (xadcScaled rawCode xadcSupplyFsMv).toInt32

/-- `xadc_drv_sensor_name`, `xadc_drv.c:56–64,214–217`. -/
def xadcDrvSensorName : XadcSensor → List Char
  | .dieTemp => "Die temp".toList
  | .vccint => "VCCINT".toList
  | .vccaux => "VCCAUX".toList
  | .vccbram => "VCCBRAM".toList
  | .vccpint => "VCCPINT".toList
  | .vccpaux => "VCCPAUX".toList
  | .vccoDdr => "VCCO_DDR".toList

/-- `xadc_drv_sensor_unit`, `xadc_drv.c:219–222`. -/
def xadcDrvSensorUnit (sensor : XadcSensor) : List Char :=
  if xadcDrvIsTemperature sensor then "C".toList else "V".toList

/-- `xadc_drv_status_t`, `xadc_drv.h:29–36`. -/
inductive XadcDrvStatus where
  | ok
  | errLookup
  | errInit
  | errSelftest
  | errSeqConfig
  deriving DecidableEq, Repr

/-- What the Xilinx driver answers in `xadc_drv_init`. -/
structure XadcSetup where
  configFound : Bool
  initialised : Bool
  selfTestPassed : Bool
  seqAvgEnabled : Bool
  seqChEnabled : Bool

/-- `xadc_drv_init`, `xadc_drv.c:70–137`: `s_xadc_ready` afterwards, and the status. -/
def xadcDrvInit (setup : XadcSetup) : Bool × XadcDrvStatus :=
  if !setup.configFound then (false, .errLookup)
  else if !setup.initialised then (false, .errInit)
  else if !setup.selfTestPassed then (false, .errSelftest)
  else if !setup.seqAvgEnabled then (false, .errSeqConfig)
  else if !setup.seqChEnabled then (false, .errSeqConfig)
  else (true, .ok)

/-- `XADC_RESULT_SHIFT`, `xadc_drv.c:25`. -/
def xadcResultShift : UInt16 := 4

/-- `xadc_drv_read_raw`, `xadc_drv.c:139–147`. `getAdcData` is what `XAdcPs_GetAdcData` returns for
the channel of a sensor. -/
def xadcDrvReadRaw (ready : Bool) (getAdcData : XadcSensor → UInt16) (sensor : XadcSensor) :
    UInt16 :=
  if !ready then 0 else getAdcData sensor >>> xadcResultShift

/-- `xadc_drv_read_all`, `xadc_drv.c:149–167`. -/
def xadcDrvReadAll (ready : Bool) (getAdcData : XadcSensor → UInt16) : XadcSample :=
  ⟨xadcDrvReadRaw ready getAdcData⟩

/-- A code has 12 bits. -/
theorem toNat_xadcDrvReadRaw_lt (ready : Bool) (getAdcData : XadcSensor → UInt16)
    (sensor : XadcSensor) : (xadcDrvReadRaw ready getAdcData sensor).toNat < 4096 := by
  rw [xadcDrvReadRaw]
  split
  · decide
  · have hshift : (getAdcData sensor >>> xadcResultShift).toNat =
        (getAdcData sensor).toNat >>> 4 := UInt16.toNat_shiftRight ..
    have hlt := (getAdcData sensor).toNat_lt
    rw [hshift, Nat.shiftRight_eq_div_pow]
    omega

/-- The transfer functions of `xadc_drv.c:29–31`, in thousandths of a unit. -/
def transferMilli (sensor : XadcSensor) (rawCode : UInt16) : ℚ :=
  if xadcDrvIsTemperature sensor then rawCode.toNat * 503975 / 4096 - 273150
  else rawCode.toNat * 3000 / 4096

private theorem toNat_xadcScaled {rawCode : UInt16} {gain : UInt32} (hcode : rawCode.toNat < 4096)
    (hgain : gain.toNat ≤ 503975) :
    (xadcScaled rawCode gain).toNat = (rawCode.toNat * gain.toNat + 4096 / 2) / 4096 := by
  have hproduct : rawCode.toNat * gain.toNat ≤ 4095 * 503975 :=
    Nat.mul_le_mul (by omega) hgain
  have hmul : (rawCode.toUInt32 * gain).toNat = rawCode.toNat * gain.toNat := by
    rw [UInt32.toNat_mul, UInt16.toNat_toUInt32]
    apply Nat.mod_eq_of_lt
    omega
  have hsum : (rawCode.toUInt32 * gain + xadcCodeFullScale / 2).toNat =
      rawCode.toNat * gain.toNat + 4096 / 2 := by
    rw [UInt32.toNat_add, hmul]
    apply Nat.mod_eq_of_lt
    show rawCode.toNat * gain.toNat + 4096 / 2 < 2 ^ 32
    omega
  rw [xadcScaled, UInt32.toNat_div, hsum]
  rfl

/-- A scaled code is the exact product rounded. -/
theorem rounds_xadcScaled {rawCode : UInt16} {gain : UInt32} (hcode : rawCode.toNat < 4096)
    (hgain : gain.toNat ≤ 503975) :
    RoundsHalfAway 0 (rawCode.toNat * gain.toNat / 4096) (xadcScaled rawCode gain).toNat := by
  have hrounds := RoundsHalfAway.of_half_up 0 (by decide) (toNat_xadcScaled hcode hgain)
  simpa using hrounds

private theorem toInt_xadcScaled {rawCode : UInt16} {gain : UInt32} (hcode : rawCode.toNat < 4096)
    (hgain : gain.toNat ≤ 503975) :
    (xadcScaled rawCode gain).toInt32.toInt = (xadcScaled rawCode gain).toNat := by
  have hproduct : rawCode.toNat * gain.toNat ≤ 4095 * 503975 :=
    Nat.mul_le_mul (by omega) hgain
  have hscaled := toNat_xadcScaled hcode hgain
  apply BitVec.toInt_eq_toNat_of_lt
  show 2 * (xadcScaled rawCode gain).toNat < 2 ^ 32
  omega

private theorem toInt_sub_offset (scaled : Int32) (h : 0 ≤ scaled.toInt) :
    (scaled - xadcTempOffsetMilli).toInt = scaled.toInt - 273150 := by
  have hoffset : xadcTempOffsetMilli.toInt = 273150 := rfl
  have hmax := scaled.toInt_lt
  rw [Int32.toInt_sub, hoffset]
  apply Int.bmod_eq_of_le
  · omega
  · omega

/-- Every 12-bit code is converted to within half a thousandth of the transfer function. -/
theorem xadcDrvCodeToMilli_near (sensor : XadcSensor) {rawCode : UInt16}
    (hcode : rawCode.toNat < 4096) :
    |((xadcDrvCodeToMilli sensor rawCode).toInt : ℚ) - transferMilli sensor rawCode| ≤ 1 / 2 := by
  rw [xadcDrvCodeToMilli, transferMilli]
  cases xadcDrvIsTemperature sensor with
  | true =>
    have hgain : xadcTempGainMilli.toNat ≤ 503975 := le_rfl
    have hnear := (rounds_xadcScaled hcode hgain).near
    have hoffset := toInt_sub_offset (xadcScaled rawCode xadcTempGainMilli).toInt32
    rw [toInt_xadcScaled hcode hgain] at hoffset
    rw [if_pos rfl, if_pos rfl, hoffset (Int.natCast_nonneg _), Int.cast_sub, Int.cast_ofNat,
      sub_sub_sub_cancel_right]
    simpa [xadcTempGainMilli] using hnear
  | false =>
    have hgain : xadcSupplyFsMv.toNat ≤ 503975 := by decide
    have hnear := (rounds_xadcScaled hcode hgain).near
    rw [if_neg Bool.false_ne_true, if_neg Bool.false_ne_true, toInt_xadcScaled hcode hgain]
    simpa [xadcSupplyFsMv] using hnear

/-- A greater code is never converted to less. -/
theorem xadcDrvCodeToMilli_mono (sensor : XadcSensor) {code code' : UInt16} (hle : code ≤ code')
    (hcode : code'.toNat < 4096) :
    (xadcDrvCodeToMilli sensor code).toInt ≤ (xadcDrvCodeToMilli sensor code').toInt := by
  have hnat : code.toNat ≤ code'.toNat := UInt16.le_iff_toNat_le.mp hle
  have hscaled : ∀ {gain : UInt32}, gain.toNat ≤ 503975 →
      (xadcScaled code gain).toInt32.toInt ≤ (xadcScaled code' gain).toInt32.toInt := by
    intro gain hgain
    have hmul := Nat.mul_le_mul_right gain.toNat hnat
    rw [toInt_xadcScaled (by omega) hgain, toInt_xadcScaled hcode hgain,
      toNat_xadcScaled (by omega) hgain, toNat_xadcScaled hcode hgain]
    omega
  rw [xadcDrvCodeToMilli, xadcDrvCodeToMilli]
  cases xadcDrvIsTemperature sensor with
  | true =>
    have hgain : xadcTempGainMilli.toNat ≤ 503975 := Nat.le_refl _
    have hle := hscaled hgain
    have hpos : ∀ {code : UInt16}, code.toNat < 4096 →
        0 ≤ (xadcScaled code xadcTempGainMilli).toInt32.toInt := by
      intro code hcode
      rw [toInt_xadcScaled hcode hgain]
      omega
    rw [if_pos rfl, if_pos rfl, toInt_sub_offset _ (hpos (by omega)),
      toInt_sub_offset _ (hpos hcode)]
    omega
  | false =>
    rw [if_neg Bool.false_ne_true, if_neg Bool.false_ne_true]
    exact hscaled (by decide)

end SensorAggregator.Drivers
