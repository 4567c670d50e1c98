import SensorAggregator.Base.Template
import SensorAggregator.Console.Printf
import SensorAggregator.Datalog.SensorRecord
import SensorAggregator.Drivers.GpioDrv
import SensorAggregator.Tasks.SensorText

/-!
# The sample line

Models the line that `consumer_print_sample_line` of `tasks/task_consumer.c` prints for a record,
and the button bits that `producer_read_buttons` of `tasks/task_producer.c` puts into one. The line
is read back from the terminal against its own layout.
-/

namespace SensorAggregator.Tasks

open Base Base.Columns Base.Decimal
open Console
open Datalog
open Drivers

/-- The number of a button, `gpio_drv.h:37–42`. -/
def btnNumber : GpioBtnId → UInt32
  | .btn4 => 0
  | .btn5 => 1

/-- `SENSOR_BTN_BIT`, `sensor_record.h:18`. -/
def sensorBtnBit (btn : GpioBtnId) : UInt32 := 1 <<< btnNumber btn

/-- `producer_read_buttons`, `task_producer.c:51–65`. -/
def producerReadButtons (gpio : GpioDrv) : UInt8 :=
  GpioBtnId.all.foldl (fun buttonBits btn ↦
    if gpio.btnIsDown btn then buttonBits ||| (sensorBtnBit btn).toUInt8 else buttonBits) 0

/-- `consumer_btn_level`, `task_consumer.c:62–65`. -/
def consumerBtnLevel (record : SensorRecord) (btn : GpioBtnId) : UInt32 :=
  if record.buttons.toUInt32 &&& sensorBtnBit btn ≠ 0 then 1 else 0

/-- What `snprintf` writes for `%*lu`. -/
def fmtRightLu (width : ℕ) (value : UInt32) : List Char := List.leftpad width ' ' (fmtLu value)

/-- What `snprintf` writes for `%-*lu`. -/
def fmtLeftLu (width : ℕ) (value : UInt32) : List Char := List.rightpad width ' ' (fmtLu value)

/-- The text of `consumer_print_time_prefix`, `task_consumer.c:47–52`. -/
def timePrefix (timeUs : UInt64) : List Char :=
  let timeMs := timeUs / 1000
  "[".toList ++ fmtRightLu 6 (timeMs / 1000).toUInt32 ++ ".".toList ++
    fmtZeroLu 3 (timeMs % 1000).toUInt32 ++ "] ".toList

/-- `consumer_print_time_prefix`, `task_consumer.c:47–52`. -/
def consumerPrintTimePrefix (fmtBuf : List Char) (timeUs : UInt64) : List Char × List Char :=
  consolePrintf fmtBuf (some (timePrefix timeUs))

/-- `temp_str`, `vccint_str` and `vccpint_str`, `task_consumer.c:143–145`, as the stack has them. -/
structure NumBuffers where
  tempStr : List Char
  vccintStr : List Char
  vccpintStr : List Char

/-- The arguments of the two calls of `console_printf` for a line, `task_consumer.c:51,148–154`. -/
structure SampleArgs where
  timeUs : UInt64
  seq : UInt32
  temp : List Char
  vccint : List Char
  vccpint : List Char
  btn4 : UInt32
  btn5 : UInt32

/-- Those of a record. -/
def sampleArgs (bufs : NumBuffers) (record : SensorRecord) : SampleArgs where
  timeUs := record.captureUs
  seq := record.seq
  temp := (consumerFmtSensor (some bufs.tempStr) .dieTemp (record.sensors.rawCode .dieTemp)).2
  vccint := (consumerFmtSensor (some bufs.vccintStr) .vccint (record.sensors.rawCode .vccint)).2
  vccpint :=
    (consumerFmtSensor (some bufs.vccpintStr) .vccpint (record.sensors.rawCode .vccpint)).2
  btn4 := consumerBtnLevel record .btn4
  btn5 := consumerBtnLevel record .btn5

/-- The text of `consumer_print_sample_line` after the time, `task_consumer.c:148–154`. -/
def sampleText (args : SampleArgs) : List Char :=
  "#".toList ++ fmtLeftLu 6 args.seq ++ " T ".toList ++ args.temp ++
    " C | VCCINT ".toList ++ args.vccint ++ " V | VCCPINT ".toList ++ args.vccpint ++
    " V | BTN4 ".toList ++ fmtLu args.btn4 ++ " BTN5 ".toList ++ fmtLu args.btn5 ++ "\n".toList

/-- `consumer_print_sample_line`, `task_consumer.c:141–155`. -/
def consumerPrintSampleLine (fmtBuf : List Char) (bufs : NumBuffers) (record : SensorRecord) :
    List Char × List Char :=
  let args := sampleArgs bufs record
  let (fmtBuf, time) := consumerPrintTimePrefix fmtBuf args.timeUs
  let (fmtBuf, line) := consolePrintf fmtBuf (some (sampleText args))
  (fmtBuf, time ++ line)

/-- The layout of a sample line. -/
def sampleTemplate : Template Char where
  head := "[".toList
  tails := ["] #".toList, "T ".toList, " C | VCCINT ".toList, " V | VCCPINT ".toList,
    " V | BTN4 ".toList, " BTN5 ".toList, "\n".toList]

/-- The numbers on a sample line as the terminal shows it: the capture time in seconds, the
sequence number, the temperature, the two supplies, and the two buttons. -/
def readSampleLine (put : List Char) : Option (List ℚ) :=
  (sampleTemplate.read (terminal put)).bind (·.mapM number)

/-- The fields of a line. -/
def sampleFields (args : SampleArgs) : List (List Char) :=
  let timeMs := args.timeUs / 1000
  [fmtRightLu 6 (timeMs / 1000).toUInt32 ++ ".".toList ++ fmtZeroLu 3 (timeMs % 1000).toUInt32,
    fmtLeftLu 6 args.seq ++ " ".toList, args.temp, args.vccint, args.vccpint, fmtLu args.btn4,
    fmtLu args.btn5]

/-- The two calls print the layout with the fields filled in. -/
theorem sampleFields_fill (args : SampleArgs) :
    timePrefix args.timeUs ++ sampleText args = sampleTemplate.fill (sampleFields args) := by
  have hseq : "] ".toList ++ "#".toList = "] #".toList := by decide
  have htemp : " T ".toList = " ".toList ++ "T ".toList := by decide
  unfold timePrefix sampleText Template.fill sampleTemplate sampleFields
  simp only [Template.fillTails, ← hseq, htemp, List.append_assoc, List.append_nil]

/-- The bits of a record are the levels the producer read. -/
theorem consumerBtnLevel_eq {record : SensorRecord} {gpio : GpioDrv}
    (hbuttons : record.buttons = producerReadButtons gpio) (btn : GpioBtnId) :
    consumerBtnLevel record btn = if gpio.btnIsDown btn then 1 else 0 := by
  rw [consumerBtnLevel, hbuttons]
  unfold producerReadButtons
  cases h4 : gpio.btnIsDown .btn4 <;> cases h5 : gpio.btnIsDown .btn5 <;> cases btn <;>
    simp [GpioBtnId.all, h4, h5] <;> decide

private theorem holds_seq (seq : UInt32) :
    Holds (fmtLeftLu 6 seq ++ " ".toList) (.ofScaled false seq.toNat 0) 0
      (0 + (6 - (fmtLu seq).length) + 1) :=
  ((holds_nat seq.toNat).rightpad 6).blank

private theorem holds_sensor (buf : List Char) (sensor : XadcSensor) (rawCode : UInt16) :
    Holds (consumerFmtSensor (some buf) sensor rawCode).2 (sensorNumeral sensor rawCode) 0 0 := by
  rw [consumerFmtSensor_text]
  exact Holds.toChars _

/-- The value of a supply is shown to the last place. -/
theorem value_of_supply {sensor : XadcSensor} (hsupply : xadcDrvIsTemperature sensor = false)
    (rawCode : UInt16) :
    (sensorNumeral sensor rawCode).value = (xadcDrvCodeToMilli sensor rawCode).toInt / 1000 := by
  have hrounds := rounds_sensorNumeral sensor rawCode
  have hplaces : (sensorDecimals sensor).toNat = 3 := by
    rw [sensorDecimals, hsupply]
    rfl
  have hself := RoundsHalfAway.self (xadcDrvCodeToMilli sensor rawCode).toInt 3
  norm_num at hself
  rw [hplaces] at hrounds
  exact hrounds.unique hself

/-- The fields of a record's line are numerals, the padded ones between blanks. -/
structure AreFields (args : SampleArgs) (temp vccint vccpint : Numeral) : Prop where
  temp : Holds args.temp temp 0 0
  vccint : Holds args.vccint vccint 0 0
  vccpint : Holds args.vccpint vccpint 0 0

/-- The number of milliseconds that the time of a line shows. -/
def shownMs (timeUs : UInt64) : ℕ := timeUs.toNat / 1000 % (2 ^ 32 * 1000)

/-- The time of a line as a field. -/
theorem holds_timeUs (timeUs : UInt64) :
    ∃ before, Holds (fmtRightLu 6 (timeUs / 1000 / 1000).toUInt32 ++ ".".toList ++
      fmtZeroLu 3 (timeUs / 1000 % 1000).toUInt32) (.ofScaled false (shownMs timeUs) 3)
      before 0 := by
  have hms : (timeUs / 1000 % 1000).toUInt32.toNat = timeUs.toNat / 1000 % 1000 := by
    rw [UInt64.toNat_toUInt32, UInt64.toNat_mod, UInt64.toNat_div]
    have hlt := Nat.mod_lt (timeUs.toNat / 1000) (show 0 < 1000 by decide)
    exact Nat.mod_eq_of_lt (Nat.lt_trans hlt (by decide))
  have hsec : (timeUs / 1000 / 1000).toUInt32.toNat = timeUs.toNat / 1000 / 1000 % 2 ^ 32 := by
    rw [UInt64.toNat_toUInt32, UInt64.toNat_div, UInt64.toNat_div]
    rfl
  have hshown : (timeUs / 1000 / 1000).toUInt32.toNat * 10 ^ 3 +
      (timeUs / 1000 % 1000).toUInt32.toNat = shownMs timeUs := by
    rw [hsec, hms, shownMs]
    omega
  have hscaled := @holds_scaled (timeUs / 1000 / 1000).toUInt32.toNat _ 3 (by decide)
    (show (timeUs / 1000 % 1000).toUInt32.toNat < 10 ^ 3 by omega)
  rw [hshown] at hscaled
  rw [fmtRightLu, List.leftpad, List.append_assoc, List.append_assoc]
  exact ⟨_, hscaled.behind _⟩

section line

variable {args : SampleArgs} {temp vccint vccpint : Numeral}

/-- Every field fits between the texts around it. -/
theorem AreFields.fits (h : AreFields args temp vccint vccpint) :
    List.Forall₂ Template.Fits sampleTemplate.tails (sampleFields args) := by
  obtain ⟨before, htime⟩ := holds_timeUs args.timeUs
  have hseq := holds_seq args.seq
  have hbtn4 := holds_nat args.btn4.toNat
  have hbtn5 := holds_nat args.btn5.toNat
  refine .cons ⟨']', " #".toList, by decide, htime.not_mem (by decide)⟩
    (.cons ⟨'T', " ".toList, by decide, hseq.not_mem (by decide)⟩
      (.cons ⟨' ', "C | VCCINT ".toList, by decide, h.temp.blank_not_mem⟩
        (.cons ⟨' ', "V | VCCPINT ".toList, by decide, h.vccint.blank_not_mem⟩
          (.cons ⟨' ', "V | BTN4 ".toList, by decide, h.vccpint.blank_not_mem⟩
            (.cons ⟨' ', "BTN5 ".toList, by decide, hbtn4.blank_not_mem⟩
              (.cons ⟨'\n', [], by decide, hbtn5.not_mem (by decide)⟩ .nil))))))

/-- The numbers of the fields. -/
theorem AreFields.numbers (h : AreFields args temp vccint vccpint) :
    (sampleFields args).mapM number =
      some [(shownMs args.timeUs : ℚ) / 1000, args.seq.toNat, temp.value, vccint.value,
        vccpint.value, args.btn4.toNat, args.btn5.toNat] := by
  obtain ⟨before, htime⟩ := holds_timeUs args.timeUs
  have hms := htime.number
  have hseq := (holds_seq args.seq).number
  have hlevel : ∀ level : UInt32, number (fmtLu level) = some (level.toNat : ℚ) := by
    intro level
    rw [fmtLu, (holds_nat level.toNat).number, value_ofScaled]
    norm_num
  rw [value_ofScaled] at hms hseq
  unfold sampleFields
  simp only [List.mapM_cons, List.mapM_nil, hms, hseq, h.temp.number, h.vccint.number,
    h.vccpint.number, hlevel, Option.bind_eq_bind, Option.bind_some, Option.pure_def]
  norm_num

/-- The filled layout is plain. -/
theorem AreFields.plain (h : AreFields args temp vccint vccpint) :
    Plain (sampleTemplate.fill (sampleFields args)) := by
  obtain ⟨before, htime⟩ := holds_timeUs args.timeUs
  unfold Template.fill sampleTemplate sampleFields
  simp only [Template.fillTails]
  exact (plain_of_all rfl).append <| (isLine_of_holds htime).plain.append <|
    (plain_of_all rfl).append <| (isLine_of_holds (holds_seq args.seq)).plain.append <|
    (plain_of_all rfl).append <| (isLine_of_holds h.temp).plain.append <|
    (plain_of_all rfl).append <| (isLine_of_holds h.vccint).plain.append <|
    (plain_of_all rfl).append <| (isLine_of_holds h.vccpint).plain.append <|
    (plain_of_all rfl).append <| (isLine_of_holds (holds_nat args.btn4.toNat)).plain.append <|
    (plain_of_all rfl).append <| (isLine_of_holds (holds_nat args.btn5.toNat)).plain.append <|
    (plain_of_all rfl).append plain_nil

end line

/-- No number of 32 bits takes more than ten characters, padded to six or not. -/
theorem length_fmt_le (value : UInt32) :
    (fmtLu value).length ≤ 10 ∧ (fmtRightLu 6 value).length ≤ 10 ∧
      (fmtLeftLu 6 value).length ≤ 10 ∧ (fmtZeroLu 3 value).length ≤ 10 := by
  have hlen := length_toDigits_le_ten value
  refine ⟨hlen, ?_, ?_, ?_⟩
  · rw [fmtRightLu, fmtLu, List.length_leftpad]
    exact max_le (by decide) hlen
  · rw [fmtLeftLu, fmtLu, List.rightpad, List.length_append, List.length_replicate]
    omega
  · rw [fmtZeroLu, List.length_leftpad]
    exact max_le (by decide) hlen

private theorem length_fmtSensor_le (buf : List Char) (sensor : XadcSensor) (rawCode : UInt16) :
    (consumerFmtSensor (some buf) sensor rawCode).2.length ≤ 12 := by
  rw [consumerFmtSensor_text]
  exact length_sensorNumeral sensor rawCode

/-- The time is short enough for the buffer. -/
theorem length_timePrefix (timeUs : UInt64) : (timePrefix timeUs).length < 256 := by
  have htexts : "[".toList.length = 1 ∧ ".".toList.length = 1 ∧ "] ".toList.length = 2 := by decide
  have hsec := (length_fmt_le (timeUs / 1000 / 1000).toUInt32).2.1
  have hms := (length_fmt_le (timeUs / 1000 % 1000).toUInt32).2.2.2
  unfold timePrefix
  simp only [List.length_append, htexts]
  omega

private theorem length_sampleText (bufs : NumBuffers) (record : SensorRecord) :
    (sampleText (sampleArgs bufs record)).length < 256 := by
  have htexts : "#".toList.length = 1 ∧ " T ".toList.length = 3 ∧
      " C | VCCINT ".toList.length = 12 ∧ " V | VCCPINT ".toList.length = 13 ∧
      " V | BTN4 ".toList.length = 10 ∧ " BTN5 ".toList.length = 6 ∧ "\n".toList.length = 1 := by
    decide
  have htemp : (sampleArgs bufs record).temp.length ≤ 12 := length_fmtSensor_le _ _ _
  have hvccint : (sampleArgs bufs record).vccint.length ≤ 12 := length_fmtSensor_le _ _ _
  have hvccpint : (sampleArgs bufs record).vccpint.length ≤ 12 := length_fmtSensor_le _ _ _
  generalize sampleArgs bufs record = args at *
  have hseq := (length_fmt_le args.seq).2.2.1
  have hbtn4 := (length_fmt_le args.btn4).1
  have hbtn5 := (length_fmt_le args.btn5).1
  unfold sampleText
  simp only [List.length_append, htexts]
  omega

/-- The two calls show the filled layout, whatever the buffer held. -/
theorem terminal_consumerPrintSampleLine (fmtBuf : List Char) (bufs : NumBuffers)
    (record : SensorRecord)
    (hplain : Plain (sampleTemplate.fill (sampleFields (sampleArgs bufs record)))) :
    terminal (consumerPrintSampleLine fmtBuf bufs record).2 =
      sampleTemplate.fill (sampleFields (sampleArgs bufs record)) := by
  have htime := length_timePrefix (sampleArgs bufs record).timeUs
  have hline := length_sampleText bufs record
  rw [← sampleFields_fill] at hplain ⊢
  obtain ⟨hplainTime, hplainLine⟩ := hplain.of_append
  show terminal ((consolePrintf _ (some (timePrefix (sampleArgs bufs record).timeUs))).2 ++
    (consolePrintf _ (some (sampleText (sampleArgs bufs record)))).2) = _
  rw [terminal_consolePrintf _ hplainTime htime, ← List.append_nil (consolePrintf _ _).2,
    terminal_consolePrintf _ hplainLine hline]
  show _ ++ (_ ++ []) = _
  rw [List.append_nil]

/-- The line that is printed for a record reads back as the record: never cut off, with the capture
time to the millisecond, the sequence number and the supplies exactly, the temperature rounded to
two places, and the levels that the producer read from the buttons. For a 12-bit code the value is
that of the XADC's transfer function to half a thousandth. -/
theorem sampleLine_reads_back (fmtBuf : List Char) (bufs : NumBuffers) {record : SensorRecord}
    {gpio : GpioDrv} (hbuttons : record.buttons = producerReadButtons gpio) :
    let milli := fun sensor ↦
      ((xadcDrvCodeToMilli sensor (record.sensors.rawCode sensor)).toInt : ℚ) / 1000
    (∃ temp : ℚ, RoundsHalfAway 2 (milli .dieTemp) temp ∧
      readSampleLine (consumerPrintSampleLine fmtBuf bufs record).2 =
        some [((record.captureUs.toNat / 1000 % (2 ^ 32 * 1000) : ℕ) : ℚ) / 1000,
          record.seq.toNat, temp, milli .vccint, milli .vccpint,
          if gpio.btnIsDown .btn4 then 1 else 0, if gpio.btnIsDown .btn5 then 1 else 0]) ∧
      ∀ sensor, (record.sensors.rawCode sensor).toNat < 4096 →
        |milli sensor - transferMilli sensor (record.sensors.rawCode sensor) / 1000| ≤
          1 / 2000 := by
  intro milli
  have hfields : AreFields (sampleArgs bufs record) _ _ _ :=
    ⟨holds_sensor _ _ _, holds_sensor _ _ _, holds_sensor _ _ _⟩
  have hvccint := value_of_supply (show xadcDrvIsTemperature .vccint = false from rfl)
    (record.sensors.rawCode .vccint)
  have hvccpint := value_of_supply (show xadcDrvIsTemperature .vccpint = false from rfl)
    (record.sensors.rawCode .vccpint)
  have hlevel : ∀ btn, ((consumerBtnLevel record btn).toNat : ℚ) =
      if gpio.btnIsDown btn then 1 else 0 := by
    intro btn
    rw [consumerBtnLevel_eq hbuttons btn]
    split <;> simp
  refine ⟨⟨_, rounds_sensorNumeral .dieTemp (record.sensors.rawCode .dieTemp), ?_⟩,
    fun sensor hcode ↦ codeToMilli_div_near sensor hcode⟩
  rw [readSampleLine, terminal_consumerPrintSampleLine fmtBuf bufs record hfields.plain,
    Template.read_fill hfields.fits, Option.bind_some, hfields.numbers, ← hlevel .btn4,
    ← hlevel .btn5, hvccint, hvccpint]
  rfl

/-- A line for a sample with the first button down. -/
theorem sampleLine_reads_back_down :
    ∃ temp : ℚ,
      readSampleLine (consumerPrintSampleLine [] ⟨[], [], []⟩
        ⟨1234567, 7, ⟨fun _ ↦ 2400⟩, 1⟩).2 =
          some [1234 / 1000, 7, temp, 1758 / 1000, 1758 / 1000, 1, 0] := by
  let record : SensorRecord := ⟨1234567, 7, ⟨fun _ ↦ 2400⟩, 1⟩
  let gpio : GpioDrv := ⟨true, fun btn ↦ .seed (btn == .btn4)⟩
  obtain ⟨⟨temp, -, hread⟩, -⟩ :=
    sampleLine_reads_back [] ⟨[], [], []⟩ (show record.buttons = producerReadButtons gpio by decide)
  have hmilli : (xadcDrvCodeToMilli .vccint 2400).toInt = 1758 ∧
      (xadcDrvCodeToMilli .vccpint 2400).toInt = 1758 := by decide
  have hms : (1234567 : UInt64).toNat / 1000 % (2 ^ 32 * 1000) = 1234 := by decide
  have hseq : (7 : UInt32).toNat = 7 := rfl
  have hlevels : gpio.btnIsDown .btn4 = true ∧ gpio.btnIsDown .btn5 = false := by decide
  refine ⟨temp, hread.trans ?_⟩
  simp only [record, hmilli, hms, hseq, hlevels]
  norm_num

end SensorAggregator.Tasks
