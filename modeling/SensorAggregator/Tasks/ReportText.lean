import SensorAggregator.Base.Hexadecimal
import SensorAggregator.Tasks.Producer
import SensorAggregator.Tasks.SampleLine

/-!
# The text of the sensor report

Models what `consumer_print_report` of `tasks/task_consumer.c` prints. The report is read back from
the terminal line by line.
-/

namespace SensorAggregator.Tasks

open Base Base.Columns Base.Decimal
open Console
open Datalog
open Drivers

/-- `now_str`, `min_str` and `max_str`, `task_consumer.c:177–179`, as the stack has them. -/
structure ReportBuffers where
  nowStr : List Char
  minStr : List Char
  maxStr : List Char

/-- The arguments of the call of `console_printf` for a row, `task_consumer.c:199–204`. -/
structure RowArgs where
  now : List Char
  min : List Char
  max : List Char
  raw : UInt32

/-- Those of a sensor, and what its values leave in the buffers. -/
def rowArgs (bufs : ReportBuffers) (record : SensorRecord) (stats : ProducerStats)
    (sensor : XadcSensor) : ReportBuffers × RowArgs :=
  let (nowStr, now) :=
    consumerFmtSensor (some bufs.nowStr) sensor (record.sensors.rawCode sensor)
  let (minStr, min) :=
    consumerFmtSensor (some bufs.minStr) sensor (stats.sensorMin.rawCode sensor)
  let (maxStr, max) :=
    consumerFmtSensor (some bufs.maxStr) sensor (stats.sensorMax.rawCode sensor)
  (⟨nowStr.getD bufs.nowStr, minStr.getD bufs.minStr, maxStr.getD bufs.maxStr⟩,
    ⟨now, min, max, (record.sensors.rawCode sensor).toUInt32⟩)

/-- A row without its line end, `task_consumer.c:199–204`. -/
def rowLine (sensor : XadcSensor) (args : RowArgs) : List Char :=
  let unit := xadcDrvSensorUnit sensor
  "  ".toList ++ List.rightpad 9 ' ' (xadcDrvSensorName sensor) ++ " ".toList ++
    List.leftpad 8 ' ' args.now ++ " ".toList ++ unit ++ " ".toList ++
    List.leftpad 8 ' ' args.min ++ " ".toList ++ unit ++ " ".toList ++
    List.leftpad 8 ' ' args.max ++ " ".toList ++ unit ++ "   0x".toList ++
    Hexadecimal.padded 3 args.raw.toNat

/-- The loop over the sensors, `task_consumer.c:195–205`. -/
def printRows (record : SensorRecord) (stats : ProducerStats) :
    List XadcSensor → List Char → ReportBuffers → List Char × List Char
  | [], fmtBuf, _ => (fmtBuf, [])
  | sensor :: sensors, fmtBuf, bufs =>
    let (bufs, args) := rowArgs bufs record stats sensor
    let (fmtBuf, row) := consolePrintf fmtBuf (some (rowLine sensor args ++ ['\n']))
    let (fmtBuf, rows) := printRows record stats sensors fmtBuf bufs
    (fmtBuf, row ++ rows)

/-- The title after the time, without its line end, `task_consumer.c:191–192`. -/
def reportTitle (record : SensorRecord) (stats : ProducerStats) : List Char :=
  "XADC report, sample #".toList ++ fmtLu record.seq ++ " (min/max over ".toList ++
    fmtLu stats.samples ++ " samples)".toList

/-- The heads of the columns, `task_consumer.c:193`. -/
def reportHeads : List Char :=
  "  ".toList ++ List.rightpad 9 ' ' "sensor".toList ++ " ".toList ++
    List.leftpad 10 ' ' "now".toList ++ " ".toList ++ List.leftpad 10 ' ' "min".toList ++
    " ".toList ++ List.leftpad 10 ' ' "max".toList ++ "   raw".toList

/-- `consumer_print_report`, `task_consumer.c:172–207`. `none` is `consumer_get_newest` without a
record, `task_consumer.c:161–170`. -/
def consumerPrintReport (fmtBuf : List Char) (bufs : ReportBuffers) (newest : Option SensorRecord)
    (stats : ProducerStats) : List Char × List Char :=
  match newest with
  | none => (fmtBuf, consoleWrite (some "no samples yet (or log busy)\n".toList))
  | some record =>
    let (fmtBuf, time) := consumerPrintTimePrefix fmtBuf record.captureUs
    let (fmtBuf, title) := consolePrintf fmtBuf (some (reportTitle record stats ++ ['\n']))
    let (fmtBuf, heads) := consolePrintf fmtBuf (some (reportHeads ++ ['\n']))
    let (fmtBuf, rows) := printRows record stats XadcSensor.all fmtBuf bufs
    (fmtBuf, consoleWrite (some ['\n']) ++ (time ++ (title ++ (heads ++ (rows ++
      consoleWrite (some ['\n']))))))

/-- A row as it reads: the value now, the least and the greatest, and the code. -/
structure ReportRow where
  now : ℚ
  min : ℚ
  max : ℚ
  raw : ℕ

/-- The layout of the title. -/
def titleTemplate : Template Char where
  head := "[".toList
  tails := ["] XADC report, sample #".toList, " (min/max over ".toList, " samples)\n".toList]

/-- The layout of a sensor's row. -/
def rowTemplate (sensor : XadcSensor) : Template Char where
  head := "  ".toList ++ List.rightpad 9 ' ' (xadcDrvSensorName sensor) ++ " ".toList
  tails := [xadcDrvSensorUnit sensor ++ " ".toList, xadcDrvSensorUnit sensor ++ " ".toList,
    xadcDrvSensorUnit sensor ++ "   0x".toList, "\n".toList]

/-- A row is read against the layout of its sensor. -/
def readRow (sensor : XadcSensor) (line : List Char) : Option ReportRow :=
  match (rowTemplate sensor).read (line ++ ['\n']) with
  | some [now, min, max, raw] => do
    some ⟨← number now, ← number min, ← number max, ← Hexadecimal.parse raw⟩
  | _ => none

/-- A report as the terminal shows it: the capture time in seconds, the sequence number and the
number of samples from the title, and a row for each sensor. -/
def readReport (put : List Char) : Option (List ℚ × List ReportRow) :=
  match (terminal put).splitOn '\n' with
  | _ :: title :: _ :: rows => do
    let title ← (titleTemplate.read (title ++ ['\n'])).bind (·.mapM number)
    let rows ← (XadcSensor.all.zip rows).mapM fun row ↦ readRow row.1 row.2
    some (title, rows)
  | _ => none

private theorem isLine_padded (width n : ℕ) : IsLine (Hexadecimal.padded width n) where
  plain c hc := by
    constructor
    · rintro rfl
      exact absurd (Hexadecimal.padded_digits hc) (by decide)
    · rintro rfl
      exact absurd (Hexadecimal.padded_digits hc) (by decide)
  no_end hc := absurd (Hexadecimal.padded_digits hc) (by decide)

section row

variable (record : SensorRecord) (stats : ProducerStats) (sensor : XadcSensor)

/-- What a row shows. -/
def shownArgs : RowArgs where
  now := (sensorNumeral sensor (record.sensors.rawCode sensor)).toChars
  min := (sensorNumeral sensor (stats.sensorMin.rawCode sensor)).toChars
  max := (sensorNumeral sensor (stats.sensorMax.rawCode sensor)).toChars
  raw := (record.sensors.rawCode sensor).toUInt32

/-- It reads as these numbers. -/
def shownRow : ReportRow where
  now := (sensorNumeral sensor (record.sensors.rawCode sensor)).value
  min := (sensorNumeral sensor (stats.sensorMin.rawCode sensor)).value
  max := (sensorNumeral sensor (stats.sensorMax.rawCode sensor)).value
  raw := (record.sensors.rawCode sensor).toNat

/-- The fields of a row. -/
def rowFields (args : RowArgs) : List (List Char) :=
  [List.leftpad 8 ' ' args.now ++ [' '], List.leftpad 8 ' ' args.min ++ [' '],
    List.leftpad 8 ' ' args.max ++ [' '], Hexadecimal.padded 3 args.raw.toNat]

private theorem rowArgs_shown (bufs : ReportBuffers) :
    (rowArgs bufs record stats sensor).2 = shownArgs record stats sensor := by
  simp only [rowArgs, shownArgs, consumerFmtSensor_text]

private theorem rowLine_fill (args : RowArgs) :
    rowLine sensor args ++ ['\n'] = (rowTemplate sensor).fill (rowFields args) := by
  have hend : "\n".toList = ['\n'] := by decide
  have hblank : " ".toList = [' '] := by decide
  unfold rowLine rowTemplate rowFields Template.fill
  simp only [Template.fillTails, hend, hblank, List.append_assoc, List.append_nil]

private theorem holds_value (n : Numeral) :
    ∃ before, Holds (List.leftpad 8 ' ' n.toChars ++ [' ']) n before 1 :=
  ⟨_, ((Holds.toChars n).behind (8 - n.toChars.length)).blank⟩

private theorem value_fits (n : Numeral) (rest : List Char) :
    Template.Fits (xadcDrvSensorUnit sensor ++ rest) (List.leftpad 8 ' ' n.toChars ++ [' ']) := by
  obtain ⟨before, hvalue⟩ := holds_value n
  rw [xadcDrvSensorUnit]
  split
  · exact ⟨'C', rest, by simp, hvalue.not_mem (by decide)⟩
  · exact ⟨'V', rest, by simp, hvalue.not_mem (by decide)⟩

private theorem rowFields_fit :
    List.Forall₂ Template.Fits (rowTemplate sensor).tails
      (rowFields (shownArgs record stats sensor)) := by
  have hraw : '\n' ∉ Hexadecimal.padded 3 (shownArgs record stats sensor).raw.toNat :=
    fun hc ↦ absurd (Hexadecimal.padded_digits hc) (by decide)
  exact .cons (value_fits sensor _ _) (.cons (value_fits sensor _ _)
    (.cons (value_fits sensor _ _) (.cons ⟨'\n', [], by decide, hraw⟩ .nil)))

/-- A row reads as what it shows. -/
theorem readRow_rowLine :
    readRow sensor (rowLine sensor (shownArgs record stats sensor)) =
      some (shownRow record stats sensor) := by
  have hnumber : ∀ n : Numeral, number (List.leftpad 8 ' ' n.toChars ++ [' ']) = some n.value := by
    intro n
    obtain ⟨before, hvalue⟩ := holds_value n
    exact hvalue.number
  rw [readRow, rowLine_fill, Template.read_fill (rowFields_fit record stats sensor)]
  simp only [rowFields, shownArgs, shownRow, hnumber, Hexadecimal.parse_padded,
    UInt16.toNat_toUInt32, Option.bind_eq_bind, Option.bind_some]

private theorem isLine_rowLine : IsLine (rowLine sensor (shownArgs record stats sensor)) := by
  have hname : IsLine ("  ".toList ++ List.rightpad 9 ' ' (xadcDrvSensorName sensor)) := by
    apply isLine_of_all
    cases sensor <;> rfl
  have hunit : IsLine (xadcDrvSensorUnit sensor) := by
    apply isLine_of_all
    cases sensor <;> rfl
  have hblank : IsLine " ".toList := isLine_of_all rfl
  have hvalue : ∀ n : Numeral, IsLine (List.leftpad 8 ' ' n.toChars) := fun n ↦
    isLine_of_holds ((Holds.toChars n).behind (8 - n.toChars.length))
  have hraw : IsLine (Hexadecimal.padded 3 (shownArgs record stats sensor).raw.toNat) :=
    isLine_padded 3 _
  exact .append (.append (.append (.append (.append (.append (.append (.append (.append (.append
    (.append (.append (.append (.append hname hblank) (hvalue _)) hblank) hunit) hblank)
    (hvalue _)) hblank) hunit) hblank) (hvalue _)) hblank) hunit) (isLine_of_all rfl)) hraw

private theorem length_rowLine :
    (rowLine sensor (shownArgs record stats sensor) ++ ['\n']).length < 256 := by
  have hname : (List.rightpad 9 ' ' (xadcDrvSensorName sensor)).length = 9 := by
    cases sensor <;> rfl
  have hunit : (xadcDrvSensorUnit sensor).length = 1 := by
    cases sensor <;> rfl
  have hvalue : ∀ rawCode,
      (List.leftpad 8 ' ' (sensorNumeral sensor rawCode).toChars).length ≤ 12 := by
    intro rawCode
    rw [List.length_leftpad]
    exact max_le (by decide) (length_sensorNumeral sensor rawCode)
  have hnow := hvalue (record.sensors.rawCode sensor)
  have hmin := hvalue (stats.sensorMin.rawCode sensor)
  have hmax := hvalue (stats.sensorMax.rawCode sensor)
  have hraw : (Hexadecimal.padded 3 (record.sensors.rawCode sensor).toUInt32.toNat).length ≤
      max 3 4 :=
    Hexadecimal.length_padded (by decide) (record.sensors.rawCode sensor).toNat_lt
  have htexts : "  ".toList.length = 2 ∧ " ".toList.length = 1 ∧ "   0x".toList.length = 5 := by
    decide
  unfold rowLine shownArgs
  simp only [List.length_append, List.length_singleton, hname, hunit, htexts]
  omega

end row

section report

variable (record : SensorRecord) (stats : ProducerStats)

/-- The lines of the rows. -/
def rowLines (sensors : List XadcSensor) : List (List Char) :=
  sensors.map fun sensor ↦ rowLine sensor (shownArgs record stats sensor)

/-- The rows show as they are, whatever the buffers held. -/
theorem terminal_printRows (sensors : List XadcSensor) (fmtBuf : List Char) (bufs : ReportBuffers)
    (rest : List Char) :
    terminal ((printRows record stats sensors fmtBuf bufs).2 ++ rest) =
      (rowLines record stats sensors).flatMap (· ++ ['\n']) ++ terminal rest := by
  induction sensors generalizing fmtBuf bufs with
  | nil => rfl
  | cons sensor sensors ih =>
    have hplain : Plain (rowLine sensor (shownArgs record stats sensor) ++ ['\n']) :=
      (isLine_rowLine record stats sensor).plain.append (plain_of_all rfl)
    rw [printRows]
    simp only [rowArgs_shown, List.append_assoc]
    rw [terminal_consolePrintf fmtBuf hplain (length_rowLine record stats sensor), ih]
    simp only [rowLines, List.map_cons, List.flatMap_cons, List.append_assoc]

private theorem readRow_rowLines (sensors : List XadcSensor) (rest : List (List Char)) :
    (sensors.zip (rowLines record stats sensors ++ rest)).mapM
        (fun row ↦ readRow row.1 row.2) =
      some (sensors.map (shownRow record stats)) := by
  induction sensors with
  | nil => rfl
  | cons sensor sensors ih =>
    have hrow := readRow_rowLine record stats sensor
    show List.mapM _ ((sensor, rowLine sensor (shownArgs record stats sensor)) ::
      sensors.zip (rowLines record stats sensors ++ rest)) = _
    rw [List.mapM_cons, hrow]
    simp only [ih, Option.bind_eq_bind, Option.bind_some, Option.pure_def, List.map_cons]

/-- The line of the title. -/
def titleLine : List Char := timePrefix record.captureUs ++ reportTitle record stats

/-- The fields of the title. -/
def titleFields : List (List Char) :=
  [fmtRightLu 6 (record.captureUs / 1000 / 1000).toUInt32 ++ ".".toList ++
    fmtZeroLu 3 (record.captureUs / 1000 % 1000).toUInt32, fmtLu record.seq, fmtLu stats.samples]

private theorem titleLine_fill :
    titleLine record stats ++ ['\n'] = titleTemplate.fill (titleFields record stats) := by
  have htitle : "] ".toList ++ "XADC report, sample #".toList =
      "] XADC report, sample #".toList := by decide
  have hend : " samples)\n".toList = " samples)".toList ++ ['\n'] := by decide
  unfold titleLine timePrefix reportTitle titleTemplate titleFields Template.fill
  simp only [Template.fillTails, ← htitle, hend, List.append_assoc, List.append_nil]

/-- The title reads as the time, the sequence number and the number of samples. -/
theorem read_titleLine :
    (titleTemplate.read (titleLine record stats ++ ['\n'])).bind (·.mapM number) =
      some [(shownMs record.captureUs : ℚ) / 1000, record.seq.toNat, stats.samples.toNat] := by
  obtain ⟨before, htime⟩ := holds_timeUs record.captureUs
  have hseq := holds_nat record.seq.toNat
  have hsamples := holds_nat stats.samples.toNat
  have hfit : List.Forall₂ Template.Fits titleTemplate.tails (titleFields record stats) :=
    .cons ⟨']', " XADC report, sample #".toList, by decide, htime.not_mem (by decide)⟩
      (.cons ⟨' ', "(min/max over ".toList, by decide, hseq.blank_not_mem⟩
        (.cons ⟨' ', "samples)\n".toList, by decide, hsamples.blank_not_mem⟩ .nil))
  rw [titleLine_fill, Template.read_fill hfit, Option.bind_some]
  unfold titleFields
  simp only [List.mapM_cons, List.mapM_nil, fmtLu, htime.number, hseq.number, hsamples.number,
    value_ofScaled, Option.bind_eq_bind, Option.bind_some, Option.pure_def]
  norm_num

private theorem isLine_timePrefix : IsLine (timePrefix record.captureUs) := by
  obtain ⟨before, htime⟩ := holds_timeUs record.captureUs
  have hprefix : IsLine ("[".toList ++ (_ ++ "] ".toList)) :=
    (isLine_of_all rfl).append ((isLine_of_holds htime).append (isLine_of_all rfl))
  unfold timePrefix
  simpa only [List.append_assoc] using hprefix

private theorem isLine_reportTitle : IsLine (reportTitle record stats) :=
  ((((isLine_of_all rfl).append (isLine_of_holds (holds_nat record.seq.toNat))).append
    (isLine_of_all rfl)).append (isLine_of_holds (holds_nat stats.samples.toNat))).append
    (isLine_of_all rfl)

private theorem length_reportTitle : (reportTitle record stats ++ ['\n']).length < 256 := by
  have htexts : "XADC report, sample #".toList.length = 21 ∧
      " (min/max over ".toList.length = 15 ∧ " samples)".toList.length = 9 := by decide
  have hseq := (length_fmt_le record.seq).1
  have hsamples := (length_fmt_le stats.samples).1
  unfold reportTitle
  simp only [List.length_append, List.length_singleton, htexts]
  omega

/-- The lines of a report. -/
def reportLines : List (List Char) :=
  [] :: titleLine record stats :: reportHeads :: rowLines record stats XadcSensor.all ++ [[]]

/-- A report shows as its lines, whatever the buffers held. -/
theorem terminal_consumerPrintReport (fmtBuf : List Char) (bufs : ReportBuffers) :
    terminal (consumerPrintReport fmtBuf bufs (some record) stats).2 =
      (reportLines record stats).flatMap (· ++ ['\n']) := by
  have hend : Plain ['\n'] := plain_of_all rfl
  have htitle := (isLine_reportTitle record stats).plain.append hend
  have hheads : IsLine reportHeads := isLine_of_all rfl
  have hheadsLen : (reportHeads ++ ['\n']).length < 256 := by decide
  unfold consumerPrintReport consumerPrintTimePrefix
  simp only [terminal_consoleWrite hend]
  rw [terminal_consolePrintf _ (isLine_timePrefix record).plain (length_timePrefix _),
    terminal_consolePrintf _ htitle (length_reportTitle record stats),
    terminal_consolePrintf _ (hheads.plain.append hend) hheadsLen, terminal_printRows]
  show _ ++ (_ ++ (_ ++ (_ ++ (_ ++ ['\n'])))) = _
  unfold reportLines titleLine
  simp only [List.flatMap_cons, List.flatMap_append, List.flatMap_nil, List.cons_append,
    List.nil_append, List.append_assoc, List.append_nil]

private theorem reportLines_no_end : ∀ line ∈ reportLines record stats, '\n' ∉ line := by
  have htitle := (isLine_timePrefix record).append (isLine_reportTitle record stats)
  have hheads : IsLine reportHeads := isLine_of_all rfl
  intro line hline
  unfold reportLines at hline
  simp only [List.cons_append, List.mem_cons, List.mem_append, List.not_mem_nil, or_false] at hline
  rcases hline with rfl | rfl | rfl | hrow | rfl
  · exact List.not_mem_nil
  · exact htitle.no_end
  · exact hheads.no_end
  · obtain ⟨sensor, -, rfl⟩ := List.mem_map.mp hrow
    exact (isLine_rowLine record stats sensor).no_end
  · exact List.not_mem_nil

/-- A report reads as what it shows. -/
theorem readReport_consumerPrintReport (fmtBuf : List Char) (bufs : ReportBuffers) :
    readReport (consumerPrintReport fmtBuf bufs (some record) stats).2 =
      some ([(shownMs record.captureUs : ℚ) / 1000, record.seq.toNat, stats.samples.toNat],
        XadcSensor.all.map (shownRow record stats)) := by
  have hsplit := splitOn_lines (reportLines_no_end record stats) []
  rw [List.append_nil, List.splitOn_nil] at hsplit
  rw [readReport, terminal_consumerPrintReport, hsplit]
  unfold reportLines
  simp only [List.cons_append, read_titleLine, List.append_assoc, readRow_rowLines,
    Option.bind_eq_bind, Option.bind_some]

end report

end SensorAggregator.Tasks
