import Mathlib.Logic.Function.Basic
import Mathlib.Order.Lattice
import SensorAggregator.Datalog.SensorRecord

/-!
# The producer

Models `tasks/task_producer.c` and `tasks/task_producer.h`: the statistics, and `producer_task`
cut at every point where another task or an interrupt can come in between. What the hardware,
the clock and the other modules answer is an argument of the step that asks.
-/

namespace SensorAggregator.Tasks

open Datalog

/-- `producer_stats_t`, `task_producer.h:28–42`. -/
structure ProducerStats where
  timerPeriodUs : UInt32
  samples : UInt32
  overruns : UInt32
  timeouts : UInt32
  periodMinUs : UInt32
  periodMaxUs : UInt32
  readTimeMaxUs : UInt32
  logWriteMaxUs : UInt32
  logWriteDrops : UInt32
  doorbellRetries : UInt32
  sensorMin : XadcSample
  sensorMax : XadcSample

/-- `producer_cycle_t`, `task_producer.c:18–26`. -/
structure ProducerCycle where
  readTimeUs : UInt32
  writeTimeUs : UInt32
  missedTicks : UInt32
  writeDropped : Bool
  doorbellFailed : Bool

/-- Larger of a recorded maximum and a new value, `task_producer.c:77–84`. -/
def raiseMax (recorded value : UInt32) : UInt32 := if recorded < value then value else recorded

/-- The recorded maximum becomes the larger of both. -/
theorem toNat_raiseMax (recorded value : UInt32) :
    (raiseMax recorded value).toNat = max recorded.toNat value.toNat := by
  unfold raiseMax
  split
  · next hlt => exact (max_eq_right (Nat.le_of_lt (UInt32.lt_iff_toNat_lt.mp hlt))).symm
  · next hge => exact (max_eq_left (UInt32.le_iff_toNat_le.mp (UInt32.not_lt.mp hge))).symm

/-- One iteration of the loop of `task_producer.c:115–127`. -/
def updateExtremes (record : SensorRecord) (stats : ProducerStats) (sensor : XadcSensor) :
    ProducerStats :=
  let code := record.sensors.rawCode sensor
  { stats with
    sensorMin :=
      if code < stats.sensorMin.rawCode sensor then
        ⟨Function.update stats.sensorMin.rawCode sensor code⟩
      else stats.sensorMin
    sensorMax :=
      if stats.sensorMax.rawCode sensor < code then
        ⟨Function.update stats.sensorMax.rawCode sensor code⟩
      else stats.sensorMax }

/-- The period bookkeeping of `task_producer.c:94–106`. -/
def updatePeriod (record : SensorRecord) (prevCaptureUs : UInt64) (stats : ProducerStats) :
    ProducerStats :=
  if prevCaptureUs = 0 then stats
  else
    let intervalUs := (record.captureUs - prevCaptureUs).toUInt32
    { stats with
      periodMinUs := if intervalUs < stats.periodMinUs then intervalUs else stats.periodMinUs
      periodMaxUs := raiseMax stats.periodMaxUs intervalUs }

/-- The counters and maxima of `task_producer.c:74–92`. -/
def updateCounters (cycle : ProducerCycle) (stats : ProducerStats) : ProducerStats :=
  { stats with
    samples := stats.samples + 1
    overruns := stats.overruns + cycle.missedTicks
    readTimeMaxUs := raiseMax stats.readTimeMaxUs cycle.readTimeUs
    logWriteMaxUs := raiseMax stats.logWriteMaxUs cycle.writeTimeUs
    logWriteDrops := stats.logWriteDrops + if cycle.writeDropped then 1 else 0
    doorbellRetries := stats.doorbellRetries + if cycle.doorbellFailed then 1 else 0 }

/-- The extremes of `task_producer.c:108–128`. -/
def updateSensors (record : SensorRecord) (stats : ProducerStats) : ProducerStats :=
  if stats.samples = 1 then
    { stats with sensorMin := record.sensors, sensorMax := record.sensors }
  else XadcSensor.all.foldl (updateExtremes record) stats

/-- `producer_update_stats`, `task_producer.c:67–131`. -/
def producerUpdateStats (stats : ProducerStats) (record : SensorRecord) (prevCaptureUs : UInt64)
    (cycle : ProducerCycle) : ProducerStats :=
  updateSensors record (updatePeriod record prevCaptureUs (updateCounters cycle stats))

/-- The period bookkeeping leaves the counters alone. -/
theorem updatePeriod_counters (record : SensorRecord) (prevCaptureUs : UInt64)
    (stats : ProducerStats) :
    (updatePeriod record prevCaptureUs stats).samples = stats.samples ∧
      (updatePeriod record prevCaptureUs stats).logWriteDrops = stats.logWriteDrops := by
  unfold updatePeriod
  split <;> exact ⟨rfl, rfl⟩

private theorem updateSensors_counters (record : SensorRecord) (stats : ProducerStats) :
    (updateSensors record stats).samples = stats.samples ∧
      (updateSensors record stats).logWriteDrops = stats.logWriteDrops := by
  have hfold : ∀ (l : List XadcSensor) (stats : ProducerStats),
      (l.foldl (updateExtremes record) stats).samples = stats.samples ∧
        (l.foldl (updateExtremes record) stats).logWriteDrops = stats.logWriteDrops := by
    intro l
    induction l with
    | nil => exact fun _ ↦ ⟨rfl, rfl⟩
    | cons sensor l ih => exact fun stats ↦ ih (updateExtremes record stats sensor)
  unfold updateSensors
  split
  · exact ⟨rfl, rfl⟩
  · exact hfold _ _

/-- A cycle is counted once, and so is its drop. -/
theorem producerUpdateStats_counters (stats : ProducerStats) (record : SensorRecord)
    (prevCaptureUs : UInt64) (cycle : ProducerCycle) :
    (producerUpdateStats stats record prevCaptureUs cycle).samples = stats.samples + 1 ∧
      (producerUpdateStats stats record prevCaptureUs cycle).logWriteDrops =
        stats.logWriteDrops + if cycle.writeDropped then 1 else 0 := by
  unfold producerUpdateStats
  rw [(updateSensors_counters _ _).1, (updateSensors_counters _ _).2,
    (updatePeriod_counters _ _ _).1, (updatePeriod_counters _ _ _).2]
  exact ⟨rfl, rfl⟩

private theorem updateExtremes_rawCode (record : SensorRecord) (stats : ProducerStats)
    (a sensor : XadcSensor) :
    let code := record.sensors.rawCode sensor
    let stats' := updateExtremes record stats a
    (stats'.sensorMin.rawCode sensor =
        if sensor = a ∧ code < stats.sensorMin.rawCode sensor then code
        else stats.sensorMin.rawCode sensor) ∧
      stats'.sensorMax.rawCode sensor =
        if sensor = a ∧ stats.sensorMax.rawCode sensor < code then code
        else stats.sensorMax.rawCode sensor := by
  unfold updateExtremes
  by_cases ha : sensor = a
  · subst ha
    constructor
    · by_cases hlt : record.sensors.rawCode sensor < stats.sensorMin.rawCode sensor <;>
        simp [hlt]
    · by_cases hlt : stats.sensorMax.rawCode sensor < record.sensors.rawCode sensor <;>
        simp [hlt]
  · constructor
    · by_cases hlt : record.sensors.rawCode a < stats.sensorMin.rawCode a <;> simp [hlt, ha]
    · by_cases hlt : stats.sensorMax.rawCode a < record.sensors.rawCode a <;> simp [hlt, ha]

/-- The loop lowers and raises the extremes of each sensor it visits by that sensor's code. -/
theorem foldl_updateExtremes (record : SensorRecord) (l : List XadcSensor)
    (stats : ProducerStats) (sensor : XadcSensor) :
    let code := record.sensors.rawCode sensor
    let stats' := l.foldl (updateExtremes record) stats
    (stats'.sensorMin.rawCode sensor =
        if sensor ∈ l ∧ code < stats.sensorMin.rawCode sensor then code
        else stats.sensorMin.rawCode sensor) ∧
      stats'.sensorMax.rawCode sensor =
        if sensor ∈ l ∧ stats.sensorMax.rawCode sensor < code then code
        else stats.sensorMax.rawCode sensor := by
  induction l generalizing stats with
  | nil => simp
  | cons a l ih =>
    obtain ⟨hmin, hmax⟩ := updateExtremes_rawCode record stats a sensor
    obtain ⟨ihmin, ihmax⟩ := ih (updateExtremes record stats a)
    simp only [List.foldl_cons, ihmin, ihmax, hmin, hmax, List.mem_cons]
    by_cases ha : sensor = a
    · subst ha
      constructor
      · by_cases hlt : record.sensors.rawCode sensor < stats.sensorMin.rawCode sensor <;>
          simp [hlt]
      · by_cases hlt : stats.sensorMax.rawCode sensor < record.sensors.rawCode sensor <;>
          simp [hlt]
    · simp [ha]

private theorem lowered_le (code recorded : UInt16) :
    (if code < recorded then code else recorded) ≤ code ∧
      (if code < recorded then code else recorded) ≤ recorded := by
  split
  · next hlt => exact ⟨UInt16.le_refl code, UInt16.le_of_lt hlt⟩
  · next hge => exact ⟨UInt16.not_lt.mp hge, UInt16.le_refl recorded⟩

private theorem le_raised (code recorded : UInt16) :
    code ≤ (if recorded < code then code else recorded) ∧
      recorded ≤ if recorded < code then code else recorded := by
  split
  · next hlt => exact ⟨UInt16.le_refl code, UInt16.le_of_lt hlt⟩
  · next hge => exact ⟨UInt16.not_lt.mp hge, UInt16.le_refl recorded⟩

/-- The code of every sensor is between the recorded extremes. -/
def Spans (stats : ProducerStats) (record : SensorRecord) : Prop :=
  ∀ sensor, stats.sensorMin.rawCode sensor ≤ record.sensors.rawCode sensor ∧
    record.sensors.rawCode sensor ≤ stats.sensorMax.rawCode sensor

/-- The extremes span the record they were updated with, and unless it was the first one, what
they spanned before. -/
theorem spans_updateSensors (stats : ProducerStats) (record r : SensorRecord)
    (hr : r = record ∨ (stats.samples ≠ 1 ∧ Spans stats r)) :
    Spans (updateSensors record stats) r := by
  intro sensor
  unfold updateSensors
  split
  · next hone =>
    rcases hr with rfl | ⟨hne, _⟩
    · exact ⟨UInt16.le_refl _, UInt16.le_refl _⟩
    · exact absurd hone hne
  · obtain ⟨hmin, hmax⟩ := foldl_updateExtremes record XadcSensor.all stats sensor
    have hlow := lowered_le (record.sensors.rawCode sensor) (stats.sensorMin.rawCode sensor)
    have hhigh := le_raised (record.sensors.rawCode sensor) (stats.sensorMax.rawCode sensor)
    rw [hmin, hmax]
    simp only [XadcSensor.mem_all, true_and]
    rcases hr with rfl | ⟨_, hr⟩
    · exact ⟨hlow.1, hhigh.1⟩
    · exact ⟨UInt16.le_trans hlow.2 (hr sensor).1, UInt16.le_trans (hr sensor).2 hhigh.2⟩

/-- `producer_update_stats` widens the extremes by the record it is given. -/
theorem spans_producerUpdateStats (stats : ProducerStats) (record r : SensorRecord)
    (prevCaptureUs : UInt64) (cycle : ProducerCycle)
    (hr : r = record ∨ (stats.samples + 1 ≠ 1 ∧ Spans stats r)) :
    Spans (producerUpdateStats stats record prevCaptureUs cycle) r := by
  apply spans_updateSensors
  refine hr.imp_right fun hr ↦ ?_
  rw [(updatePeriod_counters _ _ _).1]
  refine ⟨hr.1, ?_⟩
  unfold updatePeriod
  split <;> exact hr.2

/-- The stages of `task_watchdog_checkin`, `task_watchdog.c:158–174`, as a task passes through
them: the hang test, the read of the tick count, the store. -/
inductive CheckinStage where
  | test
  | read
  | store
  deriving DecidableEq, Repr

/-- Where `producer_task` is in its loop, `task_producer.c:168–214`. `hung` is the busy loop of
`wdog_test_hang`. -/
inductive ProducerPc where
  | waitTick
  | sample
  | write
  | ring
  | update
  | checkin (stage : CheckinStage)
  | hung
  deriving DecidableEq, Repr

/-- The task: `s_stats`, and the locals of `producer_task`. `checkinTick` is the tick count read
by a check-in, not wrapped. -/
structure Producer where
  pc : ProducerPc
  stats : ProducerStats
  record : SensorRecord
  cycle : ProducerCycle
  prevCaptureUs : UInt64
  writeStartUs : UInt64
  pendingTicks : UInt32
  logWasEmpty : Bool
  doorbellPending : Bool
  checkinTick : ℕ

namespace Producer

/-- The loop is entered with the sample timer running, `task_producer.c:135–168,219`. Locals
the code assigns before it reads them start at zero here. -/
def boot (timerPeriodUs : UInt32) : Producer where
  pc := .waitTick
  stats :=
    { timerPeriodUs := timerPeriodUs
      samples := 0
      overruns := 0
      timeouts := 0
      periodMinUs := 0xFFFFFFFF
      periodMaxUs := 0
      readTimeMaxUs := 0
      logWriteMaxUs := 0
      logWriteDrops := 0
      doorbellRetries := 0
      sensorMin := ⟨fun _ ↦ 0⟩
      sensorMax := ⟨fun _ ↦ 0⟩ }
  record := ⟨0, 0, ⟨fun _ ↦ 0⟩, 0⟩
  cycle := ⟨0, 0, 0, false, false⟩
  prevCaptureUs := 0
  writeStartUs := 0
  pendingTicks := 0
  logWasEmpty := false
  doorbellPending := false
  checkinTick := 0

/-- `ulTaskNotifyTake` returns a count, `task_producer.c:170`. -/
def wake (p : Producer) (pendingTicks : UInt32) : Producer :=
  { p with pc := .sample, pendingTicks := pendingTicks }

/-- `ulTaskNotifyTake` returns zero, `task_producer.c:172–179`. -/
def timeOut (p : Producer) : Producer :=
  { p with
    pendingTicks := 0
    stats := { p.stats with timeouts := p.stats.timeouts + 1 } }

/-- The sample is taken and numbered, `task_producer.c:181–188`. -/
def takeSample (p : Producer) (captureUs : UInt64) (sensors : XadcSample) (buttons : UInt8)
    (writeStartUs : UInt64) : Producer :=
  { p with
    pc := .write
    record :=
      { captureUs := captureUs, seq := p.record.seq + 1, sensors := sensors, buttons := buttons }
    writeStartUs := writeStartUs }

/-- `sensor_log_write` has returned `stored` and left `logWasEmpty`, `task_producer.c:189–193`. -/
def wrote (p : Producer) (stored logWasEmpty : Bool) (nowUs : UInt64) : Producer :=
  { p with
    pc := if stored && (logWasEmpty || p.doorbellPending) then .ring else .update
    logWasEmpty := logWasEmpty
    cycle := { p.cycle with
      writeDropped := !stored
      writeTimeUs := (nowUs - p.writeStartUs).toUInt32
      doorbellFailed := false } }

/-- After a write the producer rings or goes on. -/
theorem pc_wrote (p : Producer) (stored logWasEmpty : Bool) (nowUs : UInt64) :
    (p.wrote stored logWasEmpty nowUs).pc = .ring ∨
      (p.wrote stored logWasEmpty nowUs).pc = .update := by
  unfold wrote
  simp only
  split
  · exact .inl rfl
  · exact .inr rfl

/-- `task_consumer_send` has returned `sent` for the doorbell, `task_producer.c:202–203`. -/
def rang (p : Producer) (sent : Bool) : Producer :=
  { p with
    pc := .update
    doorbellPending := !sent
    cycle := { p.cycle with doorbellFailed := !sent } }

/-- The end of a cycle, `task_producer.c:206–210`. -/
def update (p : Producer) : Producer :=
  let cycle := { p.cycle with
    readTimeUs := (p.writeStartUs - p.record.captureUs).toUInt32
    missedTicks := p.pendingTicks - 1 }
  { p with
    pc := .checkin .test
    cycle := cycle
    stats := producerUpdateStats p.stats p.record p.prevCaptureUs cycle
    prevCaptureUs := p.record.captureUs }

end Producer
end SensorAggregator.Tasks
