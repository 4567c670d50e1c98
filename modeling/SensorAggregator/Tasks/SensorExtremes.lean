import Mathlib.Data.List.Induction
import SensorAggregator.Base.Counter
import SensorAggregator.Base.Extremes
import SensorAggregator.Tasks.Producer

/-!
# The producer's sensor extremes

`producer_update_stats` starts the extremes when `s_stats.samples` is 1, `task_producer.c:108`.
The counter is that of the samples modulo `2 ^ 32`, so the extremes start afresh with every
sample numbered one more than a multiple of `2 ^ 32`, and cover the samples from there on.
-/

namespace SensorAggregator.Tasks

open Base Datalog

/-- The arguments of one call of `producer_update_stats`. -/
structure Handled where
  record : SensorRecord
  prevCaptureUs : UInt64
  cycle : ProducerCycle

/-- The statistics after the calls `l`, the oldest first. -/
def handleAll (stats : ProducerStats) (l : List Handled) : ProducerStats :=
  l.foldl (fun stats h ↦ producerUpdateStats stats h.record h.prevCaptureUs h.cycle) stats

/-- The raw code of a sensor in the sample of a call. -/
def Handled.code (sensor : XadcSensor) (h : Handled) : ℕ := (h.record.sensors.rawCode sensor).toNat

/-- The samples handled since the sample counter was last 1. -/
def sinceRestart (l : List Handled) : List Handled := Extremes.recent (2 ^ 32) l

/-- One more call. -/
theorem handleAll_concat (stats : ProducerStats) (l : List Handled) (h : Handled) :
    handleAll stats (l ++ [h]) =
      producerUpdateStats (handleAll stats l) h.record h.prevCaptureUs h.cycle := by
  rw [handleAll, List.foldl_append]
  rfl

/-- The sample counter is the wrapped number of calls. -/
theorem samples_handleAll {stats : ProducerStats} (hstart : stats.samples = 0)
    (l : List Handled) : (handleAll stats l).samples = UInt32.ofNat l.length := by
  induction l using List.reverseRecOn with
  | nil => exact hstart
  | append_singleton l h ih =>
    rw [handleAll_concat, (producerUpdateStats_counters _ _ _ _).1, ih, List.length_append,
      List.length_singleton, Counter.ofNat_succ]

private theorem samples_succ_eq_one {n : ℕ} : UInt32.ofNat n + 1 = 1 ↔ 2 ^ 32 ∣ n := by
  rw [← Counter.ofNat_succ]
  have hone : (1 : UInt32) = UInt32.ofNat 1 := rfl
  rw [hone, Counter.ofNat_eq_ofNat_iff, Nat.dvd_iff_mod_eq_zero]
  omega

private theorem updatePeriod_extremes (record : SensorRecord) (prevCaptureUs : UInt64)
    (stats : ProducerStats) :
    (updatePeriod record prevCaptureUs stats).sensorMin = stats.sensorMin ∧
      (updatePeriod record prevCaptureUs stats).sensorMax = stats.sensorMax := by
  unfold updatePeriod
  split <;> exact ⟨rfl, rfl⟩

/-- A call starts the extremes at its own sample when it makes the counter 1, and otherwise widens
them by it. -/
theorem extremes_producerUpdateStats (stats : ProducerStats) (record : SensorRecord)
    (prevCaptureUs : UInt64) (cycle : ProducerCycle) (sensor : XadcSensor) :
    let code := (record.sensors.rawCode sensor).toNat
    let stats' := producerUpdateStats stats record prevCaptureUs cycle
    (stats'.sensorMin.rawCode sensor).toNat =
        (if stats.samples + 1 = 1 then code
          else min code (stats.sensorMin.rawCode sensor).toNat) ∧
      (stats'.sensorMax.rawCode sensor).toNat =
        if stats.samples + 1 = 1 then code
          else max code (stats.sensorMax.rawCode sensor).toNat := by
  have hsamples : (updatePeriod record prevCaptureUs (updateCounters cycle stats)).samples =
      stats.samples + 1 := (updatePeriod_counters _ _ _).1
  obtain ⟨hmin, hmax⟩ := updatePeriod_extremes record prevCaptureUs (updateCounters cycle stats)
  obtain ⟨hfoldMin, hfoldMax⟩ := foldl_updateExtremes record XadcSensor.all
    (updatePeriod record prevCaptureUs (updateCounters cycle stats)) sensor
  simp only [producerUpdateStats, updateSensors, hsamples]
  split
  · exact ⟨rfl, rfl⟩
  · rw [hfoldMin, hfoldMax, hmin, hmax]
    simp only [XadcSensor.mem_all, true_and, UInt16.lt_iff_toNat_lt, updateCounters]
    constructor
    · split <;> omega
    · split <;> omega

/-- After any number of samples the extremes are those of the samples since the counter was
last 1. -/
theorem extremes_sinceRestart {stats : ProducerStats} (hstart : stats.samples = 0)
    {l : List Handled} (hne : l ≠ []) (sensor : XadcSensor) :
    IsLeast (Extremes.values (Handled.code sensor) (sinceRestart l))
        ((handleAll stats l).sensorMin.rawCode sensor).toNat ∧
      IsGreatest (Extremes.values (Handled.code sensor) (sinceRestart l))
        ((handleAll stats l).sensorMax.rawCode sensor).toNat := by
  induction l using List.reverseRecOn with
  | nil => exact absurd rfl hne
  | append_singleton l h ih =>
    obtain ⟨hmin, hmax⟩ := extremes_producerUpdateStats (handleAll stats l) h.record
      h.prevCaptureUs h.cycle sensor
    rw [handleAll_concat, hmin, hmax, samples_handleAll hstart]
    by_cases hdvd : 2 ^ 32 ∣ l.length
    · rw [if_pos (samples_succ_eq_one.mpr hdvd), if_pos (samples_succ_eq_one.mpr hdvd),
        sinceRestart, Extremes.recent_concat_of_dvd hdvd]
      exact ⟨Extremes.isLeast_singleton, Extremes.isGreatest_singleton⟩
    · have hl : l ≠ [] := by
        rintro rfl
        exact hdvd (Nat.dvd_zero _)
      obtain ⟨ihmin, ihmax⟩ := ih hl
      rw [if_neg (mt samples_succ_eq_one.mp hdvd), if_neg (mt samples_succ_eq_one.mp hdvd),
        sinceRestart, Extremes.recent_concat_of_not_dvd hdvd]
      exact ⟨Extremes.isLeast_concat ihmin, Extremes.isGreatest_concat ihmax⟩

/-- The recorded minimum of a sensor is exact when a sample since the last restart attains it. -/
def LowRecurs (sensor : XadcSensor) (l : List Handled) : Prop :=
  ∃ h ∈ sinceRestart l, ∀ k ∈ l, h.code sensor ≤ k.code sensor

/-- The same for the maximum. -/
def HighRecurs (sensor : XadcSensor) (l : List Handled) : Prop :=
  ∃ h ∈ sinceRestart l, ∀ k ∈ l, k.code sensor ≤ h.code sensor

/-- After the `n`-th sample, `n ≥ 1`, the minimum and the maximum of a sensor are those over all
`n` samples exactly when a sample since the counter was last 1 attains them. -/
theorem sensorExtremes_exact_iff (timerPeriodUs : UInt32) {l : List Handled} (hne : l ≠ [])
    (sensor : XadcSensor) :
    let stats := handleAll (Producer.boot timerPeriodUs).stats l
    (IsLeast (Extremes.values (Handled.code sensor) l) (stats.sensorMin.rawCode sensor).toNat ↔
        LowRecurs sensor l) ∧
      (IsGreatest (Extremes.values (Handled.code sensor) l)
        (stats.sensorMax.rawCode sensor).toNat ↔ HighRecurs sensor l) := by
  have hstart : (Producer.boot timerPeriodUs).stats.samples = 0 := rfl
  obtain ⟨hmin, hmax⟩ := extremes_sinceRestart hstart hne sensor
  exact ⟨Extremes.isLeast_iff_recent hmin, Extremes.isGreatest_iff_recent hmax⟩

-- A call for a sample with all codes at `code`.
private def callAt (code : UInt16) : Handled :=
  ⟨⟨0, 0, ⟨fun _ ↦ code⟩, 0⟩, 0, ⟨0, 0, 0, false, false⟩⟩

/-- Two samples are all since the restart, and the first has the minimum. -/
theorem sensorExtremes_exact_iff_two :
    [callAt 3, callAt 9] ≠ [] ∧ LowRecurs .dieTemp [callAt 3, callAt 9] ∧
      IsLeast (Extremes.values (Handled.code .dieTemp) [callAt 3, callAt 9])
        ((handleAll (Producer.boot 100000).stats [callAt 3, callAt 9]).sensorMin.rawCode
          .dieTemp).toNat := by
  have hlow : LowRecurs .dieTemp [callAt 3, callAt 9] := by
    refine ⟨callAt 3, ?_, by decide⟩
    rw [sinceRestart, Extremes.recent_eq_self (by decide)]
    exact List.mem_cons_self
  exact ⟨List.cons_ne_nil _ _, hlow,
    (sensorExtremes_exact_iff 100000 (List.cons_ne_nil _ _) .dieTemp).1.mpr hlow⟩

private theorem sensorMin_restart {l : List Handled} (hdvd : 2 ^ 32 ∣ l.length) (h : Handled)
    (sensor : XadcSensor) :
    ((handleAll (Producer.boot 100000).stats (l ++ [h])).sensorMin.rawCode sensor).toNat =
      h.code sensor := by
  have hmin := (extremes_producerUpdateStats (handleAll (Producer.boot 100000).stats l) h.record
    h.prevCaptureUs h.cycle sensor).1
  rw [handleAll_concat, hmin, samples_handleAll rfl, if_pos (samples_succ_eq_one.mpr hdvd)]
  rfl

/-- After `2 ^ 32 + 1` samples, of which the first has the code 0 and all others 5, the recorded
minimum is 5. -/
theorem sensorExtremes_restart :
    ∃ l : List Handled, l.length = 2 ^ 32 + 1 ∧ l.head? = some (callAt 0) ∧
      ((handleAll (Producer.boot 100000).stats l).sensorMin.rawCode .dieTemp).toNat = 5 ∧
      ¬ IsLeast (Extremes.values (Handled.code .dieTemp) l)
        ((handleAll (Producer.boot 100000).stats l).sensorMin.rawCode .dieTemp).toNat := by
  have hlen : (callAt 0 :: List.replicate (2 ^ 32 - 1) (callAt 5)).length = 2 ^ 32 := by
    rw [List.length_cons, List.length_replicate]
    omega
  have hmin := sensorMin_restart (Dvd.intro_left 1 (by rw [hlen, Nat.one_mul])) (callAt 5) .dieTemp
  refine ⟨_ ++ [callAt 5], ?_, rfl, hmin, ?_⟩
  · rw [List.length_append, hlen, List.length_singleton]
  · rw [hmin]
    intro hleast
    have hle := hleast.2 ⟨callAt 0, List.mem_append_left _ List.mem_cons_self, rfl⟩
    exact absurd hle (by decide)

end SensorAggregator.Tasks
