import SensorAggregator.System.Report
import SensorAggregator.Tasks.ReportText

/-!
# The sensor report on the terminal

What `consumer_print_report` prints in a run, `task_consumer.c:172–207`, as it reads on the
terminal. The codes are those of `xadc_drv_read_all`, and the formatter keeps their order, so the
rows show a value between its extremes.
-/

namespace SensorAggregator.System

open Base Base.Decimal Datalog Drivers Tasks

variable {b : Board} {s₀ s : State} {as : List Action} {a : Action}

/-- The codes of a sample have 12 bits. -/
def Coded (sample : XadcSample) : Prop := ∀ sensor, (sample.rawCode sensor).toNat < 4096

/-- Those that the driver reads do. -/
theorem coded_xadcDrvReadAll (ready : Bool) (getAdcData : XadcSensor → UInt16) :
    Coded (xadcDrvReadAll ready getAdcData) :=
  toNat_xadcDrvReadRaw_lt ready getAdcData

/-- The producer's samples are those that the driver reads. -/
def ReadsDriver : Action → Prop
  | .producerSample _ sensors _ _ => ∃ ready getAdcData, sensors = xadcDrvReadAll ready getAdcData
  | _ => True

/-- What the consumer reports in a step. -/
def reportedBy (s : State) : Action → List (SensorRecord × ProducerStats)
  | .consumerReport => [(s.consumer.record.record, s.producer.stats)]
  | _ => []

private theorem reports_next :
    (s.next b a).history.reports = s.history.reports ++ reportedBy s a := by
  by_cases htask : a.task = some .consumer
  · cases a with
    | consumerReport => rfl
    | consumerHandle lock =>
      obtain ⟨_, _, _, _, hnext, -⟩ := s.consumerHandle_cases b.cfg lock
      rw [State.next, hnext]
      exact (List.append_nil _).symm
    | consumerReceive =>
      simp only [State.next, State.consumerReceive, reportedBy, List.append_nil]
      split <;> rfl
    | checkinTest client | checkinRead client | checkinStore client =>
      cases htask
      exact (List.append_nil _).symm
    | consumerStart | consumerReceiveTimeOut | consumerDepth | consumerDrain | consumerRead
    | consumerProcess | consumerStallTick | consumerStall =>
      exact (List.append_nil _).symm
    | _ => cases htask
  · have hnone : reportedBy s a = [] := by
      cases a with
      | consumerReport => exact absurd rfl htask
      | _ => rfl
    rw [(s.next_consumer b htask).2, hnone, List.append_nil]

private theorem record_next :
    (s.next b a).producer.record.sensors = s.producer.record.sensors ∨
      ∃ captureUs sensors buttons writeStartUs,
        a = .producerSample captureUs sensors buttons writeStartUs ∧
          (s.next b a).producer.record.sensors = sensors := by
  by_cases htask : a.task = some .producer
  · cases a with
    | producerSample captureUs sensors buttons writeStartUs =>
      exact .inr ⟨captureUs, sensors, buttons, writeStartUs, rfl, rfl⟩
    | checkinTest client | checkinRead client | checkinStore client =>
      cases htask
      exact .inl rfl
    | producerWake | producerTimeOut | producerWrite | producerRing | producerUpdate =>
      exact .inl rfl
    | _ => cases htask
  · rw [(s.next_producer b htask).1]
    exact .inl rfl

/-- The codes at hand have 12 bits, and so have the greatest ones of the statistics and of every
report. -/
structure MaxCoded (s : State) : Prop where
  record : Coded s.producer.record.sensors
  stats : Coded s.producer.stats.sensorMax
  reports : ∀ r ∈ s.history.reports, Coded r.2.sensorMax

/-- Every step keeps it that way. -/
theorem MaxCoded.next (h : MaxCoded s) (ha : s.enabled a = true) (hread : ReadsDriver a) :
    MaxCoded (s.next b a) := by
  refine ⟨?_, ?_, ?_⟩
  · rcases record_next (b := b) (s := s) (a := a) with hsame | ⟨_, _, _, _, rfl, hsensors⟩
    · rw [hsame]
      exact h.record
    · obtain ⟨ready, getAdcData, rfl⟩ := hread
      rw [hsensors]
      exact coded_xadcDrvReadAll ready getAdcData
  · rcases sample_update_or_same (b := b) ha with ⟨_, _, _, _, rfl⟩ | rfl | ⟨-, -, -, hmax⟩
    · exact h.stats
    · intro sensor
      have hmax := (extremes_producerUpdateStats s.producer.stats s.producer.record
        s.producer.prevCaptureUs s.producer.update.cycle sensor).2
      show ((producerUpdateStats s.producer.stats s.producer.record s.producer.prevCaptureUs
        s.producer.update.cycle).sensorMax.rawCode sensor).toNat < 4096
      rw [hmax]
      split
      · exact h.record sensor
      · exact max_lt (h.record sensor) (h.stats sensor)
    · intro sensor
      rw [hmax]
      exact h.stats sensor
  · intro r hr
    rw [reports_next] at hr
    rcases List.mem_append.mp hr with hr | hr
    · exact h.reports r hr
    · cases a with
      | consumerReport =>
        rw [List.mem_singleton.mp hr]
        exact h.stats
      | _ => exact absurd hr List.not_mem_nil

/-- A run keeps the reports consistent and their codes within 12 bits. -/
theorem reported_run (hs₀ : Starts b.cfg s₀)
    (hrun : Machine.run (Machine.restrict prioritized (step b)) s₀ as = some s)
    (hfew : s.history.taken.length < 2 ^ 32) (hread : ∀ a ∈ as, ReadsDriver a) :
    Reported s ∧ MaxCoded s := by
  revert hfew hread
  refine Machine.run_induction (P := fun as s ↦ s.history.taken.length < 2 ^ 32 →
    (∀ a ∈ as, ReadsDriver a) → Reported s ∧ MaxCoded s) ?_ ?_ hrun
  · intro _ _
    obtain ⟨_, _, _, _, _, rfl⟩ := hs₀
    have hzero : Coded ⟨fun _ ↦ 0⟩ := fun _ ↦ (by decide : 0 < 4096)
    refine ⟨⟨fun hpc ↦ ConsumerPc.noConfusion hpc, ?_⟩, hzero, hzero, ?_⟩
    · intro r hr
      cases hr
    · intro r hr
      cases hr
  · intro as s a t hrun ih hstep hfew hread
    obtain ⟨hp, hstep⟩ := Machine.restrict_eq_some.mp hstep
    obtain ⟨_, ha, rfl⟩ := step_eq_some.mp hstep
    have hs : Reaches b as s := ⟨s₀, hs₀, Machine.run_of_run_restrict hrun⟩
    have htaken := (counted_next (b := b) ha).1
    have hlen : s.history.taken.length < 2 ^ 32 := Nat.lt_of_le_of_lt htaken.length_le hfew
    obtain ⟨hreported, hmax⟩ := ih hlen fun a' ha' ↦ hread a' (List.mem_append_left _ ha')
    exact ⟨hreported.next hs ha hp hlen,
      hmax.next ha (hread a (List.mem_append_right _ List.mem_cons_self))⟩

/-- Codes in order are shown in order. -/
theorem sensorNumeral_mono (sensor : XadcSensor) {code code' : UInt16} (hle : code ≤ code')
    (hcode : code'.toNat < 4096) :
    (sensorNumeral sensor code).value ≤ (sensorNumeral sensor code').value := by
  apply (rounds_sensorNumeral sensor code).mono (rounds_sensorNumeral sensor code')
  apply div_le_div_of_nonneg_right _ (by norm_num)
  exact_mod_cast xadcDrvCodeToMilli_mono sensor hle hcode

/-- Every report that is printed reads on the terminal as what was sampled: a row for each sensor,
with the newest sample's code and value, which is between the least and the greatest value shown,
under a title whose sample number is among the samples it counts. -/
theorem report_reads_in_order (hs₀ : Starts b.cfg s₀)
    (hrun : Machine.run (Machine.restrict prioritized (step b)) s₀ as = some s)
    (hfew : s.history.taken.length < 2 ^ 32) (hread : ∀ a ∈ as, ReadsDriver a)
    {record : SensorRecord} {stats : ProducerStats} (hmem : (record, stats) ∈ s.history.reports)
    (fmtBuf : List Char) (bufs : ReportBuffers) :
    ∃ rows : XadcSensor → ReportRow,
      readReport (consumerPrintReport fmtBuf bufs (some record) stats).2 =
        some ([((record.captureUs.toNat / 1000 % (2 ^ 32 * 1000) : ℕ) : ℚ) / 1000,
          record.seq.toNat, stats.samples.toNat], XadcSensor.all.map rows) ∧
      record.seq ≤ stats.samples ∧
      ∀ sensor, (rows sensor).min ≤ (rows sensor).now ∧ (rows sensor).now ≤ (rows sensor).max ∧
        (rows sensor).raw = (record.sensors.rawCode sensor).toNat ∧
        RoundsHalfAway (sensorDecimals sensor).toNat
          ((xadcDrvCodeToMilli sensor (record.sensors.rawCode sensor)).toInt / 1000)
          (rows sensor).now := by
  obtain ⟨hreported, hmax⟩ := reported_run hs₀ hrun hfew hread
  obtain ⟨hseq, hspans⟩ := hreported.reports _ hmem
  refine ⟨shownRow record stats, readReport_consumerPrintReport record stats fmtBuf bufs, hseq, ?_⟩
  intro sensor
  obtain ⟨hmin, hmaxCode⟩ := hspans sensor
  have hgreatest := hmax.reports _ hmem sensor
  have hcode : (record.sensors.rawCode sensor).toNat < 4096 :=
    Nat.lt_of_le_of_lt (UInt16.le_iff_toNat_le.mp hmaxCode) hgreatest
  exact ⟨sensorNumeral_mono sensor hmin hcode, sensorNumeral_mono sensor hmaxCode hgreatest, rfl,
    rounds_sensorNumeral sensor _⟩

-- One cycle of the producer with the same data in every channel.
private def cycleReading (adcData : UInt16) (ring : Bool) : List Action :=
  [.timerInterrupt, .producerWake, .producerSample 0 (xadcDrvReadAll true fun _ ↦ adcData) 0 0,
    .producerWrite (some ⟨0, 0⟩) 0] ++ (if ring then [.producerRing] else []) ++
    [.producerUpdate, .checkinTest .producer, .checkinRead .producer, .checkinStore .producer]

-- A report after one sample, while the second is counted.
private def shownRun : List Action :=
  [.consumerStart, .uiWake, .uiPress4 true] ++ cycleReading 0x9990 true ++
    [.consumerReceive, .consumerDepth, .consumerHandle (some ⟨0, 0⟩)] ++
    cycleReading 0x8880 false ++ [.consumerReport]

/-- The report shows sample 1 of 2. -/
theorem report_reads_in_order_between :
    ∃ s record stats, ∃ rows : XadcSensor → ReportRow,
      Machine.run (Machine.restrict prioritized (step ⟨appConfig, true, 2000⟩))
        (powerOn appConfig) shownRun = some s ∧ (record, stats) ∈ s.history.reports ∧
      record.seq = 1 ∧ stats.samples = 2 ∧
      (readReport (consumerPrintReport [] ⟨[], [], []⟩ (some record) stats).2).map Prod.snd =
        some (XadcSensor.all.map rows) ∧
      ∀ sensor, (rows sensor).min ≤ (rows sensor).now ∧ (rows sensor).raw = 0x999 := by
  have hrun : (Machine.run (Machine.restrict prioritized (step ⟨appConfig, true, 2000⟩))
      (powerOn appConfig) shownRun).any (fun s ↦ s.history.taken.length == 2 &&
        s.history.reports.head?.any fun r ↦ (r.1.seq == 1 && r.2.samples == 2) &&
          XadcSensor.all.all fun sensor ↦ r.1.sensors.rawCode sensor == 0x999) := by
    decide +kernel
  have hread : ∀ a ∈ shownRun, ReadsDriver a := by
    simp only [shownRun, cycleReading, List.forall_mem_append, List.forall_mem_cons, ReadsDriver]
    simp [xadcDrvReadAll]
  obtain ⟨s, hs, hcheck⟩ := (Option.any_eq_true _ _).mp hrun
  rw [Bool.and_eq_true, beq_iff_eq] at hcheck
  obtain ⟨hlen, hreport⟩ := hcheck
  obtain ⟨⟨record, stats⟩, hhead, hfound⟩ := (Option.any_eq_true _ _).mp hreport
  rw [Bool.and_eq_true, Bool.and_eq_true, beq_iff_eq, beq_iff_eq] at hfound
  obtain ⟨⟨hseq, hsamples⟩, hcodes⟩ := hfound
  have hmem := List.mem_of_mem_head? hhead
  obtain ⟨rows, hrows, -, hordered⟩ :=
    report_reads_in_order (b := ⟨appConfig, true, 2000⟩) (starts_powerOn (by decide +kernel)) hs
      (by rw [hlen]; decide) hread hmem [] ⟨[], [], []⟩
  refine ⟨s, record, stats, rows, hs, hmem, hseq, hsamples, by rw [hrows]; rfl, fun sensor ↦ ?_⟩
  have hcode := beq_iff_eq.mp (List.all_eq_true.mp hcodes sensor (XadcSensor.mem_all sensor))
  obtain ⟨hmin, -, hraw, -⟩ := hordered sensor
  rw [hcode] at hraw
  exact ⟨hmin, hraw⟩

end SensorAggregator.System
