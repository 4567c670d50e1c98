import SensorAggregator.System.Ledger
import SensorAggregator.Tasks.SensorExtremes

/-!
# The sensor report

`consumer_print_report` copies the newest record under the log's mutex and the producer's
statistics under a critical section, `task_consumer.c:175–207`. With the task priorities that
`main.c:49–51` asserts, every record it can see is already covered by the statistics it copies
later.
-/

namespace SensorAggregator.System

open Base Datalog Tasks

variable {b : Board} {as : List Action} {s : State}

/-- The extremes span every sample counted so far. -/
def Covered (p : Producer) (taken : List SensorRecord) : Prop :=
  ∀ (i : ℕ) (r : SensorRecord), taken[i]? = some r → i < counted p.pc taken → Spans p.stats r

/-- All steps but taking a sample and counting it leave the count and the extremes alone. -/
theorem sample_update_or_same {a : Action} (ha : s.enabled a = true) :
    (∃ captureUs sensors buttons writeStartUs,
        a = .producerSample captureUs sensors buttons writeStartUs) ∨
      a = .producerUpdate ∨
      (uncounted (s.next b a).producer.pc = uncounted s.producer.pc ∧
        (s.next b a).history.taken = s.history.taken ∧
        (s.next b a).producer.stats.sensorMin = s.producer.stats.sensorMin ∧
        (s.next b a).producer.stats.sensorMax = s.producer.stats.sensorMax) := by
  by_cases htask : a.task = some .producer
  · cases a with
    | producerSample captureUs sensors buttons writeStartUs => exact .inl ⟨_, _, _, _, rfl⟩
    | producerUpdate => exact .inr (.inl rfl)
    | producerWake =>
      have hpc : s.producer.pc = .waitTick := beq_iff_eq.mp (Bool.and_eq_true_iff.mp ha).1
      exact .inr (.inr ⟨by rw [hpc]; rfl, rfl, rfl, rfl⟩)
    | producerTimeOut => exact .inr (.inr ⟨rfl, rfl, rfl, rfl⟩)
    | producerWrite lock nowUs =>
      have hpc : s.producer.pc = .write := beq_iff_eq.mp ha
      exact .inr (.inr ⟨by rw [hpc]; exact (uncounted_wrote _ _ _ _).2, rfl, rfl, rfl⟩)
    | producerRing =>
      have hpc : s.producer.pc = .ring := beq_iff_eq.mp ha
      exact .inr (.inr ⟨by rw [hpc]; rfl, rfl, rfl, rfl⟩)
    | checkinTest client =>
      cases htask
      have hpc : s.producer.pc = .checkin .test := beq_iff_eq.mp ha
      refine .inr (.inr ⟨?_, rfl, rfl, rfl⟩)
      rw [hpc]
      rcases s.checkinTest_cases b.cfg .producer with h | h <;>
        exact (congrArg uncounted (beq_iff_eq.mp h)).trans rfl
    | checkinRead client =>
      cases htask
      have hpc : s.producer.pc = .checkin .read := beq_iff_eq.mp ha
      exact .inr (.inr ⟨by rw [hpc]; rfl, rfl, rfl, rfl⟩)
    | checkinStore client =>
      cases htask
      have hpc : s.producer.pc = .checkin .store := beq_iff_eq.mp ha
      exact .inr (.inr ⟨by rw [hpc]; rfl, rfl, rfl, rfl⟩)
    | _ => cases htask
  · obtain ⟨hproducer, htaken⟩ := s.next_producer b htask
    rw [hproducer, htaken]
    exact .inr (.inr ⟨rfl, rfl, rfl, rfl⟩)

private theorem Covered.sample {p p' : Producer} {taken : List SensorRecord} (h : Covered p taken)
    (hpc : p.pc = .sample) (hpc' : p'.pc = .write) (hstats : p'.stats = p.stats)
    (r₀ : SensorRecord) : Covered p' (taken ++ [r₀]) := by
  intro i r hr hi
  have hlt : i < taken.length := by
    rw [counted, hpc', List.length_append, List.length_singleton] at hi
    exact hi
  rw [List.getElem?_append_left hlt] at hr
  rw [hstats]
  apply h i r hr
  rw [counted, hpc]
  exact hlt

private theorem Covered.update {cfg : AppConfig} {n : ℕ} {q : Fifo Sample}
    {rb : RingBuffer Sample} {p : Producer} {c : Consumer} {h : History} (hc : Covered p h.taken)
    (hl : Ledger cfg n q rb p c h) (hpc : p.pc = .update) (hfew : h.taken.length < 2 ^ 32) :
    Covered p.update h.taken := by
  intro i r hr hi
  have hi' : i < h.taken.length := hi
  have hcounted : counted p.pc h.taken = h.taken.length - 1 := by
    rw [counted, hpc]
    rfl
  apply spans_producerUpdateStats
  by_cases hlast : i < h.taken.length - 1
  · right
    refine ⟨?_, hc i r hr (by rw [hcounted]; exact hlast)⟩
    rw [hl.samples_eq, hcounted, ← Counter.ofNat_succ]
    intro hone
    have hmod := Counter.ofNat_eq_ofNat_iff (n := 1).mp hone
    omega
  · left
    have hcurrent := hl.current (by rw [hpc]; rfl)
    rw [List.getLast?_eq_getElem?, show h.taken.length - 1 = i by omega, hr] at hcurrent
    exact Option.some_inj.mp hcurrent

/-- Until the sample number wraps, the extremes span every sample counted so far. -/
theorem Reaches.covered (h : Reaches b as s) (hfew : s.history.taken.length < 2 ^ 32) :
    Covered s.producer s.history.taken := by
  revert hfew
  refine h.induction (P := fun _ s ↦ s.history.taken.length < 2 ^ 32 →
    Covered s.producer s.history.taken) ?_ ?_
  · rintro s₀ ⟨_, _, _, _, _, rfl⟩ _ i r hr
    simp [State.boot] at hr
  · intro as s a hs ih ha hfew
    obtain ⟨q, hl⟩ := hs.ledger
    rcases sample_update_or_same (b := b) ha with
      ⟨captureUs, sensors, buttons, writeStartUs, rfl⟩ | rfl | ⟨hpc, htaken, hmin, hmax⟩
    · have hpc : s.producer.pc = .sample := beq_iff_eq.mp ha
      have hlen : s.history.taken.length < 2 ^ 32 :=
        Nat.lt_of_le_of_lt (List.prefix_append _ _).length_le hfew
      refine Covered.sample (ih hlen) hpc ?_ ?_ _
      · rfl
      · rfl
    · have hpc : s.producer.pc = .update := beq_iff_eq.mp ha
      exact Covered.update (ih hfew) hl hpc hfew
    · rw [htaken] at hfew ⊢
      intro i r hr hi sensor
      rw [hmin, hmax]
      rw [counted, hpc] at hi
      exact ih hfew i r hr hi sensor

/-- The extremes in the statistics are those that calls of `producer_update_stats` for these
records, in order, leave behind. -/
def ExtremesOf (stats : ProducerStats) (records : List SensorRecord) : Prop :=
  ∃ timerPeriodUs l, l.map Handled.record = records ∧ ∀ sensor,
    stats.sensorMin.rawCode sensor =
        (handleAll (Producer.boot timerPeriodUs).stats l).sensorMin.rawCode sensor ∧
      stats.sensorMax.rawCode sensor =
        (handleAll (Producer.boot timerPeriodUs).stats l).sensorMax.rawCode sensor

private theorem ExtremesOf.update {p : Producer} {records : List SensorRecord}
    (h : ExtremesOf p.stats records) (hsamples : p.stats.samples = UInt32.ofNat records.length) :
    ExtremesOf p.update.stats (records ++ [p.record]) := by
  obtain ⟨timerPeriodUs, l, rfl, hsame⟩ := h
  generalize hcycle : p.update.cycle = cycle
  refine ⟨timerPeriodUs, l ++ [⟨p.record, p.prevCaptureUs, cycle⟩], by simp, fun sensor ↦ ?_⟩
  have hstats : p.update.stats =
      producerUpdateStats p.stats p.record p.prevCaptureUs cycle := by rw [← hcycle]; rfl
  obtain ⟨hmin, hmax⟩ := hsame sensor
  obtain ⟨hmin₁, hmax₁⟩ := extremes_producerUpdateStats p.stats p.record p.prevCaptureUs cycle
    sensor
  obtain ⟨hmin₂, hmax₂⟩ := extremes_producerUpdateStats
    (handleAll (Producer.boot timerPeriodUs).stats l) p.record p.prevCaptureUs cycle sensor
  rw [List.length_map] at hsamples
  rw [samples_handleAll rfl, ← hsamples] at hmin₂ hmax₂
  rw [hstats, handleAll_concat, ← UInt16.toNat_inj, ← UInt16.toNat_inj, hmin₁, hmax₁, hmin₂, hmax₂,
    hmin, hmax]
  exact ⟨rfl, rfl⟩

/-- In every reachable state the extremes are those of the samples counted so far. -/
theorem Reaches.extremes (h : Reaches b as s) :
    ExtremesOf s.producer.stats
      (s.history.taken.take (counted s.producer.pc s.history.taken)) := by
  refine h.induction (P := fun _ s ↦ ExtremesOf s.producer.stats
    (s.history.taken.take (counted s.producer.pc s.history.taken))) ?_ ?_
  · rintro s₀ ⟨_, _, _, timerPeriodUs, _, rfl⟩
    exact ⟨timerPeriodUs, [], rfl, fun _ ↦ ⟨rfl, rfl⟩⟩
  · intro as s a hs ih ha
    obtain ⟨q, hl⟩ := hs.ledger
    rcases sample_update_or_same (b := b) ha with
      ⟨captureUs, sensors, buttons, writeStartUs, rfl⟩ | rfl | ⟨hpc, htaken, hmin, hmax⟩
    · have hpc : s.producer.pc = .sample := beq_iff_eq.mp ha
      have hnew : ∀ r : SensorRecord, (s.history.taken ++ [r]).take
          (counted .write (s.history.taken ++ [r])) = s.history.taken := by
        intro r
        rw [counted, List.length_append, List.length_singleton]
        exact List.take_left
      have hold : s.history.taken.take (counted s.producer.pc s.history.taken) =
          s.history.taken := by
        rw [hpc]
        exact List.take_length
      rw [hold] at ih
      rw [← hnew (s.producer.takeSample captureUs sensors buttons writeStartUs).record] at ih
      exact ih
    · have hpc : s.producer.pc = .update := beq_iff_eq.mp ha
      obtain ⟨before, hbefore⟩ := List.getLast?_eq_some_iff.mp (hl.current (by rw [hpc]; rfl))
      have hcounted : counted s.producer.pc s.history.taken = before.length := by
        rw [counted, hpc, hbefore, List.length_append, List.length_singleton]
        rfl
      have hsamples := hl.samples_eq
      rw [hcounted] at ih hsamples
      rw [hbefore, List.take_left] at ih
      have hall : s.history.taken.take (counted s.producer.update.pc s.history.taken) =
          before ++ [s.producer.record] := by
        rw [← hbefore]
        exact List.take_length
      have hupdate := ih.update hsamples
      rw [← hall] at hupdate
      exact hupdate
    · rw [htaken, counted, hpc]
      unfold ExtremesOf
      rw [hmin, hmax]
      exact ih

/-- Samples are never taken back, and neither is their count. -/
theorem counted_next {a : Action} (ha : s.enabled a = true) :
    s.history.taken <+: (s.next b a).history.taken ∧
      counted s.producer.pc s.history.taken ≤
        counted (s.next b a).producer.pc (s.next b a).history.taken := by
  rcases sample_update_or_same (b := b) ha with
    ⟨captureUs, sensors, buttons, writeStartUs, rfl⟩ | rfl | ⟨hpc, htaken, -, -⟩
  · refine ⟨List.prefix_append _ _, ?_⟩
    show _ ≤ counted .write (s.history.taken ++ [_])
    simp only [counted, List.length_append, List.length_singleton]
    exact Nat.sub_le _ _
  · refine ⟨List.prefix_refl _, ?_⟩
    exact Nat.sub_le _ _
  · rw [htaken, counted, counted, hpc]
    exact ⟨List.prefix_refl _, Nat.le_refl _⟩

/-- With the priorities that `main.c:49–51` asserts, the consumer runs only while the producer is
blocked: waiting for a tick, or for the log's mutex in `sensor_log_write`. -/
def prioritized (s : State) (a : Action) : Bool :=
  a.task != some .consumer || s.producer.pc == .waitTick || s.producer.pc == .write

/-- A record about to be reported is counted, and what was reported fits together. -/
structure Reported (s : State) : Prop where
  newest : s.consumer.pc = .report →
    Genuine s.history.taken s.consumer.record ∧
      s.consumer.record.number ≤ counted s.producer.pc s.history.taken
  reports : ∀ r ∈ s.history.reports, r.1.seq ≤ r.2.samples ∧ Spans r.2 r.1

private theorem newest_counted {cfg : AppConfig} {n : ℕ} {q : Fifo Sample}
    (hl : Ledger cfg n q s.log.ring s.producer s.consumer s.history)
    (hpc : s.producer.pc = .waitTick ∨ s.producer.pc = .write) {lock : Option Hold}
    (hfound : (s.log.peekNewest lock (some s.consumer.record)).2.2 = true) :
    ∃ x, (s.log.peekNewest lock (some s.consumer.record)).2.1 = some x ∧
      Genuine s.history.taken x ∧ x.number ≤ counted s.producer.pc s.history.taken := by
  obtain ⟨x, hx, hout⟩ := SensorLog.newest_of_peekNewest hl.ring hfound
  have hmem : x ∈ q.history := List.mem_of_getLast? hx
  refine ⟨x, hout, hl.genuine x (by simp [hmem]), ?_⟩
  have hstored := hl.stored x hmem
  rcases hpc with hpc | hpc <;> rw [hpc] at hstored ⊢ <;> exact hstored

private theorem agrees (hs : Reaches b as s) (hfew : s.history.taken.length < 2 ^ 32)
    {x : Sample} (hx : Genuine s.history.taken x)
    (hle : x.number ≤ counted s.producer.pc s.history.taken) :
    x.record.seq ≤ s.producer.stats.samples ∧ Spans s.producer.stats x.record := by
  obtain ⟨q, hl⟩ := hs.ledger
  obtain ⟨i, hi, hr⟩ := hx
  have hcounted : counted s.producer.pc s.history.taken ≤ s.history.taken.length := Nat.sub_le _ _
  constructor
  · rw [hl.seqs i _ hr, hl.samples_eq, UInt32.le_iff_toNat_le,
      Counter.toNat_ofNat_of_lt (by omega), Counter.toNat_ofNat_of_lt (by omega)]
    omega
  · exact hs.covered hfew i _ hr (by omega)

/-- Every prioritized step keeps the reports consistent. -/
theorem Reported.next {a : Action} (hr : Reported s) (hs : Reaches b as s)
    (ha : s.enabled a = true) (hp : prioritized s a = true)
    (hfew : s.history.taken.length < 2 ^ 32) : Reported (s.next b a) := by
  by_cases htask : a.task = some .consumer
  · have hother : a.task ≠ some .producer := by rw [htask]; decide
    have hpc : s.producer.pc = .waitTick ∨ s.producer.pc = .write := by
      simpa [prioritized, htask] using hp
    cases a with
    | consumerHandle lock =>
      obtain ⟨q, hl⟩ := hs.ledger
      obtain ⟨log, c, wdog, halted, hnext, -, hc, -⟩ := s.consumerHandle_cases b.cfg lock
      simp only [State.next, hnext]
      refine ⟨fun hpc' ↦ ?_, hr.reports⟩
      rcases hc with rfl | rfl
      · cases hpc'
      · cases hfound : (s.log.peekNewest lock (some s.consumer.record)).2.2 with
        | false =>
          simp only [hfound] at hpc'
          cases hpc'
        | true =>
          obtain ⟨x, hout, hx⟩ := newest_counted hl hpc hfound
          simp only [Consumer.gotNewest, hout, Option.getD_some]
          exact hx
    | consumerReport =>
      have hreport : s.consumer.pc = .report := beq_iff_eq.mp ha
      obtain ⟨hx, hle⟩ := hr.newest hreport
      refine ⟨fun hpc' ↦ ConsumerPc.noConfusion hpc', ?_⟩
      intro r hmem
      rcases List.mem_append.mp hmem with hmem | hmem
      · exact hr.reports r hmem
      · rw [List.mem_singleton.mp hmem]
        exact agrees hs hfew hx hle
    | consumerReceive =>
      simp only [State.next, State.consumerReceive]
      split
      · exact hr
      · exact ⟨fun hpc' ↦ ConsumerPc.noConfusion hpc', hr.reports⟩
    | consumerDrain =>
      refine ⟨fun hpc' ↦ ?_, hr.reports⟩
      rcases s.consumer.pc_drain b.cfg with h | h <;> cases h.symm.trans hpc'
    | consumerRead lock =>
      refine ⟨fun hpc' ↦ ?_, hr.reports⟩
      rcases s.consumer.pc_gotBatch _ _ _ with h | h <;> cases h.symm.trans hpc'
    | consumerProcess =>
      have hprocess : s.consumer.pc = .process := beq_iff_eq.mp ha
      refine ⟨fun hpc' ↦ ?_, hr.reports⟩
      rcases Consumer.pc_process b.cfg hprocess with h | h | h <;> cases h.symm.trans hpc'
    | checkinTest client =>
      cases htask
      refine ⟨fun hpc' ↦ ?_, hr.reports⟩
      rcases s.checkinTest_cases b.cfg .consumer with h | h <;>
        cases (beq_iff_eq.mp h).symm.trans hpc'
    | checkinRead client | checkinStore client =>
      cases htask
      exact ⟨fun hpc' ↦ ConsumerPc.noConfusion hpc', hr.reports⟩
    | consumerStart | consumerReceiveTimeOut | consumerDepth | consumerStallTick | consumerStall =>
      exact ⟨fun hpc' ↦ ConsumerPc.noConfusion hpc', hr.reports⟩
    | _ => cases htask
  · obtain ⟨hconsumer, hreports⟩ := s.next_consumer b htask
    obtain ⟨htaken, hcounted⟩ := counted_next (b := b) ha
    constructor
    · rw [hconsumer]
      intro hpc
      obtain ⟨hx, hle⟩ := hr.newest hpc
      exact ⟨hx.mono htaken, hle.trans hcounted⟩
    · rw [hreports]
      exact hr.reports

/-- With the tasks' priorities, a sensor report is consistent across its two sources: the record
is among the samples the statistics count, and every code is between the extremes. -/
theorem report_consistent {s₀ : State} (hs₀ : Starts b.cfg s₀)
    (hrun : Machine.run (Machine.restrict prioritized (step b)) s₀ as = some s)
    (hfew : s.history.taken.length < 2 ^ 32) {record : SensorRecord} {stats : ProducerStats}
    (hmem : (record, stats) ∈ s.history.reports) :
    record.seq ≤ stats.samples ∧ ∀ sensor,
      stats.sensorMin.rawCode sensor ≤ record.sensors.rawCode sensor ∧
        record.sensors.rawCode sensor ≤ stats.sensorMax.rawCode sensor := by
  have hreported : s.history.taken.length < 2 ^ 32 → Reported s := by
    refine Machine.run_induction (P := fun _ s ↦ s.history.taken.length < 2 ^ 32 → Reported s)
      ?_ ?_ hrun
    · intro _
      obtain ⟨_, _, _, _, _, rfl⟩ := hs₀
      refine ⟨fun hpc ↦ ConsumerPc.noConfusion hpc, ?_⟩
      intro r hr
      cases hr
    · intro as s a t hrun ih hstep hfew
      obtain ⟨hp, hstep⟩ := Machine.restrict_eq_some.mp hstep
      obtain ⟨_, ha, rfl⟩ := step_eq_some.mp hstep
      have hlen : s.history.taken.length < 2 ^ 32 :=
        Nat.lt_of_le_of_lt (counted_next (b := b) ha).1.length_le hfew
      exact (ih hlen).next ⟨s₀, hs₀, Machine.run_of_run_restrict hrun⟩ ha hp hlen
  exact (hreported hfew).reports _ hmem

-- One cycle of the producer with all codes at `code`.
private def cycleAt (code : UInt16) (ring : Bool) : List Action :=
  [.timerInterrupt, .producerWake, .producerSample 0 ⟨fun _ ↦ code⟩ 0 0,
    .producerWrite (some ⟨0, 0⟩) 0] ++ (if ring then [.producerRing] else []) ++
    [.producerUpdate, .checkinTest .producer, .checkinRead .producer, .checkinStore .producer]

-- A second sample is taken between the two reads of the report.
private def reportRun : List Action :=
  [.consumerStart, .uiWake, .uiPress4 true] ++ cycleAt 7 true ++
    [.consumerReceive, .consumerDepth, .consumerHandle (some ⟨0, 0⟩)] ++ cycleAt 9 false ++
    [.consumerReport]

/-- The report shows the first sample, and the statistics already cover the second. -/
theorem report_consistent_between :
    ∃ s record stats, Machine.run (Machine.restrict prioritized (step ⟨appConfig, true, 2000⟩))
        (powerOn appConfig) reportRun = some s ∧
      (record, stats) ∈ s.history.reports ∧ stats.samples = 2 ∧ record.seq ≤ stats.samples ∧
      ∀ sensor, stats.sensorMin.rawCode sensor ≤ record.sensors.rawCode sensor ∧
        record.sensors.rawCode sensor ≤ stats.sensorMax.rawCode sensor := by
  have hrun : (Machine.run (Machine.restrict prioritized (step ⟨appConfig, true, 2000⟩))
      (powerOn appConfig) reportRun).any (fun s ↦ s.history.taken.length == 2 &&
        s.history.reports.head?.any fun r ↦ r.2.samples == 2) := by
    decide +kernel
  obtain ⟨s, hs, hcheck⟩ := (Option.any_eq_true _ _).mp hrun
  rw [Bool.and_eq_true, beq_iff_eq] at hcheck
  obtain ⟨hlen, hreport⟩ := hcheck
  obtain ⟨⟨record, stats⟩, hhead, hsamples⟩ := (Option.any_eq_true _ _).mp hreport
  have hmem := List.mem_of_mem_head? hhead
  exact ⟨s, record, stats, hs, hmem, beq_iff_eq.mp hsamples,
    report_consistent (b := ⟨appConfig, true, 2000⟩) (starts_powerOn (by decide +kernel)) hs
      (by rw [hlen]; decide) hmem⟩

end SensorAggregator.System
