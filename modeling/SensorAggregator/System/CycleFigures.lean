import SensorAggregator.Base.Emission
import SensorAggregator.System.Ledger
import SensorAggregator.Tasks.SensorExtremes

/-!
# The figures of the producer's cycles

`producer_update_stats` keeps the longest read of the sensors, the longest write to the log, the
shortest and the longest time between two captures, and counts the doorbells that the queue
refused, `task_producer.c:74–106`. Each is compared with what the run really did: with the clock
readings of every cycle counted so far, and with every doorbell.
-/

namespace SensorAggregator.System

open Base Datalog Tasks

variable {b : Board} {as : List Action} {s₀ s : State} {a : Action}

/-- The sample a step takes, with the time its sensors took to read. -/
def sampled (s : State) : Action → List (SensorRecord × UInt32)
  | .producerSample captureUs sensors buttons writeStartUs =>
    [((s.producer.takeSample captureUs sensors buttons writeStartUs).record,
      (writeStartUs - captureUs).toUInt32)]
  | _ => []

/-- The time from the end of the reads to the end of a step's write. -/
def wroteUs (s : State) : Action → List UInt32
  | .producerWrite _ nowUs => [(nowUs - s.producer.writeStartUs).toUInt32]
  | _ => []

/-- The doorbell of a step that the queue has no room for. -/
def refusedDoorbell (cfg : AppConfig) (s : State) : Action → List ConsumerMsg
  | .producerRing => if (taskConsumerSend cfg s.queue ⟨.dataReady, '\x00'⟩).2 then []
    else [⟨.dataReady, '\x00'⟩]
  | _ => []

/-- The call of `producer_update_stats` in a step. -/
def updated (s : State) : Action → List Handled
  | .producerUpdate => [⟨s.producer.record, s.producer.prevCaptureUs, s.producer.update.cycle⟩]
  | _ => []

/-- The sample and the read time of the cycle in work. -/
def sampledInWork (p : Producer) : List (SensorRecord × UInt32) :=
  if uncounted p.pc = 1 then [(p.record, p.update.cycle.readTimeUs)] else []

/-- The write time of the cycle in work, once it has written. -/
def wroteInWork (p : Producer) : List UInt32 :=
  if p.pc = .ring ∨ p.pc = .update then [p.cycle.writeTimeUs] else []

/-- The time between two captures as far as 32 bits hold it; after a capture at zero there is
none, as before the first capture. -/
def gapUs (prevCaptureUs captureUs : UInt64) : List ℕ :=
  if prevCaptureUs = 0 then [] else [(captureUs - prevCaptureUs).toNat % 2 ^ 32]

/-- The times between the captures of consecutive records. -/
def gapsUs : UInt64 → List SensorRecord → List ℕ
  | _, [] => []
  | prevCaptureUs, r :: records => gapUs prevCaptureUs r.captureUs ++ gapsUs r.captureUs records

private theorem gapsUs_concat (prevCaptureUs : UInt64) (records : List SensorRecord)
    (r : SensorRecord) :
    gapsUs prevCaptureUs (records ++ [r]) = gapsUs prevCaptureUs records ++
      gapUs (records.foldl (fun _ r ↦ r.captureUs) prevCaptureUs) r.captureUs := by
  induction records generalizing prevCaptureUs with
  | nil => exact List.append_nil _
  | cons r' records ih =>
    rw [List.cons_append, gapsUs, gapsUs, ih, List.append_assoc, List.foldl_cons]

section steps

private theorem updateSensors_eq (record : SensorRecord) (stats : ProducerStats) :
    ∃ sensorMin sensorMax, updateSensors record stats =
      { stats with sensorMin := sensorMin, sensorMax := sensorMax } := by
  have hfold : ∀ (l : List XadcSensor) (stats : ProducerStats), ∃ sensorMin sensorMax,
      l.foldl (updateExtremes record) stats =
        { stats with sensorMin := sensorMin, sensorMax := sensorMax } := by
    intro l
    induction l with
    | nil => exact fun stats ↦ ⟨stats.sensorMin, stats.sensorMax, rfl⟩
    | cons sensor l ih =>
      intro stats
      obtain ⟨sensorMin, sensorMax, hl⟩ := ih (updateExtremes record stats sensor)
      exact ⟨sensorMin, sensorMax, hl⟩
  unfold updateSensors
  split
  · exact ⟨_, _, rfl⟩
  · exact hfold _ stats

private theorem updatePeriod_gaps (record : SensorRecord) (prevCaptureUs : UInt64)
    (stats : ProducerStats) :
    let stats' := updatePeriod record prevCaptureUs stats
    let gaps := gapUs prevCaptureUs record.captureUs
    stats'.periodMinUs.toNat = gaps.foldl min stats.periodMinUs.toNat ∧
      stats'.periodMaxUs.toNat = gaps.foldl max stats.periodMaxUs.toNat ∧
      stats'.readTimeMaxUs = stats.readTimeMaxUs ∧ stats'.logWriteMaxUs = stats.logWriteMaxUs ∧
      stats'.doorbellRetries = stats.doorbellRetries := by
  unfold updatePeriod gapUs
  simp only
  split
  · exact ⟨rfl, rfl, rfl, rfl, rfl⟩
  · refine ⟨?_, toNat_raiseMax _ _, rfl, rfl, rfl⟩
    simp only [List.foldl_cons, List.foldl_nil, UInt32.lt_iff_toNat_lt, UInt64.toNat_toUInt32]
    split
    · next hlt =>
      rw [UInt64.toNat_toUInt32]
      omega
    · next hge => omega

/-- `producer_update_stats` raises the maxima, lowers the minimum and counts a refused doorbell. -/
theorem producerUpdateStats_figures (stats : ProducerStats) (h : Handled) :
    let stats' := producerUpdateStats stats h.record h.prevCaptureUs h.cycle
    let gaps := gapUs h.prevCaptureUs h.record.captureUs
    stats'.readTimeMaxUs.toNat = max stats.readTimeMaxUs.toNat h.cycle.readTimeUs.toNat ∧
      stats'.logWriteMaxUs.toNat = max stats.logWriteMaxUs.toNat h.cycle.writeTimeUs.toNat ∧
      stats'.periodMinUs.toNat = gaps.foldl min stats.periodMinUs.toNat ∧
      stats'.periodMaxUs.toNat = gaps.foldl max stats.periodMaxUs.toNat ∧
      stats'.doorbellRetries = stats.doorbellRetries + if h.cycle.doorbellFailed then 1 else 0 := by
  obtain ⟨sensorMin, sensorMax, hsensors⟩ := updateSensors_eq h.record
    (updatePeriod h.record h.prevCaptureUs (updateCounters h.cycle stats))
  obtain ⟨hmin, hmax, hread, hwrite, hretries⟩ := updatePeriod_gaps h.record h.prevCaptureUs
    (updateCounters h.cycle stats)
  simp only [producerUpdateStats, hsensors]
  refine ⟨?_, ?_, hmin, hmax, hretries⟩
  · rw [hread]
    exact toNat_raiseMax _ _
  · rw [hwrite]
    exact toNat_raiseMax _ _

private theorem stats_next (hupdate : a ≠ .producerUpdate) (htimeout : a ≠ .producerTimeOut) :
    (s.next b a).producer.stats = s.producer.stats := by
  by_cases htask : a.task = some .producer
  · cases a with
    | producerUpdate => exact absurd rfl hupdate
    | producerTimeOut => exact absurd rfl htimeout
    | producerWake | producerSample | producerWrite | producerRing => rfl
    | checkinTest client | checkinRead client | checkinStore client =>
      cases htask
      rfl
    | _ => cases htask
  · rw [(s.next_producer b htask).1]

private theorem prevCaptureUs_next (hupdate : a ≠ .producerUpdate) :
    (s.next b a).producer.prevCaptureUs = s.producer.prevCaptureUs := by
  by_cases htask : a.task = some .producer
  · cases a with
    | producerUpdate => exact absurd rfl hupdate
    | producerWake | producerTimeOut | producerSample | producerWrite | producerRing => rfl
    | checkinTest client | checkinRead client | checkinStore client =>
      cases htask
      rfl
    | _ => cases htask
  · rw [(s.next_producer b htask).1]

private theorem cycle_of_other (htask : a.task ≠ some .producer) :
    sampled s a = [] ∧ wroteUs s a = [] ∧ updated s a = [] := by
  cases a with
  | producerSample | producerWrite | producerUpdate => exact absurd rfl htask
  | _ => exact ⟨rfl, rfl, rfl⟩

private theorem sampled_moves (ha : s.enabled a = true) :
    sampledInWork s.producer ++ sampled s a =
      (updated s a).map (fun h ↦ (h.record, h.cycle.readTimeUs)) ++
        sampledInWork (s.next b a).producer := by
  by_cases htask : a.task = some .producer
  · cases a with
    | producerWake | producerTimeOut =>
      have hpc : s.producer.pc = .waitTick := beq_iff_eq.mp (Bool.and_eq_true_iff.mp ha).1
      simp [sampledInWork, hpc, uncounted, sampled, updated, State.next, Producer.wake,
        Producer.timeOut]
    | producerSample captureUs sensors buttons writeStartUs =>
      have hpc : s.producer.pc = .sample := beq_iff_eq.mp ha
      simp [sampledInWork, hpc, uncounted, sampled, updated, State.next, State.producerSample,
        Producer.takeSample, Producer.update]
    | producerWrite lock nowUs =>
      have hpc : s.producer.pc = .write := beq_iff_eq.mp ha
      have hafter : uncounted (s.next b (.producerWrite lock nowUs)).producer.pc = 1 := by
        exact (uncounted_wrote _ _ _ _).2
      rw [sampledInWork, sampledInWork, hafter, hpc]
      rfl
    | producerRing =>
      have hpc : s.producer.pc = .ring := beq_iff_eq.mp ha
      rw [sampledInWork, hpc]
      rfl
    | producerUpdate =>
      have hpc : s.producer.pc = .update := beq_iff_eq.mp ha
      rw [sampledInWork, hpc]
      rfl
    | checkinTest client =>
      cases htask
      have hpc : s.producer.pc = .checkin .test := beq_iff_eq.mp ha
      have hafter : uncounted (s.next b (.checkinTest .producer)).producer.pc = 0 := by
        rcases s.checkinTest_cases b.cfg .producer with h | h <;>
          exact (congrArg uncounted (beq_iff_eq.mp h)).trans rfl
      rw [sampledInWork, sampledInWork, hafter, hpc]
      rfl
    | checkinRead client =>
      cases htask
      have hpc : s.producer.pc = .checkin .read := beq_iff_eq.mp ha
      rw [sampledInWork, hpc]
      rfl
    | checkinStore client =>
      cases htask
      have hpc : s.producer.pc = .checkin .store := beq_iff_eq.mp ha
      rw [sampledInWork, hpc]
      rfl
    | _ => cases htask
  · obtain ⟨hsampled, -, hupdated⟩ := cycle_of_other (s := s) htask
    rw [hsampled, hupdated, (s.next_producer b htask).1, List.append_nil]
    rfl

private theorem wroteUs_moves (ha : s.enabled a = true) :
    wroteInWork s.producer ++ wroteUs s a =
      (updated s a).map (fun h ↦ h.cycle.writeTimeUs) ++ wroteInWork (s.next b a).producer := by
  by_cases htask : a.task = some .producer
  · have hpoint := s.pc_producer_next b ha htask
    cases a with
    | producerWrite lock nowUs =>
      have hpc : s.producer.pc = .write := beq_iff_eq.mp ha
      simp only [State.producerPoints, List.mem_pair] at hpoint
      rw [wroteInWork, wroteInWork, if_pos hpoint, hpc]
      rfl
    | producerRing =>
      have hpc : s.producer.pc = .ring := beq_iff_eq.mp ha
      rw [wroteInWork, hpc]
      rfl
    | producerUpdate =>
      have hpc : s.producer.pc = .update := beq_iff_eq.mp ha
      rw [wroteInWork, hpc]
      rfl
    | producerWake | producerTimeOut | producerSample | checkinTest | checkinRead | checkinStore =>
      have hbefore : ¬ (s.producer.pc = .ring ∨ s.producer.pc = .update) := by
        rintro (h | h) <;> cases htask <;> simp [State.enabled, State.atCheckin, h] at ha
      rw [wroteInWork, wroteInWork, if_neg hbefore, if_neg]
      · rfl
      · rintro (h | h) <;> simp [State.producerPoints, h] at hpoint
    | _ => cases htask
  · obtain ⟨-, hwrote, hupdated⟩ := cycle_of_other (s := s) htask
    rw [hwrote, hupdated, (s.next_producer b htask).1, List.append_nil]
    rfl

/-- A doorbell that failed is counted with its cycle. -/
def retriesInWork (p : Producer) : UInt32 :=
  if p.pc = .update ∧ p.cycle.doorbellFailed = true then 1 else 0

private theorem retriesInWork_of_ne {p : Producer} (h : p.pc ≠ .update) : retriesInWork p = 0 :=
  if_neg fun hu ↦ h hu.1

private theorem doorbellRetries_next (ha : s.enabled a = true) :
    (s.next b a).producer.stats.doorbellRetries + retriesInWork (s.next b a).producer =
      s.producer.stats.doorbellRetries + retriesInWork s.producer +
        UInt32.ofNat (refusedDoorbell b.cfg s a).length := by
  by_cases htask : a.task = some .producer
  · have hpoint := s.pc_producer_next b ha htask
    cases a with
    | producerRing =>
      have hpc : s.producer.pc = .ring := beq_iff_eq.mp ha
      simp only [State.next, State.producerRing, Producer.rang, retriesInWork, refusedDoorbell, hpc]
      cases (taskConsumerSend b.cfg s.queue ⟨.dataReady, '\x00'⟩).2 <;> simp
    | producerUpdate =>
      have hpc : s.producer.pc = .update := beq_iff_eq.mp ha
      have hretries : s.producer.update.stats.doorbellRetries =
          s.producer.stats.doorbellRetries + if s.producer.cycle.doorbellFailed then 1 else 0 :=
        (producerUpdateStats_figures s.producer.stats
          ⟨s.producer.record, s.producer.prevCaptureUs, s.producer.update.cycle⟩).2.2.2.2
      have hcounted : retriesInWork s.producer.update = 0 := rfl
      simp only [State.next, hretries, hcounted]
      simp [retriesInWork, hpc, refusedDoorbell]
    | producerWrite lock nowUs =>
      have hpc : s.producer.pc = .write := beq_iff_eq.mp ha
      have hafter : retriesInWork (s.next b (.producerWrite lock nowUs)).producer = 0 := by
        exact if_neg fun h ↦ Bool.noConfusion h.2
      have hbefore : retriesInWork s.producer = 0 :=
        retriesInWork_of_ne (by rw [hpc]; exact ProducerPc.noConfusion)
      rw [hafter, hbefore]
      exact (UInt32.add_zero _).symm
    | producerWake | producerTimeOut | producerSample | checkinTest | checkinRead | checkinStore =>
      cases htask
      have hbefore : s.producer.pc ≠ .update := by
        intro h
        simp [State.enabled, State.atCheckin, h] at ha
      rw [retriesInWork_of_ne hbefore, retriesInWork_of_ne]
      · exact (UInt32.add_zero _).symm
      · intro h
        simp [State.producerPoints, h] at hpoint
    | _ => cases htask
  · have hnone : refusedDoorbell b.cfg s a = [] := by
      cases a with
      | producerRing => exact absurd rfl htask
      | _ => rfl
    rw [hnone, (s.next_producer b htask).1]
    exact (UInt32.add_zero _).symm

end steps

section runs

/-- The calls of `producer_update_stats` in a run, in order. -/
def updates (b : Board) (s₀ : State) (as : List Action) : List Handled :=
  Machine.emitted (step b) updated s₀ as

/-- A figure that only `producer_update_stats` changes is folded from its calls. -/
theorem figure_run {K : Type} (figure : ProducerStats → K) (g : K → Handled → K)
    (htimeouts : ∀ stats timeouts, figure { stats with timeouts := timeouts } = figure stats)
    (hupdate : ∀ stats h, figure (producerUpdateStats stats h.record h.prevCaptureUs h.cycle) =
      g (figure stats) h) (hrun : Machine.run (step b) s₀ as = some s) :
    figure s.producer.stats = (updates b s₀ as).foldl g (figure s₀.producer.stats) := by
  refine Machine.foldl_emitted (fun s ↦ figure s.producer.stats) (I := fun _ ↦ True) trivial
    (fun _ _ _ _ _ ↦ trivial) ?_ hrun
  intro s a t _ hstep
  obtain ⟨-, -, rfl⟩ := step_eq_some.mp hstep
  cases a with
  | producerUpdate =>
    exact hupdate s.producer.stats
      ⟨s.producer.record, s.producer.prevCaptureUs, s.producer.update.cycle⟩
  | producerTimeOut => exact htimeouts _ _
  | _ =>
    rw [stats_next Action.noConfusion Action.noConfusion]
    rfl

/-- The records taken are those sampled. -/
theorem taken_eq_sampled (hs₀ : Starts b.cfg s₀) (hrun : Machine.run (step b) s₀ as = some s) :
    s.history.taken = (Machine.emitted (step b) sampled s₀ as).map Prod.fst := by
  refine Machine.run_induction (P := fun as s ↦
    s.history.taken = (Machine.emitted (step b) sampled s₀ as).map Prod.fst) ?_ ?_ hrun
  · obtain ⟨_, _, _, _, _, rfl⟩ := hs₀
    rfl
  · intro as s a t hrun ih hstep
    rw [Machine.emitted_concat _ hrun hstep, List.map_append, ← ih]
    obtain ⟨-, -, rfl⟩ := step_eq_some.mp hstep
    by_cases htask : a.task = some .producer
    · cases a with
      | producerSample => rfl
      | checkinTest client | checkinRead client | checkinStore client =>
        cases htask
        exact (List.append_nil _).symm
      | producerWake | producerTimeOut | producerWrite | producerRing | producerUpdate =>
        exact (List.append_nil _).symm
      | _ => cases htask
    · rw [(s.next_producer b htask).2, (cycle_of_other htask).1]
      exact (List.append_nil _).symm

private theorem sampled_line (hs₀ : Starts b.cfg s₀)
    (hrun : Machine.run (step b) s₀ as = some s) :
    Machine.emitted (step b) sampled s₀ as =
      (updates b s₀ as).map (fun h ↦ (h.record, h.cycle.readTimeUs)) ++
        sampledInWork s.producer := by
  have hline := Machine.line_emitted (I := fun _ ↦ True) trivial (fun _ _ _ _ _ ↦ trivial)
    (fun s a t _ hstep ↦ (step_eq_some.mp hstep).2.2 ▸ sampled_moves (step_eq_some.mp hstep).2.1)
    hrun
  obtain ⟨_, _, _, _, _, rfl⟩ := hs₀
  rw [updates, Machine.map_emitted]
  exact hline

private theorem wroteUs_line (hs₀ : Starts b.cfg s₀)
    (hrun : Machine.run (step b) s₀ as = some s) :
    Machine.emitted (step b) wroteUs s₀ as =
      (updates b s₀ as).map (fun h ↦ h.cycle.writeTimeUs) ++ wroteInWork s.producer := by
  have hline := Machine.line_emitted (I := fun _ ↦ True) trivial (fun _ _ _ _ _ ↦ trivial)
    (fun s a t _ hstep ↦ (step_eq_some.mp hstep).2.2 ▸ wroteUs_moves (step_eq_some.mp hstep).2.1)
    hrun
  obtain ⟨_, _, _, _, _, rfl⟩ := hs₀
  rw [updates, Machine.map_emitted]
  exact hline

private theorem length_updates (hs₀ : Starts b.cfg s₀)
    (hrun : Machine.run (step b) s₀ as = some s) :
    (updates b s₀ as).length = counted s.producer.pc s.history.taken := by
  have hlen := congrArg List.length (sampled_line hs₀ hrun)
  have hwork : (sampledInWork s.producer).length = (uncounted s.producer.pc).toNat := by
    unfold sampledInWork
    cases s.producer.pc <;> rfl
  rw [List.length_append, List.length_map, hwork] at hlen
  rw [counted, taken_eq_sampled hs₀ hrun, List.length_map, hlen, Nat.add_sub_cancel]

/-- The samples counted so far, with their read times, are the calls' records and read times. -/
theorem sampled_run (hs₀ : Starts b.cfg s₀) (hrun : Machine.run (step b) s₀ as = some s) :
    (Machine.emitted (step b) sampled s₀ as).take (counted s.producer.pc s.history.taken) =
      (updates b s₀ as).map fun h ↦ (h.record, h.cycle.readTimeUs) := by
  rw [sampled_line hs₀ hrun, ← length_updates hs₀ hrun]
  exact List.take_left' (List.length_map _)

/-- Their write times are the calls' write times. -/
theorem wroteUs_run (hs₀ : Starts b.cfg s₀) (hrun : Machine.run (step b) s₀ as = some s) :
    (Machine.emitted (step b) wroteUs s₀ as).take (counted s.producer.pc s.history.taken) =
      (updates b s₀ as).map fun h ↦ h.cycle.writeTimeUs := by
  rw [wroteUs_line hs₀ hrun, ← length_updates hs₀ hrun]
  exact List.take_left' (List.length_map _)

private theorem gapsUs_updates (hs₀ : Starts b.cfg s₀)
    (hrun : Machine.run (step b) s₀ as = some s) :
    gapsUs 0 ((updates b s₀ as).map Handled.record) =
        ((updates b s₀ as).flatMap fun h ↦ gapUs h.prevCaptureUs h.record.captureUs) ∧
      ((updates b s₀ as).map Handled.record).foldl (fun _ r ↦ r.captureUs) 0 =
        s.producer.prevCaptureUs := by
  refine Machine.run_induction (P := fun as s ↦
    gapsUs 0 ((updates b s₀ as).map Handled.record) =
        ((updates b s₀ as).flatMap fun h ↦ gapUs h.prevCaptureUs h.record.captureUs) ∧
      ((updates b s₀ as).map Handled.record).foldl (fun _ r ↦ r.captureUs) 0 =
        s.producer.prevCaptureUs) ?_ ?_ hrun
  · obtain ⟨_, _, _, _, _, rfl⟩ := hs₀
    exact ⟨rfl, rfl⟩
  · intro as s a t hrun ih hstep
    obtain ⟨ihgaps, ihprev⟩ := ih
    rw [updates, Machine.emitted_concat _ hrun hstep, ← updates]
    obtain ⟨-, -, rfl⟩ := step_eq_some.mp hstep
    by_cases hupdate : a = .producerUpdate
    · subst hupdate
      simp only [updated, List.map_append, List.map_cons, List.map_nil, List.flatMap_append,
        List.flatMap_singleton, gapsUs_concat, ihgaps, ihprev, List.foldl_append]
      exact ⟨trivial, rfl⟩
    · have hnone : updated s a = [] := by
        cases a with
        | producerUpdate => exact absurd rfl hupdate
        | _ => rfl
      rw [hnone, List.append_nil, prevCaptureUs_next hupdate]
      exact ⟨ihgaps, ihprev⟩

/-- The gaps of the calls are those between the captures of the samples counted. -/
theorem gapsUs_run (hs₀ : Starts b.cfg s₀) (hrun : Machine.run (step b) s₀ as = some s) :
    gapsUs 0 (s.history.taken.take (counted s.producer.pc s.history.taken)) =
      (updates b s₀ as).flatMap fun h ↦ gapUs h.prevCaptureUs h.record.captureUs := by
  rw [← (gapsUs_updates hs₀ hrun).1, taken_eq_sampled hs₀ hrun, ← List.map_take,
    ← taken_eq_sampled hs₀ hrun, sampled_run hs₀ hrun, List.map_map]
  rfl

/-- In every reachable state the longest sensor read and the longest write to the log are those
over the samples counted so far, and every doorbell that the queue refused is counted, the last
one once its cycle ends. -/
theorem cycle_maxima_exact (hs₀ : Starts b.cfg s₀) (hrun : Machine.run (step b) s₀ as = some s) :
    let reads := Machine.emitted (step b) sampled s₀ as
    let writes := Machine.emitted (step b) wroteUs s₀ as
    let doorbells := Machine.emitted (step b) (refusedDoorbell b.cfg) s₀ as
    let n := counted s.producer.pc s.history.taken
    IsGreatest (insert 0 (Extremes.values (fun r ↦ r.2.toNat) (reads.take n)))
        s.producer.stats.readTimeMaxUs.toNat ∧
      IsGreatest (insert 0 (Extremes.values UInt32.toNat (writes.take n)))
        s.producer.stats.logWriteMaxUs.toNat ∧
      s.producer.stats.doorbellRetries + retriesInWork s.producer =
        UInt32.ofNat doorbells.length := by
  intro reads writes doorbells n
  refine ⟨?_, ?_, ?_⟩
  · have hfold := figure_run (fun stats ↦ stats.readTimeMaxUs.toNat)
      (fun m h ↦ max m h.cycle.readTimeUs.toNat) (fun _ _ ↦ rfl)
      (fun stats h ↦ (producerUpdateStats_figures stats h).1) hrun
    have hmax := Extremes.isGreatest_foldl_max (f := fun r ↦ r.2.toNat) 0 (reads.take n)
    rw [sampled_run hs₀ hrun, List.foldl_map] at hmax
    rw [hfold, sampled_run hs₀ hrun]
    obtain ⟨_, _, _, _, _, rfl⟩ := hs₀
    exact hmax
  · have hfold := figure_run (fun stats ↦ stats.logWriteMaxUs.toNat)
      (fun m h ↦ max m h.cycle.writeTimeUs.toNat) (fun _ _ ↦ rfl)
      (fun stats h ↦ (producerUpdateStats_figures stats h).2.1) hrun
    have hmax := Extremes.isGreatest_foldl_max (f := UInt32.toNat) 0 (writes.take n)
    rw [wroteUs_run hs₀ hrun, List.foldl_map] at hmax
    rw [hfold, wroteUs_run hs₀ hrun]
    obtain ⟨_, _, _, _, _, rfl⟩ := hs₀
    exact hmax
  · have hcount := Machine.counter_emitted
      (fun s ↦ s.producer.stats.doorbellRetries + retriesInWork s.producer)
      (I := fun _ ↦ True) (f := refusedDoorbell b.cfg) trivial (fun _ _ _ _ _ ↦ trivial)
      (fun s a t _ hstep ↦
        (step_eq_some.mp hstep).2.2 ▸ doorbellRetries_next (step_eq_some.mp hstep).2.1) hrun
    obtain ⟨_, _, _, _, _, rfl⟩ := hs₀
    exact hcount.trans (UInt32.zero_add _)

-- A queue of one message.
private def shortQueueBoard : Board where
  cfg := { appConfig with
    consumerQueueLen := 1
    consumerQueueLen_pos := Nat.zero_lt_one }
  wdtRunning := true
  wdtTimeoutMs := 2000

-- One cycle of the producer by the clock, with its doorbell.
private def timedCycle (captureUs writeStartUs nowUs : UInt64) : List Action :=
  [.timerInterrupt, .producerWake, .producerSample captureUs ⟨fun _ ↦ 0⟩ 0 writeStartUs,
    .producerWrite (some ⟨0, 0⟩) nowUs, .producerRing, .producerUpdate, .checkinTest .producer,
    .checkinRead .producer, .checkinStore .producer]

-- A press takes the only place in the queue, two cycles find it full, and a third sample is in
-- work.
private def timedRun : List Action :=
  [.uiWake, .uiPress4 true] ++ timedCycle 100 130 150 ++ timedCycle 1100 1125 1190 ++
    [.timerInterrupt, .producerWake, .producerSample 9000 ⟨fun _ ↦ 0⟩ 0 9900]

/-- The longest read is that of the first cycle, and the third one does not count yet. -/
theorem cycle_maxima_exact_timed :
    ∃ s, Machine.run (step shortQueueBoard) (powerOn shortQueueBoard.cfg) timedRun = some s ∧
      IsGreatest (insert 0 (Extremes.values (fun r ↦ r.2.toNat)
        ((Machine.emitted (step shortQueueBoard) sampled (powerOn shortQueueBoard.cfg)
          timedRun).take 2))) 30 ∧
      s.producer.stats.doorbellRetries + retriesInWork s.producer = 2 := by
  have hrun : (Machine.run (step shortQueueBoard) (powerOn shortQueueBoard.cfg) timedRun).any
      (fun s ↦ s.producer.stats.readTimeMaxUs == 30 &&
        counted s.producer.pc s.history.taken == 2) = true := by
    decide +kernel
  obtain ⟨s, hs, hcheck⟩ := (Option.any_eq_true _ _).mp hrun
  rw [Bool.and_eq_true, beq_iff_eq, beq_iff_eq] at hcheck
  obtain ⟨hread, -, hretries⟩ :=
    cycle_maxima_exact (b := shortQueueBoard) (starts_powerOn (by decide +kernel)) hs
  rw [hcheck.1, hcheck.2] at hread
  exact ⟨s, hs, hread, hretries.trans (by decide +kernel)⟩

/-- The shortest and the longest period are those between the captures of the samples counted so
far, as far as 32 bits hold them; before there are two they are at their start values. -/
theorem period_extremes_exact (hs₀ : Starts b.cfg s₀)
    (hrun : Machine.run (step b) s₀ as = some s) :
    let gaps := gapsUs 0 (s.history.taken.take (counted s.producer.pc s.history.taken))
    IsLeast (insert 0xFFFFFFFF (Extremes.values id gaps)) s.producer.stats.periodMinUs.toNat ∧
      IsGreatest (insert 0 (Extremes.values id gaps)) s.producer.stats.periodMaxUs.toNat := by
  intro gaps
  have hmin := figure_run (fun stats ↦ stats.periodMinUs.toNat)
    (fun m h ↦ (gapUs h.prevCaptureUs h.record.captureUs).foldl min m) (fun _ _ ↦ rfl)
    (fun stats h ↦ (producerUpdateStats_figures stats h).2.2.1) hrun
  have hmax := figure_run (fun stats ↦ stats.periodMaxUs.toNat)
    (fun m h ↦ (gapUs h.prevCaptureUs h.record.captureUs).foldl max m) (fun _ _ ↦ rfl)
    (fun stats h ↦ (producerUpdateStats_figures stats h).2.2.2.1) hrun
  rw [← List.foldl_flatMap, ← gapsUs_run hs₀ hrun] at hmin hmax
  rw [hmin, hmax]
  obtain ⟨_, _, _, _, _, rfl⟩ := hs₀
  exact ⟨Extremes.isLeast_foldl_min 0xFFFFFFFF gaps, Extremes.isGreatest_foldl_max 0 gaps⟩

/-- One period of 1000 us. -/
theorem period_extremes_exact_timed :
    ∃ s, Machine.run (step shortQueueBoard) (powerOn shortQueueBoard.cfg) timedRun = some s ∧
      gapsUs 0 (s.history.taken.take (counted s.producer.pc s.history.taken)) = [1000] ∧
      IsLeast (insert 0xFFFFFFFF (Extremes.values id [1000])) s.producer.stats.periodMinUs.toNat ∧
      IsGreatest (insert 0 (Extremes.values id [1000])) s.producer.stats.periodMaxUs.toNat := by
  have hrun : (Machine.run (step shortQueueBoard) (powerOn shortQueueBoard.cfg) timedRun).any
      (fun s ↦ gapsUs 0 (s.history.taken.take (counted s.producer.pc s.history.taken)) ==
        [1000]) = true := by
    decide +kernel
  obtain ⟨s, hs, hcheck⟩ := (Option.any_eq_true _ _).mp hrun
  have hextremes :=
    period_extremes_exact (b := shortQueueBoard) (starts_powerOn (by decide +kernel)) hs
  rw [beq_iff_eq.mp hcheck] at hextremes
  exact ⟨s, hs, beq_iff_eq.mp hcheck, hextremes⟩

end runs

end SensorAggregator.System
