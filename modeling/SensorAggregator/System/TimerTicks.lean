import SensorAggregator.System.Ledger

/-!
# No tick of the sample timer is lost

A tick is first a notification of the kernel, then part of the count that `ulTaskNotifyTake`
returns, and at the end of the cycle one sample and some overruns, `task_producer.c:170–208`.
`TicksAccounted` says that each tick is in exactly one of these places, whenever the interrupt
comes.
-/

namespace SensorAggregator.System

open Base Datalog Tasks

variable {b : Board} {as : List Action} {s : State} {a : Action}

/-- `sample_timer_isr`, `sample_timer.c:45–61`, for a callback on `σ`. The mask of the interval
interrupt is the vendor's. -/
def sampleTimerIsr {σ : Type} (ixrIntervalMask : UInt32) (tickCb : Option (σ → σ))
    (irqStatus : UInt32) (s : σ) : σ :=
  match tickCb with
  | none => s
  | some cb => if irqStatus &&& ixrIntervalMask ≠ 0 then cb s else s

/-- `producer_timer_tick_cb`, `task_producer.c:34–49`: one notification for the producer. -/
def producerTimerTickCb (s : State) : State := { s with notified := s.notified + 1 }

/-- With the producer's callback installed, an interval interrupt is the system's timer step, and
another interrupt of the timer does nothing. -/
theorem sampleTimerIsr_eq (ixrIntervalMask irqStatus : UInt32) :
    sampleTimerIsr ixrIntervalMask (some producerTimerTickCb) irqStatus s =
      if irqStatus &&& ixrIntervalMask ≠ 0 then s.next b .timerInterrupt else s := rfl

/-- The action is an interval interrupt of the sample timer. -/
def Action.isTimerInterrupt : Action → Bool
  | .timerInterrupt => true
  | _ => false

/-- The count taken by a cycle whose statistics are not yet committed. -/
def uncommittedTicks (p : Producer) : UInt32 :=
  match p.pc with
  | .sample | .write | .ring | .update => p.pendingTicks
  | .waitTick | .checkin _ | .hung => 0

/-- `n` interval interrupts are in the statistics, pending, or in the current cycle. -/
def TicksAccounted (n : ℕ) (s : State) : Prop :=
  UInt32.ofNat n =
    s.producer.stats.samples + s.producer.stats.overruns + s.notified +
      uncommittedTicks s.producer

private theorem updatePeriod_ticks (record : SensorRecord) (prevCaptureUs : UInt64)
    (stats : ProducerStats) :
    (updatePeriod record prevCaptureUs stats).overruns = stats.overruns ∧
      (updatePeriod record prevCaptureUs stats).timeouts = stats.timeouts := by
  unfold updatePeriod
  split <;> exact ⟨rfl, rfl⟩

private theorem updateSensors_ticks (record : SensorRecord) (stats : ProducerStats) :
    (updateSensors record stats).overruns = stats.overruns ∧
      (updateSensors record stats).timeouts = stats.timeouts := by
  have hfold : ∀ (l : List XadcSensor) (stats : ProducerStats),
      (l.foldl (updateExtremes record) stats).overruns = stats.overruns ∧
        (l.foldl (updateExtremes record) stats).timeouts = stats.timeouts := by
    intro l
    induction l with
    | nil => exact fun _ ↦ ⟨rfl, rfl⟩
    | cons sensor l ih => exact fun stats ↦ ih (updateExtremes record stats sensor)
  unfold updateSensors
  split
  · exact ⟨rfl, rfl⟩
  · exact hfold _ _

private theorem producerUpdateStats_ticks (stats : ProducerStats) (record : SensorRecord)
    (prevCaptureUs : UInt64) (cycle : ProducerCycle) :
    (producerUpdateStats stats record prevCaptureUs cycle).overruns =
        stats.overruns + cycle.missedTicks ∧
      (producerUpdateStats stats record prevCaptureUs cycle).timeouts = stats.timeouts := by
  unfold producerUpdateStats
  rw [(updateSensors_ticks _ _).1, (updateSensors_ticks _ _).2, (updatePeriod_ticks _ _ _).1,
    (updatePeriod_ticks _ _ _).2]
  exact ⟨rfl, rfl⟩

private theorem update_ticks {p : Producer} (hpc : p.pc = .update) :
    p.update.stats.samples + p.update.stats.overruns =
      p.stats.samples + p.stats.overruns + uncommittedTicks p := by
  have hsamples : p.update.stats.samples = p.stats.samples + 1 :=
    (producerUpdateStats_counters _ _ _ _).1
  have hoverruns : p.update.stats.overruns = p.stats.overruns + (p.pendingTicks - 1) :=
    (producerUpdateStats_ticks _ _ _ _).1
  have htaken : uncommittedTicks p = p.pendingTicks := by rw [uncommittedTicks, hpc]
  rw [hsamples, hoverruns, htaken]
  grind

private theorem notified_next (hpc : a ≠ .producerWake) (hint : a ≠ .timerInterrupt) :
    (s.next b a).notified = s.notified := by
  cases a with
  | producerWake => exact absurd rfl hpc
  | timerInterrupt => exact absurd rfl hint
  | uiPress4 pressed | uiPress5 pressed => cases pressed <;> rfl
  | uiKey key =>
    simp only [State.next, State.uiSend]
    split <;> rfl
  | consumerReceive =>
    simp only [State.next, State.consumerReceive]
    split <;> rfl
  | consumerHandle lock =>
    obtain ⟨_, _, _, _, hs, -⟩ := s.consumerHandle_cases b.cfg lock
    rw [State.next, hs]
  | checkinTest client | checkinRead client | checkinStore client => cases client <;> rfl
  | _ => rfl

/-- The ticks the producer has seen: counted, or taken by its current cycle. -/
def seenTicks (p : Producer) : UInt32 := p.stats.samples + p.stats.overruns + uncommittedTicks p

private theorem seenTicks_congr {p p' : Producer} (hsamples : p'.stats.samples = p.stats.samples)
    (hoverruns : p'.stats.overruns = p.stats.overruns)
    (hticks : uncommittedTicks p' = uncommittedTicks p) : seenTicks p' = seenTicks p := by
  unfold seenTicks
  rw [hsamples, hoverruns, hticks]

private theorem uncommittedTicks_wrote {p : Producer} (hpc : p.pc = .write) (stored e : Bool)
    (nowUs : UInt64) : uncommittedTicks (p.wrote stored e nowUs) = uncommittedTicks p := by
  have hticks : (p.wrote stored e nowUs).pendingTicks = p.pendingTicks := rfl
  unfold uncommittedTicks
  rcases p.pc_wrote stored e nowUs with h | h <;> rw [h, hpc, hticks]

private theorem seenTicks_next (ha : s.enabled a = true) (hwake : a ≠ .producerWake) :
    seenTicks (s.next b a).producer = seenTicks s.producer := by
  by_cases htask : a.task = some .producer
  · cases a with
    | producerWake => exact absurd rfl hwake
    | producerTimeOut =>
      have hpc : s.producer.pc = .waitTick := beq_iff_eq.mp (Bool.and_eq_true_iff.mp ha).1
      refine seenTicks_congr rfl rfl ?_
      simp only [uncommittedTicks, State.next, Producer.timeOut, hpc]
    | producerSample captureUs sensors buttons writeStartUs =>
      have hpc : s.producer.pc = .sample := beq_iff_eq.mp ha
      refine seenTicks_congr rfl rfl ?_
      rw [uncommittedTicks, uncommittedTicks, hpc]
      rfl
    | producerWrite lock nowUs =>
      exact seenTicks_congr rfl rfl (uncommittedTicks_wrote (beq_iff_eq.mp ha) _ _ _)
    | producerRing =>
      have hpc : s.producer.pc = .ring := beq_iff_eq.mp ha
      refine seenTicks_congr rfl rfl ?_
      rw [uncommittedTicks, uncommittedTicks, hpc]
      rfl
    | producerUpdate =>
      have hcommitted : uncommittedTicks s.producer.update = 0 := rfl
      have hticks := update_ticks (beq_iff_eq.mp ha)
      simp only [State.next, seenTicks, hcommitted, hticks, UInt32.add_zero]
    | checkinTest client =>
      cases htask
      have hpc : s.producer.pc = .checkin .test := beq_iff_eq.mp ha
      refine seenTicks_congr rfl rfl ?_
      rw [uncommittedTicks, uncommittedTicks, hpc]
      rcases s.checkinTest_cases b.cfg .producer with h | h <;>
        rw [show (s.next b (.checkinTest .producer)).producer.pc = _ from beq_iff_eq.mp h]
    | checkinRead client =>
      cases htask
      have hpc : s.producer.pc = .checkin .read := beq_iff_eq.mp ha
      refine seenTicks_congr rfl rfl ?_
      rw [uncommittedTicks, uncommittedTicks, hpc]
      rfl
    | checkinStore client =>
      cases htask
      have hpc : s.producer.pc = .checkin .store := beq_iff_eq.mp ha
      refine seenTicks_congr rfl rfl ?_
      rw [uncommittedTicks, uncommittedTicks, hpc]
      rfl
    | _ => cases htask
  · rw [(s.next_producer b htask).1]

/-- Every step accounts for the ticks, the interrupt for one more. -/
theorem TicksAccounted.next {n : ℕ} (h : TicksAccounted n s) (ha : s.enabled a = true) :
    TicksAccounted (n + if a.isTimerInterrupt then 1 else 0) (s.next b a) := by
  have hseen : UInt32.ofNat n = seenTicks s.producer + s.notified := by
    unfold TicksAccounted at h
    unfold seenTicks
    grind
  have hgoal : ∀ t m, UInt32.ofNat m = seenTicks t.producer + t.notified →
      TicksAccounted m t := by
    intro t m hm
    unfold TicksAccounted
    unfold seenTicks at hm
    grind
  apply hgoal
  by_cases hwake : a = .producerWake
  · subst hwake
    have hpc : s.producer.pc = .waitTick := beq_iff_eq.mp (Bool.and_eq_true_iff.mp ha).1
    have hbefore : uncommittedTicks s.producer = 0 := by rw [uncommittedTicks, hpc]
    have hafter : seenTicks (s.next b .producerWake).producer =
        s.producer.stats.samples + s.producer.stats.overruns + s.notified := rfl
    have hnone : (s.next b .producerWake).notified = 0 := rfl
    rw [hafter, hnone, UInt32.add_zero]
    rw [seenTicks, hbefore, UInt32.add_zero] at hseen
    exact hseen
  · rw [seenTicks_next ha hwake]
    by_cases hint : a = .timerInterrupt
    · subst hint
      have hgiven : (s.next b .timerInterrupt).notified = s.notified + 1 := rfl
      simp only [Action.isTimerInterrupt, if_true]
      rw [Counter.ofNat_succ, hseen, hgiven, UInt32.add_assoc]
    · rw [notified_next hwake hint]
      have hnone : a.isTimerInterrupt = false := by
        cases a with
        | timerInterrupt => exact absurd rfl hint
        | _ => rfl
      rw [hnone]
      exact hseen

/-- Only a wait that ends without a notification counts a timeout. -/
theorem timeouts_next (hne : a ≠ .producerTimeOut) :
    (s.next b a).producer.stats.timeouts = s.producer.stats.timeouts := by
  by_cases htask : a.task = some .producer
  · cases a with
    | producerTimeOut => exact absurd rfl hne
    | producerUpdate => exact (producerUpdateStats_ticks _ _ _ _).2
    | producerWake | producerSample | producerWrite | producerRing => rfl
    | checkinTest client | checkinRead client | checkinStore client =>
      cases htask
      rfl
    | _ => cases htask
  · rw [(s.next_producer b htask).1]

/-- No tick of the sample timer is lost from the accounting: in every reachable state the interval
interrupts delivered are the samples, the overruns, the pending notifications and the count taken
by a cycle not yet committed; between cycles the last sequence number is the number of samples;
a wait counts a timeout only if no notification is pending; and what counts as an interrupt is what
`sample_timer_isr` hands to the producer. -/
theorem ticks_accounted (h : Reaches b as s) :
    UInt32.ofNat (as.countP Action.isTimerInterrupt) =
        s.producer.stats.samples + s.producer.stats.overruns + s.notified +
          uncommittedTicks s.producer ∧
      (uncounted s.producer.pc = 0 → s.producer.record.seq - s.producer.stats.samples = 0) ∧
      (∀ a t, step b s a = some t → t.producer.stats.timeouts ≠ s.producer.stats.timeouts →
        a = .producerTimeOut ∧ s.producer.pc = .waitTick ∧ s.notified = 0 ∧
          t.producer.stats.timeouts = s.producer.stats.timeouts + 1) ∧
      ∀ ixrIntervalMask irqStatus,
        sampleTimerIsr ixrIntervalMask (some producerTimerTickCb) irqStatus s =
          if irqStatus &&& ixrIntervalMask ≠ 0 then s.next b .timerInterrupt else s := by
  refine ⟨?_, ?_, ?_, sampleTimerIsr_eq⟩
  · refine h.induction (P := fun as s ↦ TicksAccounted (as.countP Action.isTimerInterrupt) s)
      ?_ ?_
    · rintro s₀ ⟨_, _, _, _, _, rfl⟩
      rfl
    · intro as s a _ ih ha
      rw [List.countP_append, List.countP_singleton]
      exact ih.next ha
  · intro hbetween
    obtain ⟨q, hl⟩ := h.ledger
    have hsamples := hl.samples
    rw [hbetween, UInt32.add_zero, ← hl.seq] at hsamples
    rw [hsamples, UInt32.sub_self]
  · intro a t hstep hne
    obtain ⟨_, ha, rfl⟩ := step_eq_some.mp hstep
    by_cases hout : a = .producerTimeOut
    · subst hout
      obtain ⟨hpc, hnone⟩ := Bool.and_eq_true_iff.mp ha
      exact ⟨rfl, beq_iff_eq.mp hpc, beq_iff_eq.mp hnone, rfl⟩
    · exact absurd (timeouts_next hout) hne

-- Three ticks before the producer runs and one during its cycle.
private def lateRun : List Action :=
  [.timerInterrupt, .timerInterrupt, .timerInterrupt, .producerWake, .timerInterrupt,
    .producerSample 0 ⟨fun _ ↦ 0⟩ 0 0]

/-- Three of the four ticks are in the cycle, and one is pending. -/
theorem ticks_accounted_late :
    ∃ s, Reaches ⟨appConfig, true, 2000⟩ lateRun s ∧ uncommittedTicks s.producer = 3 ∧
      s.notified = 1 ∧
      UInt32.ofNat (lateRun.countP Action.isTimerInterrupt) =
        s.producer.stats.samples + s.producer.stats.overruns + s.notified +
          uncommittedTicks s.producer := by
  have hrun : (Machine.run (step ⟨appConfig, true, 2000⟩) (powerOn appConfig) lateRun).any
      (fun s ↦ uncommittedTicks s.producer == 3 && s.notified == 1) = true := by
    decide +kernel
  obtain ⟨s, hs, hcheck⟩ := reaches_of_powerOn (by decide +kernel) hrun
  rw [Bool.and_eq_true, beq_iff_eq, beq_iff_eq] at hcheck
  exact ⟨s, hs, hcheck.1, hcheck.2, (ticks_accounted hs).1⟩

end SensorAggregator.System
