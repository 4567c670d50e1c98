import SensorAggregator.Base.Emission
import SensorAggregator.Base.Extremes
import SensorAggregator.System.Ledger

/-!
# The figures of the log

What `sensor_log_get_stats` reports, `sensor_log.c:204–229`, against the run that led there: how
many records were written, read and overwritten, the highest fill level, and the longest time
one call of any task held the mutex.
-/

namespace SensorAggregator.System

open Base Datalog Tasks

variable {b : Board} {as : List Action} {s₀ s : State} {a : Action}

/-- The action is a write that has the mutex. -/
def Action.stores : Action → Bool
  | .producerWrite (some _) _ => true
  | _ => false

/-- The action is a read that has to do without the mutex. -/
def Action.missesRead : Action → Bool
  | .consumerRead none => true
  | _ => false

/-- The time a call held the mutex, as `sensor_log_unlock` computes it, `sensor_log.c:51`. -/
def heldUs (hold : Hold) : UInt32 := (hold.releasedAtUs - hold.lockedAtUs).toUInt32

/-- The times a step held the mutex: every call of the log that gets it, of either task. -/
def holdsUs (s : State) : Action → List UInt32
  | .producerWrite lock _ | .consumerRead lock => (lock.map heldUs).toList
  | .consumerHandle lock =>
    match s.consumer.msg.id with
    | .report | .printNewest | .stats => (lock.map heldUs).toList
    | _ => []
  | _ => []

/-- What a step does to the list that the ring represents. -/
def fifoNext (cfg : AppConfig) (s : State) (q : Fifo Sample) : Action → Fifo Sample
  | .producerWrite (some _) _ => q.push cfg.logCapacity.toNat s.sample
  | .consumerRead (some _) => q.pop cfg.logReadBatch.toNat
  | _ => q

section steps

/-- Only a write and a read change the ring. -/
theorem ring_next (hwrite : ∀ lock nowUs, a ≠ .producerWrite lock nowUs)
    (hread : ∀ lock, a ≠ .consumerRead lock) : (s.next b a).log.ring = s.log.ring := by
  cases a with
  | producerWrite lock nowUs => exact absurd rfl (hwrite lock nowUs)
  | consumerRead lock => exact absurd rfl (hread lock)
  | uiPress4 | uiPress5 | uiKey => simp [State.next]
  | consumerReceive =>
    simp only [State.next, State.consumerReceive]
    split <;> rfl
  | consumerHandle lock =>
    obtain ⟨_, _, _, _, hs, hring, -⟩ := s.consumerHandle_cases b.cfg lock
    simp only [State.next, hs, hring]
  | checkinTest client | checkinRead client | checkinStore client => cases client <;> rfl
  | _ => rfl

/-- The ring goes on representing the list. -/
theorem represents_next {q : Fifo Sample}
    (h : RingBuffer.Represents b.cfg.logCapacity.toNat s.log.ring q) :
    RingBuffer.Represents b.cfg.logCapacity.toNat (s.next b a).log.ring
      (fifoNext b.cfg s q a) := by
  cases a with
  | producerWrite lock nowUs =>
    cases lock with
    | none => exact h
    | some hold => exact (SensorLog.write_some h hold s.sample s.producer.logWasEmpty).2
  | consumerRead lock =>
    cases lock with
    | none => exact h
    | some hold =>
      exact (SensorLog.read_some h hold s.consumer.batch b.cfg.logReadBatch s.consumer.batchCount).2
  | _ =>
    rw [ring_next (fun _ _ ↦ Action.noConfusion) fun _ ↦ Action.noConfusion]
    exact h

/-- The list grows by what is stored, and its peak follows its length. -/
theorem fifoNext_figures {cap : ℕ} {q : Fifo Sample} (hq : q.WF cap) (cfg : AppConfig) :
    (fifoNext cfg s q a).history.length = q.history.length + (if a.stores then 1 else 0) ∧
      (fifoNext cfg s q a).peak = max q.peak (fifoNext cfg s q a).items.length := by
  have hle := hq.length_le_peak
  have hsame : q.history.length = q.history.length + 0 ∧ q.peak = max q.peak q.items.length :=
    ⟨rfl, (Nat.max_eq_left hle).symm⟩
  cases a with
  | producerWrite lock nowUs =>
    cases lock with
    | none => exact hsame
    | some hold => simp [fifoNext, Fifo.push, Action.stores]
  | consumerRead lock =>
    cases lock with
    | none => exact hsame
    | some hold =>
      refine ⟨rfl, ?_⟩
      simp only [fifoNext, Fifo.pop, List.length_drop]
      omega
  | _ => exact hsame

private theorem inFlight_eq_zero (pc : ProducerPc) (h : pc ≠ .write) : inFlight pc = 0 := by
  cases pc with
  | write => exact absurd rfl h
  | _ => rfl

private theorem dropped_next (htask : a.task ≠ some .producer) :
    (s.next b a).history.dropped = s.history.dropped ∧ a.stores = false := by
  cases a with
  | producerWrite => exact absurd rfl htask
  | uiPress4 | uiPress5 | uiKey => simp [State.next, Action.stores]
  | consumerReceive =>
    simp only [State.next, State.consumerReceive]
    split <;> exact ⟨rfl, rfl⟩
  | consumerHandle lock =>
    obtain ⟨_, _, _, _, hs, -⟩ := s.consumerHandle_cases b.cfg lock
    rw [State.next, hs]
    exact ⟨rfl, rfl⟩
  | checkinTest client | checkinRead client | checkinStore client =>
    cases client <;> exact ⟨rfl, rfl⟩
  | _ => exact ⟨rfl, rfl⟩

private theorem taken_next (ha : s.enabled a = true) :
    (s.next b a).history.taken.length + s.history.dropped.length + inFlight s.producer.pc =
      s.history.taken.length + (s.next b a).history.dropped.length +
        inFlight (s.next b a).producer.pc + (if a.stores then 1 else 0) := by
  by_cases htask : a.task = some .producer
  · have hpoint := s.pc_producer_next b ha htask
    cases a with
    | producerSample captureUs sensors buttons writeStartUs =>
      have hpc : s.producer.pc = .sample := beq_iff_eq.mp ha
      simp [State.next, State.producerSample, Producer.takeSample, inFlight, hpc, Action.stores]
      omega
    | producerWrite lock nowUs =>
      have hpc : s.producer.pc = .write := beq_iff_eq.mp ha
      have hafter : inFlight (s.next b (.producerWrite lock nowUs)).producer.pc = 0 := by
        simp only [State.producerPoints, List.mem_pair] at hpoint
        rcases hpoint with h | h <;> rw [h] <;> rfl
      rw [hafter, hpc]
      cases lock with
      | none =>
        simp [State.next, State.producerWrite, SensorLog.write, inFlight, Action.stores]
        omega
      | some hold =>
        simp [State.next, State.producerWrite, SensorLog.write, inFlight, Action.stores]
    | producerWake | producerTimeOut | producerRing | producerUpdate =>
      simp only [State.producerPoints, List.mem_singleton] at hpoint
      have hbefore : s.producer.pc ≠ .write := by
        rintro h
        simp [State.enabled, h] at ha
      rw [hpoint, inFlight_eq_zero _ hbefore]
      rfl
    | checkinTest client | checkinRead client | checkinStore client =>
      cases htask
      have hbefore : s.producer.pc ≠ .write := by
        rintro h
        simp [State.enabled, State.atCheckin, h] at ha
      rw [inFlight_eq_zero _ hbefore, inFlight_eq_zero (s.next b _).producer.pc
        (by rintro h; simp [State.producerPoints, h] at hpoint)]
      rfl
    | _ => cases htask
  · obtain ⟨hproducer, htaken⟩ := s.next_producer b htask
    obtain ⟨hdropped, hstores⟩ := dropped_next (b := b) (s := s) htask
    rw [hproducer, htaken, hdropped, hstores]
    rfl

private theorem toNat_lockHoldMaxUs_unlock (log : SensorLog Sample) (hold : Hold) :
    (log.unlock hold).lockHoldMaxUs.toNat = max log.lockHoldMaxUs.toNat (heldUs hold).toNat := by
  rw [← toNat_raiseMax]
  unfold SensorLog.unlock heldUs raiseMax
  simp only
  split <;> rfl

private theorem toNat_lockHoldMaxUs_peekNewest (log : SensorLog Sample) (lock : Option Hold)
    (out : Sample) :
    (log.peekNewest lock (some out)).1.lockHoldMaxUs.toNat =
      (lock.map heldUs).toList.foldl (fun m held ↦ max m held.toNat)
        log.lockHoldMaxUs.toNat := by
  cases lock with
  | none => rfl
  | some hold => exact toNat_lockHoldMaxUs_unlock log hold

private theorem toNat_lockHoldMaxUs_getStats (log : SensorLog Sample) (lock : Option Hold)
    (out : SensorLogStats) :
    (log.getStats lock (some out)).1.lockHoldMaxUs.toNat =
      (lock.map heldUs).toList.foldl (fun m held ↦ max m held.toNat)
        log.lockHoldMaxUs.toNat := by
  cases lock with
  | none => rfl
  | some hold => exact toNat_lockHoldMaxUs_unlock log hold

private theorem lockHoldMaxUs_next :
    (s.next b a).log.lockHoldMaxUs.toNat =
      (holdsUs s a).foldl (fun m held ↦ max m held.toNat) s.log.lockHoldMaxUs.toNat := by
  cases a with
  | producerWrite lock nowUs =>
    cases lock with
    | none => rfl
    | some hold => exact toNat_lockHoldMaxUs_unlock _ hold
  | consumerRead lock =>
    cases lock with
    | none => rfl
    | some hold => exact toNat_lockHoldMaxUs_unlock _ hold
  | consumerHandle lock =>
    have hpeek := toNat_lockHoldMaxUs_peekNewest s.log lock s.consumer.record
    have hstats := toNat_lockHoldMaxUs_getStats s.log lock ⟨0, 0, 0, 0, 0, 0, 0⟩
    simp only [State.next, State.consumerHandle, holdsUs]
    cases s.consumer.msg.id with
    | report | printNewest => exact hpeek
    | stats => exact hstats
    | wdtTest =>
      simp only
      split
      · obtain ⟨_, _, hs, -⟩ := State.consumerRunWdtTest_cases
          { s with consumer := s.consumer.handled } s.consumer.msg.key
        rw [hs]
        rfl
      · rfl
    | _ => rfl
  | uiPress4 | uiPress5 | uiKey => simp [State.next, holdsUs]
  | consumerReceive =>
    simp only [State.next, State.consumerReceive]
    split <;> rfl
  | checkinTest client | checkinRead client | checkinStore client => cases client <;> rfl
  | _ => rfl

private theorem logLockTimeouts_next :
    (s.next b a).consumer.state.logLockTimeouts =
      s.consumer.state.logLockTimeouts + if a.missesRead then 1 else 0 := by
  by_cases hread : ∃ lock, a = .consumerRead lock
  · obtain ⟨lock, rfl⟩ := hread
    cases lock with
    | none => rfl
    | some hold => exact (UInt32.add_zero _).symm
  · have hmiss : a.missesRead = false := by
      cases a with
      | consumerRead lock => exact absurd ⟨lock, rfl⟩ hread
      | _ => rfl
    rw [hmiss]
    have hstep := s.consumerState_next b a
    generalize (s.next b a).consumer.state = state' at hstep ⊢
    refine Eq.trans ?_ (UInt32.add_zero _).symm
    cases hstep with
    | timedOut lock => exact absurd ⟨lock, rfl⟩ hread
    | toggled lock => cases s.consumer.msg.id <;> rfl
    | checkedStall =>
      unfold consumerCheckStall
      split
      · rfl
      · split <;> rfl
    | same | started | sawDepth | processed => rfl

end steps

section runs

private theorem represents_run (hs₀ : Starts b.cfg s₀)
    (hrun : Machine.run (step b) s₀ as = some s) :
    ∃ q, RingBuffer.Represents b.cfg.logCapacity.toNat s.log.ring q := by
  obtain ⟨q, hl⟩ := Reaches.ledger ⟨s₀, hs₀, hrun⟩
  exact ⟨q, hl.ring⟩

/-- `head` counts the records stored. -/
theorem head_run (hs₀ : Starts b.cfg s₀) (hrun : Machine.run (step b) s₀ as = some s) :
    s.log.ring.head = UInt32.ofNat (as.countP Action.stores) := by
  refine Machine.run_induction (P := fun as s ↦
    s.log.ring.head = UInt32.ofNat (as.countP Action.stores)) hs₀.represents.head ?_ hrun
  intro as s a t hrun ih hstep
  obtain ⟨-, -, rfl⟩ := step_eq_some.mp hstep
  obtain ⟨q, hq⟩ := represents_run hs₀ hrun
  rw [(represents_next hq).head, (fifoNext_figures hq.wf b.cfg).1, UInt32.ofNat_add, ← hq.head, ih,
    List.countP_append, List.countP_singleton, UInt32.ofNat_add]

/-- Every sample taken is about to be written, stored or dropped. -/
theorem taken_run (hs₀ : Starts b.cfg s₀) (hrun : Machine.run (step b) s₀ as = some s) :
    s.history.taken.length =
      as.countP Action.stores + s.history.dropped.length + inFlight s.producer.pc := by
  refine Machine.run_induction (P := fun as s ↦ s.history.taken.length =
    as.countP Action.stores + s.history.dropped.length + inFlight s.producer.pc) ?_ ?_ hrun
  · obtain ⟨_, _, _, _, _, rfl⟩ := hs₀
    rfl
  · intro as s a t _ ih hstep
    obtain ⟨-, ha, rfl⟩ := step_eq_some.mp hstep
    have hnext := taken_next (b := b) ha
    rw [List.countP_append, List.countP_singleton]
    omega

/-- Every record stored is still in the log, overwritten, in the consumer's batch or processed. -/
theorem stored_run (hs₀ : Starts b.cfg s₀) (hrun : Machine.run (step b) s₀ as = some s) :
    as.countP Action.stores = s.history.processed.length + s.consumer.batchRest.length +
      s.history.overwritten.length + s.log.ring.contents.length := by
  obtain ⟨q, hl⟩ := Reaches.ledger ⟨s₀, hs₀, hrun⟩
  have htaken := taken_run hs₀ hrun
  have hissued := hl.exact.issued_eq
  simp only [delivery, Delivery.pipeline, List.length_append, List.length_map] at hissued
  rw [hl.ring.contents_eq]
  omega

/-- `fill_high_water` is the highest fill level of the run. -/
theorem fillHighWater_run (hs₀ : Starts b.cfg s₀) (hrun : Machine.run (step b) s₀ as = some s) :
    s.log.ring.fillHighWater.toNat =
      Machine.peak (step b) (fun s ↦ s.log.ring.contents.length) s₀ as := by
  have hpeak : ∀ {t : State} {q : Fifo Sample},
      RingBuffer.Represents b.cfg.logCapacity.toNat t.log.ring q →
        t.log.ring.fillHighWater.toNat = q.peak := by
    intro t q hq
    rw [hq.fillHighWater]
    exact Counter.toNat_ofNat_of_lt (Nat.lt_of_le_of_lt hq.wf.peak_le hq.cap_lt)
  refine Machine.eq_peak (I := fun s ↦ ∃ q,
    RingBuffer.Represents b.cfg.logCapacity.toNat s.log.ring q)
    (fun s ↦ s.log.ring.fillHighWater.toNat) ⟨_, hs₀.represents⟩ ?_ ?_ ?_ hrun
  · rw [hpeak hs₀.represents, hs₀.represents.contents_eq]
    rfl
  · rintro s a t ⟨q, hq⟩ hstep
    obtain ⟨-, -, rfl⟩ := step_eq_some.mp hstep
    exact ⟨_, represents_next hq⟩
  · rintro s a t ⟨q, hq⟩ hstep
    obtain ⟨-, -, rfl⟩ := step_eq_some.mp hstep
    have hnext := represents_next (b := b) (a := a) hq
    rw [hpeak hnext, hpeak hq, hnext.contents_eq]
    exact (fifoNext_figures hq.wf b.cfg).2

/-- What `sensor_log_get_stats` copies in any reachable state are the figures of the run: the
records stored, read and overwritten, the fill level and the highest one so far; and what is
neither read nor overwritten is in the log. -/
theorem log_stats_exact (hs₀ : Starts b.cfg s₀) (hrun : Machine.run (step b) s₀ as = some s) :
    let read := s.history.processed.length + s.consumer.batchRest.length
    s.log.stats.capacity = b.cfg.logCapacity ∧
      s.log.stats.written = UInt32.ofNat (as.countP Action.stores) ∧
      s.log.stats.read = UInt32.ofNat read ∧
      s.log.stats.overwritten = UInt32.ofNat s.history.overwritten.length ∧
      s.log.stats.fill.toNat = s.log.ring.contents.length ∧
      s.log.stats.fillHighWater.toNat =
        Machine.peak (step b) (fun s ↦ s.log.ring.contents.length) s₀ as ∧
      as.countP Action.stores =
        read + s.history.overwritten.length + s.log.ring.contents.length := by
  intro read
  obtain ⟨q, hl⟩ := Reaches.ledger ⟨s₀, hs₀, hrun⟩
  have hstored := stored_run hs₀ hrun
  have hover : s.log.ring.overwritten = UInt32.ofNat s.history.overwritten.length := by
    rw [hl.ring.overwritten, hl.dropped]
  refine ⟨UInt32.toNat_inj.mp hl.ring.capacity, head_run hs₀ hrun, ?_, hover, ?_,
    fillHighWater_run hs₀ hrun, hstored⟩
  · have hcount : s.log.ring.head - s.log.ring.tail = UInt32.ofNat s.log.ring.contents.length := by
      rw [hl.ring.contents_eq]
      exact hl.ring.count_eq
    rw [head_run hs₀ hrun, hstored, UInt32.ofNat_add, UInt32.ofNat_add, ← hover] at hcount
    show s.log.ring.tail - s.log.ring.overwritten = UInt32.ofNat read
    grind
  · rw [hl.ring.contents_eq]
    exact hl.ring.toNat_count

-- Room for one sample only.
private def tightBoard : Board where
  cfg := { appConfig with
    logCapacity := 1
    logReadBatch := 1
    logCapacity_ne_zero := by decide
    logCapacity_pow := by decide
    logReadBatch_pos := Nat.zero_lt_one
    logReadBatch_le := by decide }
  wdtRunning := true
  wdtTimeoutMs := 2000

-- One cycle of the producer that holds the mutex from `lockedAtUs` to `releasedAtUs`.
private def heldCycle (lockedAtUs releasedAtUs : UInt64) (ring : Bool) : List Action :=
  [.timerInterrupt, .producerWake, .producerSample 0 ⟨fun _ ↦ 0⟩ 0 0,
    .producerWrite (some ⟨lockedAtUs, releasedAtUs⟩) 0] ++
    (if ring then [.producerRing] else []) ++
    [.producerUpdate, .checkinTest .producer, .checkinRead .producer, .checkinStore .producer]

-- A write that holds the mutex for 7 us, one that overwrites and holds it for 3 us, and a read
-- that does not get it.
private def heldRun : List Action :=
  heldCycle 10 17 true ++ heldCycle 50 53 false ++
    [.consumerStart, .consumerReceive, .consumerDepth, .consumerHandle none, .consumerDrain,
      .consumerRead none]

/-- Two written, one overwritten, one in the log. -/
theorem log_stats_exact_held :
    ∃ s, Machine.run (step tightBoard) (powerOn tightBoard.cfg) heldRun = some s ∧
      s.log.stats.written = 2 ∧ s.log.stats.fillHighWater.toNat = 1 ∧
      s.log.ring.contents.length = 1 := by
  have hrun : (Machine.run (step tightBoard) (powerOn tightBoard.cfg) heldRun).any (fun s ↦
      s.log.ring.contents.length == 1) = true := by
    decide +kernel
  obtain ⟨s, hs, hcheck⟩ := (Option.any_eq_true _ _).mp hrun
  obtain ⟨-, hwritten, -, -, -, hpeak, -⟩ :=
    log_stats_exact (b := tightBoard) (starts_powerOn (by decide +kernel)) hs
  exact ⟨s, hs, hwritten.trans (by decide), hpeak.trans (by decide +kernel), beq_iff_eq.mp hcheck⟩

private theorem lockHoldMaxUs_init (cfg : AppConfig) (log : SensorLog Sample)
    (storage : ℕ → Sample) (storageFirst : UInt32) (mutexCreated : Bool) :
    (SensorLog.init cfg log storage storageFirst mutexCreated).1.lockHoldMaxUs =
      log.lockHoldMaxUs := by
  unfold SensorLog.init
  simp only
  split
  · rfl
  · split <;> rfl

/-- `lock_hold_max_us` is the longest time that one call of any task held the mutex, and
`log_lock_timeouts` the number of reads that did not get it. -/
theorem lock_figures_exact (hs₀ : Starts b.cfg s₀) (hrun : Machine.run (step b) s₀ as = some s) :
    IsGreatest (insert 0 (Extremes.values UInt32.toNat (Machine.emitted (step b) holdsUs s₀ as)))
        s.log.stats.lockHoldMaxUs.toNat ∧
      s.consumer.state.logLockTimeouts = UInt32.ofNat (as.countP Action.missesRead) := by
  have hstart : s₀.log.lockHoldMaxUs.toNat = 0 ∧ s₀.consumer.state.logLockTimeouts = 0 := by
    obtain ⟨storage, storageFirst, log, _, hinit, rfl⟩ := hs₀
    refine ⟨?_, rfl⟩
    have hboot := lockHoldMaxUs_init b.cfg .boot storage storageFirst true
    rw [hinit] at hboot
    exact congrArg UInt32.toNat hboot
  constructor
  · have hfold := Machine.foldl_emitted (fun s ↦ s.log.lockHoldMaxUs.toNat) (I := fun _ ↦ True)
      (f := holdsUs) (g := fun m held ↦ max m held.toNat) trivial (fun _ _ _ _ _ ↦ trivial) ?_ hrun
    · rw [hstart.1] at hfold
      show IsGreatest _ s.log.lockHoldMaxUs.toNat
      rw [hfold]
      exact Extremes.isGreatest_foldl_max 0 _
    · intro s a t _ hstep
      obtain ⟨-, -, rfl⟩ := step_eq_some.mp hstep
      exact lockHoldMaxUs_next
  · refine Machine.run_induction (P := fun as s ↦
      s.consumer.state.logLockTimeouts = UInt32.ofNat (as.countP Action.missesRead))
      hstart.2 ?_ hrun
    intro as s a t _ ih hstep
    obtain ⟨-, -, rfl⟩ := step_eq_some.mp hstep
    rw [logLockTimeouts_next, ih, List.countP_append, List.countP_singleton, UInt32.ofNat_add]
    split <;> rfl

/-- The longest hold is that of the first write, and the read is counted. -/
theorem lock_figures_exact_held :
    ∃ s, Machine.run (step tightBoard) (powerOn tightBoard.cfg) heldRun = some s ∧
      IsGreatest (insert 0 (Extremes.values UInt32.toNat
        (Machine.emitted (step tightBoard) holdsUs (powerOn tightBoard.cfg) heldRun))) 7 ∧
      s.consumer.state.logLockTimeouts = 1 := by
  have hrun : (Machine.run (step tightBoard) (powerOn tightBoard.cfg) heldRun).any (fun s ↦
      s.log.stats.lockHoldMaxUs.toNat == 7) = true := by
    decide +kernel
  obtain ⟨s, hs, hcheck⟩ := (Option.any_eq_true _ _).mp hrun
  obtain ⟨hgreatest, htimeouts⟩ :=
    lock_figures_exact (b := tightBoard) (starts_powerOn (by decide +kernel)) hs
  rw [beq_iff_eq.mp hcheck] at hgreatest
  exact ⟨s, hs, hgreatest, htimeouts.trans (by decide)⟩

end runs

end SensorAggregator.System
