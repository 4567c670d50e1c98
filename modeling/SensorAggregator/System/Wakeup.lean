import SensorAggregator.System.Ledger

/-!
# No lost wake-up

The producer rings the doorbell only when its write found the log empty,
`task_producer.c:194–204`. The consumer may therefore block only if it has seen the log empty
since its last message. `Watched` says that somebody will still look at the log; it holds
whenever the consumer is past its last look, whatever the others do in between.
-/

namespace SensorAggregator.System

open Base Datalog Tasks

variable {b : Board} {as : List Action} {s : State} {cfg : AppConfig}

/-- The consumer goes back to a long wait without another look at the log. -/
def Resting (cfg : AppConfig) (c : Consumer) : Prop :=
  match c.pc with
  | .start => True
  | .process => c.batchCount < cfg.logReadBatch
  | .stallTick | .stall | .checkin _ | .receive => c.backlogPending = false
  | .depth | .handle | .report | .drain | .read | .hung => False

/-- The log is not to be drained, or is empty, or a message waits, or the doorbell is on its
way. -/
def Watched (paused : Bool) (rb : RingBuffer Sample) (queue : List ConsumerMsg) (p : Producer) :
    Prop :=
  paused = true ∨ rb.count = 0 ∨ queue ≠ [] ∨ (p.pc = .ring ∧ p.logWasEmpty = true)

section

variable {paused : Bool} {rb : RingBuffer Sample} {queue : List ConsumerMsg} {p : Producer}

private theorem Watched.of_ne_ring (h : Watched paused rb queue p) (hpc : p.pc ≠ .ring)
    (p' : Producer) :
    Watched paused rb queue p' := by
  rcases h with h | h | h | h
  · exact .inl h
  · exact .inr (.inl h)
  · exact .inr (.inr (.inl h))
  · exact absurd h.1 hpc

/-- Sending a message does no harm. -/
theorem Watched.sent (h : Watched paused rb queue p) {queue' : List ConsumerMsg}
    (hqueue : queue' = queue ∨ queue' ≠ []) : Watched paused rb queue' p := by
  rcases hqueue with rfl | hqueue
  · exact h
  · exact .inr (.inr (.inl hqueue))

end

/-- A write into an empty log is followed by the doorbell. -/
theorem Watched.producerWrite {q : Fifo Sample} {paused : Bool}
    (h : Watched paused s.log.ring s.queue s.producer)
    (hring : RingBuffer.Represents cfg.logCapacity.toNat s.log.ring q)
    (hpc : s.producer.pc = .write) (lock : Option Hold) (nowUs : UInt64) :
    Watched paused (s.producerWrite lock nowUs).log.ring (s.producerWrite lock nowUs).queue
      (s.producerWrite lock nowUs).producer := by
  have hne : s.producer.pc ≠ .ring := by rw [hpc]; decide
  cases lock with
  | none => exact h.of_ne_ring hne _
  | some hold =>
    have hout := (SensorLog.write_some hring hold s.sample s.producer.logWasEmpty).1
    cases hitems : q.items with
    | nil =>
      right; right; right
      rw [hitems] at hout
      simp [State.producerWrite, hout, Producer.wrote]
    | cons x xs =>
      rcases h.of_ne_ring hne s.producer with h | h | h | h
      · exact .inl h
      · have hcount := hring.toNat_count
        rw [h, hitems] at hcount
        cases hcount
      · exact .inr (.inr (.inl h))
      · exact absurd h.1 hne

private theorem watched_of_read {q : Fifo Sample}
    (hring : RingBuffer.Represents cfg.logCapacity.toNat s.log.ring q) (lock : Option Hold)
    (hresting : Resting cfg (s.consumerRead cfg lock).consumer) :
    (s.consumerRead cfg lock).log.ring.count = 0 := by
  cases lock with
  | none => cases hresting
  | some hold =>
    obtain ⟨hout, hring'⟩ := SensorLog.read_some hring hold s.consumer.batch
      cfg.logReadBatch s.consumer.batchCount
    simp only [State.consumerRead, hout] at hresting ⊢
    have hlt : UInt32.ofNat (min cfg.logReadBatch.toNat q.items.length) < cfg.logReadBatch :=
      hresting
    have hle := hring.wf.length_le
    have hcap := hring.cap_lt
    rw [UInt32.lt_iff_toNat_lt, Counter.toNat_ofNat_of_lt (by omega)] at hlt
    rw [hring'.count_eq, Fifo.pop, List.drop_eq_nil_of_le (by omega)]
    rfl

private theorem not_resting_nextBatch (c : Consumer) (batchNum : ℕ) :
    ¬ Resting cfg (c.nextBatch cfg batchNum) := by
  unfold Consumer.nextBatch
  split
  · exact id
  · exact fun h ↦ Bool.noConfusion h

private theorem paused_of_drain {c : Consumer} (h : Resting cfg (c.drain cfg)) :
    c.state.drainPaused = true := by
  unfold Consumer.drain at h
  split at h
  · next hpaused => exact hpaused
  · exact absurd h (not_resting_nextBatch c 0)

private theorem resting_of_process {c : Consumer} (hpc : c.pc = .process)
    (h : Resting cfg (c.process cfg)) :
    Resting cfg c ∧ (c.process cfg).state.drainPaused = c.state.drainPaused := by
  have hc : Resting cfg c ↔ c.batchCount < cfg.logReadBatch := by rw [Resting, hpc]
  rw [hc]
  unfold Consumer.process at h ⊢
  split at h
  · next hidx =>
    rw [if_pos hidx]
    refine ⟨?_, rfl⟩
    simpa only [Resting, hpc] using h
  · next hidx =>
    rw [if_neg hidx]
    split at h
    · next hlt =>
      rw [if_pos hlt]
      exact ⟨hlt, rfl⟩
    · exact absurd h (not_resting_nextBatch c _)

private theorem backlog_of_test {c : Consumer} {hang : Bool}
    (h : Resting cfg { c with pc := if hang then .hung else .checkin .read }) :
    c.backlogPending = false := by
  cases hang with
  | false => exact h
  | true => exact h.elim

/-- Whatever the others do, they do not leave the log unwatched. -/
theorem Watched.others {a : Action} {q : Fifo Sample} {paused : Bool}
    (hring : RingBuffer.Represents b.cfg.logCapacity.toNat s.log.ring q)
    (ha : s.enabled a = true) (htask : a.task ≠ some .consumer)
    (h : Watched paused s.log.ring s.queue s.producer) :
    Watched paused (s.next b a).log.ring (s.next b a).queue (s.next b a).producer := by
  cases a with
  | tick | timerInterrupt | supervisorPass | uiWake | uiKeysDone => exact h
  | uiPress4 | uiPress5 | uiKey =>
    simp only [State.next, State.uiSend_log, State.uiSend_producer]
    exact h.sent (State.uiSend_queue ..)
  | producerWake | producerTimeOut =>
    have hpc : s.producer.pc = .waitTick := beq_iff_eq.mp (Bool.and_eq_true_iff.mp ha).1
    exact h.of_ne_ring (by rw [hpc]; decide) _
  | producerSample =>
    have hpc : s.producer.pc = .sample := beq_iff_eq.mp ha
    exact h.of_ne_ring (by rw [hpc]; decide) _
  | producerWrite lock nowUs => exact h.producerWrite hring (beq_iff_eq.mp ha) lock nowUs
  | producerRing =>
    right; right; left
    exact taskConsumerSend_ne_nil b.cfg s.queue _
  | producerUpdate =>
    have hpc : s.producer.pc = .update := beq_iff_eq.mp ha
    exact h.of_ne_ring (by rw [hpc]; decide) _
  | consumerStart | consumerReceive | consumerReceiveTimeOut | consumerDepth | consumerHandle
  | consumerReport | consumerDrain | consumerRead | consumerProcess | consumerStallTick
  | consumerStall =>
    exact absurd rfl htask
  | checkinTest client | checkinRead client | checkinStore client =>
    cases client with
    | producer =>
      have hpc := beq_iff_eq.mp (show (s.producer.pc == .checkin _) = true from ha)
      exact h.of_ne_ring (by rw [hpc]; exact ProducerPc.noConfusion) _
    | ui => exact h
    | consumer => exact absurd rfl htask

/-- The consumer rests only after a look at the log that found nothing left to read. -/
theorem watched_of_consumer {a : Action} {q : Fifo Sample}
    (hring : RingBuffer.Represents b.cfg.logCapacity.toNat s.log.ring q)
    (ha : s.enabled a = true) (htask : a.task = some .consumer)
    (h : Resting b.cfg s.consumer →
      Watched s.consumer.state.drainPaused s.log.ring s.queue s.producer)
    (hresting : Resting b.cfg (s.next b a).consumer) :
    Watched (s.next b a).consumer.state.drainPaused (s.next b a).log.ring (s.next b a).queue
      (s.next b a).producer := by
  cases a with
  | consumerStart =>
    have hpc : s.consumer.pc = .start := beq_iff_eq.mp ha
    exact h (by rw [Resting, hpc]; trivial)
  | consumerReceive =>
    have hne : s.queue ≠ [] := by simp_all [State.enabled]
    simp only [State.next, State.consumerReceive] at hresting
    split at hresting
    · contradiction
    · cases hresting
  | consumerReceiveTimeOut | consumerDepth | consumerReport => exact False.elim hresting
  | consumerHandle lock =>
    obtain ⟨log, c, wdog, halted, hs, -, hc, -⟩ := s.consumerHandle_cases b.cfg lock
    simp only [State.next, hs] at hresting
    rcases hc with rfl | rfl
    · cases hresting
    · unfold Consumer.gotNewest Resting at hresting
      cases hfound : (s.log.peekNewest lock (some s.consumer.record)).2.2 <;>
        simp [hfound] at hresting
  | consumerDrain =>
    left
    have hsame := (s.consumer.drain_same b.cfg).2
    exact (congrArg ConsumerState.drainPaused hsame).trans (paused_of_drain hresting)
  | consumerRead lock =>
    right; left
    exact watched_of_read hring lock hresting
  | consumerProcess =>
    obtain ⟨hr, hpaused⟩ := resting_of_process (beq_iff_eq.mp ha) hresting
    have hw := h hr
    rw [← hpaused] at hw
    exact hw
  | consumerStallTick =>
    have hpc : s.consumer.pc = .stallTick := beq_iff_eq.mp ha
    exact h (by rw [Resting, hpc]; exact hresting)
  | consumerStall =>
    have hpc : s.consumer.pc = .stall := beq_iff_eq.mp ha
    have hw := h (by rw [Resting, hpc]; exact hresting)
    rw [← (consumerCheckStall_same b.cfg s.consumer.state s.consumer.nowTick
      s.producer.stats.samples).2.2] at hw
    exact hw
  | checkinTest client =>
    cases htask
    have hpc : s.consumer.pc = .checkin .test := beq_iff_eq.mp ha
    exact h (by rw [Resting, hpc]; exact backlog_of_test hresting)
  | checkinRead client =>
    cases htask
    have hpc : s.consumer.pc = .checkin .read := beq_iff_eq.mp ha
    exact h (by rw [Resting, hpc]; exact hresting)
  | checkinStore client =>
    cases htask
    have hpc : s.consumer.pc = .checkin .store := beq_iff_eq.mp ha
    exact h (by rw [Resting, hpc]; exact hresting)
  | _ => cases htask

/-- Whenever the consumer is past its last look at the log, somebody will look again. -/
theorem Reaches.watched (h : Reaches b as s) (hresting : Resting b.cfg s.consumer) :
    Watched s.consumer.state.drainPaused s.log.ring s.queue s.producer := by
  revert hresting
  refine h.induction (P := fun _ s ↦ Resting b.cfg s.consumer →
    Watched s.consumer.state.drainPaused s.log.ring s.queue s.producer) ?_ ?_
  · intro s₀ hs₀ _
    right; left
    rw [hs₀.represents.count_eq]
    rfl
  · intro as s a hs ih ha
    obtain ⟨q, hl⟩ := hs.ledger
    by_cases htask : a.task = some .consumer
    · exact watched_of_consumer hl.ring ha htask ih
    · rw [(s.next_consumer b htask).1]
      exact fun hresting ↦ (ih hresting).others hl.ring ha htask

/-- No wake-up is lost: a consumer that waits for a message with the long timeout, while the log
holds a sample and is not paused, has a message waiting, or the producer is between a write that
found the log empty and the send of the doorbell. -/
theorem no_lost_wakeup (h : Reaches b as s) (hpc : s.consumer.pc = .receive)
    (hlong : s.consumer.backlogPending = false) (hrunning : s.consumer.state.drainPaused = false)
    (hstored : s.log.ring.count ≠ 0) :
    s.queue ≠ [] ∨ (s.producer.pc = .ring ∧ s.producer.logWasEmpty = true) := by
  have hresting : Resting b.cfg s.consumer := by
    rw [Resting, hpc]
    exact hlong
  rcases h.watched hresting with hpaused | hempty | hrest
  · rw [hrunning] at hpaused
    cases hpaused
  · exact absurd hempty hstored
  · exact hrest

/-- The consumer waits, the queue is empty, and the doorbell for the first sample is on its
way. -/
theorem no_lost_wakeup_ringing :
    ∃ s, Reaches ⟨appConfig, true, 2000⟩
        [.consumerStart, .timerInterrupt, .producerWake, .producerSample 0 ⟨fun _ ↦ 0⟩ 0 0,
          .producerWrite (some ⟨0, 0⟩) 0] s ∧
      s.queue = [] ∧
      (s.queue ≠ [] ∨ (s.producer.pc = .ring ∧ s.producer.logWasEmpty = true)) := by
  have hrun : (Machine.run (step ⟨appConfig, true, 2000⟩) (powerOn appConfig)
      [.consumerStart, .timerInterrupt, .producerWake, .producerSample 0 ⟨fun _ ↦ 0⟩ 0 0,
        .producerWrite (some ⟨0, 0⟩) 0]).any (fun s ↦
          s.consumer.pc == .receive && !s.consumer.backlogPending &&
            !s.consumer.state.drainPaused && s.log.ring.count != 0 && s.queue.isEmpty) := by
    decide +kernel
  obtain ⟨s, hs, hcheck⟩ := reaches_of_powerOn (by decide +kernel) hrun
  simp only [Bool.and_eq_true, beq_iff_eq, Bool.not_eq_true', bne_iff_ne,
    List.isEmpty_iff] at hcheck
  obtain ⟨⟨⟨⟨hpc, hlong⟩, hrunning⟩, hstored⟩, hqueue⟩ := hcheck
  exact ⟨s, hs, hqueue, no_lost_wakeup hs hpc hlong hrunning hstored⟩

end SensorAggregator.System
