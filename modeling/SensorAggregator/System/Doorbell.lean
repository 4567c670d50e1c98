import SensorAggregator.Base.Measure
import SensorAggregator.System.Ledger

/-!
# The doorbell does not flood the queue

A `DATA_READY` message is paid for by a write that found the log empty,
`task_producer.c:192–204`. Between the two the debt sits in `pc` and in `doorbell_pending`, where
later edges merge with it, so the messages are never more than the edges. While nobody reads,
the log stays non-empty after its first record and no second edge can come.
-/

namespace SensorAggregator.System

open Base Datalog Tasks

variable {b : Board} {as bs : List Action} {s₀ s t : State} {a : Action}

/-- The number of `DATA_READY` messages a step puts into the queue. -/
def dataReadyPut (b : Board) (s : State) (a : Action) : ℕ :=
  ((s.next b a).queue.drop s.queue.length).countP (·.id == .dataReady)

/-- One for a successful write that finds the log empty. -/
def foundEmpty (s : State) : Action → ℕ
  | .producerWrite (some _) _ => if s.log.ring.count = 0 then 1 else 0
  | _ => 0

/-- The number of records a step of the consumer takes out of the log. -/
def recordsRemoved (cfg : AppConfig) (s : State) : Action → ℕ
  | .consumerRead (some _) => (s.log.ring.popCount cfg.logReadBatch).toNat
  | _ => 0

/-- The producer is about to ring, or will with its next write. -/
def doorbellDue (p : Producer) : ℕ := if p.pc = .ring ∨ p.doorbellPending = true then 1 else 0

/-- The producer rings, or would ring after its next write. -/
def doorbellPossible (s : State) : ℕ :=
  if s.log.ring.count = 0 then 1 else doorbellDue s.producer

private theorem countP_drop_send (cfg : AppConfig) (queue : List ConsumerMsg) (msg : ConsumerMsg)
    (P : ConsumerMsg → Bool) :
    ((taskConsumerSend cfg queue msg).1.drop queue.length).countP P =
      if (taskConsumerSend cfg queue msg).2 && P msg then 1 else 0 := by
  unfold taskConsumerSend
  split
  · rw [List.drop_left, List.countP_singleton, Bool.true_and]
  · rw [List.drop_length]
    rfl

private theorem dataReadyPut_of_ne_ring (h : a ≠ .producerRing) : dataReadyPut b s a = 0 := by
  rw [dataReadyPut]
  by_cases hreceive : a = .consumerReceive
  · have hlength : (s.next b a).queue.length ≤ s.queue.length := by
      rw [hreceive, State.next, s.consumerReceive_queue, List.length_tail]
      omega
    rw [List.drop_eq_nil_of_le hlength, List.countP_nil]
  · cases s.next_queue b hreceive with
    | inl hsame => rw [hsame, List.drop_length, List.countP_nil]
    | inr hsent =>
      obtain ⟨msg, hqueue, hid⟩ := hsent
      rw [hqueue, countP_drop_send, beq_eq_false_iff_ne.mpr (hid h), Bool.and_false]
      rfl

private theorem dataReadyPut_ring :
    dataReadyPut b s .producerRing + doorbellDue (s.next b .producerRing).producer = 1 := by
  have hput : dataReadyPut b s .producerRing =
      if (taskConsumerSend b.cfg s.queue ⟨.dataReady, '\x00'⟩).2 then 1 else 0 :=
    (countP_drop_send b.cfg s.queue ⟨.dataReady, '\x00'⟩ _).trans (by simp)
  have hpending : (s.next b .producerRing).producer.doorbellPending =
      !(taskConsumerSend b.cfg s.queue ⟨.dataReady, '\x00'⟩).2 := rfl
  have hpc : (s.next b .producerRing).producer.pc = .update := rfl
  rw [hput, doorbellDue, hpending, hpc]
  generalize (taskConsumerSend b.cfg s.queue ⟨.dataReady, '\x00'⟩).2 = sent
  cases sent <;> rfl

private theorem write_or_keeps (hne : a ≠ .producerRing) :
    (∃ lock nowUs, a = .producerWrite lock nowUs) ∨
      ((s.next b a).producer.pc = .ring → s.producer.pc = .ring) ∧
        (s.next b a).producer.doorbellPending = s.producer.doorbellPending := by
  by_cases htask : a.task = some .producer
  · cases a with
    | producerRing => exact absurd rfl hne
    | producerWrite lock nowUs => exact .inl ⟨lock, nowUs, rfl⟩
    | producerTimeOut => exact .inr ⟨id, rfl⟩
    | producerWake | producerSample | producerUpdate =>
      exact .inr ⟨fun h ↦ ProducerPc.noConfusion h, rfl⟩
    | checkinTest client =>
      cases htask
      refine .inr ⟨fun h ↦ ?_, rfl⟩
      rcases s.checkinTest_cases b.cfg .producer with h' | h' <;>
        cases (beq_iff_eq.mp h').symm.trans h
    | checkinRead client | checkinStore client =>
      cases htask
      exact .inr ⟨fun h ↦ ProducerPc.noConfusion h, rfl⟩
    | _ => cases htask
  · rw [(s.next_producer b htask).1]
    exact .inr ⟨id, rfl⟩

private theorem doorbellDue_le {p p' : Producer} (hpc : p'.pc = .ring → p.pc = .ring)
    (hpending : p'.doorbellPending = p.doorbellPending) : doorbellDue p' ≤ doorbellDue p := by
  unfold doorbellDue
  rw [hpending]
  split
  · next hdue => rw [if_pos (hdue.imp_left hpc)]
  · exact Nat.zero_le _

private theorem doorbellDue_write (lock : Option Hold) (nowUs : UInt64) :
    doorbellDue (s.producerWrite lock nowUs).producer ≤
      foundEmpty s (.producerWrite lock nowUs) + doorbellDue s.producer := by
  have hpending : (s.producerWrite lock nowUs).producer.doorbellPending =
      s.producer.doorbellPending := rfl
  cases lock with
  | none =>
    apply Nat.le_add_left_of_le
    exact doorbellDue_le (fun h ↦ ProducerPc.noConfusion h) hpending
  | some hold =>
    have hpc : (s.producerWrite (some hold) nowUs).producer.pc =
        if s.log.ring.count = 0 ∨ s.producer.doorbellPending = true then .ring else .update := by
      simp [State.producerWrite, SensorLog.write, Producer.wrote]
    simp only [foundEmpty, doorbellDue, hpc, hpending]
    by_cases hempty : s.log.ring.count = 0 <;> cases s.producer.doorbellPending <;> simp [hempty]

private theorem dataReadyPut_add_due (ha : s.enabled a = true) :
    dataReadyPut b s a + doorbellDue (s.next b a).producer ≤
      foundEmpty s a + doorbellDue s.producer := by
  by_cases hring : a = .producerRing
  · subst hring
    have hpc : s.producer.pc = .ring := beq_iff_eq.mp ha
    have hdue : doorbellDue s.producer = 1 := if_pos (.inl hpc)
    rw [dataReadyPut_ring, hdue]
    exact Nat.le_add_left _ _
  · rw [dataReadyPut_of_ne_ring hring, Nat.zero_add]
    rcases write_or_keeps (b := b) (s := s) hring with ⟨lock, nowUs, rfl⟩ | ⟨hpc, hpending⟩
    · exact doorbellDue_write lock nowUs
    · exact Nat.le_add_left_of_le (doorbellDue_le hpc hpending)

private theorem count_next (hwrite : ∀ lock nowUs, a ≠ .producerWrite lock nowUs)
    (hread : recordsRemoved b.cfg s a = 0) : (s.next b a).log.ring.count = s.log.ring.count := by
  by_cases htask : a.task = some .producer
  · cases a with
    | producerWrite lock nowUs => exact absurd rfl (hwrite lock nowUs)
    | checkinTest client | checkinRead client | checkinStore client =>
      cases htask
      rfl
    | producerWake | producerTimeOut | producerSample | producerRing | producerUpdate => rfl
    | _ => cases htask
  by_cases htask : a.task = some .consumer
  · cases a with
    | consumerReceive =>
      simp only [State.next, State.consumerReceive]
      split <;> rfl
    | consumerHandle lock =>
      obtain ⟨_, _, _, _, hs, hring, -⟩ := s.consumerHandle_cases b.cfg lock
      simp only [State.next, hs, hring]
    | consumerRead lock =>
      cases lock with
      | none => rfl
      | some hold =>
        have hpop : s.log.ring.popCount b.cfg.logReadBatch = 0 := UInt32.toNat_inj.mp hread
        simp only [State.next, State.consumerRead, SensorLog.read, SensorLog.unlock_ring]
        exact RingBuffer.count_pop_of_popCount_eq_zero hpop _
    | checkinTest client | checkinRead client | checkinStore client =>
      cases htask
      rfl
    | consumerStart | consumerReceiveTimeOut | consumerDepth | consumerReport | consumerDrain
    | consumerProcess | consumerStallTick | consumerStall => rfl
    | _ => cases htask
  · rw [(s.next_log b ‹_› htask).1]

private theorem doorbellDue_le_one (p : Producer) : doorbellDue p ≤ 1 := by
  unfold doorbellDue
  split <;> omega

private theorem dataReadyPut_add_possible (ha : s.enabled a = true)
    (hring : s.producer.pc = .ring → s.log.ring.count ≠ 0)
    (hkept : (s.next b a).log.ring.count = 0 → s.log.ring.count = 0) :
    dataReadyPut b s a + doorbellPossible (s.next b a) ≤ doorbellPossible s := by
  have hdue := dataReadyPut_add_due (b := b) ha
  unfold doorbellPossible
  by_cases hempty : s.log.ring.count = 0
  · have hne : a ≠ .producerRing := by
      rintro rfl
      exact hring (beq_iff_eq.mp ha) hempty
    rw [if_pos hempty, dataReadyPut_of_ne_ring hne, Nat.zero_add]
    split
    · exact Nat.le_refl 1
    · exact doorbellDue_le_one _
  · have hfound : foundEmpty s a = 0 := by
      unfold foundEmpty
      split
      · exact if_neg hempty
      · rfl
    rw [if_neg hempty, if_neg fun h ↦ hempty (hkept h)]
    omega

private theorem count_ne_zero_of_write {q : Fifo Sample}
    (hrep : RingBuffer.Represents b.cfg.logCapacity.toNat s.log.ring q) (hold : Hold)
    (nowUs : UInt64) : (s.producerWrite (some hold) nowUs).log.ring.count ≠ 0 := by
  intro hzero
  have hrep' := (SensorLog.write_some hrep hold s.sample s.producer.logWasEmpty).2
  have hlen : (s.producerWrite (some hold) nowUs).log.ring.count.toNat =
      (q.push b.cfg.logCapacity.toNat s.sample).items.length := hrep'.toNat_count
  rw [hzero] at hlen
  simp [Fifo.push] at hlen

private theorem empty_of_next_empty {q : Fifo Sample}
    (hrep : RingBuffer.Represents b.cfg.logCapacity.toNat s.log.ring q)
    (hread : recordsRemoved b.cfg s a = 0) (hempty : (s.next b a).log.ring.count = 0) :
    s.log.ring.count = 0 := by
  by_cases hwrite : ∃ lock nowUs, a = .producerWrite lock nowUs
  · obtain ⟨lock, nowUs, rfl⟩ := hwrite
    cases lock with
    | none => exact hempty
    | some hold => exact absurd hempty (count_ne_zero_of_write hrep hold nowUs)
  · rw [← count_next (fun lock nowUs h ↦ hwrite ⟨lock, nowUs, h⟩) hread]
    exact hempty

private theorem stored_of_ring {q : Fifo Sample}
    (hrep : RingBuffer.Represents b.cfg.logCapacity.toNat s.log.ring q)
    (hread : recordsRemoved b.cfg s a = 0)
    (hring : s.producer.pc = .ring → s.log.ring.count ≠ 0)
    (hpc : (s.next b a).producer.pc = .ring) : (s.next b a).log.ring.count ≠ 0 := by
  have hne : a ≠ .producerRing := by
    rintro rfl
    cases hpc
  rcases write_or_keeps (b := b) (s := s) hne with ⟨lock, nowUs, rfl⟩ | ⟨hkeeps, -⟩
  · cases lock with
    | none => cases hpc
    | some hold => exact count_ne_zero_of_write hrep hold nowUs
  · exact fun hempty ↦ hring (hkeeps hpc) (empty_of_next_empty hrep hread hempty)

/-- The machine of the stretches in which the consumer removes no record. -/
def stepUnread (b : Board) : State → Action → Option State :=
  Machine.restrict (fun s a ↦ recordsRemoved b.cfg s a == 0) (step b)

/-- A stretch without a removal is part of a run. -/
theorem Reaches.unread (h : Reaches b as s) (hrun : Machine.run (stepUnread b) s bs = some t) :
    Reaches b (as ++ bs) t := by
  obtain ⟨s₀, hs₀, hs⟩ := h
  exact ⟨s₀, hs₀, Machine.run_append_eq_some.mpr ⟨s, hs, Machine.run_of_run_restrict hrun⟩⟩

/-- A step of such a stretch is a step of the system that removes nothing. -/
theorem stepUnread_eq_some :
    stepUnread b s a = some t ↔
      recordsRemoved b.cfg s a = 0 ∧ s.halted = false ∧ s.enabled a = true ∧ s.next b a = t := by
  rw [stepUnread, Machine.restrict_eq_some, step_eq_some, beq_iff_eq]

-- What a stretch without a removal keeps: the run it belongs to, and that the producer rings
-- only for a log that holds a record.
private def Unread (b : Board) (s : State) : Prop :=
  (∃ as, Reaches b as s) ∧ (s.producer.pc = .ring → s.log.ring.count ≠ 0)

private theorem Unread.next (h : Unread b s) (hstep : stepUnread b s a = some t) :
    Unread b t := by
  obtain ⟨⟨as, hreach⟩, hring⟩ := h
  have hrun : Machine.run (stepUnread b) s [a] = some t := by
    rw [Machine.run_cons, hstep]
    rfl
  obtain ⟨hread, -, -, rfl⟩ := stepUnread_eq_some.mp hstep
  obtain ⟨q, hl⟩ := hreach.ledger
  exact ⟨⟨as ++ [a], hreach.unread hrun⟩, stored_of_ring hl.ring hread hring⟩

private theorem Unread.pays (h : Unread b s) (hstep : stepUnread b s a = some t) :
    dataReadyPut b s a + doorbellPossible t ≤ doorbellPossible s := by
  obtain ⟨⟨as, hreach⟩, hring⟩ := h
  obtain ⟨hread, -, ha, rfl⟩ := stepUnread_eq_some.mp hstep
  obtain ⟨q, hl⟩ := hreach.ledger
  exact dataReadyPut_add_possible ha hring (empty_of_next_empty hl.ring hread)

/-- In a stretch without a removal that does not begin at the doorbell, at most one doorbell is
put into the queue. -/
theorem dataReadyPut_unread (h : Reaches b as s) (hpc : s.producer.pc ≠ .ring)
    (hrun : Machine.run (stepUnread b) s bs = some t) :
    Machine.total (step b) (dataReadyPut b) s bs ≤ 1 := by
  have hle := Machine.total_le_of_potential (I := Unread b) (Φ := doorbellPossible)
    (f := dataReadyPut b) (g := fun _ _ ↦ 0) ⟨⟨as, h⟩, fun hring ↦ absurd hring hpc⟩
    (fun s a t hs ht ↦ hs.next ht)
    (fun s a t hs ht ↦ by rw [Nat.zero_add]; exact hs.pays ht) hrun
  have hzero : Machine.total (stepUnread b) (fun _ _ ↦ 0) s bs = 0 := Machine.total_zero _ s bs
  have hone : doorbellPossible s ≤ 1 := by
    unfold doorbellPossible
    split
    · exact Nat.le_refl 1
    · exact doorbellDue_le_one _
  rw [← Machine.total_restrict _ hrun]
  rw [hzero] at hle
  exact (Nat.le_add_right _ _).trans (hle.trans (by omega))

/-- Over a whole run the doorbells are no more than the writes that found the log empty. -/
theorem dataReadyPut_le_foundEmpty (hs₀ : Starts b.cfg s₀)
    (hrun : Machine.run (step b) s₀ as = some s) :
    Machine.total (step b) (dataReadyPut b) s₀ as ≤ Machine.total (step b) foundEmpty s₀ as := by
  have hle := Machine.total_le_of_potential (I := fun _ ↦ True)
    (Φ := fun s ↦ doorbellDue s.producer) (f := dataReadyPut b) (g := foundEmpty) trivial
    (fun _ _ _ _ _ ↦ trivial) ?_ hrun
  · have hstart : doorbellDue s₀.producer = 0 := by
      obtain ⟨_, _, _, _, _, rfl⟩ := hs₀
      rfl
    rw [hstart] at hle
    exact (Nat.le_add_right _ _).trans hle
  · intro s a t _ hstep
    obtain ⟨_, ha, rfl⟩ := step_eq_some.mp hstep
    exact dataReadyPut_add_due ha

/-- Doorbells never flood the command queue: over a whole run no more of them are put into it than
writes found the log empty; and over a stretch that begins anywhere but at the doorbell, as all
do that begin between cycles, and in which the consumer removes no record, at most one. -/
theorem doorbells_never_flood (hs₀ : Starts b.cfg s₀)
    (hrun : Machine.run (step b) s₀ as = some s) :
    Machine.total (step b) (dataReadyPut b) s₀ as ≤ Machine.total (step b) foundEmpty s₀ as ∧
      ∀ bs t, s.producer.pc ≠ .ring → Machine.run (stepUnread b) s bs = some t →
        Machine.total (step b) (dataReadyPut b) s bs ≤ 1 :=
  ⟨dataReadyPut_le_foundEmpty hs₀ hrun, fun _ _ hpc ↦ dataReadyPut_unread ⟨s₀, hs₀, hrun⟩ hpc⟩

-- Two cycles of the producer that store their samples; the first one finds the log empty.
private def twoCycles : List Action :=
  let before : List Action := [.timerInterrupt, .producerWake, .producerSample 0 ⟨fun _ ↦ 0⟩ 0 0,
    .producerWrite (some ⟨0, 0⟩) 0]
  let after : List Action := [.producerUpdate, .checkinTest .producer, .checkinRead .producer,
    .checkinStore .producer]
  before ++ .producerRing :: after ++ before ++ after

/-- One of the two cycles rings. -/
theorem doorbells_never_flood_cycles :
    ∃ t, Machine.run (stepUnread ⟨appConfig, true, 2000⟩) (powerOn appConfig) twoCycles = some t ∧
      t.queue = [⟨.dataReady, '\x00'⟩] ∧
      Machine.total (step ⟨appConfig, true, 2000⟩) (dataReadyPut ⟨appConfig, true, 2000⟩)
        (powerOn appConfig) twoCycles ≤ 1 := by
  have hrun : (Machine.run (stepUnread ⟨appConfig, true, 2000⟩) (powerOn appConfig) twoCycles).any
      (fun t ↦ t.queue == [⟨.dataReady, '\x00'⟩]) = true := by
    decide +kernel
  obtain ⟨t, ht, hqueue⟩ := (Option.any_eq_true _ _).mp hrun
  have hstart : Machine.run (step ⟨appConfig, true, 2000⟩) (powerOn appConfig) [] =
      some (powerOn appConfig) := rfl
  exact ⟨t, ht, beq_iff_eq.mp hqueue,
    (doorbells_never_flood (starts_powerOn (by decide +kernel)) hstart).2 twoCycles t
      ProducerPc.noConfusion ht⟩

end SensorAggregator.System
