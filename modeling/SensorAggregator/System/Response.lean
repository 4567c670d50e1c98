import SensorAggregator.System.Commands

/-!
# The consumer gets back to its queue

`APP_LOG_DRAIN_BATCHES_MAX` exists "so a large backlog can't keep the consumer away from its
queue", `task_consumer.c:349–350`. `stepsToHandle` bounds the consumer's own steps up to the
next message it handles, and every message accepted is handled within one such bound for each
message up to it, whatever the other tasks do in between.
-/

namespace SensorAggregator.System

open Base Datalog Tasks

variable {b : Board} {as bs : List Action} {s t : State} {a : Action} {cfg : AppConfig}
  {c : Consumer}

/-- The steps of one batch: the read, its records, and the end of the loop over them. -/
def batchSteps (cfg : AppConfig) : ℕ := cfg.logReadBatch.toNat + 2

/-- The most steps of the consumer from one message to the next. -/
def passSteps (cfg : AppConfig) : ℕ := 10 + cfg.logDrainBatchesMax.toNat * batchSteps cfg

/-- The steps of the batches after number `batchNum`. -/
def laterBatchSteps (cfg : AppConfig) (batchNum : ℕ) : ℕ :=
  (cfg.logDrainBatchesMax.toNat - (batchNum + 1)) * batchSteps cfg

/-- The most own steps until the consumer has handled a message, if there is one. -/
def stepsToHandle (cfg : AppConfig) (c : Consumer) : ℕ :=
  match c.pc with
  | .hung => 0
  | .handle => 1
  | .depth => 2
  | .receive => 3
  | .start | .checkin .store => 4
  | .checkin .read => 5
  | .checkin .test => 6
  | .stall => 7
  | .stallTick => 8
  | .process => 9 + (c.batchCount.toNat - c.idx) + laterBatchSteps cfg c.batchNum
  | .read => 8 + batchSteps cfg + laterBatchSteps cfg c.batchNum
  | .drain => 9 + cfg.logDrainBatchesMax.toNat * batchSteps cfg
  | .report => passSteps cfg

section rank

private theorem stepsToHandle_nextBatch (cfg : AppConfig) (c : Consumer) (batchNum : ℕ) :
    stepsToHandle cfg (c.nextBatch cfg batchNum) ≤
      8 + (cfg.logDrainBatchesMax.toNat - batchNum) * batchSteps cfg := by
  unfold Consumer.nextBatch
  split
  · next hlt =>
    have hsplit : cfg.logDrainBatchesMax.toNat - batchNum =
        cfg.logDrainBatchesMax.toNat - (batchNum + 1) + 1 := by omega
    simp only [stepsToHandle, laterBatchSteps, hsplit, Nat.succ_mul]
    omega
  · simp only [stepsToHandle, Consumer.drained]
    omega

private theorem stepsToHandle_drain (cfg : AppConfig) (c : Consumer) :
    stepsToHandle cfg (c.drain cfg) ≤ 8 + cfg.logDrainBatchesMax.toNat * batchSteps cfg := by
  unfold Consumer.drain
  split
  · simp only [stepsToHandle, Consumer.drained]
    omega
  · exact stepsToHandle_nextBatch cfg c 0

private theorem toNat_popped_le {α : Type} (log : SensorLog α) (lock : Option Hold) (out : ℕ → α)
    (maxRecords count : UInt32) :
    (((log.read lock (some out) maxRecords (some count)).2.2.1).getD count).toNat ≤
      maxRecords.toNat := by
  cases lock with
  | none => exact Nat.zero_le _
  | some hold =>
    simp only [SensorLog.read, Option.getD_some, RingBuffer.pop]
    split
    · next storage out _ _ =>
      simp only [RingBuffer.popCount]
      split
      · exact Nat.le_refl _
      · next hge => exact UInt32.le_iff_toNat_le.mp (UInt32.not_lt.mp hge)
    · exact Nat.zero_le _

private theorem stepsToHandle_gotBatch {batch : ℕ → Sample} {batchCount : UInt32} {ok : Bool}
    (hcount : batchCount.toNat ≤ cfg.logReadBatch.toNat) :
    stepsToHandle cfg (c.gotBatch batch batchCount ok) + 1 ≤
      8 + batchSteps cfg + laterBatchSteps cfg c.batchNum := by
  cases ok with
  | false =>
    simp only [Consumer.gotBatch, stepsToHandle, Consumer.drained, batchSteps]
    simp
    omega
  | true =>
    simp only [Consumer.gotBatch, stepsToHandle, batchSteps]
    simp
    omega

private theorem stepsToHandle_process (hpc : c.pc = .process) :
    stepsToHandle cfg (c.process cfg) + 1 ≤ stepsToHandle cfg c := by
  have hnow : stepsToHandle cfg c =
      9 + (c.batchCount.toNat - c.idx) + laterBatchSteps cfg c.batchNum := by
    rw [stepsToHandle, hpc]
  rw [hnow]
  unfold Consumer.process
  split
  · next hlt =>
    simp only [stepsToHandle, hpc]
    omega
  · split
    · simp only [stepsToHandle, Consumer.drained]
      omega
    · have hnext := stepsToHandle_nextBatch cfg c (c.batchNum + 1)
      rw [laterBatchSteps]
      omega

/-- Every own step brings the consumer closer to its next message, until it handles one or finds
the queue empty; then a whole pass is ahead. -/
theorem stepsToHandle_next (ha : s.enabled a = true) (htask : a.task = some .consumer) :
    stepsToHandle b.cfg (s.next b a).consumer + 1 ≤ stepsToHandle b.cfg s.consumer +
        passSteps b.cfg * (handled s a).length ∨
      a = .consumerReceiveTimeOut ∧
        stepsToHandle b.cfg (s.next b a).consumer ≤ passSteps b.cfg := by
  cases a with
  | consumerStart =>
    have hpc : s.consumer.pc = .start := beq_iff_eq.mp ha
    left
    simp [stepsToHandle, hpc, State.next, Consumer.start]
  | consumerReceive =>
    obtain ⟨hpc, hqueue⟩ := Bool.and_eq_true_iff.mp ha
    rw [beq_iff_eq] at hpc
    left
    cases hq : s.queue with
    | nil => simp [hq] at hqueue
    | cons msg queue =>
      simp [stepsToHandle, hpc, State.next, State.consumerReceive, hq, Consumer.received]
  | consumerReceiveTimeOut =>
    right
    refine ⟨rfl, ?_⟩
    simp [stepsToHandle, State.next, Consumer.receivedNothing, passSteps]
  | consumerDepth =>
    have hpc : s.consumer.pc = .depth := beq_iff_eq.mp ha
    left
    simp [stepsToHandle, hpc, State.next, Consumer.sawDepth]
  | consumerHandle lock =>
    have hpc : s.consumer.pc = .handle := beq_iff_eq.mp ha
    have hpoint := s.pc_consumer_next b ha htask
    left
    have hnext : stepsToHandle b.cfg (s.next b (.consumerHandle lock)).consumer ≤
        passSteps b.cfg := by
      simp only [State.consumerPoints, List.mem_pair] at hpoint
      rcases hpoint with h | h <;> simp [stepsToHandle, h, passSteps]
    simp only [stepsToHandle, hpc, handled, List.length_singleton] at hnext ⊢
    omega
  | consumerReport =>
    have hpc : s.consumer.pc = .report := beq_iff_eq.mp ha
    left
    simp [stepsToHandle, hpc, State.next, State.consumerReport, passSteps]
    omega
  | consumerDrain =>
    have hpc : s.consumer.pc = .drain := beq_iff_eq.mp ha
    have hdrain := stepsToHandle_drain b.cfg s.consumer
    left
    rw [State.next, stepsToHandle.eq_def b.cfg s.consumer, hpc]
    simp only
    omega
  | consumerRead lock =>
    have hpc : s.consumer.pc = .read := beq_iff_eq.mp ha
    left
    rw [stepsToHandle.eq_def b.cfg s.consumer, hpc]
    exact stepsToHandle_gotBatch (toNat_popped_le s.log lock s.consumer.batch _ _)
  | consumerProcess =>
    have hpc : s.consumer.pc = .process := beq_iff_eq.mp ha
    exact .inl (stepsToHandle_process hpc)
  | consumerStallTick =>
    have hpc : s.consumer.pc = .stallTick := beq_iff_eq.mp ha
    left
    simp [stepsToHandle, hpc, State.next, Consumer.sawTick]
  | consumerStall =>
    have hpc : s.consumer.pc = .stall := beq_iff_eq.mp ha
    left
    simp [stepsToHandle, hpc, State.next, Consumer.checkedStall]
  | checkinTest client =>
    cases htask
    have hpc : s.consumer.pc = .checkin .test := beq_iff_eq.mp ha
    left
    rcases s.checkinTest_cases b.cfg .consumer with h | h <;>
      simp [stepsToHandle, hpc, State.next, beq_iff_eq.mp h, handled]
  | checkinRead client =>
    cases htask
    have hpc : s.consumer.pc = .checkin .read := beq_iff_eq.mp ha
    left
    simp [stepsToHandle, hpc, State.next, State.checkinRead]
  | checkinStore client =>
    cases htask
    have hpc : s.consumer.pc = .checkin .store := beq_iff_eq.mp ha
    left
    simp [stepsToHandle, hpc, State.next, State.checkinStore]
  | _ => cases htask

end rank

/-- In every reachable state at most one pass is ahead. -/
theorem Reaches.stepsToHandle_le (h : Reaches b as s) :
    stepsToHandle b.cfg s.consumer ≤ passSteps b.cfg := by
  refine h.induction (P := fun _ s ↦ stepsToHandle b.cfg s.consumer ≤ passSteps b.cfg) ?_ ?_
  · rintro s₀ ⟨_, _, _, _, _, rfl⟩
    simp [stepsToHandle, State.boot, Consumer.boot, passSteps]
    omega
  · intro as s a _ ih ha
    by_cases htask : a.task = some .consumer
    · rcases stepsToHandle_next (b := b) ha htask with hnext | ⟨-, hle⟩
      · cases a with
        | consumerHandle lock =>
          have hpc : s.consumer.pc = .handle := beq_iff_eq.mp ha
          simp only [handled, List.length_singleton, Nat.mul_one] at hnext
          rw [stepsToHandle.eq_def b.cfg s.consumer, hpc] at hnext
          simp only at hnext
          omega
        | _ => simp only [handled, List.length_nil, Nat.mul_zero] at hnext; omega
      · exact hle
    · rw [(s.next_consumer b htask).1]
      exact ih

private theorem ownSteps_le (hrun : Machine.run (step b) s bs = some t)
    (hwait : (handledMsgs b s bs).length < s.pendingMsgs.length) :
    bs.countP (·.task = some .consumer) + stepsToHandle b.cfg t.consumer ≤
      passSteps b.cfg * (handledMsgs b s bs).length + stepsToHandle b.cfg s.consumer := by
  revert hwait
  refine Machine.run_induction (P := fun bs t ↦
    (handledMsgs b s bs).length < s.pendingMsgs.length →
      bs.countP (·.task = some .consumer) + stepsToHandle b.cfg t.consumer ≤
        passSteps b.cfg * (handledMsgs b s bs).length + stepsToHandle b.cfg s.consumer) ?_ ?_ hrun
  · intro _
    simp [handledMsgs]
  · intro bs t a u hrun ih hstep hwait
    have hhandled : handledMsgs b s (bs ++ [a]) = handledMsgs b s bs ++ handled t a :=
      Machine.emitted_concat handled hrun hstep
    rw [hhandled, List.length_append] at hwait ⊢
    have ih := ih (by omega)
    have hline := congrArg List.length (pendingMsgs_run hrun)
    obtain ⟨-, ha, rfl⟩ := step_eq_some.mp hstep
    rw [List.countP_append, List.countP_singleton, Nat.mul_add]
    by_cases htask : a.task = some .consumer
    · simp only [htask, decide_true, if_true]
      rcases stepsToHandle_next (b := b) ha htask with hnext | ⟨rfl, -⟩
      · omega
      · -- the queue is empty and nothing in hand, so nothing waits
        obtain ⟨hpc, hqueue⟩ := Bool.and_eq_true_iff.mp ha
        have hnone : t.pendingMsgs = [] := by
          simp_all [State.pendingMsgs, inHand]
        simp only [hnone, List.length_append, List.length_nil] at hline
        omega
    · simp only [htask, decide_false, (t.next_consumer b htask).1]
      simp
      omega

/-- A message that is in the queue, or in the consumer's hand, is handled in its turn, before the
consumer has taken one pass of own steps for each message up to it and one more step. Nothing
that other tasks, interrupts or lock timeouts do in between can delay it. -/
theorem message_handled_within (h : Reaches b as s) (hrun : Machine.run (step b) s bs = some t)
    {k : ℕ} {msg : ConsumerMsg} (hmsg : s.pendingMsgs[k]? = some msg)
    (hsteps : (k + 1) * passSteps b.cfg < bs.countP (·.task = some .consumer)) :
    (handledMsgs b s bs)[k]? = some msg := by
  have hk : k < s.pendingMsgs.length := (List.getElem?_eq_some_iff.mp hmsg).1
  have hmany : k < (handledMsgs b s bs).length := by
    by_contra hfew
    have hle := ownSteps_le hrun (by omega)
    have hpass := h.stepsToHandle_le
    have hmul : passSteps b.cfg * (handledMsgs b s bs).length ≤ passSteps b.cfg * k :=
      Nat.mul_le_mul_left _ (by omega)
    rw [Nat.succ_mul, Nat.mul_comm k] at hsteps
    omega
  have hline := pendingMsgs_run hrun
  have hfront : (handledMsgs b s bs ++ t.pendingMsgs)[k]? = (handledMsgs b s bs)[k]? :=
    List.getElem?_append_left hmany
  rw [← hfront, ← hline, List.getElem?_append_left hk, hmsg]

-- One batch of one record at a time.
private def singleBoard : Board where
  cfg := { appConfig with
    logReadBatch := 1
    logDrainBatchesMax := 1
    logReadBatch_pos := Nat.zero_lt_one
    logReadBatch_le := by decide }
  wdtRunning := true
  wdtTimeoutMs := 2000

-- A button is pressed before the consumer starts.
private def pressRun : List Action := [.uiWake, .uiPress4 true]

-- The consumer goes once through its loop, and a little further.
private def wholePass : List Action :=
  [.consumerStart, .consumerReceive, .consumerDepth, .consumerHandle none, .consumerDrain,
    .consumerRead (some ⟨0, 0⟩), .consumerProcess, .consumerStallTick, .consumerStall,
    .checkinTest .consumer, .checkinRead .consumer, .checkinStore .consumer,
    .consumerReceiveTimeOut, .consumerDrain]

/-- One pass is thirteen steps at the most there, and the press is handled. -/
theorem message_handled_within_press :
    passSteps singleBoard.cfg = 13 ∧
      ∃ s, Reaches singleBoard pressRun s ∧
        (handledMsgs singleBoard s wholePass)[0]? = some ⟨.report, '\x00'⟩ := by
  have hrun : (Machine.run (step singleBoard) (powerOn singleBoard.cfg) pressRun).any (fun s ↦
      s.pendingMsgs[0]? == some ⟨.report, '\x00'⟩ &&
        (Machine.run (step singleBoard) s wholePass).isSome) = true := by
    decide +kernel
  obtain ⟨s, hs, hcheck⟩ := reaches_of_powerOn (by decide +kernel) hrun
  rw [Bool.and_eq_true, beq_iff_eq, Option.isSome_iff_exists] at hcheck
  obtain ⟨hmsg, t, ht⟩ := hcheck
  exact ⟨by decide, s, hs, message_handled_within hs ht hmsg (by decide)⟩

end SensorAggregator.System
