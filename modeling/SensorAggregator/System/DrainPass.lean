import SensorAggregator.System.Ledger
import SensorAggregator.Tasks.Drain

/-!
# The consumer drains its log as one call would

When no other task comes in between, the steps of `consumer_task` in `consumer_drain_log` do what
`consumerDrainLog` computes. From every log the system can reach, calls in batches end where one
pop of everything would.
-/

namespace SensorAggregator.System

open Base Datalog Tasks

variable {b : Board} {as : List Action} {s : State}

/-- What `consumer_drain_log` finds when it is entered. -/
def State.drain (s : State) : Drain :=
  ⟨s.log, s.consumer.state, s.consumer.batch, s.consumer.batchCount, s.history.processed⟩

/-- `consumer_drain_log` has returned what a call ends with. -/
structure Answers (s : State) (r : Drain × Bool) : Prop where
  pc : s.consumer.pc = .stallTick
  backlogPending : s.consumer.backlogPending = r.2
  log : s.log = r.1.log
  state : s.consumer.state = r.1.state
  processed : s.history.processed = r.1.processed

/-- Some steps of the consumer alone end with that answer. -/
def RunsTo (b : Board) (s : State) (r : Drain × Bool) : Prop :=
  ∃ as t, (∀ a ∈ as, a.task = some .consumer) ∧ Machine.run (step b) s as = some t ∧ Answers t r

private theorem RunsTo.cons {r : Drain × Bool} {a : Action} (htask : a.task = some .consumer)
    (hhalted : s.halted = false) (ha : s.enabled a = true) (h : RunsTo b (s.next b a) r) :
    RunsTo b s r := by
  obtain ⟨as, t, htasks, hrun, hanswers⟩ := h
  refine ⟨a :: as, t, ?_, ?_, hanswers⟩
  · intro a' ha'
    rcases List.mem_cons.mp ha' with rfl | hmem
    · exact htask
    · exact htasks a' hmem
  · rw [Machine.run_cons, step_eq_some.mpr ⟨hhalted, ha, rfl⟩]
    exact hrun

/-- The consumer after the rest of its batch, `task_consumer.c:374–377`. -/
def processRest (cfg : AppConfig) (c : Consumer) : Consumer :=
  { c with
    state := consumerProcessAll cfg c.state c.batchRest
    idx := c.batchCount.toNat }

private theorem processRest_process (cfg : AppConfig) {c : Consumer}
    (h : c.idx < c.batchCount.toNat) :
    processRest cfg (c.process cfg) = processRest cfg c := by
  have hrest := Consumer.batchRest_process cfg h
  unfold processRest
  rw [hrest]
  generalize (c.process cfg).batchRest = rest
  rw [Consumer.process, if_pos h]
  rfl

/-- The system after the rest of the batch. -/
def State.batchDone (cfg : AppConfig) (s : State) : State :=
  { s with
    consumer := processRest cfg s.consumer
    history := { s.history with processed := s.history.processed ++ s.consumer.batchRest } }

private theorem drain_batchDone (cfg : AppConfig) (hidx : s.consumer.idx = 0) :
    (s.batchDone cfg).drain = s.drain.processBatch cfg := by
  have hrest : s.consumer.batchRest = s.drain.batchRecords := by
    rw [Consumer.batchRest, hidx, Nat.sub_zero, ← List.range_eq_range']
    rfl
  rw [Drain.processBatch_eq, ← hrest]
  rfl

private theorem runsTo_process {r : Drain × Bool} (n : ℕ) (hhalted : s.halted = false)
    (hpc : s.consumer.pc = .process) (hn : s.consumer.idx + n = s.consumer.batchCount.toNat)
    (h : RunsTo b (s.batchDone b.cfg) r) : RunsTo b s r := by
  induction n generalizing s with
  | zero =>
    have hrest := Consumer.batchRest_of_le (c := s.consumer) (by omega)
    rw [State.batchDone, processRest, hrest, List.append_nil, ← hn] at h
    exact h
  | succ n ih =>
    have hidx : s.consumer.idx < s.consumer.batchCount.toNat := by omega
    have hprocess : s.consumer.process b.cfg =
        { s.consumer with
          state := (consumerProcessRecord b.cfg s.consumer.state
            (s.consumer.batch s.consumer.idx).record).1
          idx := s.consumer.idx + 1 } := if_pos hidx
    refine RunsTo.cons (a := .consumerProcess) rfl hhalted (beq_iff_eq.mpr hpc) ?_
    apply ih
    · exact hhalted
    · rw [State.next, State.consumerProcess, hprocess]
      exact hpc
    · rw [State.next, State.consumerProcess, hprocess]
      change s.consumer.idx + 1 + n = s.consumer.batchCount.toNat
      omega
    · rw [State.batchDone, Consumer.batchRest_process b.cfg hidx,
        ← processRest_process b.cfg hidx] at h
      rw [State.next, State.consumerProcess, State.batchDone, Consumer.batchRest_process b.cfg hidx]
      simpa only [List.head?_cons, Option.toList_some, List.append_assoc, List.singleton_append]
        using h

private theorem runsTo_batch {r : Drain × Bool} (hhalted : s.halted = false)
    (hpc : s.consumer.pc = .process) (hidx : s.consumer.idx = 0)
    (h : let t := s.batchDone b.cfg
      RunsTo b { t with consumer := t.consumer.nextBatch b.cfg (s.consumer.batchNum + 1) } r) :
    RunsTo b s
      (if s.consumer.batchCount < b.cfg.logReadBatch then (s.drain.processBatch b.cfg, false)
        else r) := by
  apply runsTo_process s.consumer.batchCount.toNat hhalted hpc (by rw [hidx, Nat.zero_add])
  rw [← drain_batchDone b.cfg hidx]
  refine RunsTo.cons (a := .consumerProcess) rfl hhalted (beq_iff_eq.mpr hpc) ?_
  have hdone : ¬ (s.batchDone b.cfg).consumer.idx < (s.batchDone b.cfg).consumer.batchCount.toNat :=
    Nat.lt_irrefl _
  have hrest := Consumer.batchRest_of_le (Nat.le_of_not_lt hdone)
  rw [State.next, State.consumerProcess, hrest, List.head?_nil, Option.toList_none,
    List.append_nil, Consumer.process, if_neg hdone]
  split
  · next hshort =>
    rw [if_pos (show s.consumer.batchCount < _ from hshort)]
    refine ⟨[], _, ?_, rfl, rfl, rfl, rfl, rfl, rfl⟩
    intro a ha
    cases ha
  · next hfull =>
    rw [if_neg (show ¬ s.consumer.batchCount < _ from hfull)]
    exact h

/-- The loop over the batches, entered with `left` of them to go. -/
theorem runsTo_loop (lock : ℕ → Option Hold) (left : ℕ) (hhalted : s.halted = false) {n : ℕ}
    (hleft : n + left = b.cfg.logDrainBatchesMax.toNat) :
    RunsTo b { s with consumer := s.consumer.nextBatch b.cfg n }
      (s.drain.loop b.cfg b.cfg.logReadBatch ((List.range' n left).map lock)) := by
  induction left generalizing s n with
  | zero =>
    have hnot : ¬ n < b.cfg.logDrainBatchesMax.toNat := by omega
    rw [Consumer.nextBatch, if_neg hnot]
    refine ⟨[], _, ?_, rfl, rfl, rfl, rfl, rfl, rfl⟩
    intro a ha
    cases ha
  | succ left ih =>
    have hlt : n < b.cfg.logDrainBatchesMax.toNat := by omega
    rw [Consumer.nextBatch, if_pos hlt, List.range'_succ, List.map_cons]
    refine RunsTo.cons (a := .consumerRead (lock n)) rfl hhalted rfl ?_
    cases lock n with
    | none =>
      refine ⟨[], _, ?_, rfl, rfl, rfl, rfl, rfl, rfl⟩
      intro a ha
      cases ha
    | some hold =>
      generalize hs' : State.next b _ (.consumerRead (some hold)) = s'
      have hdrain : (s.drain.read b.cfg.logReadBatch (some hold)).1 = s'.drain := by
        rw [← hs']
        rfl
      have hnum : s'.consumer.batchNum = n := by
        rw [← hs']
        rfl
      have hidx : s'.consumer.idx = 0 := by
        rw [← hs']
        rfl
      have hhalted' : s'.halted = false := by
        rw [← hs']
        exact hhalted
      have hpc : s'.consumer.pc = .process := by
        rw [← hs']
        rfl
      rw [Drain.loop_some, hdrain]
      apply runsTo_batch hhalted' hpc hidx
      rw [← drain_batchDone b.cfg hidx, hnum]
      exact ih (s := s'.batchDone b.cfg) (n := n + 1) hhalted' (by omega)

/-- The steps of the consumer from its call of `consumer_drain_log` on compute what the call
does, whatever each read meets at the mutex. -/
theorem runsTo_drainLog (lock : ℕ → Option Hold) (hhalted : s.halted = false)
    (hpc : s.consumer.pc = .drain) :
    RunsTo b s (consumerDrainLog b.cfg b.cfg.logReadBatch b.cfg.logDrainBatchesMax lock
      s.drain) := by
  refine RunsTo.cons (a := .consumerDrain) rfl hhalted (beq_iff_eq.mpr hpc) ?_
  rw [State.next, Consumer.drain, consumerDrainLog]
  cases hpaused : s.consumer.state.drainPaused with
  | true =>
    rw [if_pos rfl, if_pos (show s.drain.state.drainPaused = true from hpaused)]
    refine ⟨[], _, ?_, rfl, rfl, rfl, rfl, rfl, rfl⟩
    intro a ha
    cases ha
  | false =>
    have hrunning : ¬ s.drain.state.drainPaused = true := by
      rw [Bool.not_eq_true]
      exact hpaused
    rw [if_neg Bool.false_ne_true, if_neg hrunning, List.range_eq_range']
    exact runsTo_loop lock _ hhalted (Nat.zero_add _)

/-- Every log the system reaches can be drained. -/
theorem Reaches.drained (h : Reaches b as s) {d : Drain} (hlog : d.log = s.log) :
    Drained b.cfg b.cfg.logCapacity.toNat d d s.log.ring.contents [] := by
  obtain ⟨q, hl⟩ := h.ledger
  exact {
    holds := ⟨q, by rw [hlog]; exact hl.ring, hl.ring.contents_eq.symm⟩
    ring := rfl
    state := rfl
    processed := (List.append_nil d.processed).symm }

/-- Draining in batches is draining in one go. On every log the system can reach, one call takes
the oldest records, as many as its batches have room for, processes them in order, leaves the
others in place, and asks for another call if and only if all its batches were full. Calls
repeated while they ask for another end after the number of calls the records fill, and one more,
with the log empty and all records processed in order, and the consumer and the ring are as after
one pop of everything. In each case `received`, `last_seq` and `lost` are those of the records
taken. The steps of `consumer_task` from its call of `consumer_drain_log` on end as such a call
does. -/
theorem drain_in_batches (h : Reaches b as s) {d : Drain} (hlog : d.log = s.log)
    (hpaused : d.state.drainPaused = false) {readBatch batchesMax : UInt32}
    (hsize : 0 < readBatch) (hlimit : 0 < batchesMax) :
    let xs := s.log.ring.contents
    let most := batchesMax.toNat * readBatch.toNat
    (∀ hold,
      let after := drainCall b.cfg readBatch batchesMax d hold
      after.1.processed = d.processed ++ xs.take (min xs.length most) ∧
        Processed d.state (xs.take (min xs.length most)) after.1.state ∧
        after.1.log.ring.contents = xs.drop most ∧ (after.2 = true ↔ most ≤ xs.length)) ∧
      (∀ holds, holds.length = xs.length / most + 1 →
        let after := Machine.trace (drainCall b.cfg readBatch batchesMax) d holds
        after.2 = List.replicate (xs.length / most) true ++ [false] ∧
          after.1.log.ring.contents = [] ∧ after.1.processed = d.processed ++ xs ∧
          Processed d.state xs after.1.state ∧
          after.1.processed = (drainAtOnce b.cfg d).processed ∧
          after.1.state = (drainAtOnce b.cfg d).state ∧
          after.1.log.ring = (drainAtOnce b.cfg d).log.ring) ∧
      (s.halted = false → s.consumer.pc = .drain → ∀ hold,
        RunsTo b s
          (drainCall b.cfg b.cfg.logReadBatch b.cfg.logDrainBatchesMax s.drain hold)) := by
  have hstart := h.drained hlog
  have honce := hstart.atOnce
  intro xs most
  have hmost : 0 < most := Nat.mul_pos hlimit hsize
  refine ⟨?_, ?_, ?_⟩
  · intro hold after
    obtain ⟨hreply, hcall⟩ := hstart.call hpaused readBatch batchesMax hold
    rw [List.nil_append, List.take_eq_take_min, Nat.min_comm] at hcall
    refine ⟨hcall.processed, hcall.figures, hcall.contents, ?_⟩
    rw [hreply, decide_eq_true_iff]
  · intro holds hlength after
    obtain ⟨hreplies, hdrained⟩ := hstart.trace hpaused readBatch batchesMax holds
    rw [Batches.trace_next hmost _ _ hlength] at hreplies hdrained
    rw [List.nil_append] at honce hdrained
    exact ⟨hreplies, hdrained.contents, hdrained.processed, hdrained.figures,
      hdrained.processed.trans honce.processed.symm, hdrained.state.trans honce.state.symm,
      hdrained.ring_of_nil.trans honce.ring_of_nil.symm⟩
  · intro hhalted hpc hold
    exact runsTo_drainLog (fun batchNum ↦ some (hold batchNum)) hhalted hpc

-- A cycle of the producer that stores its sample.
private def storing (ring : List Action) : List Action :=
  [.timerInterrupt, .producerWake, .producerSample 0 ⟨fun _ ↦ 0⟩ 0 0,
    .producerWrite (some ⟨0, 0⟩) 0] ++ ring ++
    [.producerUpdate, .checkinTest .producer, .checkinRead .producer, .checkinStore .producer]

-- Three samples are stored, and the consumer has not started.
private def threeStored : List Action :=
  storing [.producerRing] ++ storing [] ++ storing []

/-- Three records in passes of two are one full pass and one more. -/
theorem drain_in_batches_three :
    ∃ s, Reaches ⟨appConfig, true, 2000⟩ threeStored s ∧ s.log.ring.contents.length = 3 ∧
      let one := drainCall appConfig 2 1 s.drain (fun _ ↦ ⟨0, 0⟩)
      let two := Machine.trace (drainCall appConfig 2 1) s.drain [fun _ ↦ ⟨0, 0⟩, fun _ ↦ ⟨0, 0⟩]
      (one.1.processed = s.history.processed ++ s.log.ring.contents.take (min 3 2) ∧
        one.1.state.received = s.consumer.state.received + 2) ∧
        two.2 = [true, false] ∧ two.1.state.received = s.consumer.state.received + 3 := by
  have hrun : (Machine.run (step ⟨appConfig, true, 2000⟩) (powerOn appConfig) threeStored).any
      (fun s ↦ s.log.ring.contents.length == 3 && !s.consumer.state.drainPaused) = true := by
    decide +kernel
  obtain ⟨s, hs, hcheck⟩ :=
    reaches_of_powerOn (b := ⟨appConfig, true, 2000⟩) (by decide +kernel) hrun
  simp only [Bool.and_eq_true, beq_iff_eq, Bool.not_eq_true'] at hcheck
  obtain ⟨hlength, hpaused⟩ := hcheck
  obtain ⟨hone, hall, -⟩ := drain_in_batches hs (d := s.drain) rfl hpaused
    (show (0 : UInt32) < 2 by decide) (show (0 : UInt32) < 1 by decide)
  have htwo : s.log.ring.contents.length / ((1 : UInt32).toNat * (2 : UInt32).toNat) = 1 := by
    rw [hlength]
    rfl
  refine ⟨s, hs, hlength, ?_, ?_⟩
  · obtain ⟨htaken, hfigures, -⟩ := hone fun _ ↦ ⟨0, 0⟩
    have hreceived := hfigures.received
    rw [List.length_take, hlength] at hreceived
    rw [hlength] at htaken
    exact ⟨htaken, hreceived⟩
  · obtain ⟨hreplies, -, -, hfigures, -⟩ :=
      hall [fun _ ↦ ⟨0, 0⟩, fun _ ↦ ⟨0, 0⟩] (by rw [htwo]; rfl)
    have hreceived := hfigures.received
    rw [hlength] at hreceived
    rw [htwo] at hreplies
    exact ⟨hreplies, hreceived⟩

end SensorAggregator.System
