import Mathlib.Data.List.Nodup
import SensorAggregator.System.Ledger

/-!
# Where lost samples go

The counters that `docs/stage-3-ringbuffer-sync.md:14–17,206–215` compares, in every reachable
state: what the counters of the producer, the log and the consumer add up to, what the consumer
knows about the samples that never reached it, and when its figure agrees with the other two.
-/

namespace SensorAggregator.System

open Base Datalog Tasks

variable {b : Board} {as : List Action} {s : State}

/-- What was processed or still will be: the processed samples, the rest of the batch, the log. -/
def State.pipeline (s : State) : List Sample :=
  s.history.processed ++ (s.consumer.batchRest ++ s.log.ring.contents)

/-- The producer is not between taking a sample and counting it. -/
def betweenCycles : ProducerPc → Bool
  | .write | .ring | .update => false
  | _ => true

private theorem settled {p : Producer} (h : betweenCycles p.pc = true) :
    inFlight p.pc = 0 ∧ uncounted p.pc = 0 ∧ uncountedDrop p = 0 := by
  have hpc : p.pc ≠ .update := by
    intro hpc
    rw [hpc] at h
    cases h
  have hdrop : uncountedDrop p = 0 := if_neg fun hu ↦ hpc hu.1
  cases hp : p.pc with
  | write | ring | update =>
    rw [hp] at h
    cases h
  | _ => exact ⟨rfl, rfl, hdrop⟩

/-- Every sample is accounted for exactly once: the pipeline is in order, without duplicates and
made of copies of what was taken, what is not in it was overwritten or dropped, and between
cycles the five counters balance. -/
theorem samples_accounted (h : Reaches b as s) :
    (s.pipeline.map (·.number)).Pairwise (· < ·) ∧ s.pipeline.Nodup ∧
      (∀ x ∈ s.pipeline, Genuine s.history.taken x ∧ x.record.seq = UInt32.ofNat x.number) ∧
      (betweenCycles s.producer.pc = true →
        ((s.pipeline ++ (s.history.overwritten ++ s.history.dropped)).map (·.number)).Perm
          (List.range' 1 s.history.taken.length) ∧
        s.producer.stats.samples = s.consumer.state.received +
          UInt32.ofNat s.consumer.batchRest.length + s.log.ring.count + s.log.ring.overwritten +
          s.producer.stats.logWriteDrops) := by
  obtain ⟨q, hl⟩ := h.ledger
  have hcontents := hl.ring.contents_eq
  have hpipeline : (delivery (trailingDrops as) q s.producer s.consumer s.history).pipeline =
      s.pipeline.map (·.number) := by
    simp only [delivery, Delivery.pipeline, State.pipeline, hcontents, List.map_append]
  have hnodup : (s.pipeline.map (·.number)).Nodup := hpipeline ▸ hl.exact.nodup
  refine ⟨hpipeline ▸ hl.exact.increasing, List.Nodup.of_map _ hnodup, ?_, ?_⟩
  · intro x hx
    have hgenuine : Genuine s.history.taken x := by
      apply hl.genuine x
      rw [State.pipeline, hcontents, hl.ring.wf.items_eq] at hx
      simp only [List.mem_append] at hx ⊢
      exact hx.imp_right (Or.imp_right List.mem_of_mem_drop)
    refine ⟨hgenuine, ?_⟩
    obtain ⟨i, hi, hr⟩ := hgenuine
    rw [hi, hl.seqs i _ hr]
  · intro hbetween
    obtain ⟨hflight, hcounted, hdrop⟩ := settled hbetween
    have hissued : (delivery (trailingDrops as) q s.producer s.consumer s.history).issued =
        s.history.taken.length := by
      rw [delivery, hflight, Nat.sub_zero]
    constructor
    · have hpart := hl.exact.partition
      rw [hissued, hpipeline] at hpart
      simp only [List.map_append] at hpart ⊢
      exact hpart
    · have hsum := hl.exact.issued_eq
      rw [hissued, hpipeline] at hsum
      simp only [delivery, State.pipeline, hcontents, List.map_append, List.length_append,
        List.length_map] at hsum
      have hsamples := hl.samples
      rw [hcounted, UInt32.add_zero] at hsamples
      have hdrops := hl.drops
      rw [hdrop, UInt32.add_zero] at hdrops
      rw [hsamples, hsum, hl.received, hl.ring.count_eq, hl.ring.overwritten, hl.dropped, hdrops]
      simp only [UInt32.ofNat_add, UInt32.add_assoc]

-- Room for two samples only.
private def smallBoard : Board where
  cfg := { appConfig with
    logCapacity := 2
    logReadBatch := 2
    logCapacity_ne_zero := by decide
    logCapacity_pow := by decide
    logReadBatch_pos := by decide
    logReadBatch_le := by decide }
  wdtRunning := true
  wdtTimeoutMs := 2000

-- One cycle of the producer, which rings when the log was empty.
private def cycle (lock : Option Hold) (ring : Bool) : List Action :=
  [.timerInterrupt, .producerWake, .producerSample 0 ⟨fun _ ↦ 0⟩ 0 0, .producerWrite lock 0] ++
    (if ring then [.producerRing] else []) ++
    [.producerUpdate, .checkinTest .producer, .checkinRead .producer, .checkinStore .producer]

-- Two samples read and one of them processed, one overwritten, one dropped, two in the log.
private def busyRun : List Action :=
  cycle (some ⟨0, 0⟩) true ++ cycle (some ⟨0, 0⟩) false ++
    [.consumerStart, .consumerReceive, .consumerDepth, .consumerHandle none, .consumerDrain,
      .consumerRead (some ⟨0, 0⟩), .consumerProcess] ++
    cycle (some ⟨0, 0⟩) true ++ cycle none false ++ cycle (some ⟨0, 0⟩) false ++
    cycle (some ⟨0, 0⟩) false

/-- A run that loses samples both ways, with the consumer in the middle of a batch. -/
theorem samples_accounted_busy :
    ∃ s, Reaches smallBoard busyRun s ∧ s.pipeline.map (·.number) = [1, 2, 5, 6] ∧
      s.pipeline.Nodup ∧ s.producer.stats.samples = s.consumer.state.received +
        UInt32.ofNat s.consumer.batchRest.length + s.log.ring.count + s.log.ring.overwritten +
        s.producer.stats.logWriteDrops := by
  have hrun : (Machine.run (step smallBoard) (powerOn smallBoard.cfg) busyRun).any (fun s ↦
      s.pipeline.map (·.number) == [1, 2, 5, 6] && betweenCycles s.producer.pc) := by
    decide +kernel
  obtain ⟨s, hs, hcheck⟩ := reaches_of_powerOn (by decide +kernel) hrun
  simp only [Bool.and_eq_true, beq_iff_eq] at hcheck
  obtain ⟨_, hnodup, _, hbalance⟩ := samples_accounted hs
  exact ⟨s, hs, hcheck.1, hnodup, (hbalance hcheck.2).2⟩

/-- The loss figure is exact at every record: it counts what was overwritten or dropped among the
samples up to the last one processed. -/
theorem lost_exact (h : Reaches b as s) {x : Sample}
    (hx : s.history.processed.getLast? = some x) :
    Genuine s.history.taken x ∧
      s.consumer.state.lost = UInt32.ofNat ((List.range' 1 x.number).countP fun n ↦
        n ∈ s.history.overwritten.map (·.number) ++ s.history.dropped.map (·.number)) := by
  obtain ⟨q, hl⟩ := h.ledger
  have hlast : (s.history.processed.map (·.number)).getLast? = some x.number := by
    rw [List.getLast?_map, hx, Option.map_some]
  refine ⟨hl.genuine x (List.mem_append_left _ (List.mem_of_getLast? hx)), ?_⟩
  have hupTo := hl.exact.lost_upTo hlast
  rw [hl.exact.countP_lost] at hupTo
  simp only [delivery, List.length_map] at hupTo
  rw [hl.lost, hlast, Option.getD_some, ← UInt32.ofNat_sub (by omega)]
  exact congrArg UInt32.ofNat (Nat.sub_eq_of_eq_add' hupTo.symm)

-- The consumer processes what is left.
private def lastRead : List Action :=
  [.consumerProcess, .consumerProcess, .consumerRead (some ⟨0, 0⟩), .consumerProcess,
    .consumerProcess]

/-- A run that loses samples both ways before the last one is processed. -/
theorem lost_exact_busy :
    ∃ s x, Reaches smallBoard (busyRun ++ lastRead) s ∧
      s.history.processed.getLast? = some x ∧ x.number = 6 ∧
      s.consumer.state.lost = UInt32.ofNat ((List.range' 1 x.number).countP fun n ↦
        n ∈ s.history.overwritten.map (·.number) ++ s.history.dropped.map (·.number)) := by
  have hrun : (Machine.run (step smallBoard) (powerOn smallBoard.cfg) (busyRun ++ lastRead)).any
      (fun s ↦ s.history.processed.getLast?.any fun x ↦ x.number == 6) := by
    decide +kernel
  obtain ⟨s, hs, hcheck⟩ := reaches_of_powerOn (by decide +kernel) hrun
  obtain ⟨x, hx, hnumber⟩ := (Option.any_eq_true _ _).mp hcheck
  exact ⟨s, x, hs, hx, beq_iff_eq.mp hnumber, (lost_exact hs hx).2⟩

/-- Once the backlog is drained the consumer's figure agrees with the log's and the producer's
if and only if no sample was dropped since the last stored one, up to whole wraps. -/
theorem balance_iff (h : Reaches b as s) (hempty : s.log.ring.count = 0)
    (hbatch : s.consumer.batchRest = []) (hbetween : betweenCycles s.producer.pc = true) :
    s.consumer.state.lost = s.log.ring.overwritten + s.producer.stats.logWriteDrops ↔
      trailingDrops as % 2 ^ 32 = 0 := by
  obtain ⟨q, hl⟩ := h.ledger
  obtain ⟨_, _, hdrop⟩ := settled hbetween
  have hitems : q.items = [] := by
    have hcount := hl.ring.toNat_count
    rw [hempty] at hcount
    exact List.eq_nil_of_length_eq_zero hcount.symm
  have hdrained := hl.exact.lost_drained (by simp [delivery, hbatch]) (by simp [delivery, hitems])
  have hdrops := hl.drops
  rw [hdrop, UInt32.add_zero] at hdrops
  simp only [delivery, List.length_map] at hdrained
  rw [hl.lost, hl.ring.overwritten, hl.dropped, hdrops, UInt32.sub_eq_iff_eq_add,
    UInt32.add_comm _ (UInt32.ofNat s.history.processed.length), ← UInt32.ofNat_add,
    ← UInt32.ofNat_add, hdrained, UInt32.ofNat_add, UInt32.left_eq_add]
  exact Counter.ofNat_eq_ofNat_iff (n := 0)

-- The very first sample is dropped, since the consumer holds the mutex in its read for 25 ms: the
-- producer has counted it, the consumer cannot know.
private def droppedRun : List Action :=
  [.consumerStart, .consumerReceiveTimeOut, .consumerDrain] ++ cycle none false ++
    [.consumerRead (some ⟨0, 25000⟩), .consumerProcess]

/-- The agreement that `task_consumer.c:325–329` promises for every drained backlog fails. -/
theorem balance_fails :
    ¬ ∀ (b : Board) (as : List Action) (s : State), Reaches b as s → s.log.ring.count = 0 →
      s.consumer.batchRest = [] → betweenCycles s.producer.pc = true →
        s.consumer.state.lost = s.log.ring.overwritten + s.producer.stats.logWriteDrops := by
  intro h
  have hrun : (Machine.run (step ⟨appConfig, true, 2000⟩) (powerOn appConfig) droppedRun).any
      (fun s ↦ s.log.ring.count == 0 && s.consumer.batchRest.isEmpty &&
        betweenCycles s.producer.pc &&
        s.consumer.state.lost != s.log.ring.overwritten + s.producer.stats.logWriteDrops) := by
    decide +kernel
  obtain ⟨s, hs, hcheck⟩ := reaches_of_powerOn (by decide +kernel) hrun
  simp only [Bool.and_eq_true, beq_iff_eq, List.isEmpty_iff, bne_iff_ne] at hcheck
  obtain ⟨⟨⟨hempty, hbatch⟩, hbetween⟩, hne⟩ := hcheck
  exact hne (h _ _ s hs hempty hbatch hbetween)

/-- A run in which the condition holds, and so do the figures. -/
theorem balance_iff_read :
    ∃ s, Reaches smallBoard (busyRun ++ lastRead) s ∧
      s.consumer.state.lost = s.log.ring.overwritten + s.producer.stats.logWriteDrops := by
  have hrun : (Machine.run (step smallBoard) (powerOn smallBoard.cfg) (busyRun ++ lastRead)).any
      (fun s ↦ s.log.ring.count == 0 && s.consumer.batchRest.isEmpty &&
        betweenCycles s.producer.pc) := by
    decide +kernel
  obtain ⟨s, hs, hcheck⟩ := reaches_of_powerOn (by decide +kernel) hrun
  simp only [Bool.and_eq_true, beq_iff_eq, List.isEmpty_iff] at hcheck
  exact ⟨s, hs, (balance_iff hs hcheck.1.1 hcheck.1.2 hcheck.2).mpr (by decide)⟩

end SensorAggregator.System
