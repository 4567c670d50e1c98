import SensorAggregator.Base.Batches
import SensorAggregator.Datalog.LogRefinement
import SensorAggregator.Tasks.Consumer

/-!
# Draining the log in batches

Models `consumer_drain_log` as one call, `task_consumer.c:346–387`, without another task in
between. `APP_LOG_READ_BATCH` and `APP_LOG_DRAIN_BATCHES_MAX` are arguments. Each call takes the
oldest records as one pass of `Base.Batches` does.
-/

namespace SensorAggregator.Tasks

open Base Datalog

/-- What `consumer_drain_log` works on: the log, `s_state`, its array and its count. The records
processed so far, in order, are kept beside them. -/
structure Drain where
  log : SensorLog Sample
  state : ConsumerState
  batch : ℕ → Sample
  batchCount : UInt32
  processed : List Sample

namespace Drain

/-- The part of the array the loop over a batch visits, `task_consumer.c:374`. -/
def batchRecords (d : Drain) : List Sample := (List.range d.batchCount.toNat).map d.batch

/-- The body of the loop over a batch, `task_consumer.c:376`. -/
def processRecord (cfg : AppConfig) (d : Drain) (x : Sample) : Drain :=
  { d with
    state := (consumerProcessRecord cfg d.state x.record).1
    processed := d.processed ++ [x] }

/-- The loop over a batch, `task_consumer.c:374–377`. -/
def processBatch (cfg : AppConfig) (d : Drain) : Drain :=
  d.batchRecords.foldl (processRecord cfg) d

/-- The call of `sensor_log_read`, `task_consumer.c:368`. -/
def read (readBatch : UInt32) (lock : Option Hold) (d : Drain) : Drain × Bool :=
  let (log, batch, batchCount, ok) :=
    d.log.read lock (some d.batch) readBatch (some d.batchCount)
  ({ d with
      log := log
      batch := batch.getD d.batch
      batchCount := batchCount.getD d.batchCount }, ok)

/-- The loop over the batches, `task_consumer.c:366–386`, with what each read meets at the
mutex. -/
def loop (cfg : AppConfig) (readBatch : UInt32) : List (Option Hold) → Drain → Drain × Bool
  | [], d => (d, true)
  | lock :: locks, d =>
    match d.read readBatch lock with
    | (d, false) =>
      ({ d with state := { d.state with logLockTimeouts := d.state.logLockTimeouts + 1 } }, true)
    | (d, true) =>
      let d := d.processBatch cfg
      if d.batchCount < readBatch then (d, false) else d.loop cfg readBatch locks

end Drain

/-- `consumer_drain_log`, `task_consumer.c:353–387`. -/
def consumerDrainLog (cfg : AppConfig) (readBatch batchesMax : UInt32) (lock : ℕ → Option Hold)
    (d : Drain) : Drain × Bool :=
  if d.state.drainPaused then (d, false)
  else d.loop cfg readBatch ((List.range batchesMax.toNat).map lock)

/-- One call that gets the mutex every time. -/
def drainCall (cfg : AppConfig) (readBatch batchesMax : UInt32) (d : Drain) (hold : ℕ → Hold) :
    Drain × Bool :=
  consumerDrainLog cfg readBatch batchesMax (fun batchNum ↦ some (hold batchNum)) d

/-- One `ring_buffer_pop` of all that waits. -/
def Drain.popAll (d : Drain) : Drain :=
  let (ring, batch, batchCount) := d.log.ring.pop (some d.batch) d.log.ring.count
  { d with
    log := { d.log with ring := ring }
    batch := batch.getD d.batch
    batchCount := batchCount }

/-- All that waits is taken out and processed in one go. -/
def drainAtOnce (cfg : AppConfig) (d : Drain) : Drain := d.popAll.processBatch cfg

/-- What the records `xs` make of `s_state`: `received` has counted them, `last_seq` is that of the
last one, and `lost` is what the numbers up to it leave over. -/
structure Processed (state : ConsumerState) (xs : List Sample) (state' : ConsumerState) :
    Prop where
  received : state'.received = state.received + UInt32.ofNat xs.length
  lastSeq : state'.lastSeq = (xs.getLast?.map (·.record.seq)).getD state.lastSeq
  lost : state'.lost = if xs = [] then state.lost else state'.lastSeq - state'.received
  same : state' = { state with
    received := state'.received
    lastSeq := state'.lastSeq
    lost := state'.lost }

/-- `consumer_process_record` on one record after the other. -/
def consumerProcessAll (cfg : AppConfig) (state : ConsumerState) (xs : List Sample) :
    ConsumerState :=
  xs.foldl (fun state x ↦ (consumerProcessRecord cfg state x.record).1) state

variable {cfg : AppConfig} {d₀ d : Drain} {cap : ℕ} {xs done : List Sample}

private theorem consumerProcessAll_append (cfg : AppConfig) (state : ConsumerState)
    (xs ys : List Sample) :
    consumerProcessAll cfg state (xs ++ ys) =
      consumerProcessAll cfg (consumerProcessAll cfg state xs) ys :=
  List.foldl_append

private theorem Processed.nil (state : ConsumerState) : Processed state [] state where
  received := (UInt32.add_zero state.received).symm
  lastSeq := rfl
  lost := rfl
  same := rfl

/-- One more record at the end. -/
theorem Processed.snoc {state state' : ConsumerState} (h : Processed state xs state')
    (cfg : AppConfig) (x : Sample) :
    Processed state (xs ++ [x]) (consumerProcessRecord cfg state' x.record).1 where
  received := by
    rw [List.length_append, List.length_singleton, UInt32.ofNat_add, ← UInt32.add_assoc,
      ← h.received]
    rfl
  lastSeq := by
    rw [List.getLast?_concat]
    rfl
  lost := by
    rw [if_neg (List.append_ne_nil_of_right_ne_nil xs (List.cons_ne_nil x []))]
    rfl
  same := by
    rw [consumerProcessRecord, h.same]

/-- A list of records leaves the figures of that list. -/
theorem processed_consumerProcessAll (cfg : AppConfig) (state : ConsumerState)
    (xs : List Sample) : Processed state xs (consumerProcessAll cfg state xs) := by
  induction xs using List.reverseRecOn with
  | nil => exact .nil state
  | append_singleton xs x ih =>
    rw [consumerProcessAll_append]
    exact ih.snoc cfg x

private theorem drainPaused_consumerProcessAll (cfg : AppConfig) (state : ConsumerState)
    (xs : List Sample) :
    (consumerProcessAll cfg state xs).drainPaused = state.drainPaused := by
  rw [(processed_consumerProcessAll cfg state xs).same]

private theorem Drain.foldl_processRecord (cfg : AppConfig) (d : Drain) (xs : List Sample) :
    xs.foldl (processRecord cfg) d =
      { d with
        state := consumerProcessAll cfg d.state xs
        processed := d.processed ++ xs } := by
  induction xs generalizing d with
  | nil => rw [List.append_nil]; rfl
  | cons x xs ih =>
    rw [List.foldl_cons, ih, processRecord, List.append_assoc]
    rfl

/-- The loop over a batch processes its records. -/
theorem Drain.processBatch_eq (cfg : AppConfig) (d : Drain) :
    d.processBatch cfg =
      { d with
        state := consumerProcessAll cfg d.state d.batchRecords
        processed := d.processed ++ d.batchRecords } :=
  d.foldl_processRecord cfg d.batchRecords

/-- The loop over a batch leaves its count. -/
@[simp] theorem Drain.processBatch_batchCount (cfg : AppConfig) (d : Drain) :
    (d.processBatch cfg).batchCount = d.batchCount := by
  rw [processBatch_eq]

/-- A read that gets the mutex is followed by the loop over its batch. -/
theorem Drain.loop_some (cfg : AppConfig) (readBatch : UInt32) (hold : Hold)
    (locks : List (Option Hold)) (d : Drain) :
    let d' := (d.read readBatch (some hold)).1
    d.loop cfg readBatch (some hold :: locks) =
      if d'.batchCount < readBatch then (d'.processBatch cfg, false)
      else (d'.processBatch cfg).loop cfg readBatch locks := by
  intro d'
  rw [← processBatch_batchCount cfg d']
  rfl

/-- The log holds `xs`, and since `d₀` the records `done` were taken out of it and processed, and
nothing else happened. -/
structure Drained (cfg : AppConfig) (cap : ℕ) (d₀ d : Drain) (xs done : List Sample) :
    Prop where
  holds : ∃ q, RingBuffer.Represents cap d.log.ring q ∧ q.items = xs
  ring : d.log.ring = { d₀.log.ring with tail := d.log.ring.tail }
  state : d.state = consumerProcessAll cfg d₀.state done
  processed : d.processed = d₀.processed ++ done

/-- `s_state` has the figures of what was taken out. -/
theorem Drained.figures (h : Drained cfg cap d₀ d xs done) : Processed d₀.state done d.state := by
  rw [h.state]
  exact processed_consumerProcessAll cfg d₀.state done

/-- The log holds what is left. -/
theorem Drained.contents (h : Drained cfg cap d₀ d xs done) :
    d.log.ring.contents = xs := by
  obtain ⟨q, hq, hitems⟩ := h.holds
  rw [hq.contents_eq, hitems]

/-- An empty log has its tail at its head. -/
theorem Drained.ring_of_nil (h : Drained cfg cap d₀ d [] done) :
    d.log.ring = { d₀.log.ring with tail := d₀.log.ring.head } := by
  obtain ⟨q, hq, hitems⟩ := h.holds
  have hcount : d.log.ring.head - d.log.ring.tail = 0 := by
    rw [← RingBuffer.count, hq.count_eq, hitems]
    rfl
  have hhead : d.log.ring.head = d₀.log.ring.head := by rw [h.ring]
  have htail : d.log.ring.tail = d.log.ring.head := by
    rw [← UInt32.sub_add_cancel d.log.ring.head d.log.ring.tail, hcount, UInt32.zero_add]
  rw [h.ring, ← hhead, ← htail]

/-- The records that a pop moves are the oldest ones, and the loop over them processes them in
that order. -/
theorem Drained.pop (h : Drained cfg cap d₀ d xs done) (n : UInt32) {d' : Drain}
    (hring : d'.log.ring = (d.log.ring.pop (some d.batch) n).1)
    (hout : (some d'.batch, d'.batchCount) = (d.log.ring.pop (some d.batch) n).2)
    (hstate : d'.state = d.state) (hprocessed : d'.processed = d.processed) :
    d'.batchCount.toNat = (xs.take n.toNat).length ∧
      Drained cfg cap d₀ (d'.processBatch cfg) (xs.drop n.toNat)
        (done ++ xs.take n.toNat) := by
  obtain ⟨q, hq, rfl⟩ := h.holds
  obtain ⟨hq', hpopped⟩ := hq.pop d.batch n
  have hle := hq.wf.length_le
  have hcap := hq.cap_lt
  obtain ⟨hbatch, hcount⟩ := Prod.mk.inj (hout.trans hpopped)
  have hlength : d'.batchCount.toNat = (q.items.take n.toNat).length := by
    rw [hcount, Counter.toNat_ofNat_of_lt (by omega), List.length_take]
  have hrecords : d'.batchRecords = q.items.take n.toNat := by
    rw [Drain.batchRecords, hlength, Option.some.inj hbatch, RingBuffer.map_overlay]
  rw [Drain.processBatch_eq, hrecords, hstate, hprocessed]
  refine ⟨hlength, ?_, ?_, ?_, ?_⟩
  · exact ⟨q.pop n.toNat, by rw [← hring] at hq'; exact hq', rfl⟩
  · calc
      d'.log.ring = { d.log.ring with tail := d'.log.ring.tail } := by
        rw [hring]
        exact RingBuffer.pop_same _ _ n
      _ = { d₀.log.ring with tail := d'.log.ring.tail } := by rw [h.ring]
  · rw [h.state, consumerProcessAll_append]
  · rw [h.processed, List.append_assoc]

/-- One iteration of the loop over the batches that gets the mutex. -/
theorem Drained.read (h : Drained cfg cap d₀ d xs done) (readBatch : UInt32)
    (hold : Hold) :
    (d.read readBatch (some hold)).1.batchCount.toNat = (xs.take readBatch.toNat).length ∧
      Drained cfg cap d₀ ((d.read readBatch (some hold)).1.processBatch cfg)
        (xs.drop readBatch.toNat) (done ++ xs.take readBatch.toNat) := by
  obtain ⟨q, hq, -⟩ := h.holds
  obtain ⟨-, hpopped⟩ := hq.pop d.batch readBatch
  refine h.pop readBatch (SensorLog.unlock_ring _ hold) ?_ rfl rfl
  simp only [Drain.read, SensorLog.read, hpopped, Option.getD_some]

/-- The loop over the batches is one pass over the list. -/
theorem Drained.loop (h : Drained cfg cap d₀ d xs done) (readBatch : UInt32)
    (holds : List Hold) :
    (d.loop cfg readBatch (holds.map some)).2 =
        (Batches.pass readBatch.toNat holds.length xs).2.2 ∧
      Drained cfg cap d₀ (d.loop cfg readBatch (holds.map some)).1
        (Batches.pass readBatch.toNat holds.length xs).2.1
        (done ++ (Batches.pass readBatch.toNat holds.length xs).1) := by
  induction holds generalizing d xs done with
  | nil =>
    refine ⟨rfl, ?_⟩
    rw [List.length_nil, Batches.pass, List.append_nil]
    exact h
  | cons hold holds ih =>
    obtain ⟨hcount, hread⟩ := h.read readBatch hold
    have hshort : (d.read readBatch (some hold)).1.batchCount < readBatch ↔
        (xs.take readBatch.toNat).length < readBatch.toNat := by
      rw [UInt32.lt_iff_toNat_lt, ← hcount]
    rw [List.map_cons, Drain.loop_some, List.length_cons, Batches.pass]
    simp only [hshort]
    split
    · exact ⟨rfl, hread⟩
    · obtain ⟨hmore, hdrained⟩ := ih hread
      rw [List.append_assoc] at hdrained
      exact ⟨hmore, hdrained⟩

/-- A call takes the oldest records, as many as its batches have room for. -/
theorem Drained.call (h : Drained cfg cap d₀ d xs done)
    (hpaused : d₀.state.drainPaused = false) (readBatch batchesMax : UInt32) (hold : ℕ → Hold) :
    let most := batchesMax.toNat * readBatch.toNat
    (drainCall cfg readBatch batchesMax d hold).2 = decide (most ≤ xs.length) ∧
      Drained cfg cap d₀ (drainCall cfg readBatch batchesMax d hold).1 (xs.drop most)
        (done ++ xs.take most) := by
  have hrunning : d.state.drainPaused = false := by
    rw [h.state, drainPaused_consumerProcessAll, hpaused]
  have hloop := h.loop readBatch ((List.range batchesMax.toNat).map hold)
  rw [List.length_map, List.length_range, Batches.pass_eq, List.map_map] at hloop
  rw [drainCall, consumerDrainLog, hrunning]
  exact hloop

/-- Calls are repeated as the passes over the list are. -/
theorem Drained.trace (h : Drained cfg cap d₀ d xs done)
    (hpaused : d₀.state.drainPaused = false) (readBatch batchesMax : UInt32)
    (holds : List (ℕ → Hold)) :
    let code := Machine.trace (drainCall cfg readBatch batchesMax) d holds
    let list := Machine.trace (Batches.next (batchesMax.toNat * readBatch.toNat)) (xs, done) holds
    code.2 = list.2 ∧ Drained cfg cap d₀ code.1 list.1.1 list.1.2 := by
  apply And.comm.mp
  apply Machine.trace_simulation
    (R := fun d (s : List Sample × List Sample) ↦ Drained cfg cap d₀ d s.1 s.2)
  · intro d s hold hs
    exact (hs.call hpaused readBatch batchesMax hold).symm
  · exact h

/-- Taking all in one go leaves the log empty. -/
theorem Drained.atOnce (h : Drained cfg cap d₀ d xs done) :
    Drained cfg cap d₀ (drainAtOnce cfg d) [] (done ++ xs) := by
  obtain ⟨q, hq, hitems⟩ := h.holds
  obtain ⟨-, hpopped⟩ := hq.pop d.batch d.log.ring.count
  have hall : xs.length ≤ d.log.ring.count.toNat := by
    rw [hq.toNat_count, hitems]
  have hout : (some d.popAll.batch, d.popAll.batchCount) =
      (d.log.ring.pop (some d.batch) d.log.ring.count).2 := by
    simp only [Drain.popAll, hpopped, Option.getD_some]
  obtain ⟨-, hpop⟩ := h.pop d.log.ring.count rfl hout rfl rfl
  rw [List.drop_of_length_le hall, List.take_of_length_le hall] at hpop
  exact hpop

end SensorAggregator.Tasks
