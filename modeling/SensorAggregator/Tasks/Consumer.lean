import SensorAggregator.Config.AppConfig
import SensorAggregator.Datalog.SensorLog
import SensorAggregator.Datalog.SensorRecord
import SensorAggregator.Tasks.Producer

/-!
# The consumer

Models `tasks/task_consumer.c` and `tasks/task_consumer.h`: the message queue's contents, the
state the consumer keeps, and `consumer_task` cut at every point where another task can come in
between. What is only printed is left out.
-/

namespace SensorAggregator.Tasks

open Datalog

/-- A record with the number of the sample it is a copy of, counted from 1 without wrap. No
function of the source has the number; the code moves records, and the number moves along. -/
structure Sample where
  number : ℕ
  record : SensorRecord

/-- `consumer_msg_id_t`, `task_consumer.h:28–40`. -/
inductive ConsumerMsgId where
  | dataReady
  | report
  | streamToggle
  | rateToggle
  | pauseToggle
  | printNewest
  | stats
  | help
  | unknownKey
  | wdtTest
  deriving DecidableEq, Repr

/-- `consumer_msg_t`, `task_consumer.h:42–46`. -/
structure ConsumerMsg where
  id : ConsumerMsgId
  key : Char
  deriving DecidableEq, Repr

/-- `consumer_state_t`, `task_consumer.c:26–39`. -/
structure ConsumerState where
  streamEnabled : Bool
  streamSlow : Bool
  drainPaused : Bool
  stallReported : Bool
  received : UInt32
  lastSeq : UInt32
  lost : UInt32
  logLockTimeouts : UInt32
  queueDepthPeak : UInt32
  lastProducerSamples : UInt32
  lastProgressTick : UInt32

/-- `task_consumer_send`, `task_consumer.c:541–552`: a zero-wait send to a queue that exists
fails only when the queue is full. -/
def taskConsumerSend (cfg : AppConfig) (queue : List ConsumerMsg) (msg : ConsumerMsg) :
    List ConsumerMsg × Bool :=
  if queue.length < cfg.consumerQueueLen.toNat then (queue ++ [msg], true) else (queue, false)

/-- After a send, taken or refused, the queue is not empty. -/
theorem taskConsumerSend_ne_nil (cfg : AppConfig) (queue : List ConsumerMsg) (msg : ConsumerMsg) :
    (taskConsumerSend cfg queue msg).1 ≠ [] := by
  unfold taskConsumerSend
  split
  · simp
  · next hfull =>
    have hpos : 0 < cfg.consumerQueueLen.toNat := cfg.consumerQueueLen_pos
    rintro rfl
    exact hfull hpos

/-- `consumer_process_record`, `task_consumer.c:318–344`, with whether it toggles the LED and
whether it prints the sample line. -/
def consumerProcessRecord (cfg : AppConfig) (state : ConsumerState) (record : SensorRecord) :
    ConsumerState × Bool × Bool :=
  let received := state.received + 1
  let state := { state with
    received := received
    lastSeq := record.seq
    lost := record.seq - received }
  (state, state.received % cfg.heartbeatSamples == 0,
    state.streamEnabled && (!state.streamSlow || record.seq % cfg.slowStreamDivider == 0))

/-- `consumer_check_stall`, `task_consumer.c:445–472`, with whether it prints the warning. -/
def consumerCheckStall (cfg : AppConfig) (state : ConsumerState)
    (nowTick producerSamples : UInt32) : ConsumerState × Bool :=
  if producerSamples ≠ state.lastProducerSamples then
    ({ state with
        lastProducerSamples := producerSamples
        lastProgressTick := nowTick
        stallReported := false }, false)
  else if !state.stallReported &&
      decide (cfg.stallTicks ≤ nowTick - state.lastProgressTick) then
    ({ state with stallReported := true }, true)
  else (state, false)

/-- The stall check changes only what it watches the producer with. -/
theorem consumerCheckStall_same (cfg : AppConfig) (state : ConsumerState)
    (nowTick producerSamples : UInt32) :
    let state' := (consumerCheckStall cfg state nowTick producerSamples).1
    state'.received = state.received ∧ state'.lost = state.lost ∧
      state'.drainPaused = state.drainPaused := by
  unfold consumerCheckStall
  split
  · exact ⟨rfl, rfl, rfl⟩
  · split <;> exact ⟨rfl, rfl, rfl⟩

/-- Where `consumer_task` is in its loop, `task_consumer.c:494–518`, and in the functions it
calls there. `hung` is the busy loop of `wdog_test_hang`. -/
inductive ConsumerPc where
  | start
  | receive
  | depth
  | handle
  | report
  | drain
  | read
  | process
  | stallTick
  | stall
  | checkin (stage : CheckinStage)
  | hung
  deriving DecidableEq, Repr

/-- The task: `s_state`, and the locals of `consumer_task`, `consumer_print_report`,
`consumer_drain_log` and `consumer_check_stall`. `checkinTick` is the tick count read by a
check-in, not wrapped. -/
structure Consumer where
  pc : ConsumerPc
  state : ConsumerState
  msg : ConsumerMsg
  backlogPending : Bool
  record : Sample
  batch : ℕ → Sample
  batchCount : UInt32
  batchNum : ℕ
  idx : ℕ
  nowTick : UInt32
  checkinTick : ℕ

namespace Consumer

/-- `s_state` after `task_consumer_create`, `task_consumer.c:45,523–525`, and the task about to
start. Locals the code assigns before it reads them start at zero here. -/
def boot : Consumer where
  pc := .start
  state :=
    { streamEnabled := true
      streamSlow := false
      drainPaused := false
      stallReported := false
      received := 0
      lastSeq := 0
      lost := 0
      logLockTimeouts := 0
      queueDepthPeak := 0
      lastProducerSamples := 0
      lastProgressTick := 0 }
  msg := ⟨.dataReady, '\x00'⟩
  backlogPending := false
  record := ⟨0, ⟨0, 0, ⟨fun _ ↦ 0⟩, 0⟩⟩
  batch _ := ⟨0, ⟨0, 0, ⟨fun _ ↦ 0⟩, 0⟩⟩
  batchCount := 0
  batchNum := 0
  idx := 0
  nowTick := 0
  checkinTick := 0

/-- The records popped but not yet processed, oldest first. -/
def batchRest (c : Consumer) : List Sample :=
  (List.range' c.idx (c.batchCount.toNat - c.idx)).map c.batch

/-- The task starts, `task_consumer.c:480–492`. -/
def start (c : Consumer) (nowTick : UInt32) : Consumer :=
  { c with
    pc := .receive
    backlogPending := false
    state := { c.state with lastProgressTick := nowTick } }

/-- `xQueueReceive` returns a message, `task_consumer.c:502`. -/
def received (c : Consumer) (msg : ConsumerMsg) : Consumer := { c with pc := .depth, msg := msg }

/-- `xQueueReceive` returns without one. -/
def receivedNothing (c : Consumer) : Consumer := { c with pc := .drain }

/-- `uxQueueMessagesWaiting` returns `waiting`, `task_consumer.c:505–509`. -/
def sawDepth (c : Consumer) (waiting : ℕ) : Consumer :=
  { c with
    pc := .handle
    state := { c.state with
      queueDepthPeak := raiseMax c.state.queueDepthPeak (UInt32.ofNat waiting + 1) } }

/-- `consumer_handle_msg` where it only changes `s_state`, `task_consumer.c:389–443`; the other
messages change nothing the consumer keeps. -/
def toggled (state : ConsumerState) : ConsumerMsgId → ConsumerState
  | .streamToggle => { state with streamEnabled := !state.streamEnabled }
  | .rateToggle => { state with streamSlow := !state.streamSlow }
  | .pauseToggle => { state with drainPaused := !state.drainPaused }
  | .dataReady | .report | .printNewest | .stats | .help | .unknownKey | .wdtTest => state

/-- Only a processed record counts. -/
theorem toggled_counters (state : ConsumerState) (id : ConsumerMsgId) :
    (toggled state id).received = state.received ∧ (toggled state id).lost = state.lost := by
  cases id <;> exact ⟨rfl, rfl⟩

/-- The message is handled, and the log is drained next. -/
def handled (c : Consumer) : Consumer :=
  { c with pc := .drain, state := toggled c.state c.msg.id }

/-- `consumer_get_newest` has returned for `consumer_print_report`, `task_consumer.c:181–184`. -/
def gotNewest (c : Consumer) (record : Sample) (found : Bool) : Consumer :=
  { c with pc := if found then .report else .drain, record := record }

/-- `consumer_drain_log` returns, `task_consumer.c:514`. -/
def drained (c : Consumer) (backlogPending : Bool) : Consumer :=
  { c with pc := .stallTick, backlogPending := backlogPending }

/-- The loop condition of `consumer_drain_log` for `batchNum`, `task_consumer.c:366,386`. -/
def nextBatch (cfg : AppConfig) (c : Consumer) (batchNum : ℕ) : Consumer :=
  if batchNum < cfg.logDrainBatchesMax.toNat then { c with pc := .read, batchNum := batchNum }
  else { c with batchNum := batchNum }.drained true

/-- `consumer_drain_log` is entered, `task_consumer.c:361–366`. -/
def drain (cfg : AppConfig) (c : Consumer) : Consumer :=
  if c.state.drainPaused then c.drained false else c.nextBatch cfg 0

/-- Entering or leaving the loop over the batches changes neither `s_state` nor the batch. -/
theorem nextBatch_same (cfg : AppConfig) (c : Consumer) (batchNum : ℕ) :
    (c.nextBatch cfg batchNum).batchRest = c.batchRest ∧
      (c.nextBatch cfg batchNum).state = c.state := by
  unfold nextBatch
  split <;> exact ⟨rfl, rfl⟩

/-- Entering `consumer_drain_log` changes neither `s_state` nor the batch. -/
theorem drain_same (cfg : AppConfig) (c : Consumer) :
    (c.drain cfg).batchRest = c.batchRest ∧ (c.drain cfg).state = c.state := by
  unfold drain
  split
  · exact ⟨rfl, rfl⟩
  · exact c.nextBatch_same cfg 0

/-- After the loop condition the consumer reads or leaves the loop. -/
theorem pc_nextBatch (cfg : AppConfig) (c : Consumer) (batchNum : ℕ) :
    (c.nextBatch cfg batchNum).pc = .read ∨ (c.nextBatch cfg batchNum).pc = .stallTick := by
  unfold nextBatch
  split
  · exact .inl rfl
  · exact .inr rfl

/-- So it does when `consumer_drain_log` is entered. -/
theorem pc_drain (cfg : AppConfig) (c : Consumer) :
    (c.drain cfg).pc = .read ∨ (c.drain cfg).pc = .stallTick := by
  unfold drain
  split
  · exact .inr rfl
  · exact c.pc_nextBatch cfg 0

/-- `sensor_log_read` has returned, `task_consumer.c:368–374`. -/
def gotBatch (c : Consumer) (batch : ℕ → Sample) (batchCount : UInt32) (ok : Bool) : Consumer :=
  let c := { c with batch := batch, batchCount := batchCount, idx := 0 }
  if ok then { c with pc := .process }
  else { c with
    state := { c.state with logLockTimeouts := c.state.logLockTimeouts + 1 } }.drained true

/-- The loop over a batch, `task_consumer.c:374–383`: one record, or what follows the last. -/
def process (cfg : AppConfig) (c : Consumer) : Consumer :=
  if c.idx < c.batchCount.toNat then
    { c with
      state := (consumerProcessRecord cfg c.state (c.batch c.idx).record).1
      idx := c.idx + 1 }
  else if c.batchCount < cfg.logReadBatch then c.drained false
  else c.nextBatch cfg (c.batchNum + 1)

/-- The next record to process is the first of the rest of the batch. -/
theorem batchRest_process (cfg : AppConfig) {c : Consumer} (h : c.idx < c.batchCount.toNat) :
    c.batchRest = c.batch c.idx :: (c.process cfg).batchRest := by
  have hrest : c.batchCount.toNat - c.idx = c.batchCount.toNat - (c.idx + 1) + 1 := by omega
  simp only [batchRest, process, if_pos h, hrest, List.range'_succ, List.map_cons]

/-- After the last record the batch has no rest. -/
theorem batchRest_of_le {c : Consumer} (h : c.batchCount.toNat ≤ c.idx) : c.batchRest = [] := by
  rw [batchRest, Nat.sub_eq_zero_of_le h, List.range'_zero, List.map_nil]

/-- A read ends in the loop over its batch, or at once. -/
theorem pc_gotBatch (c : Consumer) (batch : ℕ → Sample) (batchCount : UInt32) (ok : Bool) :
    (c.gotBatch batch batchCount ok).pc = .process ∨
      (c.gotBatch batch batchCount ok).pc = .stallTick := by
  cases ok
  · exact .inr rfl
  · exact .inl rfl

/-- The loop over a batch goes on, or on to the next batch, or ends. -/
theorem pc_process (cfg : AppConfig) {c : Consumer} (h : c.pc = .process) :
    (c.process cfg).pc = .process ∨ (c.process cfg).pc = .read ∨
      (c.process cfg).pc = .stallTick := by
  unfold process
  split
  · exact .inl h
  · split
    · exact .inr (.inr rfl)
    · exact .inr (c.pc_nextBatch cfg _)

/-- `consumer_check_stall` has read the tick count, `task_consumer.c:448`. -/
def sawTick (c : Consumer) (nowTick : UInt32) : Consumer :=
  { c with pc := .stall, nowTick := nowTick }

/-- `consumer_check_stall` has read the sample count and returns, `task_consumer.c:449,515`. -/
def checkedStall (cfg : AppConfig) (c : Consumer) (producerSamples : UInt32) : Consumer :=
  { c with
    pc := .checkin .test
    state := (consumerCheckStall cfg c.state c.nowTick producerSamples).1 }

end Consumer
end SensorAggregator.Tasks
