import SensorAggregator.Base.Machine
import SensorAggregator.Datalog.LogRefinement
import SensorAggregator.Tasks.Consumer
import SensorAggregator.Tasks.Producer
import SensorAggregator.Tasks.Ui
import SensorAggregator.Tasks.WatchdogReference

/-!
# The whole system

The four tasks of `main.c`, the sensor log and the message queue they share, the tick and the
sample timer. One action is one step of one task between two points where another can come in;
the scheduler may choose any enabled action. A call of the sensor log is one step here, which
`Datalog.LogAtomicity` justifies. `History` records what happened, and no step depends on it.
-/

namespace SensorAggregator.System

open Base Datalog Tasks

/-- A build, and what `wdt_drv_is_running` and `wdt_drv_timeout_ms` answer on its board. -/
structure Board where
  cfg : AppConfig
  wdtRunning : Bool
  wdtTimeoutMs : UInt32

/-- Every sample so far and where it went: the records taken by the producer, the samples it
dropped on a lock timeout, those overwritten in the log, those processed by the consumer, each in
order; and the sources of every sensor report. -/
structure History where
  taken : List SensorRecord
  dropped : List Sample
  overwritten : List Sample
  processed : List Sample
  reports : List (SensorRecord × ProducerStats)

/-- Everything the tasks share and everything they keep. -/
structure State where
  log : SensorLog Sample
  queue : List ConsumerMsg
  notified : UInt32
  producer : Producer
  ui : Ui
  consumer : Consumer
  wdog : Supervisor
  halted : Bool
  history : History

/-- One step, with what the hardware, the clock, the user and the mutex decide about it. -/
inductive Action where
  | tick
  | timerInterrupt
  | supervisorPass
  | producerWake
  | producerTimeOut
  | producerSample (captureUs : UInt64) (sensors : XadcSample) (buttons : UInt8)
      (writeStartUs : UInt64)
  | producerWrite (lock : Option Hold) (nowUs : UInt64)
  | producerRing
  | producerUpdate
  | uiWake
  | uiPress4 (pressed : Bool)
  | uiPress5 (pressed : Bool)
  | uiKey (key : Char)
  | uiKeysDone
  | consumerStart
  | consumerReceive
  | consumerReceiveTimeOut
  | consumerDepth
  | consumerHandle (lock : Option Hold)
  | consumerReport
  | consumerDrain
  | consumerRead (lock : Option Hold)
  | consumerProcess
  | consumerStallTick
  | consumerStall
  | checkinTest (client : WdogClient)
  | checkinRead (client : WdogClient)
  | checkinStore (client : WdogClient)

/-- The task that takes the step; `none` for the clock, the interrupt and the supervisor. -/
def Action.task : Action → Option WdogClient
  | .tick | .timerInterrupt | .supervisorPass => none
  | .producerWake | .producerTimeOut | .producerSample .. | .producerWrite .. | .producerRing
  | .producerUpdate => some .producer
  | .uiWake | .uiPress4 _ | .uiPress5 _ | .uiKey _ | .uiKeysDone => some .ui
  | .consumerStart | .consumerReceive | .consumerReceiveTimeOut | .consumerDepth
  | .consumerHandle _ | .consumerReport | .consumerDrain | .consumerRead _ | .consumerProcess
  | .consumerStallTick | .consumerStall => some .consumer
  | .checkinTest client | .checkinRead client | .checkinStore client => some client

namespace State

/-- The scheduler starts on an initialised log, with the tick count at zero. -/
def boot (cfg : AppConfig) (log : SensorLog Sample) (timerPeriodUs : UInt32) : State where
  log := log
  queue := []
  notified := 0
  producer := .boot timerPeriodUs
  ui := .boot
  consumer := .boot
  wdog := .boot cfg
  halted := false
  history := ⟨[], [], [], [], []⟩

/-- The sample the producer is working on. -/
def sample (s : State) : Sample := ⟨s.history.taken.length, s.producer.record⟩

/-- `producer_task` takes a sample, `task_producer.c:181–188`. -/
def producerSample (s : State) (captureUs : UInt64) (sensors : XadcSample) (buttons : UInt8)
    (writeStartUs : UInt64) : State :=
  let producer := s.producer.takeSample captureUs sensors buttons writeStartUs
  { s with
    producer := producer
    history := { s.history with taken := s.history.taken ++ [producer.record] } }

/-- `producer_task` writes to the log, `task_producer.c:189`. -/
def producerWrite (s : State) (lock : Option Hold) (nowUs : UInt64) : State :=
  let (log, logWasEmpty, stored) := s.log.write lock (some s.sample) (some s.producer.logWasEmpty)
  let droppedOldest := (s.log.ring.push (some s.sample)).2
  { s with
    log := log
    producer := s.producer.wrote stored (logWasEmpty.getD s.producer.logWasEmpty) nowUs
    history := { s.history with
      dropped := if stored then s.history.dropped else s.history.dropped ++ [s.sample]
      overwritten :=
        if stored && droppedOldest then
          s.history.overwritten ++ s.log.ring.contents.head?.toList
        else s.history.overwritten } }

/-- `producer_task` rings the doorbell, `task_producer.c:202–203`. -/
def producerRing (cfg : AppConfig) (s : State) : State :=
  let (queue, sent) := taskConsumerSend cfg s.queue ⟨.dataReady, '\x00'⟩
  { s with queue := queue, producer := s.producer.rang sent }

/-- `ui_send` of a message, `task_ui.c:19–30`, on the way to `pc`. -/
def uiSend (cfg : AppConfig) (s : State) (msg : Option ConsumerMsg) (pc : UiPc) : State :=
  match msg with
  | none => { s with ui := { s.ui with pc := pc } }
  | some msg =>
    let (queue, sent) := taskConsumerSend cfg s.queue msg
    { s with queue := queue, ui := { s.ui.sent sent with pc := pc } }

/-- `xQueueReceive` takes the oldest message, `task_consumer.c:502`. -/
def consumerReceive (s : State) : State :=
  match s.queue with
  | [] => s
  | msg :: queue => { s with queue := queue, consumer := s.consumer.received msg }

/-- `consumer_run_wdt_test`, `task_consumer.c:82–138`. -/
def consumerRunWdtTest (s : State) (key : Char) : State :=
  match key with
  | '1' => { s with wdog := s.wdog.injectHang .producer }
  | '2' => { s with wdog := s.wdog.injectHang .ui }
  | '3' => { s with wdog := s.wdog.injectHang .consumer }
  | '4' => { s with halted := true }
  | _ => s

/-- `consumer_handle_msg`, `task_consumer.c:389–443`; a report stops between its two sources. -/
def consumerHandle (cfg : AppConfig) (s : State) (lock : Option Hold) : State :=
  match s.consumer.msg.id with
  | .report =>
    let (log, record, found) := s.log.peekNewest lock (some s.consumer.record)
    { s with log := log, consumer := s.consumer.gotNewest (record.getD s.consumer.record) found }
  | .printNewest =>
    { s with log := (s.log.peekNewest lock (some s.consumer.record)).1
             consumer := s.consumer.handled }
  | .stats =>
    { s with log := (s.log.getStats lock (some ⟨0, 0, 0, 0, 0, 0, 0⟩)).1
             consumer := s.consumer.handled }
  | .wdtTest =>
    if cfg.wdtTestCommands then
      consumerRunWdtTest { s with consumer := s.consumer.handled } s.consumer.msg.key
    else { s with consumer := s.consumer.handled }
  | .dataReady | .streamToggle | .rateToggle | .pauseToggle | .help | .unknownKey =>
    { s with consumer := s.consumer.handled }

/-- `consumer_print_report` copies the producer's statistics, `task_consumer.c:187`. -/
def consumerReport (s : State) : State :=
  { s with
    consumer := { s.consumer with pc := .drain }
    history := { s.history with
      reports := s.history.reports ++ [(s.consumer.record.record, s.producer.stats)] } }

/-- `consumer_drain_log` reads a batch, `task_consumer.c:368`. -/
def consumerRead (cfg : AppConfig) (s : State) (lock : Option Hold) : State :=
  let (log, batch, batchCount, ok) :=
    s.log.read lock (some s.consumer.batch) cfg.logReadBatch (some s.consumer.batchCount)
  { s with
    log := log
    consumer := s.consumer.gotBatch (batch.getD s.consumer.batch)
      (batchCount.getD s.consumer.batchCount) ok }

/-- `consumer_drain_log` goes on with its batch, `task_consumer.c:374–384`. -/
def consumerProcess (cfg : AppConfig) (s : State) : State :=
  { s with
    consumer := s.consumer.process cfg
    history := { s.history with
      processed := s.history.processed ++ s.consumer.batchRest.head?.toList } }

/-- The hang test of a check-in, `task_watchdog.c:165–170`. -/
def checkinTest (cfg : AppConfig) (s : State) (client : WdogClient) : State :=
  let hang := cfg.wdtTestCommands && (s.wdog.clients client).hangRequested
  match client with
  | .producer =>
    { s with producer := { s.producer with pc := if hang then .hung else .checkin .read } }
  | .ui => { s with ui := { s.ui with pc := if hang then .hung else .checkin .read } }
  | .consumer =>
    { s with consumer := { s.consumer with pc := if hang then .hung else .checkin .read } }

/-- The call of `xTaskGetTickCount` in a check-in, `task_watchdog.c:173`. -/
def checkinRead (s : State) : WdogClient → State
  | .producer =>
    { s with producer := { s.producer with pc := .checkin .store, checkinTick := s.wdog.tick } }
  | .ui => { s with ui := { s.ui with pc := .checkin .store, checkinTick := s.wdog.tick } }
  | .consumer =>
    { s with consumer := { s.consumer with pc := .checkin .store, checkinTick := s.wdog.tick } }

/-- The store of a check-in, `task_watchdog.c:173`, which ends the client's pass. -/
def checkinStore (s : State) : WdogClient → State
  | .producer =>
    { s with
      wdog := s.wdog.checkin .producer s.producer.checkinTick
      producer := { s.producer with pc := .waitTick } }
  | .ui =>
    { s with
      wdog := s.wdog.checkin .ui s.ui.checkinTick
      ui := { s.ui with pc := .delay } }
  | .consumer =>
    { s with
      wdog := s.wdog.checkin .consumer s.consumer.checkinTick
      consumer := { s.consumer with pc := .receive } }

/-- The client is at a stage of its check-in. -/
def atCheckin (s : State) (stage : CheckinStage) : WdogClient → Bool
  | .producer => s.producer.pc == .checkin stage
  | .ui => s.ui.pc == .checkin stage
  | .consumer => s.consumer.pc == .checkin stage

/-- The task is in `wdog_test_hang`, `task_watchdog.c:44–58`. -/
def isHung (s : State) : WdogClient → Bool
  | .producer => s.producer.pc == .hung
  | .ui => s.ui.pc == .hung
  | .consumer => s.consumer.pc == .hung

/-- What each task may do where it is. A blocking receive ends without a message only when
there is none, a wait for a notification only when none is pending. -/
def enabled (s : State) : Action → Bool
  | .tick | .timerInterrupt | .supervisorPass => true
  | .producerWake => s.producer.pc == .waitTick && s.notified != 0
  | .producerTimeOut => s.producer.pc == .waitTick && s.notified == 0
  | .producerSample .. => s.producer.pc == .sample
  | .producerWrite .. => s.producer.pc == .write
  | .producerRing => s.producer.pc == .ring
  | .producerUpdate => s.producer.pc == .update
  | .uiWake => s.ui.pc == .delay
  | .uiPress4 _ => s.ui.pc == .press4
  | .uiPress5 _ => s.ui.pc == .press5
  | .uiKey _ | .uiKeysDone => s.ui.pc == .keys
  | .consumerStart => s.consumer.pc == .start
  | .consumerReceive => s.consumer.pc == .receive && !s.queue.isEmpty
  | .consumerReceiveTimeOut => s.consumer.pc == .receive && s.queue.isEmpty
  | .consumerDepth => s.consumer.pc == .depth
  | .consumerHandle _ => s.consumer.pc == .handle
  | .consumerReport => s.consumer.pc == .report
  | .consumerDrain => s.consumer.pc == .drain
  | .consumerRead _ => s.consumer.pc == .read
  | .consumerProcess => s.consumer.pc == .process
  | .consumerStallTick => s.consumer.pc == .stallTick
  | .consumerStall => s.consumer.pc == .stall
  | .checkinTest client => s.atCheckin .test client
  | .checkinRead client => s.atCheckin .read client
  | .checkinStore client => s.atCheckin .store client

/-- What a step does. -/
def next (b : Board) (s : State) : Action → State
  | .tick => { s with wdog := { s.wdog with tick := s.wdog.tick + 1 } }
  | .timerInterrupt => { s with notified := s.notified + 1 }
  | .supervisorPass => { s with wdog := s.wdog.pass b.cfg b.wdtRunning b.wdtTimeoutMs }
  | .producerWake => { s with producer := s.producer.wake s.notified, notified := 0 }
  | .producerTimeOut => { s with producer := s.producer.timeOut }
  | .producerSample captureUs sensors buttons writeStartUs =>
    s.producerSample captureUs sensors buttons writeStartUs
  | .producerWrite lock nowUs => s.producerWrite lock nowUs
  | .producerRing => s.producerRing b.cfg
  | .producerUpdate => { s with producer := s.producer.update }
  | .uiWake => { s with ui := { s.ui with pc := .press4 } }
  | .uiPress4 pressed => s.uiSend b.cfg (if pressed then some ⟨.report, '\x00'⟩ else none) .press5
  | .uiPress5 pressed =>
    s.uiSend b.cfg (if pressed then some ⟨.streamToggle, '\x00'⟩ else none) .keys
  | .uiKey key => s.uiSend b.cfg (uiHandleKey b.cfg key) .keys
  | .uiKeysDone => { s with ui := { s.ui with pc := .checkin .test } }
  | .consumerStart => { s with consumer := s.consumer.start (UInt32.ofNat s.wdog.tick) }
  | .consumerReceive => s.consumerReceive
  | .consumerReceiveTimeOut => { s with consumer := s.consumer.receivedNothing }
  | .consumerDepth => { s with consumer := s.consumer.sawDepth s.queue.length }
  | .consumerHandle lock => s.consumerHandle b.cfg lock
  | .consumerReport => s.consumerReport
  | .consumerDrain => { s with consumer := s.consumer.drain b.cfg }
  | .consumerRead lock => s.consumerRead b.cfg lock
  | .consumerProcess => s.consumerProcess b.cfg
  | .consumerStallTick => { s with consumer := s.consumer.sawTick (UInt32.ofNat s.wdog.tick) }
  | .consumerStall =>
    { s with consumer := s.consumer.checkedStall b.cfg s.producer.stats.samples }
  | .checkinTest client => s.checkinTest b.cfg client
  | .checkinRead client => s.checkinRead client
  | .checkinStore client => s.checkinStore client

section frames

variable (b : Board) (cfg : AppConfig) (s : State) (lock : Option Hold)

/-- A send of the UI task leaves the log alone. -/
@[simp] theorem uiSend_log (msg pc) : (s.uiSend cfg msg pc).log = s.log := by
  cases msg <;> rfl

/-- It leaves the producer alone. -/
@[simp] theorem uiSend_producer (msg pc) : (s.uiSend cfg msg pc).producer = s.producer := by
  cases msg <;> rfl

/-- It leaves the consumer alone. -/
@[simp] theorem uiSend_consumer (msg pc) : (s.uiSend cfg msg pc).consumer = s.consumer := by
  cases msg <;> rfl

/-- It leaves the supervisor alone. -/
@[simp] theorem uiSend_wdog (msg pc) : (s.uiSend cfg msg pc).wdog = s.wdog := by
  cases msg <;> rfl

/-- It leaves the history alone. -/
@[simp] theorem uiSend_history (msg pc) : (s.uiSend cfg msg pc).history = s.history := by
  cases msg <;> rfl

/-- It takes the UI task to the point given. -/
@[simp] theorem pc_uiSend (msg pc) : (s.uiSend cfg msg pc).ui.pc = pc := by
  cases msg <;> rfl

/-- A send of the UI leaves the queue as it was, or not empty. -/
theorem uiSend_queue (msg pc) :
    (s.uiSend cfg msg pc).queue = s.queue ∨ (s.uiSend cfg msg pc).queue ≠ [] := by
  cases msg with
  | none => exact .inl rfl
  | some msg => exact .inr (taskConsumerSend_ne_nil cfg s.queue msg)

/-- A test command hangs a task or stops the system, and changes nothing else. -/
theorem consumerRunWdtTest_cases (key : Char) :
    ∃ wdog halted, s.consumerRunWdtTest key = { s with wdog := wdog, halted := halted } ∧
      (wdog = s.wdog ∨ ∃ client, wdog = s.wdog.injectHang client) := by
  unfold consumerRunWdtTest
  split
  · exact ⟨_, s.halted, rfl, .inr ⟨.producer, rfl⟩⟩
  · exact ⟨_, s.halted, rfl, .inr ⟨.ui, rfl⟩⟩
  · exact ⟨_, s.halted, rfl, .inr ⟨.consumer, rfl⟩⟩
  · exact ⟨s.wdog, true, rfl, .inl rfl⟩
  · exact ⟨s.wdog, s.halted, rfl, .inl rfl⟩

/-- Handling a message leaves the ring, the queue, the other tasks and the history alone. -/
theorem consumerHandle_cases :
    ∃ log consumer wdog halted,
      s.consumerHandle cfg lock =
        { s with log := log, consumer := consumer, wdog := wdog, halted := halted } ∧
      log.ring = s.log.ring ∧
      (consumer = s.consumer.handled ∨
        consumer = s.consumer.gotNewest
          ((s.log.peekNewest lock (some s.consumer.record)).2.1.getD s.consumer.record)
          (s.log.peekNewest lock (some s.consumer.record)).2.2) ∧
      (wdog = s.wdog ∨ ∃ client, wdog = s.wdog.injectHang client) := by
  unfold consumerHandle
  split
  · exact ⟨_, _, s.wdog, s.halted, rfl, SensorLog.peekNewest_ring _ _ _, .inr rfl, .inl rfl⟩
  · exact ⟨_, _, s.wdog, s.halted, rfl, SensorLog.peekNewest_ring _ _ _, .inl rfl, .inl rfl⟩
  · exact ⟨_, _, s.wdog, s.halted, rfl, SensorLog.getStats_ring _ _ _, .inl rfl, .inl rfl⟩
  · split
    · obtain ⟨wdog, halted, hs, hwdog⟩ := consumerRunWdtTest_cases
        { s with consumer := s.consumer.handled } s.consumer.msg.key
      exact ⟨s.log, s.consumer.handled, wdog, halted, hs, rfl, .inl rfl, hwdog⟩
    · exact ⟨s.log, _, s.wdog, s.halted, rfl, rfl, .inl rfl, .inl rfl⟩
  all_goals exact ⟨s.log, _, s.wdog, s.halted, rfl, rfl, .inl rfl, .inl rfl⟩

/-- The hang test of a check-in hangs the client or goes on to the tick count. -/
theorem checkinTest_cases (client : WdogClient) :
    (s.checkinTest cfg client).isHung client = true ∨
      (s.checkinTest cfg client).atCheckin .read client = true := by
  cases hhang : cfg.wdtTestCommands && (s.wdog.clients client).hangRequested <;>
    cases client <;> simp [checkinTest, isHung, atCheckin, hhang]

/-- Where the producer can be in its loop after a step of its own. -/
def producerPoints : Action → List ProducerPc
  | .producerWake => [.sample]
  | .producerTimeOut | .checkinStore _ => [.waitTick]
  | .producerSample .. => [.write]
  | .producerWrite .. => [.ring, .update]
  | .producerRing => [.update]
  | .producerUpdate => [.checkin .test]
  | .checkinTest _ => [.hung, .checkin .read]
  | .checkinRead _ => [.checkin .store]
  | _ => []

/-- Where the UI task can be in its loop after a step of its own. -/
def uiPoints : Action → List UiPc
  | .uiWake => [.press4]
  | .uiPress4 _ => [.press5]
  | .uiPress5 _ | .uiKey _ => [.keys]
  | .uiKeysDone => [.checkin .test]
  | .checkinTest _ => [.hung, .checkin .read]
  | .checkinRead _ => [.checkin .store]
  | .checkinStore _ => [.delay]
  | _ => []

/-- Where the consumer can be in its loop after a step of its own. -/
def consumerPoints : Action → List ConsumerPc
  | .consumerStart | .checkinStore _ => [.receive]
  | .consumerReceive => [.depth]
  | .consumerReceiveTimeOut | .consumerReport => [.drain]
  | .consumerDepth => [.handle]
  | .consumerHandle _ => [.report, .drain]
  | .consumerDrain => [.read, .stallTick]
  | .consumerRead _ => [.process, .stallTick]
  | .consumerProcess => [.process, .read, .stallTick]
  | .consumerStallTick => [.stall]
  | .consumerStall => [.checkin .test]
  | .checkinTest _ => [.hung, .checkin .read]
  | .checkinRead _ => [.checkin .store]
  | _ => []

/-- The producer goes on along its loop. -/
theorem pc_producer_next {a : Action} (ha : s.enabled a = true) (h : a.task = some .producer) :
    (s.next b a).producer.pc ∈ producerPoints a := by
  cases a with
  | producerTimeOut =>
    have hpc : s.producer.pc = .waitTick := beq_iff_eq.mp (Bool.and_eq_true_iff.mp ha).1
    exact List.mem_singleton.mpr hpc
  | producerWrite lock nowUs =>
    exact List.mem_pair.mpr (s.producer.pc_wrote _ _ nowUs)
  | checkinTest client =>
    cases h
    exact List.mem_pair.mpr ((s.checkinTest_cases b.cfg .producer).imp beq_iff_eq.mp beq_iff_eq.mp)
  | producerWake | producerSample | producerRing | producerUpdate => exact List.mem_singleton_self _
  | checkinRead client | checkinStore client =>
    cases h
    exact List.mem_singleton_self _
  | _ => cases h

/-- The UI task goes on along its loop. -/
theorem pc_ui_next {a : Action} (h : a.task = some .ui) : (s.next b a).ui.pc ∈ uiPoints a := by
  cases a with
  | uiPress4 | uiPress5 | uiKey => exact List.mem_singleton.mpr (s.pc_uiSend b.cfg _ _)
  | checkinTest client =>
    cases h
    exact List.mem_pair.mpr ((s.checkinTest_cases b.cfg .ui).imp beq_iff_eq.mp beq_iff_eq.mp)
  | uiWake | uiKeysDone => exact List.mem_singleton_self _
  | checkinRead client | checkinStore client =>
    cases h
    exact List.mem_singleton_self _
  | _ => cases h

/-- The consumer goes on along its loop. -/
theorem pc_consumer_next {a : Action} (ha : s.enabled a = true) (h : a.task = some .consumer) :
    (s.next b a).consumer.pc ∈ consumerPoints a := by
  cases a with
  | consumerReceive =>
    have hne : s.queue ≠ [] := by simp_all [enabled]
    simp only [next, consumerReceive]
    split
    · contradiction
    · exact List.mem_singleton_self _
  | consumerHandle lock =>
    obtain ⟨_, _, _, _, hs, -, hc, -⟩ := s.consumerHandle_cases b.cfg lock
    simp only [next, hs]
    rcases hc with rfl | rfl
    · exact List.mem_cons_of_mem _ (List.mem_singleton_self _)
    · simp only [Consumer.gotNewest]
      split <;> simp [consumerPoints]
  | consumerDrain => exact List.mem_pair.mpr (s.consumer.pc_drain b.cfg)
  | consumerRead lock => exact List.mem_pair.mpr (s.consumer.pc_gotBatch _ _ _)
  | consumerProcess =>
    show (s.consumer.process b.cfg).pc ∈ consumerPoints .consumerProcess
    rw [consumerPoints, List.mem_cons, List.mem_pair]
    exact Consumer.pc_process b.cfg (beq_iff_eq.mp ha)
  | checkinTest client =>
    cases h
    exact List.mem_pair.mpr ((s.checkinTest_cases b.cfg .consumer).imp beq_iff_eq.mp beq_iff_eq.mp)
  | consumerStart | consumerReceiveTimeOut | consumerDepth | consumerReport | consumerStallTick
  | consumerStall => exact List.mem_singleton_self _
  | checkinRead client | checkinStore client =>
    cases h
    exact List.mem_singleton_self _
  | _ => cases h

/-- Only the producer's own steps change it and take samples. -/
theorem next_producer {a : Action} (h : a.task ≠ some .producer) :
    (s.next b a).producer = s.producer ∧ (s.next b a).history.taken = s.history.taken := by
  cases a with
  | producerWake | producerTimeOut | producerSample | producerWrite | producerRing
  | producerUpdate => exact absurd rfl h
  | uiPress4 | uiPress5 | uiKey => simp [next]
  | consumerReceive =>
    simp only [next, consumerReceive]
    split <;> exact ⟨rfl, rfl⟩
  | consumerHandle lock =>
    obtain ⟨_, _, _, _, hs, _⟩ := s.consumerHandle_cases b.cfg lock
    simp only [next, hs, and_self]
  | checkinTest client | checkinRead client | checkinStore client =>
    cases client with
    | producer => exact absurd rfl h
    | ui | consumer => exact ⟨rfl, rfl⟩
  | _ => exact ⟨rfl, rfl⟩

/-- Only the consumer's own steps change it and add to the reports. -/
theorem next_consumer {a : Action} (h : a.task ≠ some .consumer) :
    (s.next b a).consumer = s.consumer ∧ (s.next b a).history.reports = s.history.reports := by
  cases a with
  | consumerStart | consumerReceive | consumerReceiveTimeOut | consumerDepth | consumerHandle
  | consumerReport | consumerDrain | consumerRead | consumerProcess | consumerStallTick
  | consumerStall =>
    exact absurd rfl h
  | uiPress4 | uiPress5 | uiKey => simp [next]
  | checkinTest client | checkinRead client | checkinStore client =>
    cases client with
    | consumer => exact absurd rfl h
    | ui | producer => exact ⟨rfl, rfl⟩
  | _ => exact ⟨rfl, rfl⟩

/-- Only the producer and the consumer work on the log and make history. -/
theorem next_log {a : Action} (hp : a.task ≠ some .producer) (hc : a.task ≠ some .consumer) :
    (s.next b a).log = s.log ∧ (s.next b a).history = s.history := by
  cases a with
  | producerWake | producerTimeOut | producerSample | producerWrite | producerRing
  | producerUpdate => exact absurd rfl hp
  | consumerStart | consumerReceive | consumerReceiveTimeOut | consumerDepth | consumerHandle
  | consumerReport | consumerDrain | consumerRead | consumerProcess | consumerStallTick
  | consumerStall =>
    exact absurd rfl hc
  | uiPress4 | uiPress5 | uiKey => simp [next]
  | checkinTest client | checkinRead client | checkinStore client =>
    cases client with
    | producer => exact absurd rfl hp
    | ui => exact ⟨rfl, rfl⟩
    | consumer => exact absurd rfl hc
  | _ => exact ⟨rfl, rfl⟩

/-- Only the UI's own steps change it. -/
theorem next_ui {a : Action} (h : a.task ≠ some .ui) : (s.next b a).ui = s.ui := by
  cases a with
  | uiWake | uiPress4 | uiPress5 | uiKey | uiKeysDone => exact absurd rfl h
  | consumerReceive =>
    simp only [next, consumerReceive]
    split <;> rfl
  | consumerHandle lock =>
    obtain ⟨_, _, _, _, hs, _⟩ := s.consumerHandle_cases b.cfg lock
    simp only [next, hs]
  | checkinTest client | checkinRead client | checkinStore client =>
    cases client with
    | ui => exact absurd rfl h
    | producer | consumer => rfl
  | _ => rfl

/-- A receive takes the oldest message. -/
theorem consumerReceive_queue : s.consumerReceive.queue = s.queue.tail := by
  unfold consumerReceive
  split <;> next hqueue => rw [hqueue]; rfl

/-- All steps but a receive leave the queue alone or send a message, and only the producer sends
doorbells. -/
theorem next_queue {a : Action} (h : a ≠ .consumerReceive) :
    (s.next b a).queue = s.queue ∨
      ∃ msg, (s.next b a).queue = (taskConsumerSend b.cfg s.queue msg).1 ∧
        (a ≠ .producerRing → msg.id ≠ .dataReady) := by
  cases a with
  | consumerReceive => exact absurd rfl h
  | producerRing => exact .inr ⟨_, rfl, fun hne ↦ absurd rfl hne⟩
  | uiPress4 pressed | uiPress5 pressed =>
    cases pressed with
    | false => exact .inl rfl
    | true => exact .inr ⟨_, rfl, fun _ ↦ ConsumerMsgId.noConfusion⟩
  | uiKey key =>
    rw [next]
    cases hkey : uiHandleKey b.cfg key with
    | none => exact .inl rfl
    | some msg => exact .inr ⟨msg, rfl, fun _ ↦ uiHandleKey_id hkey⟩
  | consumerHandle lock =>
    obtain ⟨_, _, _, _, hs, -⟩ := s.consumerHandle_cases b.cfg lock
    exact .inl (by rw [next, hs])
  | checkinTest client | checkinRead client | checkinStore client => cases client <;> exact .inl rfl
  | _ => exact .inl rfl

/-- What a step of the system can do to the consumer's `s_state`. -/
inductive ConsumerStateStep : Action → ConsumerState → Prop
  | same (a : Action) : ConsumerStateStep a s.consumer.state
  | started : ConsumerStateStep .consumerStart
      { s.consumer.state with lastProgressTick := UInt32.ofNat s.wdog.tick }
  | sawDepth : ConsumerStateStep .consumerDepth { s.consumer.state with
      queueDepthPeak := raiseMax s.consumer.state.queueDepthPeak (UInt32.ofNat s.queue.length + 1) }
  | toggled (lock : Option Hold) : ConsumerStateStep (.consumerHandle lock)
      (Consumer.toggled s.consumer.state s.consumer.msg.id)
  | timedOut (lock : Option Hold) : ConsumerStateStep (.consumerRead lock)
      { s.consumer.state with logLockTimeouts := s.consumer.state.logLockTimeouts + 1 }
  | processed (record : SensorRecord) : ConsumerStateStep .consumerProcess
      (consumerProcessRecord b.cfg s.consumer.state record).1
  | checkedStall : ConsumerStateStep .consumerStall
      (consumerCheckStall b.cfg s.consumer.state s.consumer.nowTick s.producer.stats.samples).1

/-- Every step does one of these. -/
theorem consumerState_next (a : Action) :
    ConsumerStateStep b s a (s.next b a).consumer.state := by
  by_cases htask : a.task = some .consumer
  · cases a with
    | consumerStart => exact .started
    | consumerReceive =>
      simp only [next, consumerReceive]
      split <;> exact .same _
    | consumerDepth => exact .sawDepth
    | consumerHandle lock =>
      obtain ⟨_, _, _, _, hs, -, hc, -⟩ := s.consumerHandle_cases b.cfg lock
      simp only [next, hs]
      rcases hc with rfl | rfl
      · exact .toggled lock
      · exact .same _
    | consumerDrain =>
      have hsame : (s.next b .consumerDrain).consumer.state = s.consumer.state :=
        (s.consumer.drain_same b.cfg).2
      rw [hsame]
      exact .same _
    | consumerRead lock =>
      simp only [next, consumerRead, Consumer.gotBatch]
      split
      · exact .same _
      · exact .timedOut lock
    | consumerProcess =>
      simp only [next, consumerProcess, Consumer.process]
      split
      · exact .processed _
      · split
        · exact .same _
        · rw [(s.consumer.nextBatch_same b.cfg _).2]
          exact .same _
    | consumerStall => exact .checkedStall
    | checkinTest client | checkinRead client | checkinStore client =>
      cases htask
      exact .same _
    | consumerReceiveTimeOut | consumerReport | consumerStallTick => exact .same _
    | _ => cases htask
  · rw [(s.next_consumer b htask).1]
    exact .same a

end frames

end State

/-- One step of the system. After key `4` nothing runs any more. -/
def step (b : Board) (s : State) (a : Action) : Option State :=
  if !s.halted && s.enabled a then some (s.next b a) else none

/-- A step that happens was enabled, and does what `next` says. -/
theorem step_eq_some {b : Board} {s s' : State} {a : Action} :
    step b s a = some s' ↔ s.halted = false ∧ s.enabled a = true ∧ s.next b a = s' := by
  unfold step
  cases s.halted <;> cases s.enabled a <;> simp

/-- `main` has initialised the log, `main.c:124–128`, and starts the scheduler. -/
def Starts (cfg : AppConfig) (s₀ : State) : Prop :=
  ∃ storage storageFirst log timerPeriodUs,
    SensorLog.init cfg SensorLog.boot storage storageFirst true = (log, .ok) ∧
      s₀ = State.boot cfg log timerPeriodUs

/-- The start on a log of zeroed records at the bottom of the DDR, with a timer at 10 Hz. -/
def powerOn (cfg : AppConfig) : State :=
  .boot cfg (SensorLog.init cfg .boot (fun _ ↦ Consumer.boot.record) boardDdrBaseAddr true).1 100000

/-- That start is one wherever `sensor_log_init` succeeds. -/
theorem starts_powerOn {cfg : AppConfig}
    (h : (SensorLog.init cfg .boot (fun _ ↦ Consumer.boot.record) boardDdrBaseAddr true).2 = .ok) :
    Starts cfg (powerOn cfg) :=
  ⟨_, boardDdrBaseAddr, _, 100000, Prod.ext rfl h, rfl⟩

/-- The actions `as` lead from a start of the scheduler to `s`. -/
def Reaches (b : Board) (as : List Action) (s : State) : Prop :=
  ∃ s₀, Starts b.cfg s₀ ∧ Machine.run (step b) s₀ as = some s

/-- What a check sees at the end of one run from that start, some reachable state has. -/
theorem reaches_of_powerOn {b : Board} {as : List Action} {check : State → Bool}
    (hinit : (SensorLog.init b.cfg .boot (fun _ ↦ Consumer.boot.record) boardDdrBaseAddr
      true).2 = .ok)
    (hrun : (Machine.run (step b) (powerOn b.cfg) as).any check = true) :
    ∃ s, Reaches b as s ∧ check s = true := by
  obtain ⟨s, hs, hcheck⟩ := (Option.any_eq_true _ _).mp hrun
  exact ⟨s, ⟨_, starts_powerOn hinit, hs⟩, hcheck⟩

/-- Induction over the runs of the system by their last step. -/
theorem Reaches.induction {b : Board} {P : List Action → State → Prop}
    (start : ∀ s₀, Starts b.cfg s₀ → P [] s₀)
    (next : ∀ as s a, Reaches b as s → P as s → s.enabled a = true → P (as ++ [a]) (s.next b a))
    {as : List Action} {s : State} (h : Reaches b as s) : P as s := by
  obtain ⟨s₀, hs₀, hrun⟩ := h
  refine Machine.run_induction (start s₀ hs₀) ?_ hrun
  intro as s a t hrun ih hs
  obtain ⟨_, hen, rfl⟩ := step_eq_some.mp hs
  exact next as s a ⟨s₀, hs₀, hrun⟩ ih hen

/-- The log is empty when the scheduler starts. -/
theorem Starts.represents {cfg : AppConfig} {s₀ : State} (h : Starts cfg s₀) :
    RingBuffer.Represents cfg.logCapacity.toNat s₀.log.ring Fifo.empty := by
  obtain ⟨storage, storageFirst, log, timerPeriodUs, hinit, rfl⟩ := h
  exact SensorLog.represents_of_init hinit

end SensorAggregator.System
