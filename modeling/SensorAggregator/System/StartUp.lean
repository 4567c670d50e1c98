import SensorAggregator.Base.Hexadecimal
import SensorAggregator.Base.Stages
import SensorAggregator.Drivers.GpioDrv
import SensorAggregator.Drivers.UartDrv
import SensorAggregator.Drivers.WdtReport
import SensorAggregator.Drivers.XadcDrv
import SensorAggregator.Platform.FaultText
import SensorAggregator.Platform.ResetCause
import SensorAggregator.Platform.Uptime
import SensorAggregator.System.Step

/-!
# The start-up

Models `main` of `main.c`, which brings everything up before the scheduler starts, in stages that
each may end in `fault_halt`. What it leaves behind is what `Starts` assumes, and what the terminal
shows after a fault is the stage that failed and its code.
-/

namespace SensorAggregator.System

open Base Console Datalog Drivers Platform Tasks

/-- The constants of `app_config.h` and of the compiler that only `main` reads. -/
structure Build where
  cfg : AppConfig
  wdtEnable : Bool
  wdtTimeoutMs : UInt32
  wdtCheckPeriodMs : UInt32
  fwVersion : List Char
  date : List Char
  time : List Char

/-- The tasks that `main` creates. -/
inductive MainTask where
  | watchdog
  | consumer
  | ui
  | producer
  deriving DecidableEq, Repr

/-- What the hardware, the BSP and the linker answer `main`, and what it finds in memory. -/
structure BootAnswers where
  slcr : Slcr
  gpioSetup : GpioSetup
  readPin : UInt32 → UInt32
  uartIsr : UInt32
  uartRxFifo : List UInt8
  uartSetup : UartSetup
  uartLatched : UInt32
  uptimeCounts : UInt64
  xadcSetup : XadcSetup
  logStorage : ℕ → Sample
  logStorageFirst : UInt32
  mutexCreated : Bool
  wdtSetup : WdtSetup
  queueCreated : Bool
  taskCreated : MainTask → Bool
  schedulerRuns : Bool
  stack : DecBuffer

/-- The statics that `main` and what it calls work on, `last_reset`, the tasks created so far, and
what was put on the UART. -/
structure StartUp where
  ps : Ps
  lastReset : ResetCause
  gpio : GpioDrv
  uart : UartDrv
  fmtBuf : List Char
  uartOut : List Char
  xadcReady : Bool
  log : SensorLog Sample
  wdt : WdtDrv
  consumerState : ConsumerState
  producerStats : ProducerStats
  tasks : List MainTask

/-- How `main` ends without the scheduler: in the loop of `main.c:89–91`, or in `fault_halt`. -/
inductive Halt where
  | spin
  | fault (what : List Char) (code : Int32)

/-- `UART_DRV_*` as a number, `uart_drv.h:27–33`. -/
def uartDrvCode : UartDrvStatus → Int32
  | .ok => 0
  | .errLookup => 1
  | .errInit => 2
  | .errFormat => 3

/-- `XADC_DRV_*` as a number, `xadc_drv.h:29–36`. -/
def xadcDrvCode : XadcDrvStatus → Int32
  | .ok => 0
  | .errLookup => 1
  | .errInit => 2
  | .errSelftest => 3
  | .errSeqConfig => 4

/-- `SENSOR_LOG_*` as a number, `sensor_log.h:32–38`. -/
def sensorLogCode : SensorLogStatus → Int32
  | .ok => 0
  | .errNotDdr => 1
  | .errCapacity => 2
  | .errNoMutex => 3

/-- `WDT_DRV_*` as a number, `wdt_drv.h:18–24`. -/
def wdtDrvCode : WdtDrvStatus → Int32
  | .ok => 0
  | .errLookup => 1
  | .errInit => 2
  | .errRange => 3

/-- A status other than 0 goes to `fault_halt`. -/
def checkStatus (what : List Char) (status : Int32) : Option Halt :=
  if status = 0 then none else some (.fault what status)

/-- A call that returns `false` does, too, with code 0. -/
def checkDone (what : List Char) (done : Bool) : Option Halt :=
  if done then none else some (.fault what 0)

namespace StartUp

/-- The statics after the C start-up code. -/
def reset (o : BootAnswers) : StartUp where
  ps := ⟨o.slcr, .unknown⟩
  lastReset := .unknown
  gpio := .boot
  uart := ⟨false, ⟨0, 0, 0⟩, o.uartIsr, o.uartRxFifo, .idle⟩
  fmtBuf := List.replicate consoleFmtBufLen '\x00'
  uartOut := []
  xadcReady := false
  log := .boot
  wdt := .boot
  consumerState := ⟨false, false, false, false, 0, 0, 0, 0, 0, 0, 0⟩
  producerStats := ⟨0, 0, 0, 0, 0, 0, 0, 0, 0, 0, ⟨fun _ ↦ 0⟩, ⟨fun _ ↦ 0⟩⟩
  tasks := []

/-- Characters for the UART, which are dropped before it is ready, `uart_drv.c:112–121`. -/
def put (st : StartUp) (text : List Char) : StartUp :=
  { st with uartOut := st.uartOut ++ if st.uart.ready then text else [] }

/-- `console_write`. -/
def write (st : StartUp) (text : List Char) : StartUp := st.put (consoleWrite (some text))

/-- `console_printf`. -/
def printf (st : StartUp) (text : List Char) : StartUp :=
  { st.put (consolePrintf st.fmtBuf (some text)).2 with
    fmtBuf := (consolePrintf st.fmtBuf (some text)).1 }

/-- `xTaskCreate`, and what `main` makes of the result. -/
def createTask (o : BootAnswers) (task : MainTask) (what : List Char) :
    Stage StartUp Halt := fun st ↦
  if o.taskCreated task then ({ st with tasks := st.tasks ++ [task] }, none)
  else (st, some (.fault what 0))

/-- `main.c:79–92`. -/
def gpioStage (o : BootAnswers) : Stage StartUp Halt := fun st ↦
  let (ps, lastReset) := st.ps.resetCauseCapture
  let (gpio, status) := st.gpio.init o.gpioSetup o.readPin
  ({ st with ps := ps, lastReset := lastReset, gpio := gpio },
    if status = .ok then none else some .spin)

/-- `main.c:94–98`. -/
def uartStage (o : BootAnswers) : Stage StartUp Halt := fun st ↦
  let (uart, status) := st.uart.init o.uartSetup o.uartLatched
  ({ st with uart := uart }, checkStatus "UART init".toList (uartDrvCode status))

/-- `main.c:101–104`. -/
def uptimeStage (o : BootAnswers) : Stage StartUp Halt := fun st ↦
  (st, checkDone "uptime (global timer) init".toList (uptimeInit o.uptimeCounts))

/-- The banner, `main.c:106–111`. -/
def banner (b : Build) (st : StartUp) : StartUp :=
  let st := st.write
    ("\n\n========================================================\n".toList ++
      " Zybo sensor aggregator - stage 4, watchdog\n".toList)
  let st := st.printf (" fw ".toList ++ b.fwVersion ++ ", built ".toList ++ b.date ++ " ".toList ++
    b.time ++ "\n".toList)
  let st := st.write "========================================================\n".toList
  st.printf ("last reset: ".toList ++ st.lastReset.name ++ "\n".toList)

/-- `main.c:106–121`. -/
def xadcStage (b : Build) (o : BootAnswers) : Stage StartUp Halt := fun st ↦
  let st := banner b st
  let (xadcReady, status) := xadcDrvInit o.xadcSetup
  ({ st with xadcReady := xadcReady }, checkStatus "XADC init".toList (xadcDrvCode status))

/-- `main.c:122–128`. -/
def logStage (b : Build) (o : BootAnswers) : Stage StartUp Halt := fun st ↦
  let st := st.write "XADC up: continuous sequencer, 16x averaging, calibration on\n".toList
  let (log, status) := st.log.init b.cfg o.logStorage o.logStorageFirst o.mutexCreated
  ({ st with log := log }, checkStatus "sensor log init".toList (sensorLogCode status))

/-- `main.c:129–141`, with `sensor_log_storage_info`, `sensor_log.c:108–122`. -/
def wdtStage (b : Build) (o : BootAnswers) : Stage StartUp Halt := fun st ↦
  let st := st.printf ("sensor log: ".toList ++ fmtLu b.cfg.logCapacity ++ " records, ".toList ++
    fmtLu (b.cfg.logCapacity * 32) ++ " bytes at 0x".toList ++
    Hexadecimal.padded 8 o.logStorageFirst.toNat ++ " (DDR)\n".toList)
  if b.wdtEnable then
    let (wdt, status) := st.wdt.init o.wdtSetup b.wdtTimeoutMs
    ({ st with wdt := wdt }, checkStatus "watchdog init".toList (wdtDrvCode status))
  else (st.write "*** watchdog DISABLED (APP_WDT_ENABLE) ***\n".toList, none)

/-- `main.c:153–156`, with `task_consumer_create`, `task_consumer.c:521–539`. -/
def consumerStage (o : BootAnswers) : Stage StartUp Halt := fun st ↦
  let st := { st with consumerState := { st.consumerState with
    streamEnabled := true
    streamSlow := false
    drainPaused := false } }
  if o.queueCreated then createTask o .consumer "consumer task/queue create".toList st
  else (st, some (.fault "consumer task/queue create".toList 0))

/-- `main.c:163–166`, with `task_producer_create`, `task_producer.c:217–223`. -/
def producerStage (o : BootAnswers) : Stage StartUp Halt := fun st ↦
  createTask o .producer "producer task create".toList
    { st with producerStats := { st.producerStats with periodMinUs := 0xFFFFFFFF } }

/-- `main.c:168–180`. -/
def schedulerStage (b : Build) (o : BootAnswers) : Stage StartUp Halt := fun st ↦
  let st :=
    if b.wdtEnable then
      let st := { st with wdt := st.wdt.start }
      st.printf ("watchdog: SWDT ".toList ++ fmtLu st.wdt.reportedTimeoutMs ++
        " ms, supervisor every ".toList ++ fmtLu b.wdtCheckPeriodMs ++ " ms\n".toList)
    else st
  (st.write "tasks created, starting scheduler\n".toList,
    checkDone "scheduler start".toList o.schedulerRuns)

/-- The stages from the ready UART to the scheduler. -/
def middleStages (b : Build) (o : BootAnswers) : List (Stage StartUp Halt) :=
  [uptimeStage o, xadcStage b o, logStage b o, wdtStage b o,
    createTask o .watchdog "watchdog task create".toList, consumerStage o,
    createTask o .ui "ui task create".toList, producerStage o]

/-- The stages of `main`. -/
def stages (b : Build) (o : BootAnswers) : List (Stage StartUp Halt) :=
  [gpioStage o, uartStage o] ++ (middleStages b o ++ [schedulerStage b o])

/-- What a halt prints. `faultHalt` is never `none`: see `faultHalt_parse`. -/
def halt (o : BootAnswers) (st : StartUp) : Halt → StartUp
  | .spin => st
  | .fault what code => st.put ((faultHalt st.wdt o.stack (some what) code).getD [])

section stages

variable {b : Build} {o : BootAnswers} {st t u : StartUp} {what : List Char} {code : Int32}

/-- Only the output has changed. -/
def Printed (st t : StartUp) : Prop :=
  ∃ fmtBuf uartOut, t = { st with fmtBuf := fmtBuf, uartOut := uartOut }

private theorem printed_write (st : StartUp) (text : List Char) : Printed st (st.write text) :=
  ⟨st.fmtBuf, _, rfl⟩

private theorem printed_printf (st : StartUp) (text : List Char) : Printed st (st.printf text) :=
  ⟨_, _, rfl⟩

/-- Calls one after the other do not either. -/
theorem Printed.trans (h : Printed st t) (h' : Printed t u) : Printed st u := by
  obtain ⟨_, _, rfl⟩ := h
  obtain ⟨_, _, rfl⟩ := h'
  exact ⟨_, _, rfl⟩

private theorem printed_banner (b : Build) (st : StartUp) : Printed st (banner b st) :=
  (printed_write _ _).trans ((printed_printf _ _).trans
    ((printed_write _ _).trans (printed_printf _ _)))

/-- From then on the UART takes characters, and the watchdog is not started yet. -/
structure Talking (st : StartUp) : Prop where
  ready : st.uart.ready = true
  running : st.wdt.running = false

/-- `wdt_drv_init` does not start the watchdog. -/
theorem running_init (wdt : WdtDrv) (setup : WdtSetup) (timeoutMs : UInt32) :
    (wdt.init setup timeoutMs).1.running = wdt.running := by
  have hsearch : ∀ (wdt : WdtDrv) (clockHz : UInt64) (ps : List WdtPrescaler),
      (wdt.search timeoutMs clockHz ps).1.running = wdt.running := by
    intro wdt clockHz ps
    induction ps with
    | nil => rfl
    | cons p ps ih =>
      simp only [WdtDrv.search]
      split
      · exact ih
      · rfl
  unfold WdtDrv.init
  simp only
  split
  · rfl
  split
  · rfl
  split
  · rfl
  split
  · rfl
  · exact hsearch _ _ _

private theorem createTask_cases (task : MainTask) (what : List Char) (st : StartUp) :
    (createTask o task what st).1 = { st with tasks := (createTask o task what st).1.tasks } := by
  unfold createTask
  split <;> rfl

private theorem Talking.middle (h : Talking st) {stage : Stage StartUp Halt}
    (hstage : stage ∈ middleStages b o) : Talking (stage st).1 := by
  simp only [middleStages, List.mem_cons, List.not_mem_nil, or_false] at hstage
  rcases hstage with rfl | rfl | rfl | rfl | rfl | rfl | rfl | rfl
  · exact h
  · obtain ⟨fmtBuf, uartOut, hbanner⟩ := printed_banner b st
    unfold xadcStage
    rw [hbanner]
    exact ⟨h.ready, h.running⟩
  · exact ⟨h.ready, h.running⟩
  · unfold wdtStage
    simp only
    split
    · exact ⟨h.ready, (running_init _ _ _).trans h.running⟩
    · exact ⟨h.ready, h.running⟩
  · rw [createTask_cases]
    exact ⟨h.ready, h.running⟩
  · unfold consumerStage
    simp only
    split
    · rw [createTask_cases]
      exact ⟨h.ready, h.running⟩
    · exact ⟨h.ready, h.running⟩
  · rw [createTask_cases]
    exact ⟨h.ready, h.running⟩
  · unfold producerStage
    rw [createTask_cases]
    exact ⟨h.ready, h.running⟩

/-- A fault that `fault_halt` is told of in words within a line, and not that of the scheduler. -/
def Named (fault : Halt) : Prop :=
  ∃ what code, fault = .fault what code ∧ IsLine what ∧ what ≠ "scheduler start".toList

private theorem named_checkStatus {fault : Halt} (h : checkStatus what code = some fault)
    (hwhat : IsLine what) (hne : what ≠ "scheduler start".toList) : Named fault := by
  unfold checkStatus at h
  split at h
  · cases h
  · cases h
    exact ⟨what, code, rfl, hwhat, hne⟩

private theorem named_checkDone {fault : Halt} {done : Bool} (h : checkDone what done = some fault)
    (hwhat : IsLine what) (hne : what ≠ "scheduler start".toList) : Named fault := by
  unfold checkDone at h
  split at h
  · cases h
  · cases h
    exact ⟨what, 0, rfl, hwhat, hne⟩

private theorem named_createTask {fault : Halt} {task : MainTask}
    (h : (createTask o task what st).2 = some fault) (hwhat : IsLine what)
    (hne : what ≠ "scheduler start".toList) : Named fault := by
  unfold createTask at h
  split at h
  · cases h
  · cases h
    exact ⟨what, 0, rfl, hwhat, hne⟩

private theorem named_middle {stage : Stage StartUp Halt} (hstage : stage ∈ middleStages b o)
    {fault : Halt} (h : (stage st).2 = some fault) : Named fault := by
  simp only [middleStages, List.mem_cons, List.not_mem_nil, or_false] at hstage
  rcases hstage with rfl | rfl | rfl | rfl | rfl | rfl | rfl | rfl
  · exact named_checkDone h (isLine_of_all rfl) (by decide)
  · exact named_checkStatus h (isLine_of_all rfl) (by decide)
  · exact named_checkStatus h (isLine_of_all rfl) (by decide)
  · unfold wdtStage at h
    simp only at h
    split at h
    · exact named_checkStatus h (isLine_of_all rfl) (by decide)
    · cases h
  · exact named_createTask h (isLine_of_all rfl) (by decide)
  · unfold consumerStage at h
    simp only at h
    split at h
    · exact named_createTask h (isLine_of_all rfl) (by decide)
    · cases h
      exact ⟨_, 0, rfl, isLine_of_all rfl, by decide⟩
  · exact named_createTask h (isLine_of_all rfl) (by decide)
  · exact named_createTask h (isLine_of_all rfl) (by decide)

private theorem checkStatus_none (h : checkStatus what code = none) : code = 0 := by
  unfold checkStatus at h
  split at h
  · assumption
  · cases h

private theorem createTask_none {task : MainTask} (h : (createTask o task what st).2 = none) :
    createTask o task what st = ({ st with tasks := st.tasks ++ [task] }, none) := by
  unfold createTask at h ⊢
  split
  · rfl
  · next hnot =>
    rw [if_neg hnot] at h
    cases h

private theorem logStage_none (h : (logStage b o st).2 = none) :
    (st.log.init b.cfg o.logStorage o.logStorageFirst o.mutexCreated).2 = .ok ∧
      ∃ uartOut, logStage b o st = ({ st with
        uartOut := uartOut
        log := (st.log.init b.cfg o.logStorage o.logStorageFirst o.mutexCreated).1 }, none) := by
  refine ⟨?_, _, Prod.ext rfl h⟩
  have hcode := checkStatus_none h
  generalize hstatus : (st.log.init b.cfg o.logStorage o.logStorageFirst o.mutexCreated).2 =
    status
  have hcode' : sensorLogCode status = 0 := hstatus ▸ hcode
  cases status with
  | ok => rfl
  | errNotDdr | errCapacity | errNoMutex => exact absurd hcode' (by decide)

/-- What the middle stages leave when all of them pass. -/
structure Prepared (b : Build) (o : BootAnswers) (st t : StartUp) : Prop where
  gpio : t.gpio = st.gpio
  uart : t.uart = st.uart
  xadc : t.xadcReady = true
  log_init : (st.log.init b.cfg o.logStorage o.logStorageFirst o.mutexCreated).2 = .ok
  log : t.log = (st.log.init b.cfg o.logStorage o.logStorageFirst o.mutexCreated).1
  wdt_init : b.wdtEnable = true → (st.wdt.init o.wdtSetup b.wdtTimeoutMs).2 = .ok
  wdt : t.wdt = if b.wdtEnable then (st.wdt.init o.wdtSetup b.wdtTimeoutMs).1 else st.wdt
  consumer : t.consumerState =
    { st.consumerState with streamEnabled := true, streamSlow := false, drainPaused := false }
  producer : t.producerStats = { st.producerStats with periodMinUs := 0xFFFFFFFF }
  tasks : t.tasks = st.tasks ++ [.watchdog, .consumer, .ui, .producer]

private theorem xadcStage_none (h : (xadcStage b o st).2 = none) :
    (xadcDrvInit o.xadcSetup).1 = true ∧
      ∃ fmtBuf uartOut, xadcStage b o st = ({ st with
        fmtBuf := fmtBuf
        uartOut := uartOut
        xadcReady := (xadcDrvInit o.xadcSetup).1 }, none) := by
  obtain ⟨fmtBuf, uartOut, hbanner⟩ := printed_banner b st
  refine ⟨?_, fmtBuf, uartOut, Prod.ext ?_ h⟩
  rotate_left
  · unfold xadcStage
    rw [hbanner]
  have hcode : xadcDrvCode (xadcDrvInit o.xadcSetup).2 = 0 := checkStatus_none h
  revert hcode
  obtain ⟨configFound, initialised, selfTestPassed, seqAvgEnabled, seqChEnabled⟩ := o.xadcSetup
  cases configFound <;> cases initialised <;> cases selfTestPassed <;> cases seqAvgEnabled <;>
    cases seqChEnabled <;> decide

private theorem wdtStage_none (h : (wdtStage b o st).2 = none) :
    (b.wdtEnable = true → (st.wdt.init o.wdtSetup b.wdtTimeoutMs).2 = .ok) ∧
      ∃ fmtBuf uartOut, wdtStage b o st = ({ st with
        fmtBuf := fmtBuf
        uartOut := uartOut
        wdt := if b.wdtEnable then (st.wdt.init o.wdtSetup b.wdtTimeoutMs).1 else st.wdt },
          none) := by
  cases henable : b.wdtEnable with
  | false =>
    simp only [wdtStage, henable, Bool.false_eq_true, if_false]
    exact ⟨fun hfalse ↦ hfalse.elim, _, _, rfl⟩
  | true =>
    simp only [wdtStage, henable, if_true] at h ⊢
    refine ⟨fun _ ↦ ?_, _, _, Prod.ext rfl h⟩
    have hcode := checkStatus_none h
    generalize hstatus : (st.wdt.init o.wdtSetup b.wdtTimeoutMs).2 = status
    have hcode' : wdtDrvCode status = 0 := hstatus ▸ hcode
    cases status with
    | ok => rfl
    | errLookup | errInit | errRange => exact absurd hcode' (by decide)

private theorem consumerStage_none (h : (consumerStage o st).2 = none) :
    consumerStage o st = ({ st with
      consumerState :=
        { st.consumerState with streamEnabled := true, streamSlow := false, drainPaused := false }
      tasks := st.tasks ++ [.consumer] }, none) := by
  unfold consumerStage at h ⊢
  simp only at h ⊢
  split
  · next hqueue =>
    rw [if_pos hqueue] at h
    exact createTask_none h
  · next hqueue =>
    rw [if_neg hqueue] at h
    cases h

private theorem producerStage_none (h : (producerStage o st).2 = none) :
    producerStage o st = ({ st with
      producerStats := { st.producerStats with periodMinUs := 0xFFFFFFFF }
      tasks := st.tasks ++ [.producer] }, none) :=
  createTask_none h

/-- Passing them takes this. -/
theorem prepared (h : Stage.runAll (middleStages b o) st = .ok t) : Prepared b o st t := by
  rw [middleStages, Stage.runAll_cons_ok] at h
  have hrest : Stage.runAll _ st = .ok t := h.2
  rw [Stage.runAll_cons_ok] at hrest
  obtain ⟨hxadc, h⟩ := hrest
  obtain ⟨hready, fmtBuf₁, uartOut₁, hstate⟩ := xadcStage_none hxadc
  rw [hstate, Stage.runAll_cons_ok] at h
  obtain ⟨hlog, h⟩ := h
  obtain ⟨hinit, uartOut₂, hstate⟩ := logStage_none hlog
  rw [hstate, Stage.runAll_cons_ok] at h
  obtain ⟨hwdt, h⟩ := h
  obtain ⟨hwdtInit, fmtBuf₃, uartOut₃, hstate⟩ := wdtStage_none hwdt
  rw [hstate, Stage.runAll_cons_ok] at h
  obtain ⟨hwatchdog, h⟩ := h
  rw [createTask_none hwatchdog, Stage.runAll_cons_ok] at h
  obtain ⟨hconsumer, h⟩ := h
  rw [consumerStage_none hconsumer, Stage.runAll_cons_ok] at h
  obtain ⟨hui, h⟩ := h
  rw [createTask_none hui, Stage.runAll_cons_ok] at h
  obtain ⟨hproducer, h⟩ := h
  rw [producerStage_none hproducer, Stage.runAll_nil_ok] at h
  subst h
  exact {
    gpio := rfl
    uart := rfl
    xadc := hready
    log_init := hinit
    log := rfl
    wdt_init := hwdtInit
    wdt := rfl
    consumer := rfl
    producer := rfl
    tasks := by simp only [List.append_assoc]; rfl }

private theorem uartStage_cases (o : BootAnswers) (st : StartUp) :
    (uartStage o st).2 = none ∧ (uartStage o st).1.uart.ready = true ∨
      (uartStage o st).1.uart.ready = false ∧
        ∃ code, (uartStage o st).2 = some (.fault "UART init".toList code) := by
  show checkStatus "UART init".toList (uartDrvCode (st.uart.init o.uartSetup o.uartLatched).2) =
      none ∧ (st.uart.init o.uartSetup o.uartLatched).1.ready = true ∨
    (st.uart.init o.uartSetup o.uartLatched).1.ready = false ∧
      ∃ code, checkStatus "UART init".toList
        (uartDrvCode (st.uart.init o.uartSetup o.uartLatched).2) =
          some (.fault "UART init".toList code)
  obtain ⟨configFound, initialised, formatAccepted⟩ := o.uartSetup
  cases configFound with
  | false => exact .inr ⟨rfl, _, rfl⟩
  | true =>
    cases initialised with
    | false => exact .inr ⟨rfl, _, rfl⟩
    | true =>
      cases formatAccepted with
      | false => exact .inr ⟨rfl, _, rfl⟩
      | true => exact .inl ⟨rfl, rfl⟩

private theorem gpioStage_cases (o : BootAnswers) (st : StartUp) :
    (gpioStage o st).2 = none ∧ (gpioStage o st).1.gpio.ready = true ∨
      (gpioStage o st).2 = some .spin := by
  show (if (st.gpio.init o.gpioSetup o.readPin).2 = .ok then none else some Halt.spin) = none ∧
      (st.gpio.init o.gpioSetup o.readPin).1.ready = true ∨
    (if (st.gpio.init o.gpioSetup o.readPin).2 = .ok then none else some Halt.spin) = some .spin
  obtain ⟨configFound, initialised⟩ := o.gpioSetup
  cases configFound with
  | false => exact .inr rfl
  | true =>
    cases initialised with
    | false => exact .inr rfl
    | true => exact .inl ⟨rfl, rfl⟩

/-- The first two stages, when they pass. -/
theorem powered (h : Stage.runAll [gpioStage o, uartStage o] (.reset o) = .ok t) :
    t.gpio.ready = true ∧ Talking t ∧ t.wdt = .boot ∧ t.log = .boot ∧ t.tasks = [] ∧
      t.consumerState = (reset o).consumerState ∧ t.producerStats = (reset o).producerStats := by
  rw [Stage.runAll_cons_ok, Stage.runAll_cons_ok, Stage.runAll_nil_ok] at h
  obtain ⟨hgpio, huart, rfl⟩ := h
  have hgpioReady : (gpioStage o (reset o)).1.gpio.ready = true := by
    rcases gpioStage_cases o (reset o) with h | h
    · exact h.2
    · rw [hgpio] at h
      cases h
  have huartReady : (uartStage o (gpioStage o (reset o)).1).1.uart.ready = true := by
    rcases uartStage_cases o (gpioStage o (reset o)).1 with h | ⟨-, code, h⟩
    · exact h.2
    · rw [huart] at h
      cases h
  exact ⟨hgpioReady, ⟨huartReady, rfl⟩, rfl, rfl, rfl, rfl, rfl⟩

/-- The first two stages, when one does not pass: no character has left the UART. -/
theorem unpowered {fault : Halt}
    (h : Stage.runAll [gpioStage o, uartStage o] (.reset o) = .error (fault, t)) :
    t.uart.ready = false ∧ t.wdt.running = false ∧ t.uartOut = [] ∧
      (fault = .spin ∨ ∃ code, fault = .fault "UART init".toList code) := by
  rw [Stage.runAll] at h
  cases hgpio : gpioStage o (reset o) with
  | mk u result =>
    have hu : u = (gpioStage o (reset o)).1 := by rw [hgpio]
    rw [hgpio] at h
    cases result with
    | some fault' =>
      cases h
      rcases gpioStage_cases o (reset o) with hcase | hcase
      · rw [hgpio] at hcase
        cases hcase.1
      · rw [hgpio] at hcase
        cases hcase
        rw [hu]
        exact ⟨rfl, rfl, rfl, .inl rfl⟩
    | none =>
      have huart := uartStage_cases o u
      have hsame : (uartStage o u).1.wdt = u.wdt ∧ (uartStage o u).1.uartOut = u.uartOut :=
        ⟨rfl, rfl⟩
      simp only [Stage.runAll] at h
      generalize uartStage o u = after at h huart hsame
      obtain ⟨v, result⟩ := after
      cases result with
      | none => cases h
      | some fault' =>
        cases h
        rcases huart with hcase | ⟨hready, code, hcode⟩
        · cases hcase.1
        · cases hcode
          refine ⟨hready, ?_, ?_, .inr ⟨code, rfl⟩⟩
          · rw [hsame.1, hu]
            rfl
          · rw [hsame.2, hu]
            rfl

private theorem ready_of_init {wdt : WdtDrv} {setup : WdtSetup} {timeoutMs : UInt32}
    (h : (wdt.init setup timeoutMs).2 = .ok) : (wdt.init setup timeoutMs).1.ready = true := by
  obtain ⟨p, -, -, hinit⟩ := WdtDrv.init_ok h
  rw [hinit]
  rfl

private theorem mutexCreated_of_init {cfg : AppConfig} {log : SensorLog Sample}
    {storage : ℕ → Sample}
    {storageFirst : UInt32} {mutexCreated : Bool}
    (h : (log.init cfg storage storageFirst mutexCreated).2 = .ok) : mutexCreated = true := by
  unfold SensorLog.init at h
  simp only at h
  split at h
  · cases h
  · split at h
    · cases h
    · cases mutexCreated with
      | true => rfl
      | false => cases h

private theorem schedulerStage_fst (b : Build) (o : BootAnswers) (st : StartUp) :
    ∃ fmtBuf uartOut, (schedulerStage b o st).1 = { st with
      fmtBuf := fmtBuf
      uartOut := uartOut
      wdt := if b.wdtEnable then st.wdt.start else st.wdt } := by
  cases henable : b.wdtEnable with
  | false =>
    simp only [schedulerStage, henable, Bool.false_eq_true, if_false]
    exact ⟨_, _, rfl⟩
  | true =>
    simp only [schedulerStage, henable, if_true]
    exact ⟨_, _, rfl⟩

/-- Started so, the watchdog runs if it is built in. -/
theorem Prepared.running (h : Prepared b o st t) (hwdt : st.wdt = .boot) :
    (if b.wdtEnable then t.wdt.start else t.wdt).running = b.wdtEnable := by
  have hstate := h.wdt
  cases henable : b.wdtEnable with
  | false =>
    rw [hstate, henable, hwdt]
    rfl
  | true =>
    have hready := ready_of_init (h.wdt_init henable)
    rw [hstate, henable, if_pos rfl, if_pos rfl, WdtDrv.start, hready]
    rfl

private theorem halt_same (fault : Halt) : (st.halt o fault).uart = st.uart ∧
    (st.halt o fault).wdt = st.wdt := by
  cases fault with
  | spin => exact ⟨rfl, rfl⟩
  | fault what code => exact ⟨rfl, rfl⟩

private theorem uartOut_halt (h : st.uart.ready = false) (fault : Halt) :
    (st.halt o fault).uartOut = st.uartOut := by
  cases fault with
  | spin => rfl
  | fault what code =>
    show st.uartOut ++ (if st.uart.ready then _ else []) = st.uartOut
    rw [h]
    exact List.append_nil _

private theorem readFault_halt (h : st.uart.ready = true) (hwhat : IsLine what) (code : Int32) :
    readFault (terminal (st.halt o (.fault what code)).uartOut) =
      some (what, (code.toInt : ℚ), st.wdt.isRunning) := by
  obtain ⟨text, htext, hread⟩ :=
    @readFault_faultHalt what code st.wdt st.uartOut o.stack hwhat
  show readFault (terminal (st.uartOut ++ if st.uart.ready then
    (faultHalt st.wdt o.stack (some what) code).getD [] else [])) = _
  rw [h, htext]
  exact hread

end stages

end StartUp

/-- `main`, `main.c:70–181`: the state that the scheduler starts in, or how it ended without. -/
def main (b : Build) (o : BootAnswers) : Except (Halt × StartUp) StartUp :=
  (Stage.runAll (StartUp.stages b o) (.reset o)).mapError fun (halt, st) ↦ (halt, st.halt o halt)

variable {b : Build} {o : BootAnswers} {st : StartUp}

/-- Wherever the scheduler starts, everything is up: the log is the initialised one that `Starts`
asks for, the tasks are as they boot, and the watchdog, if built in, is programmed and started. -/
theorem main_starts (h : main b o = .ok st) :
    (∀ timerPeriodUs, Starts b.cfg (.boot b.cfg st.log timerPeriodUs)) ∧
      st.consumerState = Consumer.boot.state ∧ st.producerStats = (Producer.boot 0).stats ∧
      st.tasks = [.watchdog, .consumer, .ui, .producer] ∧
      (st.gpio.ready = true ∧ st.uart.ready = true ∧ st.xadcReady = true) ∧
      st.wdt.isRunning = b.wdtEnable ∧
      (b.wdtEnable = true → (WdtDrv.boot.init o.wdtSetup b.wdtTimeoutMs).2 = .ok ∧
        st.wdt = (WdtDrv.boot.init o.wdtSetup b.wdtTimeoutMs).1.start) := by
  rw [main] at h
  cases hrun : Stage.runAll (StartUp.stages b o) (.reset o) with
  | error e =>
    rw [hrun] at h
    cases h
  | ok t =>
    rw [hrun] at h
    cases h
    rw [StartUp.stages, Stage.runAll_append_ok] at hrun
    obtain ⟨u, hpower, hrun⟩ := hrun
    rw [Stage.runAll_append_ok] at hrun
    obtain ⟨v, hmiddle, hlast⟩ := hrun
    rw [Stage.runAll_cons_ok, Stage.runAll_nil_ok] at hlast
    obtain ⟨-, rfl⟩ := hlast
    obtain ⟨hgpio, htalking, hwdt, hlog, htasks, hconsumer, hproducer⟩ := StartUp.powered hpower
    have hprepared := StartUp.prepared hmiddle
    obtain ⟨fmtBuf, uartOut, hstate⟩ := StartUp.schedulerStage_fst b o v
    have hinit : b.wdtEnable = true → (WdtDrv.boot.init o.wdtSetup b.wdtTimeoutMs).2 = .ok :=
      fun henable ↦ hwdt ▸ hprepared.wdt_init henable
    have hstarted : b.wdtEnable = true →
        v.wdt = (WdtDrv.boot.init o.wdtSetup b.wdtTimeoutMs).1 := by
      intro henable
      rw [hprepared.wdt, if_pos henable, hwdt]
    rw [hstate]
    refine ⟨?_, ?_, ?_, ?_, ⟨?_, ?_, hprepared.xadc⟩, ?_, ?_⟩
    · intro timerPeriodUs
      refine ⟨o.logStorage, o.logStorageFirst, v.log, timerPeriodUs, ?_, rfl⟩
      have hok := hprepared.log_init
      have hmutex := StartUp.mutexCreated_of_init hok
      rw [hlog, hmutex] at hok
      rw [hprepared.log, hlog, hmutex]
      exact Prod.ext rfl hok
    · rw [hprepared.consumer, hconsumer]
      rfl
    · rw [hprepared.producer, hproducer]
      rfl
    · rw [hprepared.tasks, htasks]
      rfl
    · rw [hprepared.gpio]
      exact hgpio
    · rw [hprepared.uart]
      exact htalking.ready
    · exact hprepared.running hwdt
    · intro henable
      refine ⟨hinit henable, ?_⟩
      rw [if_pos henable, hstarted henable]

-- The build as shipped.
private def zyboBuild : Build where
  cfg := appConfig
  wdtEnable := true
  wdtTimeoutMs := 2000
  wdtCheckPeriodMs := 250
  fwVersion := "0.4.0".toList
  date := "Jan  1 2025".toList
  time := "00:00:00".toList

-- A board on which nothing fails, with the log linked at some address.
private def soundBoard (logStorageFirst : UInt32) : BootAnswers where
  slcr := ⟨fun _ ↦ 0, false⟩
  gpioSetup := ⟨true, true⟩
  readPin _ := 0
  uartIsr := 0
  uartRxFifo := []
  uartSetup := ⟨true, true, true⟩
  uartLatched := 0
  uptimeCounts := 325
  xadcSetup := ⟨true, true, true, true, true⟩
  logStorage _ := ⟨0, ⟨0, 0, ⟨fun _ ↦ 0⟩, 0⟩⟩
  logStorageFirst := logStorageFirst
  mutexCreated := true
  wdtSetup := ⟨true, true, 111111115⟩
  queueCreated := true
  taskCreated _ := true
  schedulerRuns := true
  stack := Vector.replicate 11 '?'

/-- The scheduler starts there, with the watchdog running. -/
theorem main_starts_sound :
    ∃ st, main zyboBuild (soundBoard 0x00200000) = .ok st ∧ st.wdt.isRunning = true ∧
      Starts appConfig (.boot appConfig st.log 100000) := by
  have hrun : (main zyboBuild (soundBoard 0x00200000)).toBool = true := by decide +kernel
  cases hmain : main zyboBuild (soundBoard 0x00200000) with
  | error e =>
    rw [hmain] at hrun
    cases hrun
  | ok st =>
    obtain ⟨hstarts, -, -, -, -, hrunning, -⟩ := main_starts hmain
    exact ⟨st, rfl, hrunning, hstarts 100000⟩

/-- Where `main` ends without the scheduler, the first stage that failed has been reported. A
failure before the UART is ready puts no character on it; after that the terminal shows what failed
and its code, and whether the watchdog will reset the board, which it will only if the scheduler
was to start. -/
theorem main_reports {fault : Halt} (h : main b o = .error (fault, st)) :
    (∃ before stage after u, StartUp.stages b o = before ++ stage :: after ∧
      Stage.runAll before (.reset o) = .ok u ∧ (stage u).2 = some fault) ∧
    (st.uart.ready = false ∧ st.uartOut = [] ∧
        (fault = .spin ∨ ∃ code, fault = .fault "UART init".toList code) ∨
      st.uart.ready = true ∧ ∃ what code, fault = .fault what code ∧
        readFault (terminal st.uartOut) = some (what, (code.toInt : ℚ), st.wdt.isRunning)) ∧
    (st.wdt.isRunning = true ↔
      b.wdtEnable = true ∧ fault = .fault "scheduler start".toList 0) := by
  rw [main] at h
  cases hrun : Stage.runAll (StartUp.stages b o) (.reset o) with
  | ok t =>
    rw [hrun] at h
    cases h
  | error e =>
    obtain ⟨fault', t⟩ := e
    rw [hrun] at h
    cases h
    obtain ⟨before, stage, after, u, hsplit, hbefore, hstage⟩ := Stage.runAll_error hrun
    refine ⟨⟨before, stage, after, u, hsplit, hbefore, by rw [hstage]⟩, ?_⟩
    obtain ⟨huart, hwdt⟩ := @StartUp.halt_same o t fault
    simp only [huart, hwdt]
    rw [StartUp.stages, Stage.runAll_append_error] at hrun
    rcases hrun with hpower | ⟨u, hpower, hrun⟩
    · obtain ⟨hready, hrunning, hnothing, hfault⟩ := StartUp.unpowered hpower
      refine ⟨.inl ⟨hready, (StartUp.uartOut_halt hready fault).trans hnothing, hfault⟩, ?_⟩
      constructor
      · intro hrun
        exact absurd (hrunning.symm.trans hrun) Bool.false_ne_true
      · rintro ⟨-, rfl⟩
        rcases hfault with hspin | ⟨code, hcode⟩
        · cases hspin
        · cases hcode
    · obtain ⟨-, htalking, hboot, -⟩ := StartUp.powered hpower
      rw [Stage.runAll_append_error] at hrun
      rcases hrun with hmiddle | ⟨v, hmiddle, hlast⟩
      · have htalk := (Stage.runAll_invariant htalking
          fun stage hstage s hs ↦ StartUp.Talking.middle hs hstage).2 fault t hmiddle
        obtain ⟨_, stage, _, w, hsplit, -, hstage⟩ := Stage.runAll_error hmiddle
        have hmem : stage ∈ StartUp.middleStages b o := by
          rw [hsplit]
          exact List.mem_append_right _ List.mem_cons_self
        obtain ⟨what, code, rfl, hwhat, hne⟩ := @StartUp.named_middle b o w stage hmem fault
          (by rw [hstage])
        refine ⟨.inr ⟨htalk.ready, what, code, rfl,
          StartUp.readFault_halt htalk.ready hwhat code⟩, ?_⟩
        constructor
        · intro hrun
          exact absurd (htalk.running.symm.trans hrun) Bool.false_ne_true
        · rintro ⟨-, heq⟩
          cases heq
          exact absurd rfl hne
      · have hprepared := StartUp.prepared hmiddle
        obtain ⟨_, _, hstate⟩ := StartUp.schedulerStage_fst b o v
        have hresult := Stage.runAll_single_error.mp hlast
        have hcheck : checkDone "scheduler start".toList o.schedulerRuns = some fault :=
          congrArg Prod.snd hresult
        have hfault : fault = .fault "scheduler start".toList 0 := by
          unfold checkDone at hcheck
          split at hcheck
          · cases hcheck
          · exact (Option.some_inj.mp hcheck).symm
        rw [hresult] at hstate
        have hready : t.uart.ready = true := by
          rw [show t = _ from hstate]
          show v.uart.ready = true
          rw [hprepared.uart]
          exact htalking.ready
        have hrunning : t.wdt.running = b.wdtEnable := by
          rw [show t = _ from hstate]
          exact hprepared.running hboot
        subst hfault
        refine ⟨.inr ⟨hready, _, 0, rfl, StartUp.readFault_halt hready (isLine_of_all rfl) 0⟩, ?_⟩
        rw [WdtDrv.isRunning, hrunning]
        exact ⟨fun henable ↦ ⟨henable, rfl⟩, And.left⟩

/-- A log that is linked below the DDR shows as such. -/
theorem main_reports_low :
    ∃ st, main zyboBuild (soundBoard 0) = .error (.fault "sensor log init".toList 1, st) ∧
      readFault (terminal st.uartOut) = some ("sensor log init".toList, 1, false) := by
  have hrun : (match main zyboBuild (soundBoard 0) with
    | .error (.fault what code, st) => what == "sensor log init".toList && code == 1 &&
        !st.wdt.isRunning
    | _ => false) = true := by
    decide +kernel
  cases hmain : main zyboBuild (soundBoard 0) with
  | ok st =>
    rw [hmain] at hrun
    cases hrun
  | error e =>
    obtain ⟨fault, st⟩ := e
    rw [hmain] at hrun
    cases fault with
    | spin => cases hrun
    | fault what code =>
      simp only [Bool.and_eq_true, beq_iff_eq, Bool.not_eq_true'] at hrun
      obtain ⟨⟨rfl, rfl⟩, hwdt⟩ := hrun
      obtain ⟨-, hshown, -⟩ := main_reports hmain
      rcases hshown with ⟨-, -, hspin | ⟨code, hcode⟩⟩ | ⟨-, what, code, hfault, hread⟩
      · cases hspin
      · cases hcode
      · cases hfault
        rw [hwdt] at hread
        exact ⟨st, rfl, hread⟩

end SensorAggregator.System
