import Mathlib.Logic.Function.Basic
import SensorAggregator.Config.AppConfig

/-!
# The watchdog supervisor

Models `tasks/task_watchdog.c` and `tasks/task_watchdog.h`: the check-ins of the three client
tasks, and one pass of `wdog_task` over them. Console output is kept as the sequence of its
parts, since the decimal conversion is done by `console_write_dec`.
-/

namespace SensorAggregator.Tasks

/-- `wdog_client_t`, `task_watchdog.h:29–35`. -/
inductive WdogClient where
  | producer
  | ui
  | consumer
  deriving DecidableEq, Repr

/-- The clients in the order of their numbers, `0U .. WDOG_CLIENT_COUNT - 1`. -/
def WdogClient.all : List WdogClient := [producer, ui, consumer]

/-- The list names every client. -/
theorem WdogClient.mem_all (client : WdogClient) : client ∈ WdogClient.all := by
  cases client <;> decide

/-- One argument of a raw console write: a text, or a number for `console_write_dec`. -/
inductive ConsoleItem where
  | text (s : String)
  | dec (value : UInt32)
  deriving DecidableEq, Repr

/-- `wdog_client_state_t`, `task_watchdog.c:11–17`. -/
structure WdogClientState where
  name : String
  limitMs : UInt32
  lastCheckinTick : UInt32
  hangRequested : Bool

/-- The statics the supervisor writes: `s_stats` (`task_watchdog.c:33`) without its timeout,
which is filled in when it is read, and the local `kicking` (`task_watchdog.c:89`). -/
structure Wdog where
  kicks : UInt32
  worstSilenceMs : WdogClient → UInt32
  kicking : Bool

/-- What a pass does to the outside: whether it kicks the SWDT, and what it prints. -/
structure PassOutput where
  kicked : Bool
  printed : List ConsoleItem
  deriving DecidableEq, Repr

namespace WdogClient

/-- The check-in limits, `app_config.h:93–95`. -/
def limitMs (cfg : AppConfig) : WdogClient → UInt32
  | producer => cfg.wdtLimitProducerMs
  | ui => cfg.wdtLimitUiMs
  | consumer => cfg.wdtLimitConsumerMs

/-- The names in `s_clients`, `task_watchdog.c:25–27`. -/
def name : WdogClient → String
  | producer => "producer"
  | ui => "ui"
  | consumer => "consumer"

end WdogClient

/-- `s_clients` as initialised, `task_watchdog.c:23–28`. -/
def wdogClients (cfg : AppConfig) (client : WdogClient) : WdogClientState where
  name := client.name
  limitMs := client.limitMs cfg
  lastCheckinTick := 0
  hangRequested := false

/-- `s_stats` and `kicking` at the start of `wdog_task`. -/
def Wdog.boot : Wdog := ⟨0, fun _ ↦ 0, true⟩

/-- `wdog_ticks_to_ms`, `task_watchdog.c:36–39`. -/
def wdogTicksToMs (cfg : AppConfig) (ticks : UInt32) : UInt32 :=
  (ticks.toUInt64 * 1000 / cfg.tickRateHz.toUInt64).toUInt32

/-- `wdog_report_late`, `task_watchdog.c:61–83`, for a SWDT that is `running` with
`timeoutMs`. -/
def wdogReportLate (name : String) (silenceMs : UInt32) (running : Bool) (timeoutMs : UInt32) :
    List ConsoleItem :=
  [.text "\n\nWATCHDOG: ", .text name, .text " has not checked in for ", .dec silenceMs] ++
    if running then
      [.text " ms, no more kicks - SWDT reset in ", .dec timeoutMs, .text " ms or less\n"]
    else [.text " ms (SWDT not running, no reset)\n"]

/-- The locals of one pass, `task_watchdog.c:98–99`, over the statistics it updates. -/
structure PassScan where
  worstSilenceMs : WdogClient → UInt32
  late : Option (WdogClient × UInt32)

/-- The loop body of `task_watchdog.c:106–124`. -/
def PassScan.visit (cfg : AppConfig) (nowTick : UInt32) (clients : WdogClient → WdogClientState)
    (scan : PassScan) (idx : WdogClient) : PassScan :=
  let silenceMs := wdogTicksToMs cfg (nowTick - (clients idx).lastCheckinTick)
  { worstSilenceMs :=
      if scan.worstSilenceMs idx < silenceMs then
        Function.update scan.worstSilenceMs idx silenceMs
      else scan.worstSilenceMs
    late :=
      if (clients idx).limitMs < silenceMs ∧ scan.late = none then some (idx, silenceMs)
      else scan.late }

/-- The loop of `task_watchdog.c:105–125`. -/
def Wdog.scan (cfg : AppConfig) (nowTick : UInt32) (clients : WdogClient → WdogClientState)
    (w : Wdog) : PassScan :=
  WdogClient.all.foldl (PassScan.visit cfg nowTick clients) ⟨w.worstSilenceMs, none⟩

/-- One pass of `wdog_task` after its delay, `task_watchdog.c:103–148`. -/
def Wdog.pass (cfg : AppConfig) (running : Bool) (timeoutMs nowTick : UInt32)
    (clients : WdogClient → WdogClientState) (w : Wdog) : Wdog × PassOutput :=
  let scan := w.scan cfg nowTick clients
  let w := { w with worstSilenceMs := scan.worstSilenceMs }
  if !w.kicking then (w, ⟨false, []⟩)
  else
    match scan.late with
    | none =>
      if running then ({ w with kicks := w.kicks + 1 }, ⟨true, []⟩) else (w, ⟨false, []⟩)
    | some (lateClient, lateMs) =>
      ({ w with kicking := false },
        ⟨false, wdogReportLate (clients lateClient).name lateMs running timeoutMs⟩)

/-- The store that ends `task_watchdog_checkin`, `task_watchdog.c:173`. -/
def wdogStoreCheckin (clients : WdogClient → WdogClientState) (client : WdogClient)
    (tick : UInt32) : WdogClient → WdogClientState :=
  Function.update clients client { clients client with lastCheckinTick := tick }

/-- `task_watchdog_inject_hang`, `task_watchdog.c:201–207`. -/
def taskWatchdogInjectHang (clients : WdogClient → WdogClientState) (client : WdogClient) :
    WdogClient → WdogClientState :=
  Function.update clients client { clients client with hangRequested := true }

end SensorAggregator.Tasks
