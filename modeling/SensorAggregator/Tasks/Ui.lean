import SensorAggregator.Tasks.Consumer

/-!
# The UI task

Models `tasks/task_ui.c`: which message each key and button sends, and the scan loop cut at every
point where another task can come in between.
-/

namespace SensorAggregator.Tasks

/-- `ui_handle_key`, `task_ui.c:32–96`: the message it sends, if it sends one. -/
def uiHandleKey (cfg : AppConfig) (key : Char) : Option ConsumerMsg :=
  match key with
  | 'r' | 'R' => some ⟨.report, key⟩
  | 's' | 'S' => some ⟨.streamToggle, key⟩
  | 'f' | 'F' => some ⟨.rateToggle, key⟩
  | 'p' | 'P' => some ⟨.pauseToggle, key⟩
  | 't' | 'T' => some ⟨.printNewest, key⟩
  | 'd' | 'D' => some ⟨.stats, key⟩
  | 'h' | 'H' | '?' => some ⟨.help, key⟩
  | '1' | '2' | '3' | '4' =>
    if cfg.wdtTestCommands then some ⟨.wdtTest, key⟩ else some ⟨.unknownKey, key⟩
  | '\r' | '\n' | ' ' => none
  | _ => if ' ' ≤ key ∧ key ≤ '~' then some ⟨.unknownKey, key⟩ else none

/-- No key sends a doorbell. -/
theorem uiHandleKey_id {cfg : AppConfig} {key : Char} {msg : ConsumerMsg}
    (h : uiHandleKey cfg key = some msg) : msg.id ≠ .dataReady := by
  unfold uiHandleKey at h
  split at h
  all_goals try split at h
  all_goals first
    | cases h
      exact ConsumerMsgId.noConfusion
    | cases h

/-- Where `ui_task` is in its loop, `task_ui.c:108–137`. `hung` is the suspension in
`wdog_test_hang`. -/
inductive UiPc where
  | delay
  | press4
  | press5
  | keys
  | checkin (stage : CheckinStage)
  | hung
  deriving DecidableEq, Repr

/-- The task and `s_dropped_msgs`. `checkinTick` is the tick count read by a check-in, not
wrapped. -/
structure Ui where
  pc : UiPc
  droppedMsgs : UInt32
  checkinTick : ℕ

namespace Ui

/-- The loop is entered with nothing dropped. -/
def boot : Ui := ⟨.delay, 0, 0⟩

/-- `ui_send` has sent, or failed to send, `task_ui.c:19–30`. -/
def sent (ui : Ui) (ok : Bool) : Ui :=
  if ok then ui else { ui with droppedMsgs := ui.droppedMsgs + 1 }

end Ui
end SensorAggregator.Tasks
