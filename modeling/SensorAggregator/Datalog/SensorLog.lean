import SensorAggregator.Config.AppConfig
import SensorAggregator.Datalog.RingBuffer

/-!
# The shared sample store, one call at a time

Models `datalog/sensor_log.c` and `datalog/sensor_log.h`. Each call gets what FreeRTOS and the
clock decide about it as an argument: `none` when `sensor_log_lock` fails, and the two readings
of `uptime_us` when it succeeds. `LogAtomicity` takes the calls apart into their steps.
-/

namespace SensorAggregator.Datalog

universe u

variable {α : Type u}

/-- `s_ring` and `s_lock_hold_max_us`, `sensor_log.c:33–34`. -/
structure SensorLog (α : Type u) where
  ring : RingBuffer α
  lockHoldMaxUs : UInt32

/-- `sensor_log_status_t`, `sensor_log.h:32–38`. -/
inductive SensorLogStatus where
  | ok
  | errNotDdr
  | errCapacity
  | errNoMutex
  deriving DecidableEq, Repr

/-- `sensor_log_stats_t`, `sensor_log.h:40–49`. -/
structure SensorLogStats where
  capacity : UInt32
  fill : UInt32
  fillHighWater : UInt32
  written : UInt32
  read : UInt32
  overwritten : UInt32
  lockHoldMaxUs : UInt32

/-- The clock readings around one successful take, `sensor_log.c:45,51`. -/
structure Hold where
  lockedAtUs : UInt64
  releasedAtUs : UInt64

/-- `BOARD_DDR_BASE_ADDR`, `board_zybo.h:114`. -/
def boardDdrBaseAddr : UInt32 := 0x00100000

/-- `BOARD_DDR_HIGH_ADDR`, `board_zybo.h:115`. -/
def boardDdrHighAddr : UInt32 := 0x3FFFFFFF

namespace SensorLog

/-- The zeroed statics of `sensor_log.c:33–34` before `sensor_log_init`. -/
def boot : SensorLog α :=
  { ring :=
      { storage := none
        capacity := 0
        indexMask := 0
        head := 0
        tail := 0
        overwritten := 0
        fillHighWater := 0
        hasNewest := false }
    lockHoldMaxUs := 0 }

/-- `sensor_log_init`, `sensor_log.c:75–106`, for a storage of 32-byte records linked at
`storageFirst`. -/
def init (cfg : AppConfig) (log : SensorLog α) (storage : ℕ → α) (storageFirst : UInt32)
    (mutexCreated : Bool) : SensorLog α × SensorLogStatus :=
  let storageLast := storageFirst + cfg.logCapacity * 32 - 1
  if storageFirst < boardDdrBaseAddr ∨ boardDdrHighAddr < storageLast then
    (log, .errNotDdr)
  else
    match log.ring.init (some storage) cfg.logCapacity with
    | (_, false) => (log, .errCapacity)
    | (ring, true) => ({ log with ring := ring }, if mutexCreated then .ok else .errNoMutex)

/-- `sensor_log_unlock` up to the give, `sensor_log.c:49–57`. -/
def unlock (log : SensorLog α) (hold : Hold) : SensorLog α :=
  let heldUs := (hold.releasedAtUs - hold.lockedAtUs).toUInt32
  if log.lockHoldMaxUs < heldUs then { log with lockHoldMaxUs := heldUs } else log

/-- `sensor_log_write`, `sensor_log.c:124–150`. -/
def write (log : SensorLog α) (lock : Option Hold) (record : Option α)
    (wasEmptyOut : Option Bool) : SensorLog α × Option Bool × Bool :=
  match record, lock with
  | none, _ => (log, wasEmptyOut, false)
  | some _, none => (log, wasEmptyOut, false)
  | some record, some hold =>
    let wasEmpty := log.ring.count == 0
    let log := { log with ring := (log.ring.push (some record)).1 }
    (log.unlock hold, wasEmptyOut.map fun _ ↦ wasEmpty, true)

/-- `sensor_log_read`, `sensor_log.c:152–180`, with `APP_TEST_LOG_HOLD_US` at its 0. -/
def read (log : SensorLog α) (lock : Option Hold) (recordsOut : Option (ℕ → α))
    (maxRecords : UInt32) (countOut : Option UInt32) :
    SensorLog α × Option (ℕ → α) × Option UInt32 × Bool :=
  match recordsOut, countOut with
  | some out, some _ =>
    match lock with
    | none => (log, some out, some 0, false)
    | some hold =>
      let (ring, recordsOut, popped) := log.ring.pop (some out) maxRecords
      (({ log with ring := ring } : SensorLog α).unlock hold, recordsOut, some popped, true)
  | _, _ => (log, recordsOut, countOut, false)

/-- `sensor_log_peek_newest`, `sensor_log.c:182–202`. -/
def peekNewest (log : SensorLog α) (lock : Option Hold) (recordOut : Option α) :
    SensorLog α × Option α × Bool :=
  match recordOut, lock with
  | none, _ => (log, none, false)
  | some out, none => (log, some out, false)
  | some out, some hold =>
    let (recordOut, found) := log.ring.peekNewest (some out)
    (log.unlock hold, recordOut, found)

/-- The values `sensor_log_get_stats` reads inside the lock, `sensor_log.c:218–224`. -/
def stats (log : SensorLog α) : SensorLogStats where
  capacity := log.ring.capacity
  fill := log.ring.count
  fillHighWater := log.ring.fillHighWater
  written := log.ring.head
  read := log.ring.tail - log.ring.overwritten
  overwritten := log.ring.overwritten
  lockHoldMaxUs := log.lockHoldMaxUs

/-- `sensor_log_get_stats`, `sensor_log.c:204–229`. -/
def getStats (log : SensorLog α) (lock : Option Hold) (statsOut : Option SensorLogStats) :
    SensorLog α × Option SensorLogStats × Bool :=
  match statsOut, lock with
  | none, _ => (log, none, false)
  | some out, none => (log, some out, false)
  | some _, some hold => (log.unlock hold, some log.stats, true)

/-- The hold statistic is all an unlock changes. -/
@[simp] theorem unlock_ring (log : SensorLog α) (hold : Hold) :
    (log.unlock hold).ring = log.ring := by
  unfold unlock
  simp only
  split <;> rfl

end SensorLog

/-- The calls of `sensor_log.h:59–80` with their arguments; an absent pointer is NULL, an
absent lock a wait that fails. -/
inductive LogCall (α : Type u) where
  | write (record : Option α) (wasEmptyOut : Option Bool)
  | read (recordsOut : Option (ℕ → α)) (maxRecords : UInt32) (countOut : Option UInt32)
  | peekNewest (recordOut : Option α)
  | getStats (statsOut : Option SensorLogStats)

/-- What a call leaves behind its pointers, and the value it returns. -/
inductive LogReply (α : Type u) where
  | write (wasEmptyOut : Option Bool) (stored : Bool)
  | read (recordsOut : Option (ℕ → α)) (countOut : Option UInt32) (ok : Bool)
  | peekNewest (recordOut : Option α) (found : Bool)
  | getStats (statsOut : Option SensorLogStats) (ok : Bool)

namespace LogCall

/-- One call as `sensor_log.c` computes it. -/
def run (call : LogCall α) (log : SensorLog α) (lock : Option Hold) : SensorLog α × LogReply α :=
  match call with
  | write record wasEmptyOut =>
    let (log, wasEmptyOut, stored) := log.write lock record wasEmptyOut
    (log, .write wasEmptyOut stored)
  | read recordsOut maxRecords countOut =>
    let (log, recordsOut, countOut, ok) := log.read lock recordsOut maxRecords countOut
    (log, .read recordsOut countOut ok)
  | peekNewest recordOut =>
    let (log, recordOut, found) := log.peekNewest lock recordOut
    (log, .peekNewest recordOut found)
  | getStats statsOut =>
    let (log, statsOut, ok) := log.getStats lock statsOut
    (log, .getStats statsOut ok)

end LogCall
end SensorAggregator.Datalog
