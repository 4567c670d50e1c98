import SensorAggregator.Base.Monitor
import SensorAggregator.Base.Serial
import SensorAggregator.Datalog.SensorLog

/-!
# The sensor log's calls are atomic

Takes the calls of `datalog/sensor_log.c` apart into single steps: the take or the end of its
wait, every access to the ring made by `ring_buffer.c` on their behalf, each iteration of the
copy loop, the hold statistic, the give. Run on its own each call has the effect of `LogCall.run`,
so by `Base.Monitor` every interleaving does.
-/

namespace SensorAggregator.Datalog

open Base

universe u

variable {α : Type u}

/-- The statements of `sensor_log.c:218–224`, in order. -/
inductive StatsField where
  | capacity
  | fill
  | fillHighWater
  | written
  | read
  | overwritten
  | lockHoldMaxUs

namespace StatsField

/-- One statement of `sensor_log.c:218–224`. -/
def store (log : SensorLog α) (out : SensorLogStats) : StatsField → SensorLogStats
  | capacity => { out with capacity := log.ring.capacity }
  | fill => { out with fill := log.ring.count }
  | fillHighWater => { out with fillHighWater := log.ring.fillHighWater }
  | written => { out with written := log.ring.head }
  | read => { out with read := log.ring.tail - log.ring.overwritten }
  | overwritten => { out with overwritten := log.ring.overwritten }
  | lockHoldMaxUs => { out with lockHoldMaxUs := log.lockHoldMaxUs }

/-- The statement after it. -/
def next : StatsField → Option StatsField
  | capacity => some fill
  | fill => some fillHighWater
  | fillHighWater => some written
  | written => some read
  | read => some overwritten
  | overwritten => some lockHoldMaxUs
  | lockHoldMaxUs => none

end StatsField

/-- Where a call is, with its local variables. The last four points are common to all calls:
the rest of `sensor_log_unlock`, and the way out with the reply that is already determined. -/
inductive LogPoint (α : Type u) where
  | enter (call : LogCall α)
  | writeLock (record : α) (wasEmptyOut : Option Bool)
  | writeCount (record : α) (wasEmptyOut : Option Bool)
  | pushCheck (record : α) (reply : LogReply α)
  | pushDropTail (record : α) (reply : LogReply α)
  | pushDropCount (record : α) (reply : LogReply α)
  | pushStore (record : α) (reply : LogReply α)
  | pushHead (reply : LogReply α)
  | pushNewest (reply : LogReply α)
  | pushFill (reply : LogReply α)
  | pushHighWater (fill : UInt32) (reply : LogReply α)
  | readLock (out : ℕ → α) (maxRecords : UInt32)
  | popCheck (out : ℕ → α) (maxRecords : UInt32)
  | popCount (out : ℕ → α) (maxRecords : UInt32)
  | popCopy (out : ℕ → α) (popCount : UInt32) (idx : ℕ)
  | popTail (out : ℕ → α) (popCount : UInt32)
  | peekLock (out : α)
  | peekCheck (out : α)
  | peekCopy (out : α)
  | statsLock (out : SensorLogStats)
  | statsStore (field : StatsField) (out : SensorLogStats)
  | holdMax (reply : LogReply α)
  | give (reply : LogReply α)
  | exit (reply : LogReply α)

/-- An instruction on the shared log. -/
abbrev LogInstr (α : Type u) := Monitor.Instr (SensorLog α) (LogPoint α) (LogReply α)

/-- An instruction that only changes the ring. -/
def onRing (run : RingBuffer α → RingBuffer α × LogPoint α) : LogInstr α :=
  .access fun log ↦ ({ log with ring := (run log.ring).1 }, (run log.ring).2)

/-- The statement at each point. -/
def logCode (hold : Hold) : LogPoint α → LogInstr α
  -- entry checks, before any take
  | .enter (.write none wasEmptyOut) => .ret (.write wasEmptyOut false)
  | .enter (.write (some record) wasEmptyOut) => .internal (.writeLock record wasEmptyOut)
  | .enter (.read (some out) maxRecords (some _)) => .internal (.readLock out maxRecords)
  | .enter (.read recordsOut _ countOut) => .ret (.read recordsOut countOut false)
  | .enter (.peekNewest none) => .ret (.peekNewest none false)
  | .enter (.peekNewest (some out)) => .internal (.peekLock out)
  | .enter (.getStats none) => .ret (.getStats none false)
  | .enter (.getStats (some out)) => .internal (.statsLock out)
  -- sensor_log_write and ring_buffer_push
  | .writeLock record wasEmptyOut =>
    .lock (.writeCount record wasEmptyOut) (.exit (.write wasEmptyOut false))
  | .writeCount record wasEmptyOut => onRing fun rb ↦
    (rb, .pushCheck record (.write (wasEmptyOut.map fun _ ↦ rb.count == 0) true))
  | .pushCheck record reply => onRing fun rb ↦
    (rb, match rb.storage with
      | none => .holdMax reply
      | some _ => if rb.count == rb.capacity then .pushDropTail record reply
        else .pushStore record reply)
  | .pushDropTail record reply => onRing fun rb ↦
    ({ rb with tail := rb.tail + 1 }, .pushDropCount record reply)
  | .pushDropCount record reply => onRing fun rb ↦
    ({ rb with overwritten := rb.overwritten + 1 }, .pushStore record reply)
  | .pushStore record reply => onRing fun rb ↦
    ({ rb with storage := rb.storage.map fun s ↦ Function.update s (rb.slot rb.head) record },
      .pushHead reply)
  | .pushHead reply => onRing fun rb ↦ ({ rb with head := rb.head + 1 }, .pushNewest reply)
  | .pushNewest reply => onRing fun rb ↦ ({ rb with hasNewest := true }, .pushFill reply)
  | .pushFill reply => onRing fun rb ↦ (rb, .pushHighWater rb.count reply)
  | .pushHighWater fill reply => onRing fun rb ↦
    (if rb.fillHighWater < fill then { rb with fillHighWater := fill } else rb, .holdMax reply)
  -- sensor_log_read and ring_buffer_pop; the counter behind count_out is zeroed before the take
  | .readLock out maxRecords =>
    .lock (.popCheck out maxRecords) (.exit (.read (some out) (some 0) false))
  | .popCheck out maxRecords => onRing fun rb ↦
    (rb, match rb.storage with
      | none => .holdMax (.read (some out) (some 0) true)
      | some _ => .popCount out maxRecords)
  | .popCount out maxRecords => onRing fun rb ↦ (rb, .popCopy out (rb.popCount maxRecords) 0)
  | .popCopy out popCount idx =>
    if idx < popCount.toNat then onRing fun rb ↦
      (rb, match rb.storage with
        | none => .popCopy out popCount (idx + 1)
        | some storage => .popCopy
            (Function.update out idx (storage (rb.slot (rb.tail + UInt32.ofNat idx)))) popCount
            (idx + 1))
    else .internal (.popTail out popCount)
  | .popTail out popCount => onRing fun rb ↦
    ({ rb with tail := rb.tail + popCount }, .holdMax (.read (some out) (some popCount) true))
  -- sensor_log_peek_newest and ring_buffer_peek_newest
  | .peekLock out => .lock (.peekCheck out) (.exit (.peekNewest (some out) false))
  | .peekCheck out => onRing fun rb ↦
    (rb, if rb.storage.isNone || !rb.hasNewest then .holdMax (.peekNewest (some out) false)
      else .peekCopy out)
  | .peekCopy out => onRing fun rb ↦
    (rb, match rb.storage with
      | none => .holdMax (.peekNewest (some out) true)
      | some storage => .holdMax (.peekNewest (some (storage (rb.slot (rb.head - 1)))) true))
  -- sensor_log_get_stats
  | .statsLock out => .lock (.statsStore .capacity out) (.exit (.getStats (some out) false))
  | .statsStore field out => .access fun log ↦
    (log, match field.next with
      | none => .holdMax (.getStats (some (field.store log out)) true)
      | some field' => .statsStore field' (field.store log out))
  -- sensor_log_unlock
  | .holdMax reply => .access fun log ↦ (log.unlock hold, .give reply)
  | .give reply => .unlock (.exit reply)
  | .exit reply => .ret reply

/-- The calls as a program under one mutex. A call comes with the clock readings it will see
if it obtains the mutex. -/
def logProgram : Monitor.Program (SensorLog α) (LogCall α × Hold) (LogPoint α) (LogReply α) where
  start c := .enter c.1
  code c := logCode c.2

/-- A call that obtained the mutex, as `sensor_log.c` computes it in one piece. -/
def execLog (log : SensorLog α) (c : LogCall α × Hold) : SensorLog α × LogReply α :=
  c.1.run log (some c.2)

/-- What a call leaves and returns that never obtained the mutex: `false`, the outputs
untouched, except that a `sensor_log_read` with usable pointers zeroes its count. -/
def giveUpLog (c : LogCall α × Hold) : LogReply α :=
  match c.1 with
  | .write _ wasEmptyOut => .write wasEmptyOut false
  | .read (some out) _ (some _) => .read (some out) (some 0) false
  | .read recordsOut _ countOut => .read recordsOut countOut false
  | .peekNewest recordOut => .peekNewest recordOut false
  | .getStats statsOut => .getStats statsOut false

/-- A failed take leaves the log alone and gives up. -/
theorem run_none (call : LogCall α) (log : SensorLog α) (hold : Hold) :
    call.run log none = (log, giveUpLog (call, hold)) := by
  cases call with
  | write record wasEmptyOut => cases record <;> rfl
  | read recordsOut maxRecords countOut => cases recordsOut <;> cases countOut <;> rfl
  | peekNewest recordOut => cases recordOut <;> rfl
  | getStats statsOut => cases statsOut <;> rfl

section Finishes

variable {c : LogCall α × Hold} {log log' : SensorLog α} {reply : LogReply α}

private theorem finishes_holdMax (c : LogCall α × Hold) (log : SensorLog α) (reply : LogReply α) :
    logProgram.Finishes c (.holdMax reply) log (log.unlock c.2) reply :=
  .access rfl (.unlock rfl (.ret rfl))

/-- `ring_buffer_push` from its store on, `ring_buffer.c:59–67`. -/
def storeNewest (rb : RingBuffer α) (record : α) : RingBuffer α :=
  let rb := { rb with
    storage := rb.storage.map fun s ↦ Function.update s (rb.slot rb.head) record
    head := rb.head + 1
    hasNewest := true }
  if rb.fillHighWater < rb.count then { rb with fillHighWater := rb.count } else rb

/-- A push is the room it makes, if it has to, and the store. -/
theorem push_eq_storeNewest {storage : ℕ → α} {rb : RingBuffer α} (hs : rb.storage = some storage)
    (record : α) :
    (rb.push (some record)).1 =
      storeNewest (if rb.count == rb.capacity then
        { rb with tail := rb.tail + 1, overwritten := rb.overwritten + 1 } else rb) record := by
  unfold RingBuffer.push storeNewest
  simp only [hs]
  cases rb.count == rb.capacity with
  | true => simp only [if_true, Option.map_some]
  | false => simp only [Bool.false_eq_true, if_false, hs, Option.map_some]

private theorem finishes_pushStore (c : LogCall α × Hold) (log : SensorLog α) (record : α)
    (reply : LogReply α) :
    logProgram.Finishes c (.pushStore record reply) log
      (SensorLog.unlock { log with ring := storeNewest log.ring record } c.2) reply := by
  refine .access rfl (.access rfl (.access rfl (.access rfl (.access rfl ?_))))
  exact finishes_holdMax c _ reply

private theorem finishes_push (c : LogCall α × Hold) (log : SensorLog α) (record : α)
    (reply : LogReply α) :
    logProgram.Finishes c (.pushCheck record reply) log
      (SensorLog.unlock { log with ring := (log.ring.push (some record)).1 } c.2) reply := by
  refine .access rfl ?_
  simp only
  cases hs : log.ring.storage with
  | none =>
    have hpush : (log.ring.push (some record)).1 = log.ring := by
      simp only [RingBuffer.push, hs]
    rw [hpush]
    exact finishes_holdMax c log reply
  | some storage =>
    rw [push_eq_storeNewest hs]
    cases log.ring.count == log.ring.capacity with
    | true =>
      refine .access rfl (.access rfl ?_)
      exact finishes_pushStore c _ record reply
    | false => exact finishes_pushStore c log record reply

private theorem finishes_popCopy (c : LogCall α × Hold) {storage : ℕ → α}
    (hs : log.ring.storage = some storage) (out : ℕ → α) (popCount : UInt32) {idx : ℕ}
    (hidx : idx ≤ popCount.toNat) :
    logProgram.Finishes c (.popCopy (log.ring.copyOut storage out idx) popCount idx) log
      (SensorLog.unlock { log with ring := { log.ring with tail := log.ring.tail + popCount } } c.2)
      (.read (some (log.ring.copyOut storage out popCount.toNat)) (some popCount) true) := by
  generalize hlog : SensorLog.unlock _ c.2 = log'
  induction hn : popCount.toNat - idx generalizing idx with
  | zero =>
    have hlast : idx = popCount.toNat := by omega
    subst hlast
    have hcode : logProgram.code c (.popCopy (log.ring.copyOut storage out popCount.toNat) popCount
        popCount.toNat) = .internal (.popTail (log.ring.copyOut storage out popCount.toNat)
        popCount) := if_neg (Nat.lt_irrefl _)
    rw [← hlog]
    exact .internal hcode (.access rfl (finishes_holdMax c _ _))
  | succ n ih =>
    have hlt : idx < popCount.toNat := by omega
    refine .access (if_pos hlt) ?_
    have hnext := ih hlt (by omega)
    simp only [hs]
    exact hnext

private theorem finishes_pop (c : LogCall α × Hold) (log : SensorLog α) (out : ℕ → α)
    (maxRecords : UInt32) :
    logProgram.Finishes c (.popCheck out maxRecords) log
      (SensorLog.unlock { log with ring := (log.ring.pop (some out) maxRecords).1 } c.2)
      (.read (log.ring.pop (some out) maxRecords).2.1
        (some (log.ring.pop (some out) maxRecords).2.2) true) := by
  refine .access rfl ?_
  cases hs : log.ring.storage with
  | none =>
    simp only [RingBuffer.pop, hs]
    exact finishes_holdMax c log _
  | some storage =>
    have hpop : log.ring.pop (some out) maxRecords =
        ({ log.ring with tail := log.ring.tail + log.ring.popCount maxRecords },
          some (log.ring.copyOut storage out (log.ring.popCount maxRecords).toNat),
          log.ring.popCount maxRecords) := by
      simp only [RingBuffer.pop, hs]
    rw [hpop]
    have hcopy := finishes_popCopy c hs out (log.ring.popCount maxRecords) (Nat.zero_le _)
    generalize SensorLog.unlock _ c.2 = log' at hcopy ⊢
    simp only [hs]
    exact .access rfl hcopy

private theorem finishes_peek (c : LogCall α × Hold) (log : SensorLog α) (out : α) :
    logProgram.Finishes c (.peekCheck out) log (log.unlock c.2)
      (.peekNewest (log.ring.peekNewest (some out)).1 (log.ring.peekNewest (some out)).2) := by
  refine .access rfl ?_
  cases hs : log.ring.storage with
  | none =>
    simp only [RingBuffer.peekNewest, hs]
    exact finishes_holdMax c log _
  | some storage =>
    cases hn : log.ring.hasNewest with
    | false =>
      simp only [RingBuffer.peekNewest, hs, hn, Bool.false_eq_true, if_false]
      exact finishes_holdMax c log _
    | true =>
      simp only [RingBuffer.peekNewest, hs, hn, if_true]
      refine .access rfl ?_
      simp only [hs]
      exact finishes_holdMax c log _

private theorem finishes_stats (c : LogCall α × Hold) (log : SensorLog α) (out : SensorLogStats) :
    logProgram.Finishes c (.statsStore .capacity out) log (log.unlock c.2)
      (.getStats (some log.stats) true) :=
  .access rfl <| .access rfl <| .access rfl <| .access rfl <| .access rfl <| .access rfl <|
    .access rfl <| finishes_holdMax c log _

end Finishes

/-- Every call either gives up before the mutex, or takes it, works as `LogCall.run`, and gives
it back, on each of its paths. -/
theorem enters_logProgram (c : LogCall α × Hold) :
    logProgram.Enters execLog giveUpLog c (logProgram.start c) := by
  obtain ⟨call, hold⟩ := c
  cases call with
  | write record wasEmptyOut =>
    cases record with
    | none => exact .refuse rfl
    | some record =>
      refine .internal rfl (.lock rfl (fun log ↦ ?_) (.ret rfl))
      exact .access rfl (finishes_push _ log record _)
  | read recordsOut maxRecords countOut =>
    cases recordsOut with
    | none => exact .refuse rfl
    | some out =>
      cases countOut with
      | none => exact .refuse rfl
      | some count =>
        exact .internal rfl
          (.lock rfl (fun log ↦ finishes_pop (_, hold) log out maxRecords) (.ret rfl))
  | peekNewest recordOut =>
    cases recordOut with
    | none => exact .refuse rfl
    | some out =>
      exact .internal rfl (.lock rfl (fun log ↦ finishes_peek (_, hold) log out) (.ret rfl))
  | getStats statsOut =>
    cases statsOut with
    | none => exact .refuse rfl
    | some out =>
      exact .internal rfl (.lock rfl (fun log ↦ finishes_stats (_, hold) log out) (.ret rfl))

section Interleaved

variable {T : Type u} [DecidableEq T]

/-- For every interleaving of the calls of any number of tasks: the log and every answer are
those of the calls that obtained the mutex, executed one at a time in the order they obtained
it, each of them once; a call without the mutex answers `giveUpLog`, as it does in one piece when
its take fails; only the holder touches the log; and the mutex is held exactly while some call is
between its take and its give. -/
theorem sensorLog_atomic (log₀ : SensorLog α) (acts : List (Monitor.Action T (LogCall α × Hold)))
    (m : Monitor.State T (SensorLog α) (LogCall α × Hold) (LogPoint α) (LogReply α))
    (h : Machine.run (Monitor.step logProgram) (.init log₀) acts = some m) :
    let serial := Machine.trace execLog log₀ m.acquired
    (m.holder = none → m.shared = serial.1) ∧
      (∀ e ∈ m.returned,
        match e.ticket with
        | some k => m.acquired[k]? = some e.call ∧ serial.2[k]? = some e.reply
        | none => e.reply = giveUpLog e.call ∧ ∀ log, e.call.1.run log none = (log, e.reply)) ∧
      m.served.Nodup ∧
      (∀ k < m.acquired.length,
        k ∈ m.served ∨ ∃ t a, m.active t = some a ∧ a.phase.ticket = some k) ∧
      (∀ act m', Monitor.step logProgram m act = some m' →
        m'.shared = m.shared ∨ ∃ t, act = .step t ∧ m.holder = some t) ∧
      ∀ t, m.holder = some t ↔ ∃ a k, m.active t = some a ∧ a.phase = .inside k := by
  intro serial
  have hserial := Monitor.serial_run enters_logProgram h
  have htickets := Monitor.tickets_run enters_logProgram h
  refine ⟨hserial.shared, ?_, htickets.served, htickets.covered, ?_, hserial.holder⟩
  · intro e he
    have hans := hserial.returned e he
    unfold Monitor.Answered at hans
    cases hk : e.ticket with
    | none =>
      rw [hk] at hans
      refine ⟨hans, fun log ↦ ?_⟩
      rw [hans]
      exact run_none e.call.1 log e.call.2
    | some k => simpa only [hk] using hans
  · intro act m' hs
    exact hserial.shared_eq_or_inside hs

/-- A write that holds the mutex while a read gives up, and the read that follows it. -/
theorem sensorLog_atomic_writer_reader :
    let log₀ : SensorLog ℕ := ⟨(SensorLog.boot.ring.init (some fun _ ↦ 0) 2).1, 0⟩
    let write := (LogCall.write (some 7) (some false), Hold.mk 10 12)
    let read := (LogCall.read (some fun _ ↦ 0) 1 (some 9), Hold.mk 20 25)
    let acts : List (Monitor.Action Bool (LogCall ℕ × Hold)) :=
      [.call true write, .call false read, .step true, .take true, .step false, .timeOut false,
        .step false] ++ List.replicate 10 (.step true) ++
        [.call false read, .step false, .take false] ++ List.replicate 8 (.step false)
    ∃ m, Machine.run (Monitor.step logProgram) (.init log₀) acts = some m ∧
      m.acquired.length = 2 ∧ m.returned.length = 3 ∧
      m.shared = (Machine.trace execLog log₀ m.acquired).1 := by
  intro log₀ write read acts
  have hrun : (Machine.run (Monitor.step logProgram) (.init log₀) acts).any (fun m ↦
      m.holder.isNone && (m.acquired.length == 2 && m.returned.length == 3)) := by
    decide +kernel
  obtain ⟨m, hm, hcheck⟩ := (Option.any_eq_true _ _).mp hrun
  simp only [Bool.and_eq_true, Option.isNone_iff_eq_none, beq_iff_eq] at hcheck
  exact ⟨m, hm, hcheck.2.1, hcheck.2.2, (sensorLog_atomic log₀ acts m hm).1 hcheck.1⟩

end Interleaved
end SensorAggregator.Datalog
