import SensorAggregator.Datalog.RingRefinement
import SensorAggregator.Datalog.SensorLog

/-!
# The sensor log's calls on the drop-oldest list

What each call of `datalog/sensor_log.c` that has the mutex does to the list its ring represents.
The hold statistic is left out.
-/

namespace SensorAggregator.Datalog.SensorLog

open Base RingBuffer

universe u

variable {α : Type u} {log : SensorLog α} {q : Fifo α} {cap : ℕ}

/-- A successful `sensor_log_init` leaves an empty log of the configured capacity. -/
theorem represents_of_init {cfg : AppConfig} {storage : ℕ → α} {storageFirst : UInt32}
    {mutexCreated : Bool}
    (h : SensorLog.init cfg SensorLog.boot storage storageFirst mutexCreated = (log, .ok)) :
    Represents cfg.logCapacity.toNat log.ring Fifo.empty := by
  unfold init at h
  simp only at h
  split at h
  · cases h
  · split at h
    · cases h
    · next hring =>
      obtain ⟨rfl, -⟩ := Prod.mk.inj h
      exact represents_init hring

/-- With the mutex a record is appended, and the caller learns whether the list was empty. -/
theorem write_some (h : Represents cap log.ring q) (hold : Hold) (x : α) (wasEmptyOut : Bool) :
    (log.write (some hold) (some x) (some wasEmptyOut)).2 = (some q.items.isEmpty, true) ∧
      Represents cap (log.write (some hold) (some x) (some wasEmptyOut)).1.ring (q.push cap x) := by
  have hempty : (log.ring.count == 0) = q.items.isEmpty := by
    rw [Bool.eq_iff_iff, beq_iff_eq, ← UInt32.toNat_inj, h.toNat_count, List.isEmpty_iff]
    exact List.length_eq_zero_iff
  constructor
  · simp only [write, hempty, Option.map_some]
  · simp only [write, unlock_ring]
    exact (h.push x).1

/-- With the mutex the oldest records move into the caller's array. -/
theorem read_some (h : Represents cap log.ring q) (hold : Hold) (out : ℕ → α) (n count : UInt32) :
    (log.read (some hold) (some out) n (some count)).2 =
        (some (overlay out (q.items.take n.toNat)),
          some (UInt32.ofNat (min n.toNat q.items.length)), true) ∧
      Represents cap (log.read (some hold) (some out) n (some count)).1.ring (q.pop n.toNat) := by
  obtain ⟨hr, ho⟩ := h.pop out n
  constructor
  · simp only [read, ho]
  · simp only [read, unlock_ring]
    exact hr

/-- `sensor_log_peek_newest` leaves the ring alone. -/
@[simp] theorem peekNewest_ring (log : SensorLog α) (lock : Option Hold) (out : Option α) :
    (log.peekNewest lock out).1.ring = log.ring := by
  unfold peekNewest
  split <;> simp

/-- What `sensor_log_peek_newest` finds is the record pushed last. -/
theorem newest_of_peekNewest (h : Represents cap log.ring q) {lock : Option Hold} {out : α}
    (hfound : (log.peekNewest lock (some out)).2.2 = true) :
    ∃ x, q.newest = some x ∧ (log.peekNewest lock (some out)).2.1 = some x := by
  cases lock with
  | none => cases hfound
  | some hold =>
    simp only [peekNewest, h.peekNewest_eq] at hfound ⊢
    obtain ⟨x, hx⟩ := Option.isSome_iff_exists.mp hfound
    exact ⟨x, hx, by rw [hx]; rfl⟩

/-- `sensor_log_get_stats` leaves the ring alone. -/
@[simp] theorem getStats_ring (log : SensorLog α) (lock : Option Hold)
    (out : Option SensorLogStats) : (log.getStats lock out).1.ring = log.ring := by
  unfold getStats
  split <;> simp

end SensorAggregator.Datalog.SensorLog
