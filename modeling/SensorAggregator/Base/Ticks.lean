import Mathlib.Algebra.Order.Floor.Semifield
import Mathlib.Data.Rat.Floor
import Mathlib.Tactic.Linarith
import Mathlib.Tactic.Positivity

/-!
# Elapsed ticks in milliseconds

Conversion of an elapsed number of ticks to whole milliseconds at `rate` ticks a second, and
the longest time that still counts as `limit` milliseconds. A conversion to any unit may take the
whole seconds first, and the difference of two rounded times is off by less than one unit.
-/

namespace Base.Ticks

/-- Whole milliseconds in `n` ticks. -/
def ms (rate n : ℕ) : ℕ := n * 1000 / rate

/-- The most ticks that are no more than `limit` whole milliseconds. -/
def horizon (rate limit : ℕ) : ℕ := ((limit + 1) * rate - 1) / 1000

/-- More ticks are no fewer milliseconds. -/
theorem ms_mono {rate m n : ℕ} (h : m ≤ n) : ms rate m ≤ ms rate n :=
  Nat.div_le_div_right (Nat.mul_le_mul_right 1000 h)

/-- A time is within a limit exactly when it is within its horizon. -/
theorem ms_le_iff {rate limit n : ℕ} (hrate : 0 < rate) :
    ms rate n ≤ limit ↔ n ≤ horizon rate limit := by
  have hpos : 0 < (limit + 1) * rate := Nat.mul_pos (Nat.succ_pos limit) hrate
  rw [ms, horizon, Nat.le_div_iff_mul_le (by decide), ← Nat.lt_succ_iff,
    Nat.div_lt_iff_lt_mul hrate, Nat.succ_eq_add_one]
  omega

/-- Converting the whole seconds and what is left of the last one apart loses nothing. -/
theorem div_mul_add_mod_mul_div {rate : ℕ} (hrate : 0 < rate) (n unit : ℕ) :
    n / rate * unit + n % rate * unit / rate = n * unit / rate := by
  have hsplit : n * unit = rate * (n / rate * unit) + n % rate * unit := by
    rw [← Nat.mul_assoc, ← Nat.add_mul, Nat.div_add_mod]
  rw [hsplit, Nat.mul_add_div hrate]

/-- A unit no shorter than a tick counts no more than the ticks. -/
theorem mul_div_le {unit rate : ℕ} (h : unit ≤ rate) (n : ℕ) : n * unit / rate ≤ n := by
  apply Nat.div_le_of_le_mul
  rw [Nat.mul_comm rate]
  exact Nat.mul_le_mul_left n h

/-- Milliseconds may be taken from a finer unit. -/
theorem div_div_eq_ms (rate n fine : ℕ) {scale : ℕ} (hscale : 0 < scale)
    (hfine : fine = 1000 * scale) : n * fine / rate / scale = ms rate n := by
  rw [ms, hfine, Nat.div_div_eq_div_mul, ← Nat.mul_assoc, Nat.mul_comm rate,
    Nat.mul_comm (n * 1000), Nat.mul_div_mul_left _ _ hscale]

/-- Two times rounded down are apart by what the times are, to less than one unit. -/
theorem abs_div_sub_div_lt_one (rate m n : ℕ) :
    |((n / rate : ℕ) - (m / rate : ℕ) : ℚ) - (n - m) / rate| < 1 := by
  have hfloor : ∀ k : ℕ, ((k / rate : ℕ) : ℚ) ≤ k / rate ∧ (k / rate : ℚ) < (k / rate : ℕ) + 1 := by
    intro k
    rw [← Nat.floor_div_eq_div (K := ℚ)]
    exact ⟨Nat.floor_le (by positivity), Nat.lt_floor_add_one _⟩
  have hm := hfloor m
  have hn := hfloor n
  rw [sub_div, abs_lt]
  constructor
  · linarith
  · linarith

end Base.Ticks
