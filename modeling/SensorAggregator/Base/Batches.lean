import SensorAggregator.Base.Machine

/-!
# Emptying a list in batches

A pass takes batches of one size off the front of a list and stops at a short one, or after a
number of full ones. Passes are repeated while they end by that number.
-/

namespace Base.Batches

universe u v

variable {α : Type u} {β : Type v}

/-- One pass over a list: what it takes, what it leaves, and whether its last batch was full. -/
def pass (size : ℕ) : ℕ → List α → List α × List α × Bool
  | 0, xs => ([], xs, true)
  | limit + 1, xs =>
    if (xs.take size).length < size then (xs.take size, xs.drop size, false)
    else
      let rest := pass size limit (xs.drop size)
      (xs.take size ++ rest.1, rest.2)

/-- However it is cut, a pass takes the front of the list, and all its batches are full exactly
when the list has enough for them. -/
theorem pass_eq (size limit : ℕ) (xs : List α) :
    pass size limit xs =
      (xs.take (limit * size), xs.drop (limit * size), decide (limit * size ≤ xs.length)) := by
  induction limit generalizing xs with
  | zero => simp [pass]
  | succ limit ih =>
    have hmul : (limit + 1) * size = size + limit * size := by
      rw [Nat.succ_mul, Nat.add_comm]
    rw [pass, List.length_take, hmul]
    split
    · next hshort =>
      have hlen : xs.length < size := by omega
      have hnot : ¬ size + limit * size ≤ xs.length := by omega
      rw [List.take_of_length_le (Nat.le_of_lt hlen), List.take_of_length_le (by omega),
        List.drop_of_length_le (Nat.le_of_lt hlen), List.drop_of_length_le (by omega),
        decide_eq_false hnot]
    · next hfull =>
      have hlen : size ≤ xs.length := by omega
      rw [ih, List.take_add, List.drop_drop, List.length_drop]
      simp only [Prod.mk.injEq, true_and, decide_eq_decide]
      omega

/-- One pass that takes up to `most` elements, next to all that was taken before. -/
def next (most : ℕ) (s : List α × List α) (_ : β) : (List α × List α) × Bool :=
  ((s.1.drop most, s.2 ++ s.1.take most), decide (most ≤ s.1.length))

/-- Repeated passes end after the number of full ones the list has enough for, and one more. By
then they have taken the whole list, in order. -/
theorem trace_next {most : ℕ} (hmost : 0 < most) (xs done : List α) {calls : List β}
    (hcalls : calls.length = xs.length / most + 1) :
    Machine.trace (next most) (xs, done) calls =
      (([], done ++ xs), List.replicate (xs.length / most) true ++ [false]) := by
  induction calls generalizing xs done with
  | nil => simp at hcalls
  | cons call calls ih =>
    rw [List.length_cons, Nat.add_right_cancel_iff] at hcalls
    rcases Nat.lt_or_ge xs.length most with hlast | hmore
    · rw [Nat.div_eq_of_lt hlast, List.length_eq_zero_iff] at hcalls
      have hnot : ¬ most ≤ xs.length := Nat.not_le_of_lt hlast
      have hle : xs.length ≤ most := Nat.le_of_lt hlast
      simp only [hcalls, Machine.trace, next, Nat.div_eq_of_lt hlast, decide_eq_false hnot,
        List.drop_of_length_le hle, List.take_of_length_le hle, List.replicate_zero,
        List.nil_append]
    · have hdiv : xs.length / most = (xs.drop most).length / most + 1 := by
        rw [List.length_drop, Nat.div_eq_sub_div hmost hmore]
      have hrest := ih (xs.drop most) (done ++ xs.take most) (hcalls.trans hdiv)
      simp only [Machine.trace, next, hdiv, decide_eq_true hmore]
      rw [hrest, List.append_assoc, List.take_append_drop, List.replicate_succ, List.cons_append]

end Base.Batches
