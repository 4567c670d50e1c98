import Mathlib.Data.List.Basic

/-!
# A bounded queue that drops its oldest element

The plain list behind an overwrite-oldest buffer, together with the history it needs to be
compared with free-running counters: everything ever pushed, and how much of it left by `pop`
and by being dropped. Raw operations are total; the laws use the separate predicate `WF`.
-/

namespace Base

universe u

/-- A list of at most `cap` elements, oldest first, and what happened to it so far. -/
structure Fifo (α : Type u) where
  items : List α
  history : List α
  popped : ℕ
  dropped : ℕ
  peak : ℕ

namespace Fifo

variable {α : Type u}

/-- Nothing held, nothing ever pushed. -/
def empty : Fifo α := ⟨[], [], 0, 0, 0⟩

/-- A push finds `cap` elements and has to drop the oldest. -/
def full (cap : ℕ) (q : Fifo α) : Bool := q.items.length == cap

/-- Append an element, after dropping the oldest one from a full queue. -/
def push (cap : ℕ) (q : Fifo α) (a : α) : Fifo α :=
  let kept := if q.full cap then q.items.tail else q.items
  { items := kept ++ [a]
    history := q.history ++ [a]
    popped := q.popped
    dropped := if q.full cap then q.dropped + 1 else q.dropped
    peak := max q.peak (kept.length + 1) }

/-- Remove up to `n` elements, oldest first. -/
def pop (q : Fifo α) (n : ℕ) : Fifo α :=
  { q with items := q.items.drop n, popped := q.popped + min n q.items.length }

/-- Number of elements that left the queue, by either way. -/
def removed (q : Fifo α) : ℕ := q.popped + q.dropped

/-- The element pushed last, whether it is still held or not. -/
def newest (q : Fifo α) : Option α := q.history.getLast?

/-- The list is the history less what was removed, and it respects its bounds. -/
structure WF (cap : ℕ) (q : Fifo α) : Prop where
  items_eq : q.items = q.history.drop q.removed
  removed_le : q.removed ≤ q.history.length
  length_le : q.items.length ≤ cap
  length_le_peak : q.items.length ≤ q.peak
  peak_le : q.peak ≤ cap

/-- The empty queue satisfies every bound. -/
theorem wf_empty (cap : ℕ) : WF cap (empty : Fifo α) :=
  ⟨rfl, Nat.le_refl 0, Nat.zero_le cap, Nat.le_refl 0, Nat.zero_le cap⟩

/-- What is held is what was pushed and not yet removed. -/
theorem WF.length_items {cap : ℕ} {q : Fifo α} (h : WF cap q) :
    q.items.length = q.history.length - q.removed := by
  rw [h.items_eq, List.length_drop]

/-- A held element keeps its place in the history. -/
theorem WF.getElem?_items {cap : ℕ} {q : Fifo α} (h : WF cap q) (i : ℕ) :
    q.items[i]? = q.history[q.removed + i]? := by
  rw [h.items_eq, List.getElem?_drop]

/-- A push forgets at most one element, and only from a full queue. -/
theorem removed_push (cap : ℕ) (q : Fifo α) (a : α) :
    (q.push cap a).removed = q.removed + if q.full cap then 1 else 0 := by
  simp only [push, removed]
  split <;> omega

/-- A pop removes what it can. -/
theorem removed_pop (q : Fifo α) (n : ℕ) :
    (q.pop n).removed = q.removed + min n q.items.length := by
  simp only [pop, removed]
  omega

private theorem length_kept {cap : ℕ} {q : Fifo α} (hcap : 0 < cap) (h : WF cap q) :
    (if q.full cap then q.items.tail else q.items).length + 1 ≤ cap := by
  have hl := h.length_le
  unfold full
  split
  · next hf =>
    rw [beq_iff_eq] at hf
    rw [List.length_tail]
    omega
  · next hf =>
    rw [beq_iff_eq] at hf
    omega

/-- Pushing preserves the bounds of a queue of positive capacity. -/
theorem wf_push {cap : ℕ} {q : Fifo α} (hcap : 0 < cap) (h : WF cap q) (a : α) :
    WF cap (q.push cap a) := by
  have hk := length_kept hcap h
  have hl := h.length_items
  have hr := h.removed_le
  refine ⟨?_, ?_, ?_, ?_, ?_⟩
  · rw [removed_push]
    unfold push
    by_cases hf : q.full cap
    · have hne : q.removed + 1 ≤ q.history.length := by
        have hf' := hf
        rw [full, beq_iff_eq] at hf'
        omega
      simp only [hf, if_true]
      rw [List.drop_append_of_le_length hne, h.items_eq, List.tail_drop]
    · simp only [hf, Bool.false_eq_true, if_false, Nat.add_zero]
      rw [List.drop_append_of_le_length hr, h.items_eq]
  · rw [removed_push]
    unfold push full
    simp only [List.length_append, List.length_singleton]
    split <;> omega
  · simpa only [push, List.length_append, List.length_singleton] using hk
  · simp only [push, List.length_append, List.length_singleton]
    exact Nat.le_max_right _ _
  · exact Nat.max_le.mpr ⟨h.peak_le, hk⟩

/-- Popping preserves the bounds. -/
theorem wf_pop {cap : ℕ} {q : Fifo α} (h : WF cap q) (n : ℕ) : WF cap (q.pop n) := by
  have hl := h.length_items
  have hr := h.removed_le
  have hd : (q.pop n).items.length ≤ q.items.length := by
    simp only [pop, List.length_drop]
    omega
  refine ⟨?_, ?_, Nat.le_trans hd h.length_le,
    Nat.le_trans hd h.length_le_peak, h.peak_le⟩
  · rw [removed_pop]
    simp only [pop]
    rcases Nat.le_total n q.items.length with hn | hn
    · rw [Nat.min_eq_left hn, ← List.drop_drop, ← h.items_eq]
    · rw [Nat.min_eq_right hn, ← List.drop_drop, ← h.items_eq, List.drop_length,
        List.drop_of_length_le hn]
  · rw [removed_pop]
    simp only [pop]
    omega

end Fifo
end Base
