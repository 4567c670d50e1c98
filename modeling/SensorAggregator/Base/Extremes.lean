import Mathlib.Data.List.Induction
import Mathlib.Order.Bounds.Basic
import Mathlib.Order.Bounds.OrderIso

/-!
# Running extremes that restart

The least and the greatest value of a figure over a list, kept while the list grows and started
afresh after every `period` elements, as happens when the start is recognised by a counter that
wraps. The kept extreme is exact for the elements since the last start, and for the whole list
exactly when one of those attains it. An extreme that is never started afresh is exact for the
whole list and the value it began with.
-/

namespace Base.Extremes

universe u v

variable {α : Type u} {β : Type v} {f : α → β} {period : ℕ} {l : List α} {x : α} {m : β}

/-- The values of a figure on a list. -/
def values (f : α → β) (l : List α) : Set β := {v | ∃ x ∈ l, f x = v}

/-- The elements since the last start, the newest one included. -/
def recent (period : ℕ) (l : List α) : List α := l.drop ((l.length - 1) / period * period)

/-- The element that completes a period is followed by a start. -/
theorem recent_concat_of_dvd (h : period ∣ l.length) :
    recent period (l ++ [x]) = [x] := by
  have hlen : (l ++ [x]).length - 1 = l.length := by simp
  rw [recent, hlen, Nat.div_mul_cancel h, List.drop_left]

/-- Any other element is followed by one more since the same start. -/
theorem recent_concat_of_not_dvd (h : ¬ period ∣ l.length) :
    recent period (l ++ [x]) = recent period l ++ [x] := by
  have hpos : l.length ≠ 0 := by
    intro hzero
    apply h
    rw [hzero]
    exact Nat.dvd_zero period
  have hdiv : (l.length - 1) / period = l.length / period := by
    obtain ⟨n, hn⟩ := Nat.exists_eq_succ_of_ne_zero hpos
    rw [hn] at h ⊢
    exact (Nat.succ_div_of_not_dvd h).symm
  have hlen : (l ++ [x]).length - 1 = l.length := by simp
  rw [recent, recent, hlen, hdiv, List.drop_append_of_le_length (Nat.div_mul_le_self _ _)]

private theorem mem_of_mem_recent (h : x ∈ recent period l) : x ∈ l := List.mem_of_mem_drop h

/-- In a list of at most one period all elements are recent. -/
theorem recent_eq_self (h : l.length ≤ period) : recent period l = l := by
  have hdiv : (l.length - 1) / period * period = 0 := by
    rcases Nat.eq_zero_or_pos period with hp | hp
    · rw [hp, Nat.mul_zero]
    · rw [Nat.div_eq_of_lt (by omega), Nat.zero_mul]
  rw [recent, hdiv, List.drop_zero]

/-- One more element adds its value. -/
theorem values_concat : values f (l ++ [x]) = insert (f x) (values f l) := by
  ext v
  constructor
  · rintro ⟨y, hy, rfl⟩
    rcases List.mem_append.mp hy with hy | hy
    · exact .inr ⟨y, hy, rfl⟩
    · exact .inl (congrArg f (List.mem_singleton.mp hy))
  · rintro (rfl | ⟨y, hy, rfl⟩)
    · exact ⟨x, List.mem_append_right _ (List.mem_singleton_self x), rfl⟩
    · exact ⟨y, List.mem_append_left _ hy, rfl⟩

variable [LinearOrder β]

/-- A list of one element has one value. -/
theorem isLeast_singleton : IsLeast (values f [x]) (f x) :=
  ⟨⟨x, List.mem_singleton_self x, rfl⟩, by rintro v ⟨y, hy, rfl⟩; rw [List.mem_singleton.mp hy]⟩

/-- The least value is kept by comparing it with each new one. -/
theorem isLeast_concat (h : IsLeast (values f l) m) :
    IsLeast (values f (l ++ [x])) (min (f x) m) := by
  rw [values_concat]
  exact h.insert (f x)

/-- The least value since the last start is the least of all exactly when one of the elements
since then attains that. -/
theorem isLeast_iff_recent (h : IsLeast (values f (recent period l)) m) :
    IsLeast (values f l) m ↔ ∃ x ∈ recent period l, ∀ y ∈ l, f x ≤ f y := by
  constructor
  · rintro ⟨-, hle⟩
    obtain ⟨x, hx, rfl⟩ := h.1
    exact ⟨x, hx, fun y hy ↦ hle ⟨y, hy, rfl⟩⟩
  · rintro ⟨x, hx, hle⟩
    obtain ⟨z, hz, rfl⟩ := h.1
    refine ⟨⟨z, mem_of_mem_recent hz, rfl⟩, ?_⟩
    rintro v ⟨y, hy, rfl⟩
    exact (h.2 ⟨x, hx, rfl⟩).trans (hle y hy)

/-- A list of one element has one value. -/
theorem isGreatest_singleton : IsGreatest (values f [x]) (f x) :=
  isLeast_singleton (β := βᵒᵈ)

/-- The greatest value is kept the same way. -/
theorem isGreatest_concat (h : IsGreatest (values f l) m) :
    IsGreatest (values f (l ++ [x])) (max (f x) m) :=
  isLeast_concat (β := βᵒᵈ) h

/-- A figure raised to every value of a list ends at the greatest of them and its first value. -/
theorem isGreatest_foldl_max (m : β) (l : List α) :
    IsGreatest (insert m (values f l)) (l.foldl (fun m x ↦ max m (f x)) m) := by
  induction l using List.reverseRecOn with
  | nil =>
    have hnone : values f ([] : List α) = ∅ := by
      ext v
      simp [values]
    rw [hnone]
    simp [IsGreatest, upperBounds]
  | append_singleton l x ih =>
    rw [List.foldl_append, values_concat, Set.insert_comm]
    show IsGreatest _ (max _ (f x))
    rw [max_comm]
    exact ih.insert (f x)

/-- A figure lowered to every value of a list ends at the least. -/
theorem isLeast_foldl_min (m : β) (l : List α) :
    IsLeast (insert m (values f l)) (l.foldl (fun m x ↦ min m (f x)) m) :=
  isGreatest_foldl_max (β := βᵒᵈ) m l

/-- The greatest value since the last start is the greatest of all exactly when one of the
elements since then attains that. -/
theorem isGreatest_iff_recent (h : IsGreatest (values f (recent period l)) m) :
    IsGreatest (values f l) m ↔ ∃ x ∈ recent period l, ∀ y ∈ l, f y ≤ f x :=
  isLeast_iff_recent (β := βᵒᵈ) h

end Base.Extremes
