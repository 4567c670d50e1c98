import SensorAggregator.Base.Machine

/-!
# Figures of a run

A run of a partial step machine has a total, the sum of a figure over its steps, and a peak, the
largest value of a figure over the states it passes through. Both are computed along the run and
need nothing recorded in the states.
-/

namespace Base.Machine

universe u v

variable {S : Type u} {A : Type v} {step : S → A → Option S} {s₀ s t : S} {as : List A} {a : A}

/-- Sum of `f` over the steps of a run. -/
def total (step : S → A → Option S) (f : S → A → ℕ) : S → List A → ℕ
  | _, [] => 0
  | s, a :: as =>
    match step s a with
    | none => 0
    | some t => f s a + total step f t as

/-- Largest value of `f` among the states of a run, its start included. -/
def peak (step : S → A → Option S) (f : S → ℕ) : S → List A → ℕ
  | s, [] => f s
  | s, a :: as =>
    match step s a with
    | none => f s
    | some t => max (f s) (peak step f t as)

/-- Nothing adds up to nothing. -/
theorem total_zero (step : S → A → Option S) (s : S) (as : List A) :
    total step (fun _ _ ↦ 0) s as = 0 := by
  induction as generalizing s with
  | nil => rfl
  | cons a as ih =>
    unfold total
    split
    · rfl
    · rw [ih]

/-- One more step adds its own figure. -/
theorem total_concat (f : S → A → ℕ) (h : run step s₀ as = some s) (ht : step s a = some t) :
    total step f s₀ (as ++ [a]) = total step f s₀ as + f s a := by
  induction as generalizing s₀ with
  | nil =>
    cases h
    simp only [List.nil_append, total, ht]
    omega
  | cons c as ih =>
    obtain ⟨s₁, hs₁, h⟩ := Option.bind_eq_some_iff.mp h
    simp only [List.cons_append, total, hs₁, ih h]
    omega

/-- A figure that only depends on the action counts actions. -/
theorem total_eq_countP (p : A → Bool) (h : run step s₀ as = some s) :
    total step (fun _ a ↦ if p a then 1 else 0) s₀ as = as.countP p := by
  refine run_induction (P := fun as _ ↦
    total step (fun _ a ↦ if p a then 1 else 0) s₀ as = as.countP p) rfl ?_ h
  intro as s a t hs ih ht
  rw [total_concat _ hs ht, ih, List.countP_append, List.countP_singleton]

/-- A run of a restricted machine has the figures it has without the restriction. -/
theorem total_restrict {ok : S → A → Bool} (f : S → A → ℕ)
    (h : run (restrict ok step) s₀ as = some s) :
    total (restrict ok step) f s₀ as = total step f s₀ as := by
  induction as generalizing s₀ with
  | nil => rfl
  | cons c as ih =>
    obtain ⟨s₁, hs₁, h⟩ := Option.bind_eq_some_iff.mp h
    simp only [total, hs₁, (restrict_eq_some.mp hs₁).2, ih h]

/-- The state reached is one of those the peak is taken over. -/
theorem le_peak (f : S → ℕ) (h : run step s₀ as = some s) : f s ≤ peak step f s₀ as := by
  induction as generalizing s₀ with
  | nil =>
    cases h
    exact Nat.le_refl _
  | cons c as ih =>
    obtain ⟨s₁, hs₁, h⟩ := Option.bind_eq_some_iff.mp h
    simp only [peak, hs₁]
    exact Nat.le_trans (ih h) (Nat.le_max_right _ _)

/-- One more step raises the peak to the state it reaches, or leaves it. -/
theorem peak_concat (f : S → ℕ) (h : run step s₀ as = some s) (ht : step s a = some t) :
    peak step f s₀ (as ++ [a]) = max (peak step f s₀ as) (f t) := by
  induction as generalizing s₀ with
  | nil =>
    cases h
    simp only [List.nil_append, peak, ht]
  | cons c as ih =>
    obtain ⟨s₁, hs₁, h⟩ := Option.bind_eq_some_iff.mp h
    simp only [List.cons_append, peak, hs₁, ih h, Nat.max_assoc]

/-- Peak rule: a part of the state that every step raises to the figure it reaches shows the peak,
if it starts at the figure. -/
theorem eq_peak {I : S → Prop} {f : S → ℕ} (part : S → ℕ) (init : I s₀) (start : part s₀ = f s₀)
    (pres : ∀ s a t, I s → step s a = some t → I t)
    (raises : ∀ s a t, I s → step s a = some t → part t = max (part s) (f t))
    (h : run step s₀ as = some s) : part s = peak step f s₀ as := by
  refine run_induction (P := fun as s ↦ part s = peak step f s₀ as) start ?_ h
  intro as s a t hs ih ht
  rw [peak_concat f hs ht, ← ih]
  exact raises s a t (run_invariant init pres hs) ht

/-- Potential rule: when every step pays for its figure `f` and for what it adds to a potential
out of `g` and of what the potential held, the whole run does. -/
theorem total_le_of_potential {I : S → Prop} {Φ : S → ℕ} {f g : S → A → ℕ} (init : I s₀)
    (pres : ∀ s a t, I s → step s a = some t → I t)
    (pays : ∀ s a t, I s → step s a = some t → f s a + Φ t ≤ g s a + Φ s)
    (h : run step s₀ as = some s) :
    total step f s₀ as + Φ s ≤ total step g s₀ as + Φ s₀ := by
  refine run_induction (P := fun as s ↦ total step f s₀ as + Φ s ≤ total step g s₀ as + Φ s₀)
    (Nat.le_refl _) ?_ h
  intro as s a t hs ih ht
  have hpays := pays s a t (run_invariant init pres hs) ht
  rw [total_concat f hs ht, total_concat g hs ht]
  omega

end Base.Machine
