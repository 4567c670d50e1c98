import Mathlib.Data.List.Induction

/-!
# Partial step machines

A machine is a partial step function `S → A → Option S`: every nondeterministic input of a
step travels in its action, and `none` refuses an action that is not enabled. A run is a
finite list of actions, none of them refused.
-/

namespace Base.Machine

universe u v w

variable {S : Type u} {A : Type v}

/-- Final state of a run, or `none` once an action is refused. -/
def run (step : S → A → Option S) (s : S) (as : List A) : Option S := as.foldlM step s

/-- The empty run stays where it is. -/
@[simp] theorem run_nil (step : S → A → Option S) (s : S) : run step s [] = some s := rfl

/-- A run starts with its first action. -/
@[simp] theorem run_cons (step : S → A → Option S) (s : S) (a : A) (as : List A) :
    run step s (a :: as) = (step s a).bind fun t ↦ run step t as := rfl

/-- Runs compose. -/
theorem run_append (step : S → A → Option S) (s : S) (as bs : List A) :
    run step s (as ++ bs) = (run step s as).bind fun t ↦ run step t bs := by
  simp only [run, List.foldlM_append]
  rfl

/-- A composed run passes through a middle state. -/
theorem run_append_eq_some {step : S → A → Option S} {s u : S} {as bs : List A} :
    run step s (as ++ bs) = some u ↔
      ∃ t, run step s as = some t ∧ run step t bs = some u := by
  rw [run_append, Option.bind_eq_some_iff]

/-- A run extended by one action ends with that action. -/
theorem run_concat_eq_some {step : S → A → Option S} {s u : S} {as : List A} {a : A} :
    run step s (as ++ [a]) = some u ↔ ∃ t, run step s as = some t ∧ step t a = some u := by
  rw [run_append_eq_some]
  simp only [run_cons, run_nil]
  exact exists_congr fun t ↦ and_congr_right fun _ ↦ by cases step t a <;> simp

/-- Induction over a run by its last step, for facts that relate the state reached to the
actions that led to it. -/
theorem run_induction {step : S → A → Option S} {s₀ : S} {P : List A → S → Prop}
    (nil : P [] s₀)
    (snoc : ∀ as s a t, run step s₀ as = some s → P as s → step s a = some t → P (as ++ [a]) t)
    {as : List A} {s : S} (h : run step s₀ as = some s) : P as s := by
  induction as using List.reverseRecOn generalizing s with
  | nil =>
    cases h
    exact nil
  | append_singleton as a ih =>
    obtain ⟨t, ht, hs⟩ := run_concat_eq_some.mp h
    exact snoc as t a s ht (ih ht) hs

/-- Invariant rule: what holds at the start and survives every step holds at the end of
every run. -/
theorem run_invariant {step : S → A → Option S} {s₀ : S} {I : S → Prop} (init : I s₀)
    (pres : ∀ s a t, I s → step s a = some t → I t)
    {as : List A} {s : S} (h : run step s₀ as = some s) : I s :=
  run_induction (P := fun _ s ↦ I s) init (fun _ s a t _ hi ht ↦ pres s a t hi ht) h

/-- The machine that additionally refuses every action `ok` does not allow. -/
def restrict (ok : S → A → Bool) (step : S → A → Option S) (s : S) (a : A) : Option S :=
  if ok s a then step s a else none

/-- A restricted step is an allowed step. -/
theorem restrict_eq_some {ok : S → A → Bool} {step : S → A → Option S} {s t : S} {a : A} :
    restrict ok step s a = some t ↔ ok s a = true ∧ step s a = some t := by
  unfold restrict
  split <;> simp_all

/-- A run of the restricted machine is a run. -/
theorem run_of_run_restrict {ok : S → A → Bool} {step : S → A → Option S} {s₀ s : S}
    {as : List A} (h : run (restrict ok step) s₀ as = some s) : run step s₀ as = some s := by
  refine run_induction (P := fun as s ↦ run step s₀ as = some s) rfl ?_ h
  intro as s a t _ ih ht
  exact run_concat_eq_some.mpr ⟨s, ih, (restrict_eq_some.mp ht).2⟩

/-- Simulation rule: when every step is matched by a run of a second machine, so is every
run, and the relation holds between the two ends. -/
theorem run_simulation {T : Type w} {B : Type*} {step : S → A → Option S}
    {step' : T → B → Option T} {s₀ : S} {t₀ : T} {R : S → T → Prop} (init : R s₀ t₀)
    (sim : ∀ s a s' t, R s t → step s a = some s' →
      ∃ bs t', run step' t bs = some t' ∧ R s' t')
    {as : List A} {s : S} (h : run step s₀ as = some s) :
    ∃ bs t, run step' t₀ bs = some t ∧ R s t := by
  refine run_induction (P := fun _ s ↦ ∃ bs t, run step' t₀ bs = some t ∧ R s t)
    ⟨[], t₀, rfl, init⟩ ?_ h
  rintro as s a s' _ ⟨bs, t, hb, hr⟩ hs
  obtain ⟨cs, t', hc, hr'⟩ := sim s a s' t hr hs
  exact ⟨bs ++ cs, t', run_append_eq_some.mpr ⟨t, hb, hc⟩, hr'⟩

/-- Run a total machine with replies: the state reached and the replies, in order. -/
def trace {O : Type w} (exec : S → A → S × O) : S → List A → S × List O
  | s, [] => (s, [])
  | s, a :: as =>
    let rest := trace exec (exec s a).1 as
    (rest.1, (exec s a).2 :: rest.2)

/-- Nothing executed, nothing replied. -/
@[simp] theorem trace_nil {O : Type w} (exec : S → A → S × O) (s : S) :
    trace exec s [] = (s, []) := rfl

/-- Traces compose, and the replies are those of the two parts. -/
theorem trace_append {O : Type w} (exec : S → A → S × O) (s : S) (as bs : List A) :
    trace exec s (as ++ bs) =
      ((trace exec (trace exec s as).1 bs).1,
        (trace exec s as).2 ++ (trace exec (trace exec s as).1 bs).2) := by
  induction as generalizing s with
  | nil => rfl
  | cons a as ih => simp only [List.cons_append, trace, ih]

/-- One more action is executed where the trace ended. -/
theorem trace_concat {O : Type w} (exec : S → A → S × O) (s : S) (as : List A) (a : A) :
    trace exec s (as ++ [a]) =
      ((exec (trace exec s as).1 a).1,
        (trace exec s as).2 ++ [(exec (trace exec s as).1 a).2]) := by
  rw [trace_append]
  rfl

/-- One reply for each action. -/
theorem length_trace {O : Type w} (exec : S → A → S × O) (s : S) (as : List A) :
    (trace exec s as).2.length = as.length := by
  induction as generalizing s with
  | nil => rfl
  | cons a as ih => simp only [trace, List.length_cons, ih]

/-- Two machines that answer every action alike from related states answer every list of
actions alike, and stay related. -/
theorem trace_simulation {O : Type w} {T : Type*} {exec : S → A → S × O} {exec' : T → A → T × O}
    {R : S → T → Prop}
    (sim : ∀ s t a, R s t → R (exec s a).1 (exec' t a).1 ∧ (exec s a).2 = (exec' t a).2)
    {s : S} {t : T} (h : R s t) (as : List A) :
    R (trace exec s as).1 (trace exec' t as).1 ∧
      (trace exec s as).2 = (trace exec' t as).2 := by
  induction as generalizing s t with
  | nil => exact ⟨h, rfl⟩
  | cons a as ih =>
    obtain ⟨hr, ho⟩ := sim s t a h
    obtain ⟨hr', ho'⟩ := ih hr
    exact ⟨hr', by simp only [trace, ho, ho']⟩

end Base.Machine
