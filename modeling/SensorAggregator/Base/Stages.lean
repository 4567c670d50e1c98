import Mathlib.Data.List.Basic

/-!
# Work in stages

Stages are worked through in order, each on the state that the ones before it left, until one of
them ends in a fault.
-/

namespace Base

universe u v

/-- A stage changes the state, and may end in a fault. -/
abbrev Stage (S : Type u) (F : Type v) := S → S × Option F

namespace Stage

variable {S : Type u} {F : Type v} {stages rest : List (Stage S F)} {s t u : S} {fault : F}

/-- The state after all stages, or the first fault with the state it is met in. -/
def runAll : List (Stage S F) → S → Except (F × S) S
  | [], s => .ok s
  | stage :: stages, s =>
    match stage s with
    | (t, none) => runAll stages t
    | (t, some fault) => .error (fault, t)

/-- No stages, nothing done. -/
@[simp] theorem runAll_nil_ok : runAll ([] : List (Stage S F)) s = .ok t ↔ s = t := by
  simp [runAll]

/-- All stages are done if the first ends in no fault, and then the others are. -/
theorem runAll_cons_ok {stage : Stage S F} :
    runAll (stage :: stages) s = .ok t ↔
      (stage s).2 = none ∧ runAll stages (stage s).1 = .ok t := by
  rw [runAll]
  cases hstage : stage s with
  | mk u result => cases result <;> simp

/-- A single stage stops at its own fault. -/
theorem runAll_single_error {stage : Stage S F} :
    runAll [stage] s = .error (fault, t) ↔ stage s = (t, some fault) := by
  rw [runAll]
  cases hstage : stage s with
  | mk u result =>
    cases result with
    | none => simp [runAll]
    | some fault' => simp [and_comm]

/-- The stages are done, or stop, where the first part of them does, or where the rest does. -/
theorem runAll_append (stages rest : List (Stage S F)) (s : S) :
    runAll (stages ++ rest) s = (runAll stages s).bind (runAll rest) := by
  induction stages generalizing s with
  | nil => rfl
  | cons stage stages ih =>
    rw [List.cons_append, runAll, runAll]
    split
    · exact ih _
    · rfl

/-- All stages are done if both parts are. -/
theorem runAll_append_ok :
    runAll (stages ++ rest) s = .ok t ↔ ∃ u, runAll stages s = .ok u ∧ runAll rest u = .ok t := by
  rw [runAll_append]
  cases runAll stages s with
  | error e => simp [Except.bind]
  | ok u => simp [Except.bind]

/-- A fault is met in the first part, or in the rest after the first part is done. -/
theorem runAll_append_error :
    runAll (stages ++ rest) s = .error (fault, t) ↔
      runAll stages s = .error (fault, t) ∨
        ∃ u, runAll stages s = .ok u ∧ runAll rest u = .error (fault, t) := by
  rw [runAll_append]
  cases runAll stages s with
  | error e => simp [Except.bind]
  | ok u => simp [Except.bind]

/-- A fault is met at a stage that ends in it, after all stages before it are done. -/
theorem runAll_error (h : runAll stages s = .error (fault, t)) :
    ∃ before stage after u, stages = before ++ stage :: after ∧ runAll before s = .ok u ∧
      stage u = (t, some fault) := by
  induction stages generalizing s with
  | nil => cases h
  | cons stage stages ih =>
    rw [runAll] at h
    cases hstage : stage s with
    | mk u result =>
      rw [hstage] at h
      cases result with
      | none =>
        obtain ⟨before, stage', after, v, rfl, hbefore, hfault⟩ := ih h
        refine ⟨stage :: before, stage', after, v, rfl, ?_, hfault⟩
        rw [runAll, hstage]
        exact hbefore
      | some fault' =>
        cases h
        exact ⟨[], stage, stages, s, rfl, rfl, hstage⟩

/-- Invariant rule: what every stage preserves holds at the end, also at a fault. -/
theorem runAll_invariant {I : S → Prop} (init : I s)
    (pres : ∀ stage ∈ stages, ∀ s, I s → I (stage s).1) :
    (∀ t, runAll stages s = .ok t → I t) ∧
      ∀ fault t, runAll stages s = .error (fault, t) → I t := by
  induction stages generalizing s with
  | nil =>
    constructor
    · intro t h
      cases h
      exact init
    · intro fault t h
      cases h
  | cons stage stages ih =>
    have hnext := pres stage List.mem_cons_self s init
    have hrest := fun u (hu : I u) ↦
      @ih u hu fun stage' h ↦ pres stage' (List.mem_cons_of_mem stage h)
    rw [runAll]
    cases hstage : stage s with
    | mk u result =>
      rw [hstage] at hnext
      cases result with
      | none => exact hrest u hnext
      | some fault =>
        constructor
        · intro t h
          cases h
        · intro fault' t h
          cases h
          exact hnext

end Stage
end Base
