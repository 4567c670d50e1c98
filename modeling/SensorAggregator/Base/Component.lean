import SensorAggregator.Base.Emission

/-!
# Components of a machine

A component is a smaller machine that the steps of a larger one take along: each of them is some
steps of the component, often none. So a run of the whole is a run of each component, and what is
proved of the runs of a component holds of the whole.
-/

namespace Base.Machine

universe u v w x

variable {S : Type u} {A : Type v} {T : Type w} {B : Type x}

/-- The state of a component, and its steps in a step of the whole. -/
structure Component (step : S → A → Option S) (step' : T → B → Option T) where
  part : S → T
  acts : S → A → List B
  follows : ∀ {s a t}, step s a = some t → run step' (part s) (acts s a) = some (part t)

namespace Component

variable {step : S → A → Option S} {step' : T → B → Option T} {s t : S} {as : List A}

/-- The steps of the component in a run of the whole. -/
def actions (c : Component step step') (s : S) (as : List A) : List B :=
  emitted step c.acts s as

/-- They are a run of the component. -/
theorem run_actions (c : Component step step') (h : run step s as = some t) :
    run step' (c.part s) (c.actions s as) = some (c.part t) := by
  refine run_induction (P := fun as t ↦
    run step' (c.part s) (c.actions s as) = some (c.part t)) rfl ?_ h
  intro as t a u hrun ih hstep
  rw [actions, emitted_concat _ hrun hstep]
  exact run_append_eq_some.mpr ⟨c.part t, ih, c.follows hstep⟩

/-- What the component emits in that run, the whole emits if it does so in each step. -/
theorem emitted_actions {E : Type*} (c : Component step step') {f : T → B → List E}
    {g : S → A → List E}
    (emits : ∀ s a t, step s a = some t → emitted step' f (c.part s) (c.acts s a) = g s a)
    (h : run step s as = some t) :
    emitted step' f (c.part s) (c.actions s as) = emitted step g s as := by
  refine run_induction (P := fun as _ ↦
    emitted step' f (c.part s) (c.actions s as) = emitted step g s as) rfl ?_ h
  intro as t a u hrun ih hstep
  rw [actions, emitted_concat _ hrun hstep, emitted_concat _ hrun hstep, ← ih,
    ← emits t a u hstep]
  exact emitted_append f (c.run_actions hrun)

end Component
end Base.Machine
