import Mathlib.Data.List.Perm.Basic
import Mathlib.Data.Nat.Bits
import SensorAggregator.Base.Measure

/-!
# What a run emits

The steps of a run may each emit some events. Their list is computed along the run, like the
figures of `Base.Measure`, so that nothing has to be recorded in the states. The rules relate it
to a part of the state: a waiting line, whose events come out in the order they went in, a stock,
whose events come out in any order, a fold, which the events of each step are folded into, a
wrapping counter, and flags that events flip or set.
-/

namespace Base.Machine

universe u v w

variable {S : Type u} {A : Type v} {E : Type w} {step : S → A → Option S} {s₀ s t : S}
  {as bs : List A} {a : A}

/-- The events of the steps of a run, in order. -/
def emitted (step : S → A → Option S) (f : S → A → List E) : S → List A → List E
  | _, [] => []
  | s, a :: as =>
    match step s a with
    | none => []
    | some t => f s a ++ emitted step f t as

/-- The empty run emits nothing. -/
@[simp] theorem emitted_nil (step : S → A → Option S) (f : S → A → List E) (s : S) :
    emitted step f s [] = [] := rfl

/-- The events of a run in two parts are those of the parts. -/
theorem emitted_append (f : S → A → List E) (h : run step s₀ as = some s) :
    emitted step f s₀ (as ++ bs) = emitted step f s₀ as ++ emitted step f s bs := by
  induction as generalizing s₀ with
  | nil =>
    cases h
    rfl
  | cons c as ih =>
    obtain ⟨s₁, hs₁, h⟩ := Option.bind_eq_some_iff.mp h
    simp only [List.cons_append, emitted, hs₁, ih h, List.append_assoc]

/-- One more step adds its own events. -/
theorem emitted_concat (f : S → A → List E) (h : run step s₀ as = some s)
    (ht : step s a = some t) :
    emitted step f s₀ (as ++ [a]) = emitted step f s₀ as ++ f s a := by
  rw [emitted_append f h]
  simp only [emitted, ht, List.append_nil]

/-- Selecting among the events of a run is selecting among those of its steps. -/
theorem filter_emitted (p : E → Bool) (f : S → A → List E) (s : S) (as : List A) :
    (emitted step f s as).filter p = emitted step (fun s a ↦ (f s a).filter p) s as := by
  induction as generalizing s with
  | nil => rfl
  | cons a as ih =>
    cases ht : step s a with
    | none => simp only [emitted, ht, List.filter_nil]
    | some t => simp only [emitted, ht, List.filter_append, ih]

/-- Reading a figure off the events of a run is reading it off those of its steps. -/
theorem map_emitted {F : Type*} (g : E → F) (f : S → A → List E) (s : S) (as : List A) :
    (emitted step f s as).map g = emitted step (fun s a ↦ (f s a).map g) s as := by
  induction as generalizing s with
  | nil => rfl
  | cons a as ih =>
    cases ht : step s a with
    | none => simp only [emitted, ht, List.map_nil]
    | some t => simp only [emitted, ht, List.map_append, ih]

/-- Reading some of the events of a run is reading those of its steps. -/
theorem filterMap_emitted {F : Type*} (g : E → Option F) (f : S → A → List E) (s : S)
    (as : List A) :
    (emitted step f s as).filterMap g = emitted step (fun s a ↦ (f s a).filterMap g) s as := by
  induction as generalizing s with
  | nil => rfl
  | cons a as ih =>
    cases ht : step s a with
    | none => simp only [emitted, ht, List.filterMap_nil]
    | some t => simp only [emitted, ht, List.filterMap_append, ih]

/-- What every step emits less of, the run emits less of, in the same order. -/
theorem sublist_emitted {f g : S → A → List E} (h : ∀ s a, (f s a).Sublist (g s a)) (s : S)
    (as : List A) : (emitted step f s as).Sublist (emitted step g s as) := by
  induction as generalizing s with
  | nil => exact .slnil
  | cons a as ih =>
    cases ht : step s a with
    | none => simp only [emitted, ht, List.Sublist.refl]
    | some t =>
      simp only [emitted, ht]
      exact (h s a).append (ih t)

/-- Events that depend on the actions alone are those of the actions. -/
theorem emitted_of_actions (f : A → List E) (h : run step s₀ as = some s) :
    emitted step (fun _ a ↦ f a) s₀ as = as.flatMap f := by
  refine run_induction (P := fun as _ ↦ emitted step (fun _ a ↦ f a) s₀ as = as.flatMap f) rfl ?_ h
  intro as s a t hs ih ht
  rw [emitted_concat _ hs ht, ih, List.flatMap_append, List.flatMap_singleton]

/-- Events of two kinds are, up to their order, those of the one and those of the other. -/
theorem emitted_append_perm (f g : S → A → List E) (s : S) (as : List A) :
    (emitted step (fun s a ↦ f s a ++ g s a) s as).Perm
      (emitted step f s as ++ emitted step g s as) := by
  induction as generalizing s with
  | nil => exact .nil
  | cons a as ih =>
    cases ht : step s a with
    | none => simp only [emitted, ht, List.append_nil, List.Perm.refl]
    | some t =>
      simp only [emitted, ht]
      rw [List.append_assoc, List.append_assoc]
      apply List.Perm.append_left
      exact ((ih t).append_left _).trans (List.perm_append_comm_assoc _ _ _)

/-- Line rule: when every step puts its events at the end of a line and takes others off its
front, what was put in along a run, after what was there, is what was taken out and what is left. -/
theorem line_emitted {I : S → Prop} {line : S → List E} {put got : S → A → List E} (init : I s₀)
    (pres : ∀ s a t, I s → step s a = some t → I t)
    (moves : ∀ s a t, I s → step s a = some t → line s ++ put s a = got s a ++ line t)
    (h : run step s₀ as = some s) :
    line s₀ ++ emitted step put s₀ as = emitted step got s₀ as ++ line s := by
  refine run_induction (P := fun as s ↦
    line s₀ ++ emitted step put s₀ as = emitted step got s₀ as ++ line s) (by simp) ?_ h
  intro as s a t hs ih ht
  have hmoves := moves s a t (run_invariant init pres hs) ht
  rw [emitted_concat put hs ht, emitted_concat got hs ht, ← List.append_assoc, ih,
    List.append_assoc, hmoves, List.append_assoc]

/-- Stock rule: the line rule for what is put in and taken out in any order. -/
theorem stock_emitted (stock : S → List E) (put got : S → A → List E) {I : S → Prop} (init : I s₀)
    (pres : ∀ s a t, I s → step s a = some t → I t)
    (moves : ∀ s a t, I s → step s a = some t → (stock s ++ put s a).Perm (got s a ++ stock t))
    (h : run step s₀ as = some s) :
    (stock s₀ ++ emitted step put s₀ as).Perm (emitted step got s₀ as ++ stock s) := by
  refine run_induction (P := fun as s ↦
    (stock s₀ ++ emitted step put s₀ as).Perm (emitted step got s₀ as ++ stock s)) (by simp) ?_ h
  intro as s a t hs ih ht
  have hmoves := moves s a t (run_invariant init pres hs) ht
  rw [emitted_concat put hs ht, emitted_concat got hs ht, ← List.append_assoc,
    List.append_assoc (emitted step got s₀ as)]
  refine (ih.append_right _).trans ?_
  rw [List.append_assoc]
  exact hmoves.append_left _

/-- Fold rule: when every step folds its events into a part of the state, so does the run. -/
theorem foldl_emitted {K : Type*} (part : S → K) {I : S → Prop} {f : S → A → List E}
    {g : K → E → K} (init : I s₀) (pres : ∀ s a t, I s → step s a = some t → I t)
    (folds : ∀ s a t, I s → step s a = some t → part t = (f s a).foldl g (part s))
    (h : run step s₀ as = some s) :
    part s = (emitted step f s₀ as).foldl g (part s₀) := by
  refine run_induction (P := fun as s ↦ part s = (emitted step f s₀ as).foldl g (part s₀)) rfl ?_ h
  intro as s a t hs ih ht
  rw [emitted_concat f hs ht, List.foldl_append, ← ih]
  exact folds s a t (run_invariant init pres hs) ht

/-- Counter rule: a wrapping counter that every step raises by the number of its events counts
the events of the run modulo `2 ^ 32`. -/
theorem counter_emitted (part : S → UInt32) {I : S → Prop} {f : S → A → List E} (init : I s₀)
    (pres : ∀ s a t, I s → step s a = some t → I t)
    (counts : ∀ s a t, I s → step s a = some t → part t = part s + UInt32.ofNat (f s a).length)
    (h : run step s₀ as = some s) :
    part s = part s₀ + UInt32.ofNat (emitted step f s₀ as).length := by
  refine run_induction (P := fun as s ↦
    part s = part s₀ + UInt32.ofNat (emitted step f s₀ as).length) (UInt32.add_zero _).symm ?_ h
  intro as s a t hs ih ht
  rw [emitted_concat f hs ht, List.length_append, UInt32.ofNat_add, ← UInt32.add_assoc, ← ih]
  exact counts s a t (run_invariant init pres hs) ht

/-- Flag rule: a flag that every event flips shows the parity of the events of the run. -/
theorem flag_emitted (part : S → Bool) {I : S → Prop} {f : S → A → List E} (init : I s₀)
    (pres : ∀ s a t, I s → step s a = some t → I t)
    (flips : ∀ s a t, I s → step s a = some t → part t = (part s ^^ (f s a).length.bodd))
    (h : run step s₀ as = some s) :
    part s = (part s₀ ^^ (emitted step f s₀ as).length.bodd) := by
  refine run_induction (P := fun as s ↦
    part s = (part s₀ ^^ (emitted step f s₀ as).length.bodd)) (by simp) ?_ h
  intro as s a t hs ih ht
  rw [emitted_concat f hs ht, List.length_append, Nat.bodd_add, ← Bool.xor_assoc, ← ih]
  exact flips s a t (run_invariant init pres hs) ht

/-- Latch rule: a flag that an event of some kind sets for good shows whether the run had one. -/
theorem latch_emitted (part : S → Bool) {I : S → Prop} {f : S → A → List E} {p : E → Bool}
    (init : I s₀) (pres : ∀ s a t, I s → step s a = some t → I t)
    (latches : ∀ s a t, I s → step s a = some t → part t = (part s || (f s a).any p))
    (h : run step s₀ as = some s) :
    part s = (part s₀ || (emitted step f s₀ as).any p) := by
  refine run_induction (P := fun as s ↦
    part s = (part s₀ || (emitted step f s₀ as).any p)) (Bool.or_false _).symm ?_ h
  intro as s a t hs ih ht
  rw [emitted_concat f hs ht, List.any_append, ← Bool.or_assoc, ← ih]
  exact latches s a t (run_invariant init pres hs) ht

end Base.Machine
