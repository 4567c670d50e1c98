import Mathlib.Data.Nat.Notation
import Mathlib.Logic.Function.Basic

/-!
# Calls under one mutex, step by step

Threads run calls whose code is a graph of single instructions over one shared state and one
mutex. The scheduler is free: every action is one instruction of one thread. `Program.Enters`
says of a call's code, run on its own, that it takes the mutex before its first shared access,
gives it back exactly once, and has the effect of an atomic operation in between.
-/

namespace Base.Monitor

universe u

variable {T S C F R : Type u}

/-- One instruction at a program point, with the points it leads to. -/
inductive Instr (S F R : Type u) where
  | lock (taken timedOut : F)
  | access (run : S → S × F)
  | internal (next : F)
  | unlock (next : F)
  | ret (reply : R)

/-- The code of every call: where it starts, and the instruction at each of its points. -/
structure Program (S C F R : Type u) where
  start : C → F
  code : C → F → Instr S F R

/-- Where a call stands with respect to the mutex. A ticket is a place in the order in which
the mutex was obtained. -/
inductive Phase where
  | before
  | inside (ticket : ℕ)
  | after (ticket : Option ℕ)

/-- The place a call obtained, if it did. -/
def Phase.ticket : Phase → Option ℕ
  | before => none
  | inside k => some k
  | after k => k

/-- A call in progress. -/
structure Activation (C F : Type u) where
  call : C
  frame : F
  phase : Phase

/-- A call that has returned. -/
structure Returned (T C R : Type u) where
  thread : T
  call : C
  ticket : Option ℕ
  reply : R

/-- Shared state, mutex and threads, with the order of acquisition and the answers so far. -/
structure State (T S C F R : Type u) where
  shared : S
  holder : Option T
  active : T → Option (Activation C F)
  acquired : List C
  returned : List (Returned T C R)

/-- What the scheduler may choose next. -/
inductive Action (T C : Type u) where
  | call (t : T) (c : C)
  | take (t : T)
  | timeOut (t : T)
  | step (t : T)

/-- Nobody has called anything yet. -/
def State.init (s₀ : S) : State T S C F R := ⟨s₀, none, fun _ ↦ none, [], []⟩

/-- One instruction of one thread. The mutex can be obtained whenever it is free; a wait for it
may end at any time. -/
def step [DecidableEq T] (p : Program S C F R) (m : State T S C F R) :
    Action T C → Option (State T S C F R)
  | .call t c =>
    match m.active t with
    | none => some { m with active := Function.update m.active t (some ⟨c, p.start c, .before⟩) }
    | some _ => none
  | .take t =>
    match m.active t with
    | none => none
    | some a =>
      match p.code a.call a.frame, m.holder with
      | .lock taken _, none =>
        some { m with
          holder := some t
          acquired := m.acquired ++ [a.call]
          active := Function.update m.active t
            (some { a with frame := taken, phase := .inside m.acquired.length }) }
      | _, _ => none
  | .timeOut t =>
    match m.active t with
    | none => none
    | some a =>
      match p.code a.call a.frame with
      | .lock _ timedOut =>
        some { m with
          active := Function.update m.active t
            (some { a with frame := timedOut, phase := .after none }) }
      | _ => none
  | .step t =>
    match m.active t with
    | none => none
    | some a =>
      match p.code a.call a.frame with
      | .lock _ _ => none
      | .access run =>
        some { m with
          shared := (run m.shared).1
          active := Function.update m.active t (some { a with frame := (run m.shared).2 }) }
      | .internal next =>
        some { m with active := Function.update m.active t (some { a with frame := next }) }
      | .unlock next =>
        some { m with
          holder := none
          active := Function.update m.active t
            (some { a with frame := next, phase := .after a.phase.ticket }) }
      | .ret reply =>
        some { m with
          active := Function.update m.active t none
          returned := m.returned ++ [⟨t, a.call, a.phase.ticket, reply⟩] }

/-- One instruction as a relation, a constructor for each way a thread can move. -/
inductive Steps [DecidableEq T] (p : Program S C F R) (m : State T S C F R) :
    Action T C → State T S C F R → Prop
  | call {t} (c : C) (ht : m.active t = none) :
      Steps p m (.call t c)
        { m with active := Function.update m.active t (some ⟨c, p.start c, .before⟩) }
  | take {t a taken timedOut} (ha : m.active t = some a)
      (hcode : p.code a.call a.frame = .lock taken timedOut) (hfree : m.holder = none) :
      Steps p m (.take t)
        { m with
          holder := some t
          acquired := m.acquired ++ [a.call]
          active := Function.update m.active t
            (some { a with frame := taken, phase := .inside m.acquired.length }) }
  | timeOut {t a taken timedOut} (ha : m.active t = some a)
      (hcode : p.code a.call a.frame = .lock taken timedOut) :
      Steps p m (.timeOut t)
        { m with
          active := Function.update m.active t
            (some { a with frame := timedOut, phase := .after none }) }
  | access {t a run} (ha : m.active t = some a) (hcode : p.code a.call a.frame = .access run) :
      Steps p m (.step t)
        { m with
          shared := (run m.shared).1
          active := Function.update m.active t (some { a with frame := (run m.shared).2 }) }
  | internal {t a next} (ha : m.active t = some a)
      (hcode : p.code a.call a.frame = .internal next) :
      Steps p m (.step t)
        { m with active := Function.update m.active t (some { a with frame := next }) }
  | unlock {t a next} (ha : m.active t = some a) (hcode : p.code a.call a.frame = .unlock next) :
      Steps p m (.step t)
        { m with
          holder := none
          active := Function.update m.active t
            (some { a with frame := next, phase := .after a.phase.ticket }) }
  | ret {t a reply} (ha : m.active t = some a) (hcode : p.code a.call a.frame = .ret reply) :
      Steps p m (.step t)
        { m with
          active := Function.update m.active t none
          returned := m.returned ++ [⟨t, a.call, a.phase.ticket, reply⟩] }

/-- The step function moves as the relation says. -/
theorem steps_of_step [DecidableEq T] {p : Program S C F R} {m m' : State T S C F R}
    {act : Action T C} (hs : step p m act = some m') : Steps p m act m' := by
  cases act with
  | call t c =>
    simp only [step] at hs
    split at hs
    · next ht =>
      cases hs
      exact .call c ht
    · cases hs
  | take t =>
    simp only [step] at hs
    split at hs
    · cases hs
    · next a ha =>
      split at hs
      · next hcode hfree =>
        cases hs
        exact .take ha hcode hfree
      · cases hs
  | timeOut t =>
    simp only [step] at hs
    split at hs
    · cases hs
    · next a ha =>
      split at hs
      · next hcode =>
        cases hs
        exact .timeOut ha hcode
      · cases hs
  | step t =>
    simp only [step] at hs
    split at hs
    · cases hs
    · next a ha =>
      split at hs
      · cases hs
      · next hcode =>
        cases hs
        exact .access ha hcode
      · next hcode =>
        cases hs
        exact .internal ha hcode
      · next hcode =>
        cases hs
        exact .unlock ha hcode
      · next hcode =>
        cases hs
        exact .ret ha hcode

namespace Program

/-- Run on its own, with the mutex given back or never obtained, the call returns `r`. -/
inductive Returns (p : Program S C F R) (c : C) : F → R → Prop
  | internal {f g r} : p.code c f = .internal g → p.Returns c g r → p.Returns c f r
  | ret {f r} : p.code c f = .ret r → p.Returns c f r

/-- Run on its own inside the mutex, the call takes the shared state from `s` to `s'`, gives the
mutex back and returns `r`. -/
inductive Finishes (p : Program S C F R) (c : C) : F → S → S → R → Prop
  | access {f run s s' r} : p.code c f = .access run →
      p.Finishes c (run s).2 (run s).1 s' r → p.Finishes c f s s' r
  | internal {f g s s' r} : p.code c f = .internal g → p.Finishes c g s s' r →
      p.Finishes c f s s' r
  | unlock {f g s r} : p.code c f = .unlock g → p.Returns c g r → p.Finishes c f s s r

/-- Before the mutex, the call either gives up with its answer for that, or reaches the mutex,
and then behaves as `exec` once it is obtained and gives up when the wait ends. -/
inductive Enters (p : Program S C F R) (exec : S → C → S × R) (giveUp : C → R) (c : C) :
    F → Prop
  | internal {f g} : p.code c f = .internal g → p.Enters exec giveUp c g →
      p.Enters exec giveUp c f
  | lock {f g h} : p.code c f = .lock g h →
      (∀ s, p.Finishes c g s (exec s c).1 (exec s c).2) → p.Returns c h (giveUp c) →
      p.Enters exec giveUp c f
  | refuse {f} : p.code c f = .ret (giveUp c) → p.Enters exec giveUp c f

/-- Outside the mutex a call only works on private data, until it returns. -/
theorem Returns.inv {p : Program S C F R} {c : C} {f : F} {r : R} (h : p.Returns c f r) :
    match p.code c f with
    | .internal g => p.Returns c g r
    | .ret r' => r' = r
    | _ => False := by
  cases h with
  | internal hc hr => simpa only [hc] using hr
  | ret hc => simp only [hc]

/-- Inside the mutex a call works on shared or private data, until it gives the mutex back. -/
theorem Finishes.inv {p : Program S C F R} {c : C} {f : F} {s s' : S} {r : R}
    (h : p.Finishes c f s s' r) :
    match p.code c f with
    | .access run => p.Finishes c (run s).2 (run s).1 s' r
    | .internal g => p.Finishes c g s s' r
    | .unlock g => s = s' ∧ p.Returns c g r
    | _ => False := by
  cases h with
  | access hc hf => simpa only [hc] using hf
  | internal hc hf => simpa only [hc] using hf
  | unlock hc hr => simpa only [hc, true_and] using hr

/-- Before the mutex a call only works on private data, until it gives up or waits. -/
theorem Enters.inv {p : Program S C F R} {exec : S → C → S × R} {giveUp : C → R} {c : C} {f : F}
    (h : p.Enters exec giveUp c f) :
    match p.code c f with
    | .internal g => p.Enters exec giveUp c g
    | .lock g g' => (∀ s, p.Finishes c g s (exec s c).1 (exec s c).2) ∧ p.Returns c g' (giveUp c)
    | .ret r => r = giveUp c
    | _ => False := by
  cases h with
  | internal hc he => simpa only [hc] using he
  | lock hc hf hr =>
    simp only [hc]
    exact ⟨hf, hr⟩
  | refuse hc => simp only [hc]

end Program

end Base.Monitor
