import SensorAggregator.System.Step
import SensorAggregator.Tasks.StallReference

/-!
# The stall check in runs of the system

`StallPasses` takes `s_state` from one call of `consumer_check_stall` to the next and leaves open
what else the consumer does to it. In every run of the system nothing else touches the words that
the check keeps, from the task's start on.
-/

namespace SensorAggregator.System

open Base Datalog Tasks

variable {b : Board} {as bs : List Action} {s t u : State} {a : Action}

/-- The machine of the stretches without a start of the consumer and without a stall check. -/
def stepUnchecked (b : Board) : State → Action → Option State :=
  Machine.restrict (fun _ a ↦ match a with
    | .consumerStart | .consumerStall => false
    | _ => true) (step b)

private theorem sameStall_next (hstart : a ≠ .consumerStart) (hstall : a ≠ .consumerStall) :
    SameStall s.consumer.state (s.next b a).consumer.state := by
  have hstep := s.consumerState_next b a
  generalize (s.next b a).consumer.state = state' at hstep ⊢
  cases hstep with
  | started => exact absurd rfl hstart
  | checkedStall => exact absurd rfl hstall
  | toggled lock =>
    unfold Consumer.toggled
    split <;> exact ⟨rfl, rfl, rfl⟩
  | same | sawDepth | timedOut | processed => exact ⟨rfl, rfl, rfl⟩

private theorem sameStall_unchecked (hrun : Machine.run (stepUnchecked b) s as = some t) :
    SameStall s.consumer.state t.consumer.state := by
  refine Machine.run_invariant (I := fun t ↦ SameStall s.consumer.state t.consumer.state)
    ⟨rfl, rfl, rfl⟩ ?_ hrun
  intro t a u ih hstep
  obtain ⟨hok, hstep⟩ := Machine.restrict_eq_some.mp hstep
  obtain ⟨-, -, rfl⟩ := step_eq_some.mp hstep
  have hstart : a ≠ .consumerStart := by
    rintro rfl
    exact Bool.noConfusion hok
  have hstall : a ≠ .consumerStall := by
    rintro rfl
    exact Bool.noConfusion hok
  have hnext := sameStall_next (b := b) (s := t) hstart hstall
  exact ⟨hnext.stallReported.trans ih.stallReported,
    hnext.lastProducerSamples.trans ih.lastProducerSamples,
    hnext.lastProgressTick.trans ih.lastProgressTick⟩

/-- Until it starts, the consumer is as `task_consumer_create` left it. -/
theorem Reaches.consumer_boot (h : Reaches b as s) (hpc : s.consumer.pc = .start) :
    s.consumer = Consumer.boot := by
  revert hpc
  refine h.induction (P := fun _ s ↦ s.consumer.pc = .start → s.consumer = Consumer.boot) ?_ ?_
  · rintro s₀ ⟨_, _, _, _, _, rfl⟩ _
    rfl
  · intro as s a _ ih ha hpc
    by_cases htask : a.task = some .consumer
    · -- no step of the consumer leads back to its start
      have hpoint := hpc ▸ s.pc_consumer_next b ha htask
      cases a <;> simp [State.consumerPoints] at hpoint
    · rw [(s.next_consumer b htask).1] at hpc ⊢
      exact ih hpc

/-- The stretch up to the first check is a start of `StallPasses`. -/
theorem Reaches.stall_started (h : Reaches b as s) (hstep : step b s .consumerStart = some t)
    (hrun : Machine.run (stepUnchecked b) t bs = some u) :
    u.consumer.state.stallReported = false ∧ u.consumer.state.lastProducerSamples = 0 ∧
      u.consumer.state.lastProgressTick = UInt32.ofNat s.wdog.tick := by
  obtain ⟨-, ha, rfl⟩ := step_eq_some.mp hstep
  have hboot := h.consumer_boot (beq_iff_eq.mp ha)
  have hkept := sameStall_unchecked hrun
  have hstate : (s.next b .consumerStart).consumer.state =
      { Consumer.boot.state with lastProgressTick := UInt32.ofNat s.wdog.tick } := by
    rw [← hboot]
    rfl
  rw [hstate] at hkept
  exact ⟨hkept.stallReported, hkept.lastProducerSamples, hkept.lastProgressTick⟩

/-- The stretch from one check to the next is a pass of `StallPasses`. -/
theorem stall_kept (hstep : step b s .consumerStall = some t)
    (hrun : Machine.run (stepUnchecked b) t bs = some u) :
    SameStall (consumerCheckStall b.cfg s.consumer.state s.consumer.nowTick
      s.producer.stats.samples).1 u.consumer.state := by
  obtain ⟨-, -, rfl⟩ := step_eq_some.mp hstep
  exact sameStall_unchecked hrun

end SensorAggregator.System
