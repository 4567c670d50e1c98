import SensorAggregator.Base.Measure
import SensorAggregator.System.Step

/-!
# The reported queue peak

`consumer_task` takes a message off its queue, and only then asks how many are waiting and adds
the one it took, `task_consumer.c:502–509`. A message that comes in between is counted next to
one that is no longer there. The peak it keeps is a depth the queue really had as long as no such
message brings the queue back to its longest.
-/

namespace SensorAggregator.System

open Base Datalog Tasks

variable {b : Board} {as bs : List Action} {s₀ s t : State} {a : Action}

/-- The largest number of messages that were in the queue at the same time. -/
def mostQueued (b : Board) (s₀ : State) (as : List Action) : ℕ :=
  Machine.peak (step b) (fun s ↦ s.queue.length) s₀ as

/-- All along the run, the reported peak is no more than the queue held at one time and no more
than it can hold. -/
def PeakIsReal (b : Board) (s₀ : State) (as : List Action) : Prop :=
  ∀ bs t, bs <+: as → Machine.run (step b) s₀ bs = some t →
    t.consumer.state.queueDepthPeak.toNat ≤ mostQueued b s₀ bs ∧
      t.consumer.state.queueDepthPeak.toNat ≤ b.cfg.consumerQueueLen.toNat

/-- No message that is accepted between the consumer's `xQueueReceive` and its
`uxQueueMessagesWaiting` makes the queue as long as it has ever been. -/
def Undisturbed (b : Board) (s₀ : State) (as : List Action) : Prop :=
  ∀ bs a t, bs ++ [a] <+: as → Machine.run (step b) s₀ bs = some t → t.consumer.pc = .depth →
    t.queue.length < (t.next b a).queue.length →
      (t.next b a).queue.length < mostQueued b s₀ bs

section steps

private theorem queueDepthPeak_next (hne : a ≠ .consumerDepth) :
    (s.next b a).consumer.state.queueDepthPeak = s.consumer.state.queueDepthPeak := by
  have hstep := s.consumerState_next b a
  generalize (s.next b a).consumer.state = state' at hstep ⊢
  cases hstep with
  | sawDepth => exact absurd rfl hne
  | toggled lock =>
    unfold Consumer.toggled
    split <;> rfl
  | checkedStall =>
    unfold consumerCheckStall
    split
    · rfl
    · split <;> rfl
  | same | started | timedOut | processed => rfl

private theorem length_send (cfg : AppConfig) (queue : List ConsumerMsg) (msg : ConsumerMsg) :
    (taskConsumerSend cfg queue msg).1.length = queue.length ∨
      ((taskConsumerSend cfg queue msg).1.length = queue.length + 1 ∧
        queue.length < cfg.consumerQueueLen.toNat) := by
  unfold taskConsumerSend
  split
  · next hroom => exact .inr ⟨List.length_append, hroom⟩
  · exact .inl rfl

private theorem length_queue_next (hne : a ≠ .consumerReceive) :
    (s.next b a).queue.length = s.queue.length ∨
      ((s.next b a).queue.length = s.queue.length + 1 ∧
        s.queue.length < b.cfg.consumerQueueLen.toNat) := by
  cases s.next_queue b hne with
  | inl hsame => exact .inl (by rw [hsame])
  | inr hsent =>
    obtain ⟨msg, hqueue, -⟩ := hsent
    rw [hqueue]
    exact length_send b.cfg s.queue msg

private theorem length_queue_receive (ha : s.enabled .consumerReceive = true) :
    (s.next b .consumerReceive).queue.length + 1 = s.queue.length := by
  have hne : s.queue ≠ [] := by simp_all [State.enabled]
  have hpos := List.length_pos_iff.mpr hne
  rw [State.next, s.consumerReceive_queue, List.length_tail]
  omega

private theorem next_of_depth (ha : s.enabled a = true) (hpc : s.consumer.pc = .depth)
    (hne : a ≠ .consumerDepth) : (s.next b a).consumer = s.consumer ∧ a ≠ .consumerReceive := by
  have htask : a.task ≠ some .consumer := by
    intro htask
    cases a with
    | consumerDepth => exact hne rfl
    | checkinTest client | checkinRead client | checkinStore client =>
      cases htask
      simp [State.enabled, State.atCheckin, hpc] at ha
    | consumerReceive | consumerReceiveTimeOut | consumerStart | consumerHandle | consumerReport
    | consumerDrain | consumerRead | consumerProcess | consumerStallTick | consumerStall =>
      simp [State.enabled, hpc] at ha
    | _ => cases htask
  refine ⟨(s.next_consumer b htask).1, ?_⟩
  rintro rfl
  exact htask rfl

private theorem depth_of_next (ha : s.enabled a = true) (hne : a ≠ .consumerReceive)
    (hpc : (s.next b a).consumer.pc = .depth) : s.consumer.pc = .depth := by
  by_cases htask : a.task = some .consumer
  · have hpoint := hpc ▸ s.pc_consumer_next b ha htask
    cases a with
    | consumerReceive => exact absurd rfl hne
    | _ => simp [State.consumerPoints] at hpoint
  · rw [(s.next_consumer b htask).1] at hpc
    exact hpc

end steps

private theorem mostQueued_concat (hrun : Machine.run (step b) s₀ as = some s)
    (hstep : step b s a = some t) :
    mostQueued b s₀ (as ++ [a]) = max (mostQueued b s₀ as) t.queue.length :=
  Machine.peak_concat _ hrun hstep

/-- What the queue holds is no more than the most it held. -/
theorem length_le_mostQueued (hrun : Machine.run (step b) s₀ as = some s) :
    s.queue.length ≤ mostQueued b s₀ as :=
  Machine.le_peak (fun s ↦ s.queue.length) hrun

/-- The queue never holds more than it can. -/
theorem mostQueued_le (hs₀ : Starts b.cfg s₀) (hrun : Machine.run (step b) s₀ as = some s) :
    mostQueued b s₀ as ≤ b.cfg.consumerQueueLen.toNat := by
  refine Machine.run_induction
    (P := fun as _ ↦ mostQueued b s₀ as ≤ b.cfg.consumerQueueLen.toNat) ?_ ?_ hrun
  · obtain ⟨_, _, _, _, _, rfl⟩ := hs₀
    exact Nat.zero_le _
  · intro as s a t hrun ih hstep
    have hle := length_le_mostQueued hrun
    rw [mostQueued_concat hrun hstep]
    obtain ⟨_, _, rfl⟩ := step_eq_some.mp hstep
    apply Nat.max_le.mpr
    refine ⟨ih, ?_⟩
    by_cases hreceive : a = .consumerReceive
    · subst hreceive
      have hshorter : (s.next b .consumerReceive).queue.length ≤ s.queue.length := by
        rw [State.next, s.consumerReceive_queue, List.length_tail]
        exact Nat.sub_le _ 1
      omega
    · rcases length_queue_next (b := b) (s := s) hreceive with h | ⟨h, hroom⟩ <;> omega

private theorem toNat_queueDepthPeak_depth (hlen : s.queue.length + 1 < 2 ^ 32) :
    (s.next b .consumerDepth).consumer.state.queueDepthPeak.toNat =
      max s.consumer.state.queueDepthPeak.toNat (s.queue.length + 1) := by
  have hdepth : (UInt32.ofNat s.queue.length + 1).toNat = s.queue.length + 1 := by
    rw [← Counter.ofNat_succ, Counter.toNat_ofNat_of_lt hlen]
  simp only [State.next, Consumer.sawDepth, raiseMax, UInt32.lt_iff_toNat_lt]
  split <;> omega

private theorem Undisturbed.of_concat (h : Undisturbed b s₀ (as ++ [a])) : Undisturbed b s₀ as :=
  fun bs c t hbs ↦ h bs c t (hbs.trans (List.prefix_append _ _))

private theorem Undisturbed.peak_le (hs₀ : Starts b.cfg s₀)
    (hrun : Machine.run (step b) s₀ as = some s) (h : Undisturbed b s₀ as) :
    s.consumer.state.queueDepthPeak.toNat ≤ mostQueued b s₀ as ∧
      (s.consumer.pc = .depth → s.queue.length + 1 ≤ mostQueued b s₀ as) := by
  revert h
  refine Machine.run_induction (P := fun as s ↦ Undisturbed b s₀ as →
    s.consumer.state.queueDepthPeak.toNat ≤ mostQueued b s₀ as ∧
      (s.consumer.pc = .depth → s.queue.length + 1 ≤ mostQueued b s₀ as)) ?_ ?_ hrun
  · intro _
    obtain ⟨_, _, _, _, _, rfl⟩ := hs₀
    exact ⟨Nat.zero_le _, fun hpc ↦ ConsumerPc.noConfusion hpc⟩
  · intro as s a t hrun ih hstep h
    obtain ⟨hpeak, hdepth⟩ := ih h.of_concat
    have hmost := mostQueued_concat hrun hstep
    have hle := length_le_mostQueued hrun
    have hcap := mostQueued_le hs₀ hrun
    have hcap' := b.cfg.consumerQueueLen.toNat_lt
    have hsends := h as a s (List.prefix_refl _) hrun
    obtain ⟨_, ha, rfl⟩ := step_eq_some.mp hstep
    by_cases hcall : a = .consumerDepth
    · subst hcall
      have hpc : s.consumer.pc = .depth := beq_iff_eq.mp ha
      have hroom := hdepth hpc
      refine ⟨?_, fun hpc' ↦ ConsumerPc.noConfusion hpc'⟩
      rw [toNat_queueDepthPeak_depth (by omega)]
      omega
    · rw [queueDepthPeak_next hcall]
      refine ⟨by omega, fun hpc' ↦ ?_⟩
      by_cases hreceive : a = .consumerReceive
      · subst hreceive
        have htaken := length_queue_receive (b := b) ha
        omega
      · have hpc := depth_of_next ha hreceive hpc'
        have hroom := hdepth hpc
        have hsends := hsends hpc
        rcases length_queue_next (b := b) (s := s) hreceive with hq | ⟨hq, -⟩ <;> omega

private theorem disturbed_run (hlen : b.cfg.consumerQueueLen.toNat + 1 < 2 ^ 32)
    (hs₀ : Starts b.cfg s₀) (hreal : PeakIsReal b s₀ (as ++ bs))
    (hrun : Machine.run (step b) s₀ as = some s)
    (hpc : s.consumer.pc = .depth) (hmost : mostQueued b s₀ as ≤ s.queue.length)
    (hrest : Machine.run (step b) s bs = some t) : t.consumer.pc = .depth := by
  induction bs generalizing as s with
  | nil =>
    cases hrest
    exact hpc
  | cons a bs ih =>
    obtain ⟨u, hstep, hrest⟩ := Option.bind_eq_some_iff.mp hrest
    have hrun' := Machine.run_concat_eq_some.mpr ⟨s, hrun, hstep⟩
    have hmost' := mostQueued_concat hrun hstep
    rw [List.append_cons] at hreal
    obtain ⟨_, ha, rfl⟩ := step_eq_some.mp hstep
    by_cases hcall : a = .consumerDepth
    · subst hcall
      have hle := length_le_mostQueued hrun
      have hcap := mostQueued_le hs₀ hrun
      have hover := (hreal _ _ (List.prefix_append _ _) hrun').1
      have hkept : (s.next b .consumerDepth).queue = s.queue := rfl
      rw [hmost', hkept, toNat_queueDepthPeak_depth (by omega)] at hover
      omega
    · obtain ⟨hconsumer, hreceive⟩ := next_of_depth (b := b) ha hpc hcall
      refine ih hreal hrun' (by rw [hconsumer, hpc]) ?_ hrest
      rcases length_queue_next (b := b) (s := s) hreceive with hq | ⟨hq, -⟩ <;> omega

/-- The peak that the statistics report is a depth the queue really had in every undisturbed run;
and, for every queue whose length leaves room for one more in 32 bits, in no other run that does
not end between the two calls. -/
theorem queueDepthPeak_real (hs₀ : Starts b.cfg s₀)
    (hrun : Machine.run (step b) s₀ as = some s) :
    (Undisturbed b s₀ as → PeakIsReal b s₀ as) ∧
      (b.cfg.consumerQueueLen.toNat + 1 < 2 ^ 32 → s.consumer.pc ≠ .depth →
        PeakIsReal b s₀ as → Undisturbed b s₀ as) := by
  constructor
  · intro h bs t hbs hrun
    have hle := (Undisturbed.peak_le hs₀ hrun fun cs a u hcs ↦ h cs a u (hcs.trans hbs)).1
    exact ⟨hle, hle.trans (mostQueued_le hs₀ hrun)⟩
  · intro hlen hpc hreal bs a t hbs hrun' hdepth hgrows
    by_contra hmost
    obtain ⟨cs, rfl⟩ := hbs
    obtain ⟨u, hu, hrest⟩ := Machine.run_append_eq_some.mp hrun
    obtain ⟨t', ht', hstep⟩ := Machine.run_concat_eq_some.mp hu
    cases Option.some.inj (hrun'.symm.trans ht')
    have hmost' := mostQueued_concat hrun' hstep
    obtain ⟨_, ha, rfl⟩ := step_eq_some.mp hstep
    have hcall : a ≠ .consumerDepth := by
      rintro rfl
      exact absurd hgrows (Nat.lt_irrefl _)
    have hconsumer := (next_of_depth (b := b) ha hdepth hcall).1
    exact hpc (disturbed_run hlen hs₀ hreal hu (by rw [hconsumer, hdepth]) (by omega) hrest)

/-- Nothing is sent between the two calls of the consumer. -/
def quietDepth (b : Board) (s : State) (a : Action) : Bool :=
  s.consumer.pc != .depth || decide ((s.next b a).queue.length ≤ s.queue.length)

/-- A run without such a send is undisturbed. -/
theorem undisturbed_of_quiet
    (hrun : Machine.run (Machine.restrict (quietDepth b) (step b)) s₀ as = some s) :
    Undisturbed b s₀ as := by
  rintro bs a t ⟨cs, rfl⟩ ht hdepth hgrows
  obtain ⟨u, hu, -⟩ := Machine.run_append_eq_some.mp hrun
  obtain ⟨t', ht', hstep⟩ := Machine.run_concat_eq_some.mp hu
  cases Option.some.inj (ht.symm.trans (Machine.run_of_run_restrict ht'))
  have hquiet := (Machine.restrict_eq_some.mp hstep).1
  simp [quietDepth, hdepth] at hquiet
  omega

-- One pass of the UI over the keys typed, from its delay to its check-in.
private def uiPass (keys : List Char) : List Action :=
  [.uiWake, .uiPress4 false, .uiPress5 false] ++ keys.map .uiKey ++
    [.uiKeysDone, .checkinTest .ui, .checkinRead .ui, .checkinStore .ui]

-- Two keys wait, and the consumer takes the first one undisturbed.
private def quietRun : List Action :=
  .consumerStart :: uiPass ['h', 'h'] ++ [.consumerReceive, .consumerDepth]

/-- There the peak of two is real. -/
theorem queueDepthPeak_real_quiet :
    ∃ s, Machine.run (step ⟨appConfig, true, 2000⟩) (powerOn appConfig) quietRun = some s ∧
      s.consumer.state.queueDepthPeak = 2 ∧
      PeakIsReal ⟨appConfig, true, 2000⟩ (powerOn appConfig) quietRun := by
  have hrun : (Machine.run (Machine.restrict (quietDepth ⟨appConfig, true, 2000⟩)
      (step ⟨appConfig, true, 2000⟩)) (powerOn appConfig) quietRun).any
        (fun s ↦ s.consumer.state.queueDepthPeak == 2) = true := by
    decide +kernel
  obtain ⟨s, hs, hpeak⟩ := (Option.any_eq_true _ _).mp hrun
  have hs' := Machine.run_of_run_restrict hs
  exact ⟨s, hs', beq_iff_eq.mp hpeak,
    (queueDepthPeak_real (b := ⟨appConfig, true, 2000⟩) (starts_powerOn (by decide +kernel))
      hs').1 (undisturbed_of_quiet hs)⟩

-- Sixteen keys fill the queue, the consumer takes one of them, and a key that comes before it
-- asks for the depth fills the queue again.
private def burst : List Action :=
  uiPass (List.replicate 16 'h') ++ [.consumerStart, .consumerReceive] ++ uiPass ['h'] ++
    [.consumerDepth]

/-- The queue of 16 never held more than 16 messages, and the reported peak is 17. -/
theorem queueDepthPeak_not_real :
    ∃ s, Reaches ⟨appConfig, true, 2000⟩ burst s ∧
      s.consumer.state.queueDepthPeak = 17 ∧ appConfig.consumerQueueLen = 16 ∧
      mostQueued ⟨appConfig, true, 2000⟩ (powerOn appConfig) burst = 16 ∧
      ¬ PeakIsReal ⟨appConfig, true, 2000⟩ (powerOn appConfig) burst := by
  have hrun : (Machine.run (step ⟨appConfig, true, 2000⟩) (powerOn appConfig) burst).any
      (fun s ↦ s.consumer.state.queueDepthPeak == 17) = true := by
    decide +kernel
  obtain ⟨s, hs, hpeak⟩ := (Option.any_eq_true _ _).mp hrun
  have hpeak := beq_iff_eq.mp hpeak
  refine ⟨s, ⟨_, starts_powerOn (by decide +kernel), hs⟩, hpeak, rfl, by decide +kernel, ?_⟩
  intro hreal
  have hle := (hreal burst s (List.prefix_refl _) hs).2
  rw [hpeak] at hle
  exact absurd hle (by decide)

end SensorAggregator.System
