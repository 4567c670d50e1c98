import SensorAggregator.System.Step

/-!
# What a task has done when it checks in

`LoopBody` lists a task's own steps from the head of its loop to the read of the tick count in
its check-in: `task_producer.c:168–213`, `task_ui.c:108–136` and `task_consumer.c:494–517`. In
every run, a task that is about to read that tick count has gone through such a body since its
last check-in, and not through anything else.
-/

namespace SensorAggregator.System

open Base Datalog Tasks

variable {b : Board} {as : List Action} {s : State}

/-- The client's own steps since its last check-in, after one more step of the system. -/
def ownStep (client : WdogClient) (l : List Action) (a : Action) : List Action :=
  if a.task = some client then
    match a with
    | .checkinStore _ => []
    | _ => l ++ [a]
  else l

private theorem ownStep_of_ne {client : WdogClient} {l : List Action} {a : Action}
    (h : a.task ≠ some client) : ownStep client l a = l := if_neg h

/-- The client's own steps since its last check-in, or since the start. -/
def currentPass (client : WdogClient) (as : List Action) : List Action :=
  as.foldl (ownStep client) []

/-- Receiving a message, or nothing, and handling it, `task_consumer.c:502–512`. -/
inductive MessageSteps : List Action → Prop
  | nothing : MessageSteps [.consumerReceiveTimeOut]
  | message (lock : Option Hold) :
      MessageSteps [.consumerReceive, .consumerDepth, .consumerHandle lock]
  | report (lock : Option Hold) :
      MessageSteps [.consumerReceive, .consumerDepth, .consumerHandle lock, .consumerReport]

/-- The steps inside `consumer_drain_log`, `task_consumer.c:366–384`. -/
def drains : Action → Bool
  | .consumerRead _ | .consumerProcess => true
  | _ => false

/-- A whole loop body up to the read of the tick count. A wake-up of the producer has a pending
tick; the waits before it that ended without one do not check in. The consumer's first body
begins where the task does. -/
inductive LoopBody : WdogClient → List Action → Prop
  | producer (timeOuts : ℕ) (captureUs : UInt64) (sensors : XadcSample) (buttons : UInt8)
      (writeStartUs : UInt64) (lock : Option Hold) (nowUs : UInt64) (ring : List Action)
      (hring : ring = [] ∨ ring = [.producerRing]) :
      LoopBody .producer (List.replicate timeOuts .producerTimeOut ++
        [.producerWake, .producerSample captureUs sensors buttons writeStartUs,
          .producerWrite lock nowUs] ++ ring ++ [.producerUpdate, .checkinTest .producer])
  | ui (press4 press5 : Bool) (keys : List Char) :
      LoopBody .ui ([.uiWake, .uiPress4 press4, .uiPress5 press5] ++ keys.map .uiKey ++
        [.uiKeysDone, .checkinTest .ui])
  | consumer (start message drain : List Action) (hstart : start = [] ∨ start = [.consumerStart])
      (hmessage : MessageSteps message) (hdrain : ∀ a ∈ drain, drains a = true) :
      LoopBody .consumer (start ++ message ++ [.consumerDrain] ++ drain ++
        [.consumerStallTick, .consumerStall, .checkinTest .consumer])

/-- The producer's steps so far, at every point of its loop. -/
def ProducerDid : ProducerPc → List Action → Prop
  | .waitTick, l => ∃ n, l = List.replicate n .producerTimeOut
  | .sample, l => ∃ n, l = List.replicate n .producerTimeOut ++ [.producerWake]
  | .write, l => ∃ n captureUs sensors buttons writeStartUs,
      l = List.replicate n .producerTimeOut ++
        [.producerWake, .producerSample captureUs sensors buttons writeStartUs]
  | .ring, l => ∃ n captureUs sensors buttons writeStartUs lock nowUs,
      l = List.replicate n .producerTimeOut ++ [.producerWake,
        .producerSample captureUs sensors buttons writeStartUs, .producerWrite lock nowUs]
  | .update, l => ∃ n captureUs sensors buttons writeStartUs lock nowUs ring,
      (ring = [] ∨ ring = [.producerRing]) ∧
        l = List.replicate n .producerTimeOut ++ [.producerWake,
          .producerSample captureUs sensors buttons writeStartUs, .producerWrite lock nowUs] ++ ring
  | .checkin .test, l => LoopBody .producer (l ++ [.checkinTest .producer])
  | .checkin .read, l => LoopBody .producer l
  | .checkin .store, _ | .hung, _ => True

/-- The UI task's steps so far, at every point of its loop. -/
def UiDid : UiPc → List Action → Prop
  | .delay, l => l = []
  | .press4, l => l = [.uiWake]
  | .press5, l => ∃ press4, l = [.uiWake, .uiPress4 press4]
  | .keys, l => ∃ press4 press5 keys,
      l = [.uiWake, .uiPress4 press4, .uiPress5 press5] ++ List.map .uiKey keys
  | .checkin .test, l => LoopBody .ui (l ++ [.checkinTest .ui])
  | .checkin .read, l => LoopBody .ui l
  | .checkin .store, _ | .hung, _ => True

/-- The consumer's steps so far, at every point of its loop. -/
def ConsumerDid : ConsumerPc → List Action → Prop
  | .start, l => l = []
  | .receive, l => l = [] ∨ l = [.consumerStart]
  | .depth, l => ∃ start, (start = [] ∨ start = [.consumerStart]) ∧ l = start ++ [.consumerReceive]
  | .handle, l => ∃ start, (start = [] ∨ start = [.consumerStart]) ∧
      l = start ++ [.consumerReceive, .consumerDepth]
  | .report, l => ∃ start lock, (start = [] ∨ start = [.consumerStart]) ∧
      l = start ++ [.consumerReceive, .consumerDepth, .consumerHandle lock]
  | .drain, l => ∃ start message, (start = [] ∨ start = [.consumerStart]) ∧
      MessageSteps message ∧ l = start ++ message
  | .read, l | .process, l | .stallTick, l => ∃ start message drain,
      (start = [] ∨ start = [.consumerStart]) ∧ MessageSteps message ∧
        (∀ a ∈ drain, drains a = true) ∧ l = start ++ message ++ [.consumerDrain] ++ drain
  | .stall, l => LoopBody .consumer (l ++ [.consumerStall, .checkinTest .consumer])
  | .checkin .test, l => LoopBody .consumer (l ++ [.checkinTest .consumer])
  | .checkin .read, l => LoopBody .consumer l
  | .checkin .store, _ | .hung, _ => True

private theorem ConsumerDid.drain {l : List Action} {a : Action} (h : ConsumerDid .read l)
    (ha : drains a = true) : ConsumerDid .read (l ++ [a]) := by
  obtain ⟨start, message, drain, hstart, hmessage, hdrain, rfl⟩ := h
  refine ⟨start, message, drain ++ [a], hstart, hmessage, ?_, by simp⟩
  intro a' ha'
  rcases List.mem_append.mp ha' with ha' | ha'
  · exact hdrain a' ha'
  · rw [List.mem_singleton.mp ha']
    exact ha

private theorem Reaches.did {κ : Type} {client : WdogClient} (pc : State → κ)
    {Did : κ → List Action → Prop} (start : ∀ s₀, Starts b.cfg s₀ → Did (pc s₀) [])
    (others : ∀ (s : State) a, a.task ≠ some client → pc (s.next b a) = pc s)
    (own : ∀ (s : State) a l, s.enabled a = true → a.task = some client → Did (pc s) l →
      Did (pc (s.next b a)) (ownStep client l a))
    (h : Reaches b as s) : Did (pc s) (currentPass client as) := by
  refine h.induction (P := fun as s ↦ Did (pc s) (currentPass client as)) start ?_
  intro as s a _ ih ha
  rw [currentPass, List.foldl_concat, ← currentPass]
  by_cases htask : a.task = some client
  · exact own s a _ ha htask ih
  · rw [others s a htask, ownStep_of_ne htask]
    exact ih

private theorem ProducerDid.next {l : List Action} {a : Action} (ih : ProducerDid s.producer.pc l)
    (ha : s.enabled a = true) (htask : a.task = some .producer) :
    ProducerDid (s.next b a).producer.pc (ownStep .producer l a) := by
  cases a with
  | producerWake =>
    have hpc : s.producer.pc = .waitTick := beq_iff_eq.mp (Bool.and_eq_true_iff.mp ha).1
    rw [hpc] at ih
    obtain ⟨n, rfl⟩ := ih
    exact ⟨n, rfl⟩
  | producerTimeOut =>
    have hpc : s.producer.pc = .waitTick := beq_iff_eq.mp (Bool.and_eq_true_iff.mp ha).1
    rw [hpc] at ih
    obtain ⟨n, rfl⟩ := ih
    show ProducerDid s.producer.pc _
    rw [hpc]
    exact ⟨n + 1, List.replicate_succ'.symm⟩
  | producerSample captureUs sensors buttons writeStartUs =>
    have hpc : s.producer.pc = .sample := beq_iff_eq.mp ha
    rw [hpc] at ih
    obtain ⟨n, rfl⟩ := ih
    exact ⟨n, captureUs, sensors, buttons, writeStartUs, by simp [ownStep, Action.task]⟩
  | producerWrite lock nowUs =>
    have hpc : s.producer.pc = .write := beq_iff_eq.mp ha
    rw [hpc] at ih
    obtain ⟨n, captureUs, sensors, buttons, writeStartUs, rfl⟩ := ih
    have hwrote : ∀ stored logWasEmpty,
        ProducerDid (s.producer.wrote stored logWasEmpty nowUs).pc
          ((List.replicate n .producerTimeOut ++ [.producerWake,
            .producerSample captureUs sensors buttons writeStartUs]) ++
            [.producerWrite lock nowUs]) := by
      intro stored logWasEmpty
      rcases s.producer.pc_wrote stored logWasEmpty nowUs with h | h <;> rw [h]
      · exact ⟨n, captureUs, sensors, buttons, writeStartUs, lock, nowUs, by simp⟩
      · exact ⟨n, captureUs, sensors, buttons, writeStartUs, lock, nowUs, [], .inl rfl, by simp⟩
    exact hwrote _ _
  | producerRing =>
    have hpc : s.producer.pc = .ring := beq_iff_eq.mp ha
    rw [hpc] at ih
    obtain ⟨n, captureUs, sensors, buttons, writeStartUs, lock, nowUs, rfl⟩ := ih
    exact ⟨n, captureUs, sensors, buttons, writeStartUs, lock, nowUs, [.producerRing],
      .inr rfl, rfl⟩
  | producerUpdate =>
    have hpc : s.producer.pc = .update := beq_iff_eq.mp ha
    rw [hpc] at ih
    obtain ⟨n, captureUs, sensors, buttons, writeStartUs, lock, nowUs, ring, hring, rfl⟩ := ih
    have hbody := LoopBody.producer n captureUs sensors buttons writeStartUs lock nowUs ring
      hring
    show LoopBody .producer _
    simpa [ownStep, Action.task] using hbody
  | checkinTest client =>
    cases htask
    have hpc : s.producer.pc = .checkin .test := beq_iff_eq.mp ha
    rw [hpc] at ih
    show ProducerDid (s.checkinTest b.cfg .producer).producer.pc _
    rcases s.checkinTest_cases b.cfg .producer with h | h <;> rw [beq_iff_eq.mp h]
    · trivial
    · exact ih
  | checkinRead client =>
    cases htask
    trivial
  | checkinStore client =>
    cases htask
    exact ⟨0, rfl⟩
  | _ => cases htask

/-- The producer's steps in every run. -/
theorem Reaches.producerDid (h : Reaches b as s) :
    ProducerDid s.producer.pc (currentPass .producer as) := by
  refine Reaches.did (fun s ↦ s.producer.pc) ?_ ?_ ?_ h
  · rintro s₀ ⟨_, _, _, _, _, rfl⟩
    exact ⟨0, rfl⟩
  · exact fun s a htask ↦ congrArg _ ((s.next_producer b htask).1)
  · exact fun s a l ha htask ih ↦ ih.next ha htask

private theorem UiDid.next {l : List Action} {a : Action} (ih : UiDid s.ui.pc l)
    (ha : s.enabled a = true) (htask : a.task = some .ui) :
    UiDid (s.next b a).ui.pc (ownStep .ui l a) := by
  cases a with
  | uiWake =>
    have hpc : s.ui.pc = .delay := beq_iff_eq.mp ha
    rw [hpc] at ih
    obtain rfl := ih
    rfl
  | uiPress4 pressed =>
    have hpc : s.ui.pc = .press4 := beq_iff_eq.mp ha
    rw [hpc] at ih
    obtain rfl := ih
    rw [State.next, State.pc_uiSend]
    exact ⟨pressed, rfl⟩
  | uiPress5 pressed =>
    have hpc : s.ui.pc = .press5 := beq_iff_eq.mp ha
    rw [hpc] at ih
    obtain ⟨press4, rfl⟩ := ih
    rw [State.next, State.pc_uiSend]
    exact ⟨press4, pressed, [], rfl⟩
  | uiKey key =>
    have hpc : s.ui.pc = .keys := beq_iff_eq.mp ha
    rw [hpc] at ih
    obtain ⟨press4, press5, keys, rfl⟩ := ih
    rw [State.next, State.pc_uiSend]
    exact ⟨press4, press5, keys ++ [key], by simp [ownStep, Action.task]⟩
  | uiKeysDone =>
    have hpc : s.ui.pc = .keys := beq_iff_eq.mp ha
    rw [hpc] at ih
    obtain ⟨press4, press5, keys, rfl⟩ := ih
    have hbody := LoopBody.ui press4 press5 keys
    show LoopBody .ui _
    simpa [ownStep, Action.task] using hbody
  | checkinTest client =>
    cases htask
    have hpc : s.ui.pc = .checkin .test := beq_iff_eq.mp ha
    rw [hpc] at ih
    show UiDid (s.checkinTest b.cfg .ui).ui.pc _
    rcases s.checkinTest_cases b.cfg .ui with h | h <;> rw [beq_iff_eq.mp h]
    · trivial
    · exact ih
  | checkinRead client =>
    cases htask
    trivial
  | checkinStore client =>
    cases htask
    rfl
  | _ => cases htask

/-- The UI task's steps in every run. -/
theorem Reaches.uiDid (h : Reaches b as s) :
    UiDid s.ui.pc (currentPass .ui as) := by
  refine Reaches.did (fun s ↦ s.ui.pc) ?_ ?_ ?_ h
  · rintro s₀ ⟨_, _, _, _, _, rfl⟩
    exact rfl
  · exact fun s a htask ↦ congrArg _ (s.next_ui b htask)
  · exact fun s a l ha htask ih ↦ ih.next ha htask

private theorem ConsumerDid.next {l : List Action} {a : Action} (ih : ConsumerDid s.consumer.pc l)
    (ha : s.enabled a = true) (htask : a.task = some .consumer) :
    ConsumerDid (s.next b a).consumer.pc (ownStep .consumer l a) := by
  cases a with
  | consumerStart =>
    have hpc : s.consumer.pc = .start := beq_iff_eq.mp ha
    rw [hpc] at ih
    obtain rfl := ih
    exact .inr rfl
  | consumerReceive =>
    have hpc : s.consumer.pc = .receive := beq_iff_eq.mp (Bool.and_eq_true_iff.mp ha).1
    have hne : s.queue ≠ [] := by simp_all [State.enabled]
    rw [hpc] at ih
    simp only [State.next, State.consumerReceive]
    split
    · contradiction
    · exact ⟨l, ih, rfl⟩
  | consumerReceiveTimeOut =>
    have hpc : s.consumer.pc = .receive := beq_iff_eq.mp (Bool.and_eq_true_iff.mp ha).1
    rw [hpc] at ih
    exact ⟨l, _, ih, .nothing, rfl⟩
  | consumerDepth =>
    have hpc : s.consumer.pc = .depth := beq_iff_eq.mp ha
    rw [hpc] at ih
    obtain ⟨start, hstart, rfl⟩ := ih
    exact ⟨start, hstart, by simp [ownStep, Action.task]⟩
  | consumerHandle lock =>
    have hpc : s.consumer.pc = .handle := beq_iff_eq.mp ha
    rw [hpc] at ih
    obtain ⟨start, hstart, rfl⟩ := ih
    have hdrain : ConsumerDid .drain ((start ++ [.consumerReceive, .consumerDepth]) ++
        [.consumerHandle lock]) := ⟨start, _, hstart, .message lock, by simp⟩
    obtain ⟨log, c, wdog, halted, hs, -, hc, -⟩ := s.consumerHandle_cases b.cfg lock
    simp only [State.next, hs]
    rcases hc with rfl | rfl
    · exact hdrain
    · unfold Consumer.gotNewest
      simp only
      split
      · exact ⟨start, lock, hstart, by simp [ownStep, Action.task]⟩
      · exact hdrain
  | consumerReport =>
    have hpc : s.consumer.pc = .report := beq_iff_eq.mp ha
    rw [hpc] at ih
    obtain ⟨start, lock, hstart, rfl⟩ := ih
    exact ⟨start, _, hstart, .report lock, by simp [ownStep, Action.task]⟩
  | consumerDrain =>
    have hpc : s.consumer.pc = .drain := beq_iff_eq.mp ha
    rw [hpc] at ih
    obtain ⟨start, message, hstart, hmessage, rfl⟩ := ih
    have hdid : ConsumerDid .read ((start ++ message) ++ [.consumerDrain]) :=
      ⟨start, message, [], hstart, hmessage, by simp, by simp⟩
    show ConsumerDid (s.consumer.drain b.cfg).pc _
    rcases s.consumer.pc_drain b.cfg with h | h <;> rw [h] <;> exact hdid
  | consumerRead lock =>
    have hpc : s.consumer.pc = .read := beq_iff_eq.mp ha
    rw [hpc] at ih
    have hgot : ∀ batch batchCount ok,
        ConsumerDid (s.consumer.gotBatch batch batchCount ok).pc
          (l ++ [.consumerRead lock]) := by
      intro batch batchCount ok
      have hdid : ConsumerDid .read (l ++ [.consumerRead lock]) := ConsumerDid.drain ih rfl
      rcases s.consumer.pc_gotBatch batch batchCount ok with h | h <;> rw [h] <;> exact hdid
    exact hgot _ _ _
  | consumerProcess =>
    have hpc : s.consumer.pc = .process := beq_iff_eq.mp ha
    rw [hpc] at ih
    have hdid : ConsumerDid .read (l ++ [.consumerProcess]) := ConsumerDid.drain ih rfl
    show ConsumerDid (s.consumer.process b.cfg).pc _
    rcases Consumer.pc_process b.cfg hpc with h | h | h <;> rw [h] <;> exact hdid
  | consumerStallTick =>
    have hpc : s.consumer.pc = .stallTick := beq_iff_eq.mp ha
    rw [hpc] at ih
    obtain ⟨start, message, drain, hstart, hmessage, hdrain, rfl⟩ := ih
    have hbody := LoopBody.consumer start message drain hstart hmessage hdrain
    show LoopBody .consumer _
    simpa [ownStep, Action.task] using hbody
  | consumerStall =>
    have hpc : s.consumer.pc = .stall := beq_iff_eq.mp ha
    rw [hpc] at ih
    have hbody : LoopBody .consumer (l ++ [.consumerStall, .checkinTest .consumer]) := ih
    show LoopBody .consumer _
    simpa [ownStep, Action.task] using hbody
  | checkinTest client =>
    cases htask
    have hpc : s.consumer.pc = .checkin .test := beq_iff_eq.mp ha
    rw [hpc] at ih
    show ConsumerDid (s.checkinTest b.cfg .consumer).consumer.pc _
    rcases s.checkinTest_cases b.cfg .consumer with h | h <;> rw [beq_iff_eq.mp h]
    · trivial
    · exact ih
  | checkinRead client =>
    cases htask
    trivial
  | checkinStore client =>
    cases htask
    exact .inl rfl
  | _ => cases htask

/-- The consumer's steps in every run. -/
theorem Reaches.consumerDid (h : Reaches b as s) :
    ConsumerDid s.consumer.pc (currentPass .consumer as) := by
  refine Reaches.did (fun s ↦ s.consumer.pc) ?_ ?_ ?_ h
  · rintro s₀ ⟨_, _, _, _, _, rfl⟩
    exact rfl
  · exact fun s a htask ↦ congrArg _ ((s.next_consumer b htask).1)
  · exact fun s a l ha htask ih ↦ ih.next ha htask

end SensorAggregator.System
