import SensorAggregator.System.LoopBody

/-!
# Every kick certifies progress

The supervisor of `task_watchdog.c` sees no more of the tasks than the tick counts they store.
Here the whole system drives it: a tick count is only ever stored at the end of a loop body, so a
kick means that every task has gone through its loop within its limit.
-/

namespace SensorAggregator.System

open Base Datalog Tasks

variable {b : Board} {s₀ s : State} {as : List Action} {client : WdogClient}

namespace State

/-- The tick count a client has read for its check-in. -/
def checkinTick (s : State) : WdogClient → ℕ
  | .producer => s.producer.checkinTick
  | .ui => s.ui.checkinTick
  | .consumer => s.consumer.checkinTick

/-- A client's check-in is its own business. -/
theorem next_client {a : Action} (h : a.task ≠ some client) (stage : CheckinStage) :
    (s.next b a).atCheckin stage client = s.atCheckin stage client ∧
      (s.next b a).checkinTick client = s.checkinTick client := by
  cases client with
  | producer => simp only [atCheckin, checkinTick, (s.next_producer b h).1, and_self]
  | ui => simp only [atCheckin, checkinTick, s.next_ui b h, and_self]
  | consumer => simp only [atCheckin, checkinTick, (s.next_consumer b h).1, and_self]

private theorem next_atStore {a : Action} (ha : s.enabled a = true)
    (h : (s.next b a).atCheckin .store client = true) :
    a = .checkinRead client ∨ (a.task ≠ some client ∧ s.atCheckin .store client = true) := by
  by_cases htask : a.task = some client
  · left
    cases client with
    | producer =>
      have hpc : (s.next b a).producer.pc = .checkin .store := beq_iff_eq.mp h
      have hpoint := hpc ▸ s.pc_producer_next b ha htask
      cases a with
      | checkinRead client =>
        cases htask
        rfl
      | _ => simp [producerPoints] at hpoint
    | ui =>
      have hpc : (s.next b a).ui.pc = .checkin .store := beq_iff_eq.mp h
      have hpoint := hpc ▸ s.pc_ui_next b htask
      cases a with
      | checkinRead client =>
        cases htask
        rfl
      | _ => simp [uiPoints] at hpoint
    | consumer =>
      have hpc : (s.next b a).consumer.pc = .checkin .store := beq_iff_eq.mp h
      have hpoint := hpc ▸ s.pc_consumer_next b ha htask
      cases a with
      | checkinRead client =>
        cases htask
        rfl
      | _ => simp [consumerPoints] at hpoint
  · exact .inr ⟨htask, (next_client htask .store).1 ▸ h⟩

/-- What a step does to the supervisor and what it sees. -/
theorem next_wdog (a : Action) :
    (a = .tick ∧ (s.next b a).wdog = { s.wdog with tick := s.wdog.tick + 1 }) ∨
      (a = .supervisorPass ∧
        (s.next b a).wdog = s.wdog.pass b.cfg b.wdtRunning b.wdtTimeoutMs) ∨
      (∃ client, a = .checkinStore client ∧
        (s.next b a).wdog = s.wdog.checkin client (s.checkinTick client)) ∨
      (∃ client, (s.next b a).wdog = s.wdog.injectHang client) ∨
      (s.next b a).wdog = s.wdog := by
  cases a with
  | tick => exact .inl ⟨rfl, rfl⟩
  | supervisorPass => exact .inr (.inl ⟨rfl, rfl⟩)
  | checkinStore client =>
    refine .inr (.inr (.inl ⟨client, rfl, ?_⟩))
    cases client <;> rfl
  | consumerHandle lock =>
    obtain ⟨_, _, _, _, hs, _, _, hwdog⟩ := s.consumerHandle_cases b.cfg lock
    simp only [next, hs]
    rcases hwdog with rfl | hwdog
    · simp
    · exact .inr (.inr (.inr (.inl hwdog)))
  | uiPress4 | uiPress5 | uiKey => simp [next]
  | consumerReceive =>
    simp only [next, consumerReceive]
    split <;> simp
  | checkinTest client | checkinRead client =>
    cases client <;> simp [next, checkinTest, checkinRead]
  | _ => exact .inr (.inr (.inr (.inr rfl)))

end State

/-- In the run `as` from `s₀` and before pass number `n` of the supervisor, the client had gone
through a whole loop body and read the tick count `t` for the check-in that ends it. -/
def Completed (b : Board) (s₀ : State) (as : List Action) (client : WdogClient) (t n : ℕ) : Prop :=
  ∃ before after s, as = before ++ .checkinRead client :: after ∧
    Machine.run (step b) s₀ before = some s ∧ s.wdog.tick = t ∧ s.wdog.history.length ≤ n ∧
    LoopBody client (currentPass client before)

private theorem Completed.concat {t n : ℕ} (h : Completed b s₀ as client t n) (a : Action) :
    Completed b s₀ (as ++ [a]) client t n := by
  obtain ⟨before, after, s, rfl, hrest⟩ := h
  exact ⟨before, after ++ [a], s, by simp, hrest⟩

private theorem Completed.mono {t m n : ℕ} (h : Completed b s₀ as client t m) (hle : m ≤ n) :
    Completed b s₀ as client t n := by
  obtain ⟨before, after, s, has, hs, ht, hm, hbody⟩ := h
  exact ⟨before, after, s, has, hs, ht, hm.trans hle, hbody⟩

/-- Whoever is about to read the tick count has gone through its loop body. -/
theorem Reaches.loopBody (h : Reaches b as s) (hc : s.atCheckin .read client = true) :
    LoopBody client (currentPass client as) := by
  cases client with
  | producer =>
    have hdid := h.producerDid
    rw [show s.producer.pc = .checkin .read from beq_iff_eq.mp hc] at hdid
    exact hdid
  | ui =>
    have hdid := h.uiDid
    rw [show s.ui.pc = .checkin .read from beq_iff_eq.mp hc] at hdid
    exact hdid
  | consumer =>
    have hdid := h.consumerDid
    rw [show s.consumer.pc = .checkin .read from beq_iff_eq.mp hc] at hdid
    exact hdid

/-- Check-ins are never ahead of the clock, and a client's own never go back. -/
def Clocked (s : State) : Prop :=
  ∀ client, s.wdog.last client ≤ s.wdog.tick ∧
    (s.atCheckin .store client = true →
      s.wdog.last client ≤ s.checkinTick client ∧ s.checkinTick client ≤ s.wdog.tick)

/-- Every step keeps the check-ins with the clock. -/
theorem Clocked.next {a : Action} (h : Clocked s) (ha : s.enabled a = true) :
    Clocked (s.next b a) := by
  have hread : ∀ client, (s.next b (.checkinRead client)).wdog = s.wdog ∧
      (s.next b (.checkinRead client)).checkinTick client = s.wdog.tick := by
    intro client
    cases client <;> exact ⟨rfl, rfl⟩
  have hkept : (s.next b a).wdog.tick = s.wdog.tick → (s.next b a).wdog.last = s.wdog.last →
      Clocked (s.next b a) := by
    intro htick hlast client
    rw [htick, hlast]
    refine ⟨(h client).1, fun hstore ↦ ?_⟩
    rcases State.next_atStore ha hstore with rfl | ⟨htask, hstore⟩
    · rw [(hread client).2]
      exact ⟨(h client).1, Nat.le_refl _⟩
    · rw [(State.next_client htask .store).2]
      exact (h client).2 hstore
  rcases State.next_wdog (b := b) (s := s) a with
    ⟨rfl, hwdog⟩ | ⟨_, hwdog⟩ | ⟨client, rfl, hwdog⟩ | ⟨client, hwdog⟩ | hwdog
  · intro client
    obtain ⟨hlast, hstore⟩ := h client
    rw [hwdog]
    refine ⟨hlast.trans (Nat.le_succ _), fun hs ↦ ?_⟩
    obtain ⟨hle, htick⟩ := hstore hs
    exact ⟨hle, htick.trans (Nat.le_succ _)⟩
  · exact hkept (by rw [hwdog]; rfl) (by rw [hwdog]; rfl)
  · intro other
    rw [hwdog]
    by_cases hother : other = client
    · subst hother
      refine ⟨?_, fun hstore ↦ ?_⟩
      · simp only [Supervisor.checkin, Function.update_self]
        exact ((h other).2 ha).2
      · rcases State.next_atStore ha hstore with hread | ⟨htask, -⟩
        · cases hread
        · exact absurd rfl htask
    · have htask : (Action.checkinStore client).task ≠ some other := by
        simpa [Action.task] using Ne.symm hother
      obtain ⟨hstage, htick⟩ := State.next_client (b := b) (s := s) htask .store
      rw [hstage, htick]
      simp only [Supervisor.checkin, Function.update_of_ne hother]
      exact h other
  · exact hkept (by rw [hwdog]; rfl) (by rw [hwdog]; rfl)
  · exact hkept (by rw [hwdog]) (by rw [hwdog])

/-- The supervisor inside the system runs as the supervisor on its own. -/
theorem supervisor_run (hs₀ : Starts b.cfg s₀) (hrun : Machine.run (step b) s₀ as = some s) :
    Clocked s ∧ ∃ acts, Machine.run (Supervisor.step b.cfg b.wdtRunning b.wdtTimeoutMs)
      (.boot b.cfg) acts = some s.wdog := by
  suffices hsim : ∃ acts w, Machine.run (Supervisor.step b.cfg b.wdtRunning b.wdtTimeoutMs)
      (.boot b.cfg) acts = some w ∧ s.wdog = w ∧ Clocked s by
    obtain ⟨acts, w, hw, rfl, hclock⟩ := hsim
    exact ⟨hclock, acts, hw⟩
  refine Machine.run_simulation (R := fun s w ↦ s.wdog = w ∧ Clocked s) ?_ ?_ hrun
  · obtain ⟨_, _, _, _, _, rfl⟩ := hs₀
    exact ⟨rfl, fun client ↦ ⟨Nat.le_refl 0, fun hstore ↦ by cases client <;> cases hstore⟩⟩
  · rintro s a s' _ ⟨rfl, hclock⟩ hstep
    obtain ⟨_, ha, rfl⟩ := step_eq_some.mp hstep
    have hclock' := hclock.next (b := b) ha
    rcases State.next_wdog (b := b) (s := s) a with
      ⟨_, hwdog⟩ | ⟨_, hwdog⟩ | ⟨client, rfl, hwdog⟩ | ⟨client, hwdog⟩ | hwdog
    · exact ⟨[.tick], _, rfl, hwdog, hclock'⟩
    · exact ⟨[.pass], _, rfl, hwdog, hclock'⟩
    · have hle := (hclock client).2 ha
      refine ⟨[.checkin client (s.checkinTick client)], _, ?_, hwdog, hclock'⟩
      simp only [Machine.run_cons, Supervisor.step, if_pos hle]
      rfl
    · exact ⟨[.injectHang client], _, rfl, hwdog, hclock'⟩
    · exact ⟨[], _, rfl, hwdog, hclock'⟩

/-- Every tick count the supervisor has, had or is about to get is that of a completed pass. -/
structure Certified (b : Board) (s₀ : State) (as : List Action) (s : State) : Prop where
  last : ∀ client, s.wdog.last client = 0 ∨
    Completed b s₀ as client (s.wdog.last client) s.wdog.history.length
  stored : ∀ client, s.atCheckin .store client = true →
    Completed b s₀ as client (s.checkinTick client) s.wdog.history.length
  passes : ∀ (j : ℕ) (q : Pass), s.wdog.history[j]? = some q → ∀ client,
    q.last client ≤ q.tick ∧ (q.last client = 0 ∨ Completed b s₀ as client (q.last client) j)

/-- Every step keeps the certificates. -/
theorem Certified.next {a : Action} (h : Certified b s₀ as s) (hs₀ : Starts b.cfg s₀)
    (hrun : Machine.run (step b) s₀ as = some s) (ha : s.enabled a = true) :
    Certified b s₀ (as ++ [a]) (s.next b a) := by
  have hclock := (supervisor_run hs₀ hrun).1
  have hlast : ∀ {client t n}, t = 0 ∨ Completed b s₀ as client t n →
      t = 0 ∨ Completed b s₀ (as ++ [a]) client t n := fun h ↦ h.imp_right (·.concat a)
  have hpasses : ∀ (j : ℕ) (q : Pass), s.wdog.history[j]? = some q → ∀ client,
      q.last client ≤ q.tick ∧
        (q.last client = 0 ∨ Completed b s₀ (as ++ [a]) client (q.last client) j) := fun j q hq c ↦
    ⟨(h.passes j q hq c).1, hlast (h.passes j q hq c).2⟩
  have hstored : s.wdog.history.length ≤ (s.next b a).wdog.history.length →
      ∀ client, (s.next b a).atCheckin .store client = true →
        Completed b s₀ (as ++ [a]) client ((s.next b a).checkinTick client)
          (s.next b a).wdog.history.length := by
    intro hlen client hstore
    rcases State.next_atStore ha hstore with rfl | ⟨htask, hstore⟩
    · have hbody := Reaches.loopBody ⟨s₀, hs₀, hrun⟩ ha
      have htick : (s.next b (.checkinRead client)).checkinTick client = s.wdog.tick := by
        cases client <;> rfl
      exact ⟨as, [], s, rfl, hrun, htick.symm, hlen, hbody⟩
    · rw [(State.next_client htask .store).2]
      exact ((h.stored client hstore).concat a).mono hlen
  have hkept : (s.next b a).wdog.history = s.wdog.history →
      (s.next b a).wdog.last = s.wdog.last → Certified b s₀ (as ++ [a]) (s.next b a) := by
    intro hhistory hlast'
    refine ⟨?_, hstored (by rw [hhistory]), ?_⟩
    · rw [hhistory, hlast']
      exact fun client ↦ hlast (h.last client)
    · rw [hhistory]
      exact hpasses
  rcases State.next_wdog (b := b) (s := s) a with
    ⟨_, hwdog⟩ | ⟨_, hwdog⟩ | ⟨client, rfl, hwdog⟩ | ⟨client, hwdog⟩ | hwdog
  · exact hkept (by rw [hwdog]) (by rw [hwdog])
  · have hhistory : (s.next b a).wdog.history = s.wdog.history ++
        [⟨s.wdog.tick, s.wdog.last, (s.wdog.wdog.pass b.cfg b.wdtRunning b.wdtTimeoutMs
          (UInt32.ofNat s.wdog.tick) s.wdog.clients).2⟩] := by rw [hwdog]; rfl
    have hlen : s.wdog.history.length ≤ (s.next b a).wdog.history.length := by
      rw [hhistory]
      exact (List.prefix_append _ _).length_le
    refine ⟨fun client ↦ ?_, hstored hlen, ?_⟩
    · have hlast' : (s.next b a).wdog.last = s.wdog.last := by rw [hwdog]; rfl
      rw [hlast']
      exact (hlast (h.last client)).imp_right (·.mono hlen)
    · rw [hhistory]
      intro j q hq client
      rcases Nat.lt_or_ge j s.wdog.history.length with hj | hj
      · rw [List.getElem?_append_left hj] at hq
        exact hpasses j q hq client
      · rw [List.getElem?_append_right hj, List.getElem?_singleton] at hq
        split at hq
        · next hzero =>
          cases hq
          exact ⟨(hclock client).1, (hlast (h.last client)).imp_right (·.mono hj)⟩
        · cases hq
  · have hhistory : (s.next b (.checkinStore client)).wdog.history = s.wdog.history := by
      rw [hwdog]
      rfl
    refine ⟨fun other ↦ ?_, hstored (by rw [hhistory]), ?_⟩
    · rw [hhistory, hwdog]
      by_cases hother : other = client
      · subst hother
        right
        simp only [Supervisor.checkin, Function.update_self]
        exact (h.stored other ha).concat _
      · simp only [Supervisor.checkin, Function.update_of_ne hother]
        exact hlast (h.last other)
    · rw [hhistory]
      exact hpasses
  · exact hkept (by rw [hwdog]; rfl) (by rw [hwdog]; rfl)
  · exact hkept (by rw [hwdog]) (by rw [hwdog])

/-- In every run the supervisor's tick counts are those of completed passes. -/
theorem certified_run (hs₀ : Starts b.cfg s₀) (hrun : Machine.run (step b) s₀ as = some s) :
    Certified b s₀ as s := by
  refine Machine.run_induction (P := fun as s ↦ Certified b s₀ as s) ?_ ?_ hrun
  · obtain ⟨_, _, _, _, _, rfl⟩ := hs₀
    refine ⟨fun client ↦ .inl rfl, fun client hstore ↦ ?_, ?_⟩
    · cases client <;> cases hstore
    · intro j q hq
      simp [State.boot, Supervisor.boot] at hq
  · intro as s a t hrun ih hstep
    obtain ⟨_, ha, rfl⟩ := step_eq_some.mp hstep
    exact ih.next hs₀ hrun ha

/-- Every kick of the SWDT certifies real progress: at the pass that kicks and at every earlier
one, each task had within its limit gone through a whole loop body, or the scheduler had
started. -/
theorem kick_certifies_progress (hs₀ : Starts b.cfg s₀)
    (hrun : Machine.run (step b) s₀ as = some s) (hspaced : Spaced b.cfg s.wdog.history)
    {i : ℕ} {p : Pass} (hp : s.wdog.history[i]? = some p) (hkick : p.output.kicked = true) :
    ∀ j ≤ i, ∀ q : Pass, s.wdog.history[j]? = some q → ∀ client : WdogClient, ∃ t ≤ q.tick,
      Ticks.ms b.cfg.tickRateHz.toNat (q.tick - t) ≤ (client.limitMs b.cfg).toNat ∧
        (t = 0 ∨ Completed b s₀ as client t j) := by
  intro j hj q hq client
  obtain ⟨_, acts, hacts⟩ := supervisor_run hs₀ hrun
  have hf := Supervisor.follows_of_run hacts hspaced
  have honTime := ((hf.kicked_iff hp).mp hkick).2 j hj q hq client
  obtain ⟨hle, hcompleted⟩ := (certified_run hs₀ hrun).passes j q hq client
  exact ⟨q.last client, hle, honTime, hcompleted⟩

-- Limits of one millisecond.
private def strictBoard : Board where
  cfg := { appConfig with
    wdtLimitProducerMs := 1
    wdtLimitUiMs := 1
    wdtLimitConsumerMs := 1 }
  wdtRunning := true
  wdtTimeoutMs := 2000

-- All tasks check in at tick 2, and the supervisor passes at tick 3.
private def strictRun : List Action :=
  [.tick, .tick, .timerInterrupt, .producerWake, .producerSample 0 ⟨fun _ ↦ 0⟩ 0 0,
    .producerWrite (some ⟨0, 0⟩) 0, .producerRing, .producerUpdate, .checkinTest .producer,
    .checkinRead .producer, .checkinStore .producer, .uiWake, .uiPress4 false, .uiPress5 false,
    .uiKeysDone, .checkinTest .ui, .checkinRead .ui, .checkinStore .ui, .consumerStart,
    .consumerReceive, .consumerDepth, .consumerHandle none, .consumerDrain,
    .consumerRead (some ⟨0, 0⟩), .consumerProcess, .consumerProcess, .consumerStallTick,
    .consumerStall, .checkinTest .consumer, .checkinRead .consumer, .checkinStore .consumer, .tick,
    .supervisorPass]

/-- A kick that no task could have had without a pass of its own. -/
theorem kick_certifies_progress_strict :
    ∃ s p, Machine.run (step strictBoard) (powerOn strictBoard.cfg) strictRun = some s ∧
      s.wdog.history[0]? = some p ∧ p.output.kicked = true ∧ ∀ client : WdogClient, ∃ t ≤ 3,
        Ticks.ms 1000 (3 - t) ≤ 1 ∧
          Completed strictBoard (powerOn strictBoard.cfg) strictRun client t 0 := by
  have hrun : (Machine.run (step strictBoard) (powerOn strictBoard.cfg) strictRun).any (fun s ↦
      decide (Spaced strictBoard.cfg s.wdog.history) &&
        s.wdog.history[0]?.any fun p ↦ p.tick == 3 && p.output.kicked) := by
    decide +kernel
  obtain ⟨s, hs, hcheck⟩ := (Option.any_eq_true _ _).mp hrun
  rw [Bool.and_eq_true, decide_eq_true_eq] at hcheck
  obtain ⟨hspaced, hpass⟩ := hcheck
  obtain ⟨p, hp, hcheck⟩ := (Option.any_eq_true _ _).mp hpass
  rw [Bool.and_eq_true, beq_iff_eq] at hcheck
  obtain ⟨htick, hkick⟩ := hcheck
  refine ⟨s, p, hs, hp, hkick, fun client ↦ ?_⟩
  obtain ⟨t, hle, hms, ht⟩ := kick_certifies_progress (b := strictBoard)
    (starts_powerOn (by decide +kernel)) hs hspaced hp hkick 0 (Nat.le_refl 0) p hp client
  have hlimit : (client.limitMs strictBoard.cfg).toNat = 1 := by cases client <;> rfl
  rw [htick] at hle hms
  rw [hlimit] at hms
  rcases ht with rfl | ht
  · exact absurd hms (by decide)
  · exact ⟨t, hle, hms, ht⟩

end SensorAggregator.System
