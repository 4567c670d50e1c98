import SensorAggregator.System.Commands
import SensorAggregator.System.Progress

/-!
# A task that hangs ends in a reset

The test commands of `task_consumer.c:82–138` hang a task or stop the kernel, and nothing else in
the model does. A hung task checks in no more, so the supervisor of `task_watchdog.c` kicks no
more once its limit is over, and the SWDT then resets the board: the purpose of stage 4, with
the worst case that `app_config.h:84` gives.
-/

namespace SensorAggregator.System

open Base Datalog Tasks

variable {b : Board} {as bs : List Action} {s₀ s t : State} {a : Action} {client : WdogClient}

/-- The key that hangs a task, `task_consumer.c:119–131`. -/
def hangKey : WdogClient → Char
  | .producer => '1'
  | .ui => '2'
  | .consumer => '3'

/-- The message makes `consumer_run_wdt_test` act on this key. -/
def isTest (cfg : AppConfig) (key : Char) (msg : ConsumerMsg) : Bool :=
  cfg.wdtTestCommands && msg.id == .wdtTest && msg.key == key

namespace State

private theorem hangRequested_runWdtTest (client : WdogClient) (key : Char) :
    ((s.consumerRunWdtTest key).wdog.clients client).hangRequested =
        ((s.wdog.clients client).hangRequested || key == hangKey client) ∧
      (s.consumerRunWdtTest key).halted = (s.halted || key == '4') := by
  unfold consumerRunWdtTest
  split
  · cases client <;> simp [Supervisor.injectHang, taskWatchdogInjectHang, hangKey]
  · cases client <;> simp [Supervisor.injectHang, taskWatchdogInjectHang, hangKey]
  · cases client <;> simp [Supervisor.injectHang, taskWatchdogInjectHang, hangKey]
  · cases client <;> simp [hangKey]
  · next h₁ h₂ h₃ h₄ =>
    have hkeys : key ≠ '1' ∧ key ≠ '2' ∧ key ≠ '3' ∧ key ≠ '4' := ⟨h₁, h₂, h₃, h₄⟩
    cases client <;> simp [hangKey, hkeys]

private theorem hangRequested_handle (client : WdogClient) (cfg : AppConfig) (lock : Option Hold) :
    ((s.consumerHandle cfg lock).wdog.clients client).hangRequested =
        ((s.wdog.clients client).hangRequested || isTest cfg (hangKey client) s.consumer.msg) ∧
      (s.consumerHandle cfg lock).halted = (s.halted || isTest cfg '4' s.consumer.msg) := by
  unfold consumerHandle isTest
  cases hid : s.consumer.msg.id with
  | wdtTest =>
    cases hcfg : cfg.wdtTestCommands with
    | false => simp
    | true =>
      have htest := hangRequested_runWdtTest client
        (s := { s with consumer := s.consumer.handled }) s.consumer.msg.key
      simpa using htest
  | _ => simp

/-- Every step requests hangs, and halts, exactly for the test commands it handles. -/
theorem hangRequested_next (client : WdogClient) :
    ((s.next b a).wdog.clients client).hangRequested =
        ((s.wdog.clients client).hangRequested ||
          (handled s a).any (isTest b.cfg (hangKey client))) ∧
      (s.next b a).halted = (s.halted || (handled s a).any (isTest b.cfg '4')) := by
  cases a with
  | consumerHandle lock =>
    obtain ⟨hhang, hhalt⟩ := s.hangRequested_handle client b.cfg lock
    simp only [next, hhang, hhalt, handled, List.any_cons, List.any_nil, Bool.or_false, and_self]
  | checkinStore other =>
    cases other <;> cases client <;>
      simp [next, checkinStore, Supervisor.checkin, wdogStoreCheckin, handled]
  | uiPress4 pressed | uiPress5 pressed =>
    cases pressed <;> simp [next, uiSend, handled]
  | uiKey key => cases hkey : uiHandleKey b.cfg key <;> simp [next, uiSend, hkey, handled]
  | checkinTest other | checkinRead other =>
    cases other <;> simp [next, checkinTest, checkinRead, handled]
  | consumerReceive =>
    simp only [next, consumerReceive]
    split <;> simp [handled]
  | _ => simp [next, Supervisor.pass, producerSample, producerWrite, producerRing, consumerReport,
      consumerRead, consumerProcess, handled]

private theorem task_of_hung (hhung : s.isHung client = true) (ha : s.enabled a = true) :
    a.task ≠ some client := by
  intro htask
  cases client with
  | producer =>
    have hpc : s.producer.pc = .hung := beq_iff_eq.mp hhung
    cases a <;> cases htask <;> simp [enabled, atCheckin, hpc] at ha
  | ui =>
    have hpc : s.ui.pc = .hung := beq_iff_eq.mp hhung
    cases a <;> cases htask <;> simp [enabled, atCheckin, hpc] at ha
  | consumer =>
    have hpc : s.consumer.pc = .hung := beq_iff_eq.mp hhung
    cases a <;> cases htask <;> simp [enabled, atCheckin, hpc] at ha

/-- Nobody else changes where a task is. -/
theorem isHung_next (htask : a.task ≠ some client) :
    (s.next b a).isHung client = s.isHung client := by
  cases client with
  | producer => simp only [isHung, (s.next_producer b htask).1]
  | ui => simp only [isHung, s.next_ui b htask]
  | consumer => simp only [isHung, (s.next_consumer b htask).1]

/-- A task comes to hang only in its check-in, by a request. -/
theorem hangRequested_of_hung (ha : s.enabled a = true) (htask : a.task = some client)
    (hhung : (s.next b a).isHung client = true) :
    b.cfg.wdtTestCommands = true ∧ (s.wdog.clients client).hangRequested = true := by
  cases client with
  | producer =>
    have hpc : (s.next b a).producer.pc = .hung := beq_iff_eq.mp hhung
    have hpoint := hpc ▸ s.pc_producer_next b ha htask
    cases a with
    | checkinTest other =>
      cases htask
      simpa [next, checkinTest] using hpc
    | _ => simp [producerPoints] at hpoint
  | ui =>
    have hpc : (s.next b a).ui.pc = .hung := beq_iff_eq.mp hhung
    have hpoint := hpc ▸ s.pc_ui_next b htask
    cases a with
    | checkinTest other =>
      cases htask
      simpa [next, checkinTest] using hpc
    | _ => simp [uiPoints] at hpoint
  | consumer =>
    have hpc : (s.next b a).consumer.pc = .hung := beq_iff_eq.mp hhung
    have hpoint := hpc ▸ s.pc_consumer_next b ha htask
    cases a with
    | checkinTest other =>
      cases htask
      simpa [next, checkinTest] using hpc
    | _ => simp [consumerPoints] at hpoint

end State

/-- Every hang requested, and the halt, shows that its test command was handled. -/
theorem hangRequested_run (client : WdogClient) (hs₀ : Starts b.cfg s₀)
    (hrun : Machine.run (step b) s₀ as = some s) :
    (s.wdog.clients client).hangRequested =
        (handledMsgs b s₀ as).any (isTest b.cfg (hangKey client)) ∧
      s.halted = (handledMsgs b s₀ as).any (isTest b.cfg '4') := by
  have hnext : ∀ s a t, True → step b s a = some t → s.next b a = t :=
    fun s a t _ hstep ↦ (step_eq_some.mp hstep).2.2
  have hhang := Machine.latch_emitted
    (fun s ↦ (s.wdog.clients client).hangRequested) (I := fun _ ↦ True)
    (p := isTest b.cfg (hangKey client)) trivial (fun _ _ _ _ _ ↦ trivial)
    (fun s a t hi hstep ↦ hnext s a t hi hstep ▸ (State.hangRequested_next client).1) hrun
  have hhalt := Machine.latch_emitted State.halted (I := fun _ ↦ True)
    (p := isTest b.cfg '4') trivial (fun _ _ _ _ _ ↦ trivial)
    (fun s a t hi hstep ↦ hnext s a t hi hstep ▸
      (State.hangRequested_next client).2) hrun
  obtain ⟨_, _, _, _, _, rfl⟩ := hs₀
  rw [State.boot] at hhang hhalt
  simp only [Supervisor.boot, wdogClients, Bool.false_or] at hhang hhalt
  exact ⟨hhang, hhalt⟩

/-- Nothing but its test command hangs a task, and nothing but key 4 stops the system; a build
without test commands does neither. -/
theorem hang_only_on_command (hs₀ : Starts b.cfg s₀)
    (hrun : Machine.run (step b) s₀ as = some s) :
    (∀ client, s.isHung client = true →
        (handledMsgs b s₀ as).any (isTest b.cfg (hangKey client)) = true) ∧
      s.halted = (handledMsgs b s₀ as).any (isTest b.cfg '4') := by
  refine ⟨fun client hhung ↦ ?_, (hangRequested_run .ui hs₀ hrun).2⟩
  rw [← (hangRequested_run client hs₀ hrun).1]
  revert hhung
  refine Machine.run_invariant (I := fun s ↦ s.isHung client = true →
    (s.wdog.clients client).hangRequested = true) ?_ ?_ hrun
  · obtain ⟨_, _, _, _, _, rfl⟩ := hs₀
    intro hhung
    cases client <;> cases hhung
  · intro s a t ih hstep hhung
    obtain ⟨-, ha, rfl⟩ := step_eq_some.mp hstep
    rw [(State.hangRequested_next _).1, Bool.or_eq_true]
    by_cases htask : a.task = some client
    · exact .inl (State.hangRequested_of_hung ha htask hhung).2
    · rw [State.isHung_next htask] at hhung
      exact .inl (ih hhung)

-- Limits of one millisecond.
private def hastyBoard : Board where
  cfg := { appConfig with
    wdtLimitProducerMs := 1
    wdtLimitUiMs := 1
    wdtLimitConsumerMs := 1 }
  wdtRunning := true
  wdtTimeoutMs := 1

-- Key 2 is typed, and the consumer handles it while the UI task gets to its check-in.
private def hangRequest : List Action :=
  [.uiWake, .uiPress4 false, .uiPress5 false, .uiKey '2', .uiKeysDone, .consumerStart,
    .consumerReceive, .consumerDepth, .consumerHandle none]

/-- The UI task hangs then, and the command that did it was handled. -/
theorem hang_only_on_command_key :
    ∃ s, Machine.run (step hastyBoard) (powerOn hastyBoard.cfg)
        (hangRequest ++ [.checkinTest .ui]) = some s ∧ s.isHung .ui = true ∧
      (handledMsgs hastyBoard (powerOn hastyBoard.cfg) (hangRequest ++ [.checkinTest .ui])).any
        (isTest hastyBoard.cfg '2') = true := by
  have hrun : (Machine.run (step hastyBoard) (powerOn hastyBoard.cfg)
      (hangRequest ++ [.checkinTest .ui])).any (fun s ↦ s.isHung .ui) = true := by
    decide +kernel
  obtain ⟨s, hs, hhung⟩ := (Option.any_eq_true _ _).mp hrun
  exact ⟨s, hs, hhung, (hang_only_on_command (starts_powerOn (by decide +kernel)) hs).1 .ui hhung⟩

/-- The check-in a task has begun and may still store. -/
def openCheckin (client : WdogClient) (s : State) : ℕ :=
  if s.atCheckin .read client = true ∨ s.atCheckin .store client = true then 1 else 0

/-- The step stores a check-in of the client. -/
def storesCheckin (client : WdogClient) : Action → Bool
  | .checkinStore other => other == client
  | _ => false

private theorem openCheckin_le_one (client : WdogClient) (s : State) :
    openCheckin client s ≤ 1 := by
  unfold openCheckin
  split
  · exact Nat.le_refl 1
  · exact Nat.zero_le 1

private theorem openCheckin_of_other (ha : s.enabled a = true) (htask : a.task = some client)
    (htest : a ≠ .checkinTest client) (hread : a ≠ .checkinRead client) :
    openCheckin client (s.next b a) = 0 := by
  apply if_neg
  rintro (h | h)
  all_goals
    cases client with
    | producer =>
      have hpoint := beq_iff_eq.mp h ▸ s.pc_producer_next b ha htask
      cases a <;> cases htask <;> simp [State.producerPoints] at hpoint htest hread
    | ui =>
      have hpoint := beq_iff_eq.mp h ▸ s.pc_ui_next b htask
      cases a <;> cases htask <;> simp [State.uiPoints] at hpoint htest hread
    | consumer =>
      have hpoint := beq_iff_eq.mp h ▸ s.pc_consumer_next b ha htask
      cases a <;> cases htask <;> simp [State.consumerPoints] at hpoint htest hread

/-- Once its hang is requested, a task stores no check-in but the one it has begun. -/
theorem openCheckin_next (ha : s.enabled a = true) (hcfg : b.cfg.wdtTestCommands = true)
    (hreq : (s.wdog.clients client).hangRequested = true) :
    (if storesCheckin client a then 1 else 0) + openCheckin client (s.next b a) ≤
      openCheckin client s := by
  by_cases htask : a.task = some client
  · cases a with
    | checkinTest other =>
      cases htask
      have hhung : openCheckin client (s.next b (.checkinTest client)) = 0 := by
        cases client <;>
          simp [openCheckin, State.next, State.checkinTest, State.atCheckin, hcfg, hreq]
      rw [hhung]
      exact Nat.zero_le _
    | checkinRead other =>
      cases htask
      have hopen : openCheckin client s = 1 := if_pos (.inl ha)
      have hle := openCheckin_le_one client (s.next b (.checkinRead client))
      simp only [storesCheckin, hopen]
      simpa using hle
    | checkinStore other =>
      cases htask
      have hopen : openCheckin client s = 1 := if_pos (.inr ha)
      rw [openCheckin_of_other ha rfl Action.noConfusion Action.noConfusion, hopen]
      simp [storesCheckin]
    | _ =>
      rw [openCheckin_of_other ha htask Action.noConfusion Action.noConfusion]
      simp [storesCheckin]
  · have hstore : storesCheckin client a = false := by
      cases a with
      | checkinStore other => simpa [storesCheckin, Action.task] using htask
      | _ => rfl
    obtain ⟨hread, -⟩ := State.next_client (b := b) (s := s) htask .read
    obtain ⟨hstored, -⟩ := State.next_client (b := b) (s := s) htask .store
    simp only [openCheckin, hread, hstored, hstore]
    simp

/-- A hung task stays so, and its last check-in stays the last. -/
theorem hung_run (hhung : s.isHung client = true) (hrun : Machine.run (step b) s as = some t) :
    t.isHung client = true ∧ t.wdog.last client = s.wdog.last client := by
  refine Machine.run_invariant (I := fun t ↦
    t.isHung client = true ∧ t.wdog.last client = s.wdog.last client) ⟨hhung, rfl⟩ ?_ hrun
  rintro t a u ⟨hhung, hlast⟩ hstep
  obtain ⟨-, ha, rfl⟩ := step_eq_some.mp hstep
  have htask := State.task_of_hung hhung ha
  refine ⟨(State.isHung_next htask).trans hhung, ?_⟩
  rcases State.next_wdog (b := b) (s := t) a with
    ⟨-, hwdog⟩ | ⟨-, hwdog⟩ | ⟨other, rfl, hwdog⟩ | ⟨other, hwdog⟩ | hwdog
  · rw [hwdog, hlast]
  · rw [hwdog]
    exact hlast
  · have hother : client ≠ other := fun h ↦ htask (congrArg some h.symm)
    rw [hwdog, ← hlast]
    exact Function.update_of_ne hother _ _
  · rw [hwdog]
    exact hlast
  · rw [hwdog, hlast]

/-- After its hang was requested a task stores at most the one check-in that it had begun, and if
it goes through the start of another one it hangs for good. -/
theorem hang_stops_checkins (hcfg : b.cfg.wdtTestCommands = true)
    (hreq : (s.wdog.clients client).hangRequested = true)
    (hrun : Machine.run (step b) s as = some t) :
    as.countP (storesCheckin client) ≤ openCheckin client s ∧
      (Action.checkinTest client ∈ as → t.isHung client = true) := by
  have hkept : ∀ (s : State) a t, (s.wdog.clients client).hangRequested = true →
      step b s a = some t → (t.wdog.clients client).hangRequested = true := by
    intro s a t hreq hstep
    obtain ⟨-, -, rfl⟩ := step_eq_some.mp hstep
    rw [(State.hangRequested_next _).1, hreq, Bool.true_or]
  constructor
  · rw [← Machine.total_eq_countP (storesCheckin client) hrun]
    have hle := Machine.total_le_of_potential
      (I := fun s ↦ (s.wdog.clients client).hangRequested = true) (Φ := openCheckin client)
      (f := fun _ a ↦ if storesCheckin client a then 1 else 0) (g := fun _ _ ↦ 0) hreq hkept ?_ hrun
    · rw [Machine.total_zero] at hle
      omega
    · intro s a t hreq hstep
      obtain ⟨-, ha, rfl⟩ := step_eq_some.mp hstep
      have hnext := openCheckin_next (b := b) ha hcfg hreq
      omega
  · intro hmem
    obtain ⟨before, after, rfl⟩ := List.append_of_mem hmem
    obtain ⟨u, hu, hrest⟩ := Machine.run_append_eq_some.mp hrun
    obtain ⟨v, hv, hrest⟩ := Option.bind_eq_some_iff.mp hrest
    have hrequ := Machine.run_invariant
      (I := fun s ↦ (s.wdog.clients client).hangRequested = true) hreq hkept hu
    obtain ⟨-, -, rfl⟩ := step_eq_some.mp hv
    have hhung : (u.next b (.checkinTest client)).isHung client = true := by
      cases client <;> simp [State.next, State.checkinTest, State.isHung, hcfg, hrequ]
    exact (hung_run hhung hrest).1

/-- The request of key 2 leaves the UI task, which has begun no check-in, none to store. -/
theorem hang_stops_checkins_key :
    ∃ s t, Machine.run (step hastyBoard) (powerOn hastyBoard.cfg) hangRequest = some s ∧
      Machine.run (step hastyBoard) s [.checkinTest .ui] = some t ∧ openCheckin .ui s = 0 ∧
      t.isHung .ui = true := by
  have hrun : (Machine.run (step hastyBoard) (powerOn hastyBoard.cfg) hangRequest).any (fun s ↦
      (s.wdog.clients .ui).hangRequested && openCheckin .ui s == 0 &&
        (Machine.run (step hastyBoard) s [.checkinTest .ui]).isSome) = true := by
    decide +kernel
  obtain ⟨s, hs, hcheck⟩ := (Option.any_eq_true _ _).mp hrun
  simp only [Bool.and_eq_true, beq_iff_eq, Option.isSome_iff_exists] at hcheck
  obtain ⟨⟨hreq, hopen⟩, t, ht⟩ := hcheck
  exact ⟨s, t, hs, ht, hopen,
    (hang_stops_checkins (by decide) hreq ht).2 (List.mem_singleton_self _)⟩

/-- The tick of the last kick, or tick 0, where `main` starts the SWDT, `main.c:166–168`. -/
def lastKick (history : List Pass) : ℕ :=
  ((history.filter (·.output.kicked)).getLast?.map (·.tick)).getD 0

private theorem lastKick_concat (history : List Pass) (p : Pass) :
    lastKick (history ++ [p]) = if p.output.kicked then p.tick else lastKick history := by
  unfold lastKick
  rw [List.filter_append]
  cases hkicked : p.output.kicked with
  | true => simp [hkicked]
  | false => simp [hkicked]

private theorem lastKick_cases (history : List Pass) :
    lastKick history = 0 ∨ ∃ (i : ℕ) (p : Pass), history[i]? = some p ∧
      p.output.kicked = true ∧ lastKick history = p.tick := by
  unfold lastKick
  cases hlast : (history.filter (·.output.kicked)).getLast? with
  | none => exact .inl rfl
  | some p =>
    obtain ⟨hmem, hkicked⟩ := List.mem_filter.mp (List.mem_of_getLast? hlast)
    obtain ⟨i, hi⟩ := List.mem_iff_getElem?.mp hmem
    exact .inr ⟨i, p, hi, hkicked, rfl⟩

/-- The SWDT resets the board `timeoutTicks` after the last kick: no tick comes later. -/
def swdtHolds (timeoutTicks : ℕ) (s : State) : Action → Bool
  | .tick => decide (s.wdog.tick < lastKick s.wdog.history + timeoutTicks)
  | _ => true

/-- The system on a board whose SWDT works, up to the reset. -/
def stepSwdt (b : Board) (timeoutTicks : ℕ) : State → Action → Option State :=
  Machine.restrict (swdtHolds timeoutTicks) (step b)

section swdt

variable {timeoutTicks : ℕ}

private theorem next_passes (a : Action) :
    (a = .tick ∧ (s.next b a).wdog.tick = s.wdog.tick + 1 ∧
        (s.next b a).wdog.history = s.wdog.history) ∨
      (s.next b a).wdog = s.wdog.pass b.cfg b.wdtRunning b.wdtTimeoutMs ∨
      ((s.next b a).wdog.tick = s.wdog.tick ∧
        (s.next b a).wdog.history = s.wdog.history) := by
  rcases State.next_wdog (b := b) (s := s) a with
    ⟨ha, hwdog⟩ | ⟨-, hwdog⟩ | ⟨other, -, hwdog⟩ | ⟨other, hwdog⟩ | hwdog
  · exact .inl ⟨ha, by rw [hwdog], by rw [hwdog]⟩
  · exact .inr (.inl hwdog)
  all_goals
    rw [hwdog]
    exact .inr (.inr ⟨rfl, rfl⟩)

/-- Up to the reset the last kick is recent. -/
theorem tick_le_lastKick (hs₀ : Starts b.cfg s₀)
    (hrun : Machine.run (stepSwdt b timeoutTicks) s₀ as = some s) :
    s.wdog.tick ≤ lastKick s.wdog.history + timeoutTicks := by
  refine Machine.run_invariant
    (I := fun s ↦ s.wdog.tick ≤ lastKick s.wdog.history + timeoutTicks) ?_ ?_ hrun
  · obtain ⟨_, _, _, _, _, rfl⟩ := hs₀
    exact Nat.zero_le _
  · intro s a t ih hstep
    obtain ⟨hholds, hstep⟩ := Machine.restrict_eq_some.mp hstep
    obtain ⟨-, -, rfl⟩ := step_eq_some.mp hstep
    rcases next_passes (b := b) (s := s) a with ⟨rfl, htick, hsame⟩ | hwdog | ⟨htick, hsame⟩
    · rw [htick, hsame]
      exact Nat.succ_le_of_lt (of_decide_eq_true hholds)
    · rw [hwdog]
      simp only [Supervisor.pass, lastKick_concat]
      split
      · exact Nat.le_add_right _ _
      · exact ih
    · rw [htick, hsame]
      exact ih

/-- The last kick is no later than the last pass, and that is over. -/
theorem lastKick_le_lastPass (hs₀ : Starts b.cfg s₀)
    (hrun : Machine.run (step b) s₀ as = some s) :
    lastKick s.wdog.history ≤ s.wdog.lastPass ∧ s.wdog.lastPass ≤ s.wdog.tick := by
  refine Machine.run_invariant (I := fun s ↦
    lastKick s.wdog.history ≤ s.wdog.lastPass ∧ s.wdog.lastPass ≤ s.wdog.tick) ?_ ?_ hrun
  · obtain ⟨_, _, _, _, _, rfl⟩ := hs₀
    exact ⟨Nat.le_refl 0, Nat.le_refl 0⟩
  · rintro s a t ⟨hkick, hpass⟩ hstep
    obtain ⟨-, -, rfl⟩ := step_eq_some.mp hstep
    rcases next_passes (b := b) (s := s) a with ⟨-, htick, hsame⟩ | hwdog | ⟨htick, hsame⟩
    · rw [Supervisor.lastPass, htick, hsame]
      exact ⟨hkick, hpass.trans (Nat.le_succ _)⟩
    · rw [hwdog, Supervisor.lastPass_pass]
      refine ⟨?_, Nat.le_refl _⟩
      simp only [Supervisor.pass, lastKick_concat]
      split
      · exact Nat.le_refl _
      · exact hkick.trans hpass
    · rw [Supervisor.lastPass, htick, hsame]
      exact ⟨hkick, hpass⟩

/-- The ticks that may pass from a task's last check-in to the reset of the board. -/
def resetTicks (cfg : AppConfig) (timeoutTicks : ℕ) (client : WdogClient) : ℕ :=
  Ticks.horizon cfg.tickRateHz.toNat (client.limitMs cfg).toNat + timeoutTicks

/-- Every reset comes less than `2 ^ 32` ticks and `2 ^ 32` ms after the last check-in. -/
def ResetFits (cfg : AppConfig) (timeoutTicks : ℕ) : Prop :=
  ∀ client, resetTicks cfg timeoutTicks client < 2 ^ 32 ∧
    Ticks.ms cfg.tickRateHz.toNat (resetTicks cfg timeoutTicks client) < 2 ^ 32

/-- Up to the reset the passes are no further apart than the timeout. -/
theorem spaced_swdt (hs₀ : Starts b.cfg s₀) (hfits : ResetFits b.cfg timeoutTicks)
    (hrun : Machine.run (stepSwdt b timeoutTicks) s₀ as = some s) :
    Spaced b.cfg s.wdog.history := by
  refine Machine.run_induction (P := fun _ s ↦ Spaced b.cfg s.wdog.history) ?_ ?_ hrun
  · obtain ⟨_, _, _, _, _, rfl⟩ := hs₀
    exact List.IsChain.singleton 0
  · intro as s a t hrun ih hstep
    have htick := tick_le_lastKick hs₀ hrun
    obtain ⟨hkick, -⟩ := lastKick_le_lastPass hs₀ (Machine.run_of_run_restrict hrun)
    obtain ⟨-, -, rfl⟩ := step_eq_some.mp (Machine.restrict_eq_some.mp hstep).2
    rcases next_passes (b := b) (s := s) a with ⟨-, -, hsame⟩ | hwdog | ⟨-, hsame⟩
    · rw [hsame]
      exact ih
    · rw [hwdog]
      refine spaced_concat.mpr ⟨ih, fun client ↦ ?_⟩
      obtain ⟨hticks, hms⟩ := hfits client
      have hgap : Ticks.horizon b.cfg.tickRateHz.toNat (client.limitMs b.cfg).toNat +
          (s.wdog.tick - s.wdog.lastPass) ≤ resetTicks b.cfg timeoutTicks client := by
        rw [resetTicks]
        omega
      exact ⟨hgap.trans_lt hticks, (Ticks.ms_mono hgap).trans_lt hms⟩
    · rw [hsame]
      exact ih

/-- What the supervisor knew at a pass is no later than what it knows now. -/
theorem last_le_last (client : WdogClient) (hs₀ : Starts b.cfg s₀)
    (hrun : Machine.run (step b) s₀ as = some s) :
    ∀ p ∈ s.wdog.history, p.last client ≤ s.wdog.last client := by
  refine Machine.run_induction (P := fun _ s ↦
    ∀ p ∈ s.wdog.history, p.last client ≤ s.wdog.last client) ?_ ?_ hrun
  · obtain ⟨_, _, _, _, _, rfl⟩ := hs₀
    intro p hp
    cases hp
  · intro as s a t hrun ih hstep
    have hclock := (supervisor_run hs₀ hrun).1
    obtain ⟨-, ha, rfl⟩ := step_eq_some.mp hstep
    rcases State.next_wdog (b := b) (s := s) a with
      ⟨-, hwdog⟩ | ⟨-, hwdog⟩ | ⟨other, rfl, hwdog⟩ | ⟨other, hwdog⟩ | hwdog
    · rw [hwdog]
      exact ih
    · rw [hwdog]
      intro p hp
      rcases List.mem_append.mp hp with hp | hp
      · exact ih p hp
      · rw [List.mem_singleton.mp hp]
        exact Nat.le_refl _
    · rw [hwdog]
      intro p hp
      have hle := ih p hp
      simp only [Supervisor.checkin]
      by_cases hother : client = other
      · subst hother
        rw [Function.update_self]
        exact hle.trans ((hclock client).2 ha).1
      · rw [Function.update_of_ne hother]
        exact hle
    · rw [hwdog]
      exact ih
    · rw [hwdog]
      exact ih

private theorem exists_recent (client : WdogClient) (hs₀ : Starts b.cfg s₀)
    (hfits : ResetFits b.cfg timeoutTicks)
    (hrun : Machine.run (stepSwdt b timeoutTicks) s₀ as = some s) :
    s.wdog.tick ≤ timeoutTicks ∨ ∃ (i : ℕ) (p : Pass), s.wdog.history[i]? = some p ∧
      s.wdog.tick ≤ p.last client + resetTicks b.cfg timeoutTicks client := by
  have htick := tick_le_lastKick hs₀ hrun
  obtain ⟨_, acts, hacts⟩ := supervisor_run hs₀ (Machine.run_of_run_restrict hrun)
  have hf := Supervisor.follows_of_run hacts (spaced_swdt hs₀ hfits hrun)
  rcases lastKick_cases s.wdog.history with hzero | ⟨i, p, hp, hkicked, hlast⟩
  · left
    omega
  · right
    refine ⟨i, p, hp, ?_⟩
    have honTime := ((hf.kicked_iff hp).mp hkicked).2 i (Nat.le_refl i) p hp client
    have hrate : 0 < b.cfg.tickRateHz.toNat := UInt32.lt_iff_toNat_lt.mp b.cfg.tickRateHz_pos
    have hsilence : p.tick - p.last client ≤
        Ticks.horizon b.cfg.tickRateHz.toNat (client.limitMs b.cfg).toNat :=
      (Ticks.ms_le_iff hrate).mp honTime
    rw [resetTicks]
    omega

/-- The board is reset unless every task keeps going through its loop: in every run up to the
reset, whatever hangs, starves or stops coming, each task has completed a pass within the last
`resetTicks`, or that time is not over since the start. -/
theorem silence_ends_in_reset (hs₀ : Starts b.cfg s₀) (hfits : ResetFits b.cfg timeoutTicks)
    (hrun : Machine.run (stepSwdt b timeoutTicks) s₀ as = some s) (client : WdogClient) :
    ∃ t, s.wdog.tick ≤ t + resetTicks b.cfg timeoutTicks client ∧
      (t = 0 ∨ ∃ n, Completed b s₀ as client t n) := by
  rcases exists_recent client hs₀ hfits hrun with hearly | ⟨i, p, hp, htick⟩
  · refine ⟨0, ?_, .inl rfl⟩
    rw [resetTicks]
    omega
  · obtain ⟨-, hcompleted⟩ :=
      (certified_run hs₀ (Machine.run_of_run_restrict hrun)).passes i p hp client
    exact ⟨p.last client, htick, hcompleted.imp_right fun h ↦ ⟨i, h⟩⟩

private theorem resetFits_hasty : ResetFits hastyBoard.cfg 1 := by
  intro client
  cases client <;> decide

-- The hung UI task lets one kick pass and is late at the next.
private def lastTicks : List Action := [.tick, .supervisorPass, .tick, .supervisorPass]

/-- Two ticks after the start the producer has completed nothing, and the board is about to be
reset. -/
theorem silence_ends_in_reset_hasty :
    ∃ s, Machine.run (stepSwdt hastyBoard 1) (powerOn hastyBoard.cfg)
        (hangRequest ++ [.checkinTest .ui] ++ lastTicks) = some s ∧ s.wdog.tick = 2 ∧
      ∃ t, 2 ≤ t + 2 ∧ (t = 0 ∨ ∃ n, Completed hastyBoard (powerOn hastyBoard.cfg)
        (hangRequest ++ [.checkinTest .ui] ++ lastTicks) .producer t n) := by
  have hrun : (Machine.run (stepSwdt hastyBoard 1) (powerOn hastyBoard.cfg)
      (hangRequest ++ [.checkinTest .ui] ++ lastTicks)).any (fun s ↦ s.wdog.tick == 2) = true := by
    decide +kernel
  obtain ⟨s, hs, hcheck⟩ := (Option.any_eq_true _ _).mp hrun
  have htick : s.wdog.tick = 2 := beq_iff_eq.mp hcheck
  have hsilence := silence_ends_in_reset (b := hastyBoard) (starts_powerOn (by decide +kernel))
    resetFits_hasty hs .producer
  rw [htick] at hsilence
  exact ⟨s, hs, htick, hsilence⟩

/-- Once a task hangs the board is reset within `resetTicks` of its last check-in: no run goes on
past that, whatever the other tasks do. -/
theorem hang_ends_in_reset (hs₀ : Starts b.cfg s₀) (hfits : ResetFits b.cfg timeoutTicks)
    (hrun : Machine.run (stepSwdt b timeoutTicks) s₀ as = some s)
    (hhung : s.isHung client = true)
    (hrest : Machine.run (stepSwdt b timeoutTicks) s bs = some t) :
    t.wdog.tick ≤ s.wdog.last client + resetTicks b.cfg timeoutTicks client := by
  have hwhole := Machine.run_append_eq_some.mpr ⟨s, hrun, hrest⟩
  have hkept := (hung_run hhung (Machine.run_of_run_restrict hrest)).2
  rcases exists_recent client hs₀ hfits hwhole with hearly | ⟨i, p, hp, htick⟩
  · rw [resetTicks]
    omega
  · have hle := last_le_last client hs₀ (Machine.run_of_run_restrict hwhole) p
      (List.mem_of_getElem? hp)
    omega

/-- The UI task hangs at tick 0, and the run gets no further than the two ticks left. -/
theorem hang_ends_in_reset_hasty :
    ∃ s t, Machine.run (stepSwdt hastyBoard 1) (powerOn hastyBoard.cfg)
        (hangRequest ++ [.checkinTest .ui]) = some s ∧ s.isHung .ui = true ∧
      Machine.run (stepSwdt hastyBoard 1) s lastTicks = some t ∧
      t.wdog.tick ≤ s.wdog.last .ui + resetTicks hastyBoard.cfg 1 .ui ∧
      resetTicks hastyBoard.cfg 1 .ui = 2 := by
  have hrun : (Machine.run (stepSwdt hastyBoard 1) (powerOn hastyBoard.cfg)
      (hangRequest ++ [.checkinTest .ui])).any (fun s ↦ s.isHung .ui &&
        (Machine.run (stepSwdt hastyBoard 1) s lastTicks).isSome) = true := by
    decide +kernel
  obtain ⟨s, hs, hcheck⟩ := (Option.any_eq_true _ _).mp hrun
  rw [Bool.and_eq_true] at hcheck
  obtain ⟨t, ht⟩ := Option.isSome_iff_exists.mp hcheck.2
  exact ⟨s, t, hs, hcheck.1, ht, hang_ends_in_reset (b := hastyBoard)
    (starts_powerOn (by decide +kernel)) resetFits_hasty hs hcheck.1 ht, by decide⟩

end swdt

end SensorAggregator.System
