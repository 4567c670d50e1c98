import SensorAggregator.Base.Emission
import SensorAggregator.System.Step

/-!
# The command queue

The messages that the UI and the producer hand to `task_consumer_send`, followed through the
queue to `consumer_handle_msg`: each one accepted is handled once, in the order of the sends,
each one the UI could not send is counted by `s_dropped_msgs`, and the three switches that
messages flip show how many of those were handled.
-/

namespace SensorAggregator.System

open Base Datalog Tasks

variable {b : Board} {as : List Action} {s₀ s : State} {a : Action}

/-- The messages a step hands to `task_consumer_send`. -/
def offered (cfg : AppConfig) : Action → List ConsumerMsg
  | .uiPress4 pressed => if pressed then [⟨.report, '\x00'⟩] else []
  | .uiPress5 pressed => if pressed then [⟨.streamToggle, '\x00'⟩] else []
  | .uiKey key => (uiHandleKey cfg key).toList
  | .producerRing => [⟨.dataReady, '\x00'⟩]
  | _ => []

/-- Those that find room in the queue. -/
def accepted (cfg : AppConfig) (s : State) (a : Action) : List ConsumerMsg :=
  if s.queue.length < cfg.consumerQueueLen.toNat then offered cfg a else []

/-- The messages of the UI that find none. -/
def refusedUi (cfg : AppConfig) (s : State) (a : Action) : List ConsumerMsg :=
  if a.task = some .ui ∧ cfg.consumerQueueLen.toNat ≤ s.queue.length then offered cfg a else []

/-- The message a step hands to `consumer_handle_msg`. -/
def handled (s : State) : Action → List ConsumerMsg
  | .consumerHandle _ => [s.consumer.msg]
  | _ => []

/-- The message received and not yet handled. -/
def inHand (c : Consumer) : List ConsumerMsg :=
  if c.pc = .depth ∨ c.pc = .handle then [c.msg] else []

/-- The messages accepted and not yet handled. -/
def State.pendingMsgs (s : State) : List ConsumerMsg := inHand s.consumer ++ s.queue

/-- The messages handled in a run, in order. -/
def handledMsgs (b : Board) (s₀ : State) (as : List Action) : List ConsumerMsg :=
  Machine.emitted (step b) handled s₀ as

section steps

private theorem send_eq (cfg : AppConfig) (queue : List ConsumerMsg) (msg : ConsumerMsg) :
    taskConsumerSend cfg queue msg =
      (queue ++ (if queue.length < cfg.consumerQueueLen.toNat then [msg] else []),
        decide (queue.length < cfg.consumerQueueLen.toNat)) := by
  unfold taskConsumerSend
  split
  · next hroom => simp only [hroom, decide_true]
  · next hfull => simp only [hfull, decide_false, List.append_nil]

private theorem uiSend_eq (cfg : AppConfig) (msg : Option ConsumerMsg) (pc : UiPc) :
    (s.uiSend cfg msg pc).queue =
        s.queue ++ (if s.queue.length < cfg.consumerQueueLen.toNat then msg.toList else []) ∧
      (s.uiSend cfg msg pc).ui.droppedMsgs = s.ui.droppedMsgs + UInt32.ofNat
        (if cfg.consumerQueueLen.toNat ≤ s.queue.length then msg.toList else []).length := by
  cases msg with
  | none => simp [State.uiSend]
  | some msg =>
    simp only [State.uiSend, send_eq, Ui.sent]
    by_cases hroom : s.queue.length < cfg.consumerQueueLen.toNat
    · simp [hroom, Nat.not_le.mpr hroom]
    · simp [hroom, Nat.not_lt.mp hroom]

private theorem inHand_of_ne {c : Consumer} (hdepth : c.pc ≠ .depth) (hhandle : c.pc ≠ .handle) :
    inHand c = [] := if_neg (not_or_intro hdepth hhandle)

/-- What is not a step of the consumer only adds to the queue what it accepts. -/
theorem queue_next (h : a.task ≠ some .consumer) :
    (s.next b a).queue = s.queue ++ accepted b.cfg s a := by
  cases a with
  | uiPress4 pressed =>
    cases pressed with
    | false => simp [State.next, uiSend_eq, accepted, offered]
    | true => simp [State.next, uiSend_eq, accepted, offered]
  | uiPress5 pressed =>
    cases pressed with
    | false => simp [State.next, uiSend_eq, accepted, offered]
    | true => simp [State.next, uiSend_eq, accepted, offered]
  | uiKey key => simp [State.next, uiSend_eq, accepted, offered]
  | producerRing => simp [State.next, State.producerRing, send_eq, accepted, offered]
  | consumerStart | consumerReceive | consumerReceiveTimeOut | consumerDepth | consumerHandle
  | consumerReport | consumerDrain | consumerRead | consumerProcess | consumerStallTick
  | consumerStall =>
    exact absurd rfl h
  | checkinTest client | checkinRead client | checkinStore client =>
    cases client <;> simp [State.next, State.checkinTest, State.checkinRead, State.checkinStore,
      accepted, offered]
  | _ => simp [State.next, State.producerSample, State.producerWrite, accepted, offered]

/-- The consumer's own steps offer nothing. -/
theorem accepted_of_consumer (h : a.task = some .consumer) (cfg : AppConfig) :
    accepted cfg s a = [] := by
  unfold accepted
  cases a with
  | uiPress4 | uiPress5 | uiKey | producerRing => cases h
  | _ => simp [offered]

private theorem pendingMsgs_of_idle (hpc : s.consumer.pc ≠ .depth) (hpc' : s.consumer.pc ≠ .handle)
    (hqueue : (s.next b a).queue = s.queue) (hnext : (s.next b a).consumer.pc ≠ .depth)
    (hnext' : (s.next b a).consumer.pc ≠ .handle) :
    (s.next b a).pendingMsgs = s.pendingMsgs := by
  rw [State.pendingMsgs, State.pendingMsgs, inHand_of_ne hpc hpc', inHand_of_ne hnext hnext',
    hqueue]

/-- Every step puts what it accepts behind the pending messages, and handles the first of them. -/
theorem pendingMsgs_next (ha : s.enabled a = true) :
    s.pendingMsgs ++ accepted b.cfg s a = handled s a ++ (s.next b a).pendingMsgs := by
  by_cases htask : a.task = some .consumer
  · have hpoint := s.pc_consumer_next b ha htask
    rw [accepted_of_consumer htask, List.append_nil]
    cases a with
    | consumerReceive =>
      obtain ⟨hpc, hqueue⟩ := Bool.and_eq_true_iff.mp ha
      rw [beq_iff_eq] at hpc
      cases hq : s.queue with
      | nil => simp [hq] at hqueue
      | cons msg queue =>
        simp [State.pendingMsgs, inHand, handled, State.next, State.consumerReceive,
          Consumer.received, hpc, hq]
    | consumerDepth =>
      have hpc : s.consumer.pc = .depth := beq_iff_eq.mp ha
      simp [State.pendingMsgs, inHand, handled, State.next, Consumer.sawDepth, hpc]
    | consumerHandle lock =>
      have hpc : s.consumer.pc = .handle := beq_iff_eq.mp ha
      have hqueue : (s.next b (.consumerHandle lock)).queue = s.queue := by
        obtain ⟨_, _, _, _, hs, -⟩ := s.consumerHandle_cases b.cfg lock
        rw [State.next, hs]
      have hdepth : (s.next b (.consumerHandle lock)).consumer.pc ≠ .depth := by
        intro h
        simp [h, State.consumerPoints] at hpoint
      have hhandle : (s.next b (.consumerHandle lock)).consumer.pc ≠ .handle := by
        intro h
        simp [h, State.consumerPoints] at hpoint
      rw [State.pendingMsgs, State.pendingMsgs, inHand_of_ne hdepth hhandle, hqueue]
      simp [inHand, handled, hpc]
    | checkinTest client | checkinRead client | checkinStore client =>
      cases htask
      refine (pendingMsgs_of_idle ?_ ?_ rfl ?_ ?_).symm <;> intro h
      · simp [State.enabled, State.atCheckin, h] at ha
      · simp [State.enabled, State.atCheckin, h] at ha
      · simp [h, State.consumerPoints] at hpoint
      · simp [h, State.consumerPoints] at hpoint
    | consumerStart | consumerReceiveTimeOut | consumerReport | consumerDrain | consumerRead
    | consumerProcess | consumerStallTick | consumerStall =>
      refine (pendingMsgs_of_idle ?_ ?_ rfl ?_ ?_).symm <;> intro h
      · simp [State.enabled, h] at ha
      · simp [State.enabled, h] at ha
      · simp [h, State.consumerPoints] at hpoint
      · simp [h, State.consumerPoints] at hpoint
    | _ => cases htask
  · rw [State.pendingMsgs, State.pendingMsgs, (s.next_consumer b htask).1, queue_next htask]
    cases a with
    | consumerHandle => exact absurd rfl htask
    | _ => simp [handled]

/-- Only the UI's sends change `s_dropped_msgs`, and they count what they could not send. -/
theorem droppedMsgs_next :
    (s.next b a).ui.droppedMsgs =
      s.ui.droppedMsgs + UInt32.ofNat (refusedUi b.cfg s a).length := by
  by_cases htask : a.task = some .ui
  · cases a with
    | uiPress4 pressed | uiPress5 pressed =>
      cases pressed with
      | false => simp [State.next, uiSend_eq, refusedUi, offered]
      | true => simp [State.next, uiSend_eq, refusedUi, offered, htask]
    | uiKey key => simp [State.next, uiSend_eq, refusedUi, offered, htask]
    | uiWake | uiKeysDone => simp [State.next, refusedUi, offered]
    | checkinTest client | checkinRead client | checkinStore client =>
      cases htask
      simp [State.next, State.checkinTest, State.checkinRead, State.checkinStore, refusedUi,
        offered]
    | _ => cases htask
  · rw [s.next_ui b htask, refusedUi, if_neg fun h ↦ htask h.1]
    exact (UInt32.add_zero _).symm

/-- The messages of one kind that a step hands to `consumer_handle_msg`. -/
def handledOf (id : ConsumerMsgId) (s : State) (a : Action) : List ConsumerMsg :=
  (handled s a).filter (·.id = id)

private theorem state_consumerHandle (cfg : AppConfig) (lock : Option Hold) :
    (s.consumerHandle cfg lock).consumer.state =
      Consumer.toggled s.consumer.state s.consumer.msg.id := by
  unfold State.consumerHandle
  split
  · next hid => rw [hid]; rfl
  · rfl
  · rfl
  · split
    · obtain ⟨_, _, hs, -⟩ := State.consumerRunWdtTest_cases
        { s with consumer := s.consumer.handled } s.consumer.msg.key
      rw [hs]
      rfl
    · rfl
  all_goals rfl

/-- A step flips a switch exactly when it handles a message for it. -/
theorem switches_next :
    let state := s.consumer.state
    let state' := (s.next b a).consumer.state
    state'.streamEnabled = (state.streamEnabled ^^ (handledOf .streamToggle s a).length.bodd) ∧
      state'.streamSlow = (state.streamSlow ^^ (handledOf .rateToggle s a).length.bodd) ∧
      state'.drainPaused = (state.drainPaused ^^ (handledOf .pauseToggle s a).length.bodd) := by
  by_cases hhandle : ∃ lock, a = .consumerHandle lock
  · obtain ⟨lock, rfl⟩ := hhandle
    simp only [State.next, state_consumerHandle, handledOf, handled]
    cases hid : s.consumer.msg.id <;> simp [Consumer.toggled, hid]
  · have hnone : ∀ id, handledOf id s a = [] := by
      intro id
      cases a with
      | consumerHandle lock => exact absurd ⟨lock, rfl⟩ hhandle
      | _ => rfl
    have hstep := s.consumerState_next b a
    generalize (s.next b a).consumer.state = state' at hstep ⊢
    simp only [hnone, List.length_nil, Nat.bodd_zero, Bool.xor_false]
    cases hstep with
    | toggled lock => exact absurd ⟨lock, rfl⟩ hhandle
    | checkedStall =>
      unfold consumerCheckStall
      split
      · exact ⟨rfl, rfl, rfl⟩
      · split <;> exact ⟨rfl, rfl, rfl⟩
    | same | started | sawDepth | timedOut | processed => exact ⟨rfl, rfl, rfl⟩

end steps

/-- Along every stretch of a run the messages pending at its start, and then those accepted, are
handled in order or still pending. -/
theorem pendingMsgs_run {t : State} (hrun : Machine.run (step b) s as = some t) :
    s.pendingMsgs ++ Machine.emitted (step b) (accepted b.cfg) s as =
      handledMsgs b s as ++ t.pendingMsgs := by
  refine Machine.line_emitted (I := fun _ ↦ True) trivial (fun _ _ _ _ _ ↦ trivial) ?_ hrun
  intro s a t _ hstep
  obtain ⟨-, ha, rfl⟩ := step_eq_some.mp hstep
  exact pendingMsgs_next ha

/-- `s_dropped_msgs` is the number of messages that the UI could not send. -/
theorem droppedMsgs_run (hs₀ : Starts b.cfg s₀) (hrun : Machine.run (step b) s₀ as = some s) :
    s.ui.droppedMsgs =
      UInt32.ofNat (Machine.emitted (step b) (refusedUi b.cfg) s₀ as).length := by
  have hstart : s₀.ui.droppedMsgs = 0 := by
    obtain ⟨_, _, _, _, _, rfl⟩ := hs₀
    rfl
  have hcount := Machine.counter_emitted (fun s ↦ s.ui.droppedMsgs) (I := fun _ ↦ True)
    (f := refusedUi b.cfg) trivial (fun _ _ _ _ _ ↦ trivial) ?_ hrun
  · rw [hstart, UInt32.zero_add] at hcount
    exact hcount
  · intro s a t _ hstep
    obtain ⟨-, -, rfl⟩ := step_eq_some.mp hstep
    exact droppedMsgs_next

/-- Nothing is pending where the scheduler starts. -/
theorem pendingMsgs_start (hs₀ : Starts b.cfg s₀) : s₀.pendingMsgs = [] := by
  obtain ⟨_, _, _, _, _, rfl⟩ := hs₀
  rfl

/-- Every message that the queue accepts is handled exactly once and in the order of the sends, or
still pending; and `s_dropped_msgs` is the number of messages that the UI could not send. -/
theorem messages_handled_in_order (hs₀ : Starts b.cfg s₀)
    (hrun : Machine.run (step b) s₀ as = some s) :
    Machine.emitted (step b) (accepted b.cfg) s₀ as = handledMsgs b s₀ as ++ s.pendingMsgs ∧
      s.ui.droppedMsgs =
        UInt32.ofNat (Machine.emitted (step b) (refusedUi b.cfg) s₀ as).length := by
  have hline := pendingMsgs_run hrun
  rw [pendingMsgs_start hs₀, List.nil_append] at hline
  exact ⟨hline, droppedMsgs_run hs₀ hrun⟩

-- A queue of one message.
private def narrowBoard : Board where
  cfg := { appConfig with
    consumerQueueLen := 1
    consumerQueueLen_pos := by decide }
  wdtRunning := true
  wdtTimeoutMs := 2000

-- A press is sent, the next key finds the queue full, and the one after that finds room again
-- while the consumer has the press in hand and handles it.
private def crowdedRun : List Action :=
  [.consumerStart, .uiWake, .uiPress4 false, .uiPress5 true, .uiKey 'p', .consumerReceive,
    .uiKey 'f', .consumerDepth, .consumerHandle none]

/-- One message handled, one pending and one dropped. -/
theorem messages_handled_in_order_crowded :
    ∃ s, Machine.run (step narrowBoard) (powerOn narrowBoard.cfg) crowdedRun = some s ∧
      Machine.emitted (step narrowBoard) (accepted narrowBoard.cfg) (powerOn narrowBoard.cfg)
          crowdedRun =
        handledMsgs narrowBoard (powerOn narrowBoard.cfg) crowdedRun ++ s.pendingMsgs ∧
      s.pendingMsgs = [⟨.rateToggle, 'f'⟩] ∧ s.ui.droppedMsgs = 1 := by
  have hrun : (Machine.run (step narrowBoard) (powerOn narrowBoard.cfg) crowdedRun).any (fun s ↦
      s.pendingMsgs == [⟨.rateToggle, 'f'⟩] && s.ui.droppedMsgs == 1) = true := by
    decide +kernel
  obtain ⟨s, hs, hcheck⟩ := (Option.any_eq_true _ _).mp hrun
  rw [Bool.and_eq_true, beq_iff_eq, beq_iff_eq] at hcheck
  exact ⟨s, hs, (messages_handled_in_order (starts_powerOn (by decide +kernel)) hs).1, hcheck⟩

/-- A switch shows the parity of the messages handled for it. -/
theorem switch_parity (part : State → Bool) {id : ConsumerMsgId}
    (flips : ∀ (s : State) a, part (s.next b a) = (part s ^^ (handledOf id s a).length.bodd))
    (hrun : Machine.run (step b) s₀ as = some s) :
    part s = (part s₀ ^^ ((handledMsgs b s₀ as).countP (·.id = id)).bodd) := by
  rw [List.countP_eq_length_filter, handledMsgs, Machine.filter_emitted]
  refine Machine.flag_emitted part (I := fun _ ↦ True) trivial (fun _ _ _ _ _ ↦ trivial) ?_ hrun
  intro s a t _ hstep
  obtain ⟨-, -, rfl⟩ := step_eq_some.mp hstep
  exact flips s a

/-- In every reachable state the stream is on, slow and the log paused as the numbers of handled
messages for the three switches say: nothing else flips one. -/
theorem switches_show_parity (hs₀ : Starts b.cfg s₀)
    (hrun : Machine.run (step b) s₀ as = some s) :
    let handledCount := fun id ↦ (handledMsgs b s₀ as).countP (·.id = id)
    s.consumer.state.streamEnabled = !(handledCount .streamToggle).bodd ∧
      s.consumer.state.streamSlow = (handledCount .rateToggle).bodd ∧
      s.consumer.state.drainPaused = (handledCount .pauseToggle).bodd := by
  have hstream := switch_parity (fun s ↦ s.consumer.state.streamEnabled)
    (fun _ _ ↦ switches_next.1) hrun
  have hslow := switch_parity (fun s ↦ s.consumer.state.streamSlow)
    (fun _ _ ↦ switches_next.2.1) hrun
  have hpaused := switch_parity (fun s ↦ s.consumer.state.drainPaused)
    (fun _ _ ↦ switches_next.2.2) hrun
  obtain ⟨_, _, _, _, _, rfl⟩ := hs₀
  simp only [State.boot, Consumer.boot, Bool.true_xor, Bool.false_xor] at hstream hslow hpaused
  exact ⟨hstream, hslow, hpaused⟩

/-- The press that was handled has switched the stream off, the key still pending nothing yet. -/
theorem switches_show_parity_crowded :
    ∃ s, Machine.run (step narrowBoard) (powerOn narrowBoard.cfg) crowdedRun = some s ∧
      s.consumer.state.streamEnabled = false ∧ s.consumer.state.streamSlow = false := by
  have hrun : (Machine.run (step narrowBoard) (powerOn narrowBoard.cfg) crowdedRun).any
      (fun _ ↦ true) = true := by
    decide +kernel
  obtain ⟨s, hs, -⟩ := (Option.any_eq_true _ _).mp hrun
  obtain ⟨hstream, hslow, -⟩ := switches_show_parity (starts_powerOn (by decide +kernel)) hs
  exact ⟨s, hs, hstream.trans (by decide +kernel), hslow.trans (by decide +kernel)⟩

end SensorAggregator.System
