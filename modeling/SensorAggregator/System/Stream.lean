import SensorAggregator.Drivers.GpioLed
import SensorAggregator.System.Commands
import SensorAggregator.System.Ledger

/-!
# The stream and the heartbeat

What `consumer_process_record` shows of the records it is given, `task_consumer.c:318–344`: the
sample lines of the stream, which the switches select, and the toggles of the LED, which the
counter of received records paces.
-/

namespace SensorAggregator.System

open Base Datalog Drivers Tasks

variable {b : Board} {as : List Action} {s₀ s t : State} {a : Action}

/-- The record a step hands to `consumer_process_record`. -/
def processedBy (s : State) : Action → List Sample
  | .consumerProcess => s.consumer.batchRest.head?.toList
  | _ => []

/-- The record a step prints. -/
def printedBy (cfg : AppConfig) (s : State) (a : Action) : List Sample :=
  (processedBy s a).filter fun x ↦ (consumerProcessRecord cfg s.consumer.state x.record).2.2

/-- The record at which a step toggles the LED. -/
def toggledBy (cfg : AppConfig) (s : State) (a : Action) : List Sample :=
  (processedBy s a).filter fun x ↦ (consumerProcessRecord cfg s.consumer.state x.record).2.1

/-- The lines that a run prints, in order, as the records they are of. -/
def printed (b : Board) (s₀ : State) (as : List Action) : List Sample :=
  Machine.emitted (step b) (printedBy b.cfg) s₀ as

/-- The records that the switches let through as they stand. -/
def selects (cfg : AppConfig) (state : ConsumerState) (x : Sample) : Bool :=
  state.streamEnabled && (!state.streamSlow || x.record.seq % cfg.slowStreamDivider == 0)

/-- The toggles of a run. -/
def toggles (b : Board) (s₀ : State) (as : List Action) : ℕ :=
  (Machine.emitted (step b) (toggledBy b.cfg) s₀ as).length

section steps

/-- The history records what is processed. -/
theorem processed_next :
    (s.next b a).history.processed = s.history.processed ++ processedBy s a := by
  cases a with
  | consumerProcess => rfl
  | uiPress4 | uiPress5 | uiKey => simp [State.next, processedBy]
  | consumerReceive =>
    simp only [State.next, State.consumerReceive, processedBy, List.append_nil]
    split <;> rfl
  | consumerHandle lock =>
    obtain ⟨_, _, _, _, hs, -⟩ := s.consumerHandle_cases b.cfg lock
    simp only [State.next, hs, processedBy, List.append_nil]
  | checkinTest client | checkinRead client | checkinStore client =>
    cases client <;> exact (List.append_nil _).symm
  | _ => exact (List.append_nil _).symm

private theorem printedBy_eq (cfg : AppConfig) :
    printedBy cfg s a = (processedBy s a).filter (selects cfg s.consumer.state) := rfl

/-- The switches stay as they are unless a message for them is handled. -/
theorem selects_next (hquiet : ∀ msg ∈ handled s a, msg.id ≠ .streamToggle ∧ msg.id ≠ .rateToggle) :
    selects b.cfg (s.next b a).consumer.state = selects b.cfg s.consumer.state := by
  have hnone : ∀ id, id = .streamToggle ∨ id = .rateToggle → handledOf id s a = [] := by
    intro id hid
    refine List.filter_eq_nil_iff.mpr fun msg hmsg ↦ ?_
    obtain ⟨hstream, hrate⟩ := hquiet msg hmsg
    rcases hid with rfl | rfl
    · simpa using hstream
    · simpa using hrate
  obtain ⟨hstream, hslow, -⟩ := switches_next (b := b) (s := s) (a := a)
  rw [hnone .streamToggle (.inl rfl)] at hstream
  rw [hnone .rateToggle (.inr rfl)] at hslow
  funext x
  simp only [selects, hstream, hslow, List.length_nil, Nat.bodd_zero, Bool.xor_false]

private theorem length_toggledBy (cfg : AppConfig) {n : ℕ}
    (hreceived : s.consumer.state.received = UInt32.ofNat n) :
    Counter.hits (2 ^ 32) cfg.heartbeatSamples.toNat (n + (processedBy s a).length) =
      Counter.hits (2 ^ 32) cfg.heartbeatSamples.toNat n + (toggledBy cfg s a).length := by
  by_cases hprocess : ∃ x, a = .consumerProcess ∧ s.consumer.batchRest.head? = some x
  · obtain ⟨x, rfl, hx⟩ := hprocess
    have hone : processedBy s .consumerProcess = [x] := by rw [processedBy, hx]; rfl
    have hshown : ((s.consumer.state.received + 1) % cfg.heartbeatSamples == 0) =
        decide ((n + 1) % 2 ^ 32 % cfg.heartbeatSamples.toNat = 0) := by
      rw [hreceived, ← Counter.ofNat_succ, Bool.eq_iff_iff, beq_iff_eq, decide_eq_true_iff,
        ← UInt32.toNat_inj, UInt32.toNat_mod, UInt32.toNat_ofNat']
      rfl
    have htoggled : toggledBy cfg s .consumerProcess =
        if (s.consumer.state.received + 1) % cfg.heartbeatSamples == 0 then [x] else [] := by
      rw [toggledBy, hone, List.filter_singleton, Bool.cond_eq_ite]
      rfl
    rw [htoggled, hone, hshown]
    simp only [List.length_singleton, decide_eq_true_eq]
    rw [Counter.hits_succ (by decide)]
    split <;> rfl
  · have hnone : processedBy s a = [] := by
      cases a with
      | consumerProcess =>
        rw [processedBy, Option.toList_eq_nil_iff, Option.eq_none_iff_forall_ne_some]
        exact fun x hx ↦ hprocess ⟨x, rfl, hx⟩
      | _ => rfl
    rw [toggledBy, hnone]
    rfl

end steps

section runs

/-- The history of a stretch of a run is what its steps process. -/
theorem processed_run (hrun : Machine.run (step b) s as = some t) :
    t.history.processed = s.history.processed ++ Machine.emitted (step b) processedBy s as := by
  refine Machine.run_induction (P := fun as t ↦ t.history.processed =
    s.history.processed ++ Machine.emitted (step b) processedBy s as)
    (List.append_nil _).symm ?_ hrun
  intro as t a u hrun ih hstep
  rw [Machine.emitted_concat _ hrun hstep, ← List.append_assoc, ← ih]
  obtain ⟨-, -, rfl⟩ := step_eq_some.mp hstep
  exact processed_next

/-- The stream never prints a record twice, out of order, or other than it was sampled. -/
theorem stream_in_order (hs₀ : Starts b.cfg s₀) (hrun : Machine.run (step b) s₀ as = some s) :
    (printed b s₀ as).Sublist s.history.processed ∧
      ((printed b s₀ as).map (·.number)).Pairwise (· < ·) ∧
      ∀ x ∈ printed b s₀ as, Genuine s.history.taken x := by
  have hsub : (printed b s₀ as).Sublist s.history.processed := by
    have hall := processed_run hrun
    have hstart : s₀.history.processed = [] := by
      obtain ⟨_, _, _, _, _, rfl⟩ := hs₀
      rfl
    rw [hstart, List.nil_append] at hall
    rw [hall]
    exact Machine.sublist_emitted (fun s a ↦ List.filter_sublist) s₀ as
  obtain ⟨q, hl⟩ := Reaches.ledger ⟨s₀, hs₀, hrun⟩
  refine ⟨hsub, ?_, fun x hx ↦ hl.genuine x (List.mem_append_left _ (hsub.subset hx))⟩
  have hincreasing := hl.exact.increasing
  simp only [delivery, Delivery.pipeline] at hincreasing
  exact (List.pairwise_append.mp hincreasing).1.sublist (hsub.map _)

-- A build that blinks and slows down by two.
private def pairBoard : Board where
  cfg := { appConfig with
    heartbeatSamples := 2
    slowStreamDivider := 2 }
  wdtRunning := true
  wdtTimeoutMs := 2000

-- One cycle of the producer.
private def quietCycle (ring : Bool) : List Action :=
  [.timerInterrupt, .producerWake, .producerSample 0 ⟨fun _ ↦ 0⟩ 0 0,
    .producerWrite (some ⟨0, 0⟩) 0] ++ (if ring then [.producerRing] else []) ++
    [.producerUpdate, .checkinTest .producer, .checkinRead .producer, .checkinStore .producer]

-- The stream is slowed down, and two samples are in the log.
private def slowedRun : List Action :=
  [.uiWake, .uiPress4 false, .uiPress5 false, .uiKey 'f'] ++ quietCycle true ++ quietCycle false ++
    [.consumerStart, .consumerReceive, .consumerDepth, .consumerHandle none]

-- The consumer processes both.
private def drainRun : List Action :=
  [.consumerDrain, .consumerRead (some ⟨0, 0⟩), .consumerProcess, .consumerProcess]

/-- Only the second of two records is printed. -/
theorem stream_in_order_slowed :
    ∃ s, Machine.run (step pairBoard) (powerOn pairBoard.cfg) (slowedRun ++ drainRun) = some s ∧
      (printed pairBoard (powerOn pairBoard.cfg) (slowedRun ++ drainRun)).map (·.number) = [2] ∧
      (printed pairBoard (powerOn pairBoard.cfg) (slowedRun ++ drainRun)).Sublist
        s.history.processed ∧
      s.history.processed.map (·.number) = [1, 2] := by
  have hrun : (Machine.run (step pairBoard) (powerOn pairBoard.cfg) (slowedRun ++ drainRun)).any
      (fun s ↦ s.history.processed.map (·.number) == [1, 2]) = true := by
    decide +kernel
  obtain ⟨s, hs, hcheck⟩ := (Option.any_eq_true _ _).mp hrun
  obtain ⟨hsub, -, -⟩ := stream_in_order (b := pairBoard) (starts_powerOn (by decide +kernel)) hs
  exact ⟨s, hs, by decide +kernel, hsub, beq_iff_eq.mp hcheck⟩

/-- While nobody flips a switch, the stream prints exactly the records that the switches select,
all of them and nothing else. -/
theorem stream_selects (hrun : Machine.run (step b) s as = some t)
    (hquiet : ∀ msg ∈ handledMsgs b s as, msg.id ≠ .streamToggle ∧ msg.id ≠ .rateToggle) :
    ∃ records, t.history.processed = s.history.processed ++ records ∧
      printed b s as = records.filter (selects b.cfg s.consumer.state) := by
  refine ⟨_, processed_run hrun, ?_⟩
  revert hquiet
  suffices h : (∀ msg ∈ handledMsgs b s as, msg.id ≠ .streamToggle ∧ msg.id ≠ .rateToggle) →
      printed b s as = (Machine.emitted (step b) processedBy s as).filter
        (selects b.cfg s.consumer.state) ∧
      selects b.cfg t.consumer.state = selects b.cfg s.consumer.state from
    fun hquiet ↦ (h hquiet).1
  refine Machine.run_induction (P := fun as t ↦
    (∀ msg ∈ handledMsgs b s as, msg.id ≠ .streamToggle ∧ msg.id ≠ .rateToggle) →
      printed b s as = (Machine.emitted (step b) processedBy s as).filter
        (selects b.cfg s.consumer.state) ∧
      selects b.cfg t.consumer.state = selects b.cfg s.consumer.state) (fun _ ↦ ⟨rfl, rfl⟩) ?_ hrun
  intro as t a u hrun ih hstep hquiet
  rw [handledMsgs, Machine.emitted_concat _ hrun hstep] at hquiet
  obtain ⟨ihprinted, ihselects⟩ := ih fun msg hmsg ↦ hquiet msg (List.mem_append_left _ hmsg)
  have hnext := selects_next (b := b) fun msg hmsg ↦ hquiet msg (List.mem_append_right _ hmsg)
  obtain ⟨-, -, rfl⟩ := step_eq_some.mp hstep
  refine ⟨?_, hnext.trans ihselects⟩
  rw [printed, Machine.emitted_concat _ hrun hstep, ← printed, ihprinted, printedBy_eq, ihselects,
    Machine.emitted_concat _ hrun hstep, List.filter_append]

/-- The switches as they stand select the second of two records. -/
theorem stream_selects_slowed :
    ∃ s t, Machine.run (step pairBoard) (powerOn pairBoard.cfg) slowedRun = some s ∧
      Machine.run (step pairBoard) s drainRun = some t ∧
      ∃ records, t.history.processed = s.history.processed ++ records ∧
        printed pairBoard s drainRun =
          records.filter (selects pairBoard.cfg s.consumer.state) := by
  have hrun : (Machine.run (step pairBoard) (powerOn pairBoard.cfg) slowedRun).any (fun s ↦
      (Machine.run (step pairBoard) s drainRun).isSome &&
        (handledMsgs pairBoard s drainRun).isEmpty) = true := by
    decide +kernel
  obtain ⟨s, hs, hcheck⟩ := (Option.any_eq_true _ _).mp hrun
  rw [Bool.and_eq_true, Option.isSome_iff_exists, List.isEmpty_iff] at hcheck
  obtain ⟨⟨t, ht⟩, hnone⟩ := hcheck
  refine ⟨s, t, hs, ht, stream_selects ht ?_⟩
  rw [hnone]
  intro msg hmsg
  cases hmsg

/-- The LED toggles at every multiple of `APP_HEARTBEAT_SAMPLES` that the counter of received
records shows, its wrap to zero included: after `n` records it has been turned over as often as
that, and is on if that is odd. -/
theorem heartbeat_exact (hs₀ : Starts b.cfg s₀) (hrun : Machine.run (step b) s₀ as = some s)
    {led : GpioLed} (hled : led.Shows false) :
    let hits := Counter.hits (2 ^ 32) b.cfg.heartbeatSamples.toNat s.history.processed.length
    toggles b s₀ as = hits ∧ (GpioLed.ledToggle^[toggles b s₀ as] led).Shows hits.bodd := by
  intro hits
  have hcount : toggles b s₀ as = hits := by
    refine Machine.run_induction (P := fun as s ↦ toggles b s₀ as =
      Counter.hits (2 ^ 32) b.cfg.heartbeatSamples.toNat s.history.processed.length) ?_ ?_ hrun
    · obtain ⟨_, _, _, _, _, rfl⟩ := hs₀
      simp [toggles, State.boot, Counter.hits]
    · intro as s a t hrun ih hstep
      obtain ⟨q, hl⟩ := Reaches.ledger ⟨s₀, hs₀, hrun⟩
      rw [toggles, Machine.emitted_concat _ hrun hstep, List.length_append, ← toggles, ih,
        ← length_toggledBy b.cfg hl.received]
      obtain ⟨-, -, rfl⟩ := step_eq_some.mp hstep
      rw [processed_next, List.length_append]
  refine ⟨hcount, ?_⟩
  have hshows := hled.iterate (toggles b s₀ as)
  rw [hcount, Bool.false_xor] at hshows
  rw [hcount]
  exact hshows

/-- The second record turns the LED on. -/
theorem heartbeat_exact_slowed :
    toggles pairBoard (powerOn pairBoard.cfg) (slowedRun ++ drainRun) = 1 ∧
      (GpioLed.ledToggle^[1] (GpioLed.boot.init ⟨true, true⟩)).Shows true := by
  have hrun : (Machine.run (step pairBoard) (powerOn pairBoard.cfg) (slowedRun ++ drainRun)).any
      (fun s ↦ s.history.processed.length == 2) = true := by
    decide +kernel
  obtain ⟨s, hs, hcheck⟩ := (Option.any_eq_true _ _).mp hrun
  obtain ⟨htoggles, hshows⟩ := heartbeat_exact (b := pairBoard)
    (starts_powerOn (by decide +kernel)) hs
    (show (GpioLed.boot.init ⟨true, true⟩).Shows false from ⟨rfl, rfl, rfl⟩)
  rw [beq_iff_eq.mp hcheck] at htoggles hshows
  rw [htoggles] at hshows
  exact ⟨htoggles, hshows⟩

end runs

end SensorAggregator.System
