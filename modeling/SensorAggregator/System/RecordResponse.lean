import SensorAggregator.System.LogFigures
import SensorAggregator.System.Stream

/-!
# Every stored record gets its turn

A record in the log is processed or overwritten, and it does not wait for long: as long as the
display is not paused, the consumer processes a record at least every `recordSteps` steps of its
own while there is one, and the records that were stored before come first.
-/

namespace SensorAggregator.System

open Base Datalog Tasks

variable {b : Board} {as bs : List Action} {s t : State} {a : Action} {x : Sample} {n : ℕ}

/-- The records stored and not processed, oldest first: the rest of the batch, then the log. -/
def State.unread (s : State) : List Sample := s.consumer.batchRest ++ s.log.ring.contents

/-- How many unread records are not newer than number `n`. -/
def State.unreadUpTo (s : State) (n : ℕ) : ℕ := s.unread.countP (·.number ≤ n)

/-- The record a step puts into the log. -/
def storedBy (s : State) : Action → List Sample
  | .producerWrite (some _) _ => [s.sample]
  | _ => []

/-- The record a step overwrites. -/
def evictedBy (s : State) : Action → List Sample
  | .producerWrite (some _) _ =>
    if (s.log.ring.push (some s.sample)).2 then s.log.ring.contents.head?.toList else []
  | _ => []

/-- The most steps of the consumer from one record to the next. -/
def recordSteps : ℕ := 13

/-- The most own steps until the consumer has processed a record, if there is one. -/
def stepsToRecord (c : Consumer) : ℕ :=
  match c.pc with
  | .hung => 0
  | .process => if c.idx < c.batchCount.toNat then 1 else recordSteps
  | .read => 2
  | .drain => 3
  | .report => 4
  | .handle => 5
  | .depth => 6
  | .receive => 7
  | .start | .checkin .store => 8
  | .checkin .read => 9
  | .checkin .test => 10
  | .stall => 11
  | .stallTick => 12

section steps

private theorem batchRest_next (hread : ∀ lock, a ≠ .consumerRead lock)
    (hprocess : a ≠ .consumerProcess) :
    (s.next b a).consumer.batchRest = s.consumer.batchRest := by
  cases a with
  | consumerRead lock => exact absurd rfl (hread lock)
  | consumerProcess => exact absurd rfl hprocess
  | uiPress4 | uiPress5 | uiKey => simp [State.next]
  | consumerReceive =>
    simp only [State.next, State.consumerReceive]
    split <;> rfl
  | consumerHandle lock =>
    obtain ⟨_, _, _, _, hs, -, hc, -⟩ := s.consumerHandle_cases b.cfg lock
    rw [State.next, hs]
    rcases hc with rfl | rfl <;> rfl
  | consumerDrain => exact (s.consumer.drain_same b.cfg).1
  | checkinTest client | checkinRead client | checkinStore client => cases client <;> rfl
  | _ => rfl

private theorem overwritten_next :
    (s.next b a).history.overwritten = s.history.overwritten ++ evictedBy s a := by
  cases a with
  | producerWrite lock nowUs =>
    cases lock with
    | none => exact (List.append_nil _).symm
    | some hold =>
      simp only [State.next, State.producerWrite, SensorLog.write, evictedBy, Bool.true_and]
      split
      · rfl
      · exact (List.append_nil _).symm
  | uiPress4 | uiPress5 | uiKey => simp [State.next, evictedBy]
  | consumerReceive =>
    simp only [State.next, State.consumerReceive, evictedBy, List.append_nil]
    split <;> rfl
  | consumerHandle lock =>
    obtain ⟨_, _, _, _, hs, -⟩ := s.consumerHandle_cases b.cfg lock
    simp only [State.next, hs, evictedBy, List.append_nil]
  | checkinTest client | checkinRead client | checkinStore client =>
    cases client <;> exact (List.append_nil _).symm
  | _ => exact (List.append_nil _).symm

variable {streak : ℕ} {q : Fifo Sample}

private theorem unread_write
    (hl : Ledger b.cfg streak q s.log.ring s.producer s.consumer s.history) (hold : Hold)
    (nowUs : UInt64) :
    (s.unread ++ [s.sample]).Perm (evictedBy s (.producerWrite (some hold) nowUs) ++
      (s.next b (.producerWrite (some hold) nowUs)).unread) := by
  have hnext := represents_next (b := b) (a := .producerWrite (some hold) nowUs) hl.ring
  have hrest : (s.next b (.producerWrite (some hold) nowUs)).consumer.batchRest =
      s.consumer.batchRest := rfl
  have hevicted : evictedBy s (.producerWrite (some hold) nowUs) =
      if q.full b.cfg.logCapacity.toNat then q.items.head?.toList else [] := by
    rw [evictedBy, (hl.ring.push _).2, hl.ring.contents_eq]
  rw [State.unread, State.unread, hrest, hevicted, hnext.contents_eq, hl.ring.contents_eq,
    List.append_assoc]
  refine List.Perm.trans ?_ (List.perm_append_comm_assoc _ _ _)
  apply List.Perm.append_left
  simp only [fifoNext, Fifo.push]
  split
  · rw [← List.append_assoc]
    apply List.Perm.append_right
    cases q.items with
    | nil => exact List.Perm.refl _
    | cons y ys => exact List.Perm.refl _
  · exact List.Perm.refl _

private theorem unread_read
    (hl : Ledger b.cfg streak q s.log.ring s.producer s.consumer s.history)
    (hpc : s.consumer.pc = .read) (lock : Option Hold) :
    (s.next b (.consumerRead lock)).unread = s.unread := by
  have hrest := hl.resting (by rw [hpc]; decide)
  have hnext := represents_next (b := b) (a := .consumerRead lock) hl.ring
  rw [State.unread, State.unread, hrest, hnext.contents_eq, hl.ring.contents_eq]
  cases lock with
  | none => rfl
  | some hold =>
    have hbatch := batchRest_gotBatch hl.ring s.consumer s.consumer.batch b.cfg.logReadBatch
    obtain ⟨hout, -⟩ := SensorLog.read_some hl.ring hold s.consumer.batch b.cfg.logReadBatch
      s.consumer.batchCount
    simp only [State.next, State.consumerRead, hout, Option.getD_some, hbatch]
    exact List.take_append_drop _ _

private theorem unread_process :
    s.unread = processedBy s .consumerProcess ++ (s.next b .consumerProcess).unread := by
  have hring : (s.next b .consumerProcess).log.ring = s.log.ring := rfl
  have hconsumer : (s.next b .consumerProcess).consumer = s.consumer.process b.cfg := rfl
  rw [State.unread, State.unread, hring, hconsumer, processedBy, ← List.append_assoc]
  congr 1
  by_cases hidx : s.consumer.idx < s.consumer.batchCount.toNat
  · rw [Consumer.batchRest_process b.cfg hidx]
    rfl
  · have hrest := Consumer.batchRest_of_le (Nat.le_of_not_lt hidx)
    have hsame : (s.consumer.process b.cfg).batchRest = s.consumer.batchRest := by
      rw [Consumer.process, if_neg hidx]
      split
      · rfl
      · exact (s.consumer.nextBatch_same b.cfg _).1
    rw [hsame, hrest]
    rfl

private theorem unread_same (hwrite : ∀ lock nowUs, a ≠ .producerWrite lock nowUs)
    (hread : ∀ lock, a ≠ .consumerRead lock) (hprocess : a ≠ .consumerProcess) :
    (s.next b a).unread = s.unread := by
  rw [State.unread, State.unread, batchRest_next hread hprocess, ring_next hwrite hread]

/-- An unread record stays so unless it is processed or overwritten. -/
theorem unread_next (hl : Ledger b.cfg streak q s.log.ring s.producer s.consumer s.history)
    (ha : s.enabled a = true) :
    (s.unread ++ storedBy s a).Perm
      (processedBy s a ++ (evictedBy s a ++ (s.next b a).unread)) := by
  cases a with
  | producerWrite lock nowUs =>
    cases lock with
    | none => exact .of_eq (List.append_nil _)
    | some hold => exact unread_write hl hold nowUs
  | consumerRead lock =>
    have hread := unread_read hl (beq_iff_eq.mp ha) lock
    exact .of_eq ((List.append_nil _).trans hread.symm)
  | consumerProcess =>
    exact .of_eq ((List.append_nil _).trans unread_process)
  | _ =>
    rw [unread_same (fun _ _ ↦ Action.noConfusion) (fun _ ↦ Action.noConfusion)
      Action.noConfusion]
    exact .of_eq (List.append_nil _)

/-- The unread records are in the order of their numbers. -/
theorem unread_increasing
    (hl : Ledger b.cfg streak q s.log.ring s.producer s.consumer s.history) :
    (s.unread.map (·.number)).Pairwise (· < ·) := by
  have hincreasing := (List.pairwise_append.mp hl.exact.increasing).2.1
  rw [State.unread, List.map_append, hl.ring.contents_eq]
  exact hincreasing

private theorem lt_of_storedBy
    (hl : Ledger b.cfg streak q s.log.ring s.producer s.consumer s.history)
    (ha : s.enabled a = true) (hx : x ∈ s.unread) {y : Sample} (hy : y ∈ storedBy s a) :
    x.number < y.number := by
  cases a with
  | producerWrite lock nowUs =>
    cases lock with
    | none => cases hy
    | some hold =>
      have hpc : s.producer.pc = .write := beq_iff_eq.mp ha
      obtain ⟨hpos, -⟩ := hl.current_genuine hpc
      have hnumber : x.number ∈ (delivery streak q s.producer s.consumer s.history).pipeline := by
        have hmem := List.mem_map_of_mem (f := Sample.number) hx
        rw [State.unread, hl.ring.contents_eq, List.map_append] at hmem
        exact List.mem_append_right _ hmem
      have hle := (hl.exact.mem_bounds (List.mem_append_left _ hnumber)).2
      rw [List.mem_singleton.mp hy]
      simp only [delivery, hpc, inFlight] at hle
      simp only [State.sample]
      omega
  | _ => cases hy

private theorem le_of_processedBy
    (hl : Ledger b.cfg streak q s.log.ring s.producer s.consumer s.history)
    (ha : s.enabled a = true) (hx : x ∈ s.unread) {y : Sample} (hy : y ∈ processedBy s a) :
    y.number ≤ x.number := by
  cases a with
  | consumerProcess =>
    have hsplit := unread_process (b := b) (s := s)
    have hincreasing := unread_increasing hl
    rw [processedBy, Option.mem_toList] at hy
    rw [processedBy, hy, Option.toList_some, List.singleton_append] at hsplit
    rw [hsplit, List.map_cons, List.pairwise_cons] at hincreasing
    rw [hsplit] at hx
    apply (List.mem_cons.mp hx).elim
    · exact fun h ↦ Nat.le_of_eq (congrArg Sample.number h.symm)
    · exact fun h ↦ Nat.le_of_lt (hincreasing.1 _ (List.mem_map_of_mem h))
  | _ => cases hy

private theorem unreadUpTo_next
    (hl : Ledger b.cfg streak q s.log.ring s.producer s.consumer s.history)
    (ha : s.enabled a = true) (hx : x ∈ s.unread) :
    x ∈ (s.next b a).history.processed ∨ x ∈ (s.next b a).history.overwritten ∨
      x ∈ (s.next b a).unread ∧
        (s.next b a).unreadUpTo x.number + (processedBy s a).length ≤
          s.unreadUpTo x.number := by
  have hperm := unread_next hl ha
  have hmem := hperm.subset (List.mem_append_left _ hx)
  rw [processed_next, overwritten_next]
  simp only [List.mem_append] at hmem ⊢
  apply hmem.elim (fun h ↦ .inl (.inr h))
  intro hmem
  apply hmem.elim (fun h ↦ .inr (.inl (.inr h)))
  intro hmem
  refine .inr (.inr ⟨hmem, ?_⟩)
  have hstored : (storedBy s a).countP (·.number ≤ x.number) = 0 := by
    rw [List.countP_eq_zero]
    intro y hy
    have hlt := lt_of_storedBy hl ha hx hy
    simpa using hlt
  have hprocessed : (processedBy s a).countP (·.number ≤ x.number) = (processedBy s a).length := by
    rw [List.countP_eq_length]
    intro y hy
    exact decide_eq_true (le_of_processedBy hl ha hx hy)
  have hcount := hperm.countP_eq (·.number ≤ x.number)
  simp only [List.countP_append, hstored, hprocessed] at hcount
  simp only [State.unreadUpTo]
  omega

end steps

section rank

private theorem stepsToRecord_nextBatch (cfg : AppConfig) (c : Consumer) (batchNum : ℕ) :
    stepsToRecord (c.nextBatch cfg batchNum) ≤ 12 := by
  rcases c.pc_nextBatch cfg batchNum with h | h <;> simp [stepsToRecord, h]

private theorem stepsToRecord_drain {c : Consumer} (hplay : c.state.drainPaused = false)
    (hmax : 0 < b.cfg.logDrainBatchesMax) : stepsToRecord (c.drain b.cfg) = 2 := by
  have hpos : 0 < b.cfg.logDrainBatchesMax.toNat := UInt32.lt_iff_toNat_lt.mp hmax
  simp [Consumer.drain, hplay, Consumer.nextBatch, hpos, stepsToRecord]

private theorem stepsToRecord_read {streak : ℕ} {q : Fifo Sample}
    (hl : Ledger b.cfg streak q s.log.ring s.producer s.consumer s.history)
    (hpc : s.consumer.pc = .read) (hunread : s.unread ≠ []) (hold : Hold) :
    stepsToRecord (s.next b (.consumerRead (some hold))).consumer = 1 := by
  have hitems : q.items ≠ [] := by
    rw [State.unread, hl.resting (by rw [hpc]; decide), hl.ring.contents_eq] at hunread
    exact hunread
  obtain ⟨hout, -⟩ := SensorLog.read_some hl.ring hold s.consumer.batch b.cfg.logReadBatch
    s.consumer.batchCount
  have hlen := List.length_pos_iff.mpr hitems
  have hbatch : 0 < b.cfg.logReadBatch.toNat := UInt32.lt_iff_toNat_lt.mp b.cfg.logReadBatch_pos
  have hle := hl.ring.wf.length_le
  have hcap := hl.ring.cap_lt
  have hcount : (UInt32.ofNat (min b.cfg.logReadBatch.toNat q.items.length)).toNat =
      min b.cfg.logReadBatch.toNat q.items.length :=
    Counter.toNat_ofNat_of_lt (by omega)
  simp only [State.next, State.consumerRead, hout, Option.getD_some, Consumer.gotBatch, if_true,
    stepsToRecord, hcount]
  exact if_pos (Nat.lt_min.mpr ⟨hbatch, hlen⟩)

private theorem stepsToRecord_away (ha : s.enabled a = true) (htask : a.task = some .consumer)
    (hread : ∀ lock, a ≠ .consumerRead lock) (hprocess : a ≠ .consumerProcess)
    (hplay : s.consumer.state.drainPaused = false) (hmax : 0 < b.cfg.logDrainBatchesMax) :
    stepsToRecord (s.next b a).consumer + 1 ≤ stepsToRecord s.consumer := by
  have hpoint := s.pc_consumer_next b ha htask
  cases a with
  | consumerRead lock => exact absurd rfl (hread lock)
  | consumerProcess => exact absurd rfl hprocess
  | consumerStart =>
    have hpc : s.consumer.pc = .start := beq_iff_eq.mp ha
    simp [stepsToRecord, hpc, State.next, Consumer.start]
  | consumerReceive =>
    have hpc : s.consumer.pc = .receive := beq_iff_eq.mp (Bool.and_eq_true_iff.mp ha).1
    simp only [State.consumerPoints, List.mem_singleton] at hpoint
    simp [stepsToRecord, hpc, hpoint]
  | consumerReceiveTimeOut =>
    have hpc : s.consumer.pc = .receive := beq_iff_eq.mp (Bool.and_eq_true_iff.mp ha).1
    simp [stepsToRecord, hpc, State.next, Consumer.receivedNothing]
  | consumerDepth =>
    have hpc : s.consumer.pc = .depth := beq_iff_eq.mp ha
    simp [stepsToRecord, hpc, State.next, Consumer.sawDepth]
  | consumerHandle lock =>
    have hpc : s.consumer.pc = .handle := beq_iff_eq.mp ha
    simp only [State.consumerPoints, List.mem_pair] at hpoint
    rcases hpoint with h | h <;> simp [stepsToRecord, hpc, h]
  | consumerReport =>
    have hpc : s.consumer.pc = .report := beq_iff_eq.mp ha
    simp [stepsToRecord, hpc, State.next, State.consumerReport]
  | consumerDrain =>
    have hpc : s.consumer.pc = .drain := beq_iff_eq.mp ha
    simp [stepsToRecord.eq_def s.consumer, hpc, State.next, stepsToRecord_drain hplay hmax]
  | consumerStallTick =>
    have hpc : s.consumer.pc = .stallTick := beq_iff_eq.mp ha
    simp [stepsToRecord, hpc, State.next, Consumer.sawTick]
  | consumerStall =>
    have hpc : s.consumer.pc = .stall := beq_iff_eq.mp ha
    simp [stepsToRecord, hpc, State.next, Consumer.checkedStall]
  | checkinTest client =>
    cases htask
    have hpc : s.consumer.pc = .checkin .test := beq_iff_eq.mp ha
    simp only [State.consumerPoints, List.mem_pair] at hpoint
    rcases hpoint with h | h <;> simp [stepsToRecord, hpc, h]
  | checkinRead client =>
    cases htask
    have hpc : s.consumer.pc = .checkin .read := beq_iff_eq.mp ha
    simp [stepsToRecord, hpc, State.next, State.checkinRead]
  | checkinStore client =>
    cases htask
    have hpc : s.consumer.pc = .checkin .store := beq_iff_eq.mp ha
    simp [stepsToRecord, hpc, State.next, State.checkinStore]
  | _ => cases htask

private theorem stepsToRecord_process (hpc : s.consumer.pc = .process) :
    stepsToRecord (s.next b .consumerProcess).consumer + 1 ≤
      stepsToRecord s.consumer + recordSteps * (processedBy s .consumerProcess).length := by
  have hconsumer : (s.next b .consumerProcess).consumer = s.consumer.process b.cfg := rfl
  rw [hconsumer, stepsToRecord.eq_def s.consumer, hpc]
  by_cases hidx : s.consumer.idx < s.consumer.batchCount.toNat
  · have hone : (processedBy s .consumerProcess).length = 1 := by
      rw [processedBy, Consumer.batchRest_process b.cfg hidx]
      rfl
    have hnext : stepsToRecord (s.consumer.process b.cfg) ≤ recordSteps := by
      rw [Consumer.process, if_pos hidx]
      simp only [stepsToRecord, hpc, recordSteps]
      split <;> omega
    simp only [hone, if_pos hidx]
    omega
  · have hnext : stepsToRecord (s.consumer.process b.cfg) ≤ 12 := by
      rw [Consumer.process, if_neg hidx]
      split
      · exact Nat.le_refl 12
      · exact stepsToRecord_nextBatch b.cfg s.consumer _
    simp only [if_neg hidx, recordSteps]
    omega

/-- Every own step brings the consumer closer to its next record, unless it processes one, or a
read does not get the mutex. -/
theorem stepsToRecord_next {streak : ℕ} {q : Fifo Sample}
    (hl : Ledger b.cfg streak q s.log.ring s.producer s.consumer s.history)
    (ha : s.enabled a = true) (htask : a.task = some .consumer) (hunread : s.unread ≠ [])
    (hplay : s.consumer.state.drainPaused = false) (hmax : 0 < b.cfg.logDrainBatchesMax) :
    stepsToRecord (s.next b a).consumer + 1 ≤ stepsToRecord s.consumer +
      recordSteps * ((processedBy s a).length + if a.missesRead then 1 else 0) := by
  by_cases hread : ∃ lock, a = .consumerRead lock
  · obtain ⟨lock, rfl⟩ := hread
    have hpc : s.consumer.pc = .read := beq_iff_eq.mp ha
    rw [stepsToRecord.eq_def s.consumer, hpc]
    cases lock with
    | none => exact show 12 + 1 ≤ 2 + 13 by decide
    | some hold =>
      rw [stepsToRecord_read hl hpc hunread hold]
      exact Nat.le_add_right _ _
  · by_cases hprocess : a = .consumerProcess
    · subst hprocess
      exact stepsToRecord_process (beq_iff_eq.mp ha)
    · have haway := stepsToRecord_away ha htask (fun lock h ↦ hread ⟨lock, h⟩) hprocess hplay hmax
      omega

/-- No more than a whole round is ahead. -/
theorem stepsToRecord_le (c : Consumer) : stepsToRecord c ≤ recordSteps := by
  unfold stepsToRecord recordSteps
  split
  case h_2 => split <;> omega
  all_goals omega

end rank

section runs

private theorem countP_le_place {xs : List Sample} {k : ℕ}
    (hxs : (xs.map (·.number)).Pairwise (· < ·)) (hx : xs[k]? = some x) :
    xs.countP (·.number ≤ x.number) ≤ k + 1 := by
  induction xs generalizing k with
  | nil => cases hx
  | cons y ys ih =>
    rw [List.map_cons, List.pairwise_cons] at hxs
    rw [List.countP_cons]
    cases k with
    | zero =>
      cases hx
      have hnone : ys.countP (·.number ≤ x.number) = 0 := by
        rw [List.countP_eq_zero]
        intro y hy
        have hlt := hxs.1 _ (List.mem_map_of_mem hy)
        simpa using hlt
      rw [hnone]
      split <;> omega
    | succ k =>
      have hle := ih hxs.2 hx
      split <;> omega

private theorem unread_run (h : Reaches b as s) (hrun : Machine.run (step b) s bs = some t)
    (hmax : 0 < b.cfg.logDrainBatchesMax) (hplay : s.consumer.state.drainPaused = false)
    (hquiet : ∀ msg ∈ handledMsgs b s bs, msg.id ≠ .pauseToggle) (hx : x ∈ s.unread) :
    t.consumer.state.drainPaused = false ∧
      (x ∈ t.history.processed ∨ x ∈ t.history.overwritten ∨
        x ∈ t.unread ∧
          bs.countP (·.task = some .consumer) + stepsToRecord t.consumer +
              recordSteps * t.unreadUpTo x.number ≤
            stepsToRecord s.consumer +
              recordSteps * (s.unreadUpTo x.number + bs.countP Action.missesRead)) := by
  revert hquiet
  refine Machine.run_induction (P := fun bs (t : State) ↦
    (∀ msg ∈ handledMsgs b s bs, msg.id ≠ .pauseToggle) →
      t.consumer.state.drainPaused = false ∧
        (x ∈ t.history.processed ∨ x ∈ t.history.overwritten ∨
          x ∈ t.unread ∧
            bs.countP (·.task = some .consumer) + stepsToRecord t.consumer +
                recordSteps * t.unreadUpTo x.number ≤
              stepsToRecord s.consumer +
                recordSteps * (s.unreadUpTo x.number + bs.countP Action.missesRead))) ?_ ?_ hrun
  · intro _
    exact ⟨hplay, .inr (.inr ⟨hx, by simp⟩)⟩
  · intro bs t a u hrun ih hstep hquiet
    have hhandled : handledMsgs b s (bs ++ [a]) = handledMsgs b s bs ++ handled t a :=
      Machine.emitted_concat handled hrun hstep
    rw [hhandled] at hquiet
    obtain ⟨hplay, hwhere⟩ := ih fun msg hmsg ↦ hquiet msg (List.mem_append_left _ hmsg)
    obtain ⟨-, ha, rfl⟩ := step_eq_some.mp hstep
    constructor
    · have hnone : handledOf .pauseToggle t a = [] := by
        refine List.filter_eq_nil_iff.mpr fun msg hmsg ↦ ?_
        simpa using hquiet msg (List.mem_append_right _ hmsg)
      obtain ⟨-, -, hpaused⟩ := switches_next (b := b) (s := t) (a := a)
      rw [hpaused, hnone, hplay]
      rfl
    · rw [processed_next, overwritten_next]
      rcases hwhere with hdone | hover | ⟨hunread, hsteps⟩
      · exact .inl (List.mem_append_left _ hdone)
      · exact .inr (.inl (List.mem_append_left _ hover))
      · obtain ⟨s₀, hs₀, hs⟩ := h
        obtain ⟨q, hl⟩ := Reaches.ledger ⟨s₀, hs₀, Machine.run_append_eq_some.mpr ⟨s, hs, hrun⟩⟩
        have hnext := unreadUpTo_next hl ha hunread
        rw [processed_next, overwritten_next] at hnext
        apply hnext.imp_right
        intro hnext
        apply hnext.imp_right
        rintro ⟨hstill, hle⟩
        refine ⟨hstill, ?_⟩
        rw [List.countP_append, List.countP_append, List.countP_singleton, List.countP_singleton]
        simp only [recordSteps] at hsteps ⊢
        by_cases htask : a.task = some .consumer
        · have hrank := stepsToRecord_next hl ha htask (List.ne_nil_of_mem hunread) hplay hmax
          simp only [recordSteps] at hrank
          simp only [htask, decide_true, if_true]
          omega
        · simp only [htask, decide_false, (t.next_consumer b htask).1]
          simp
          omega

/-- A record that is stored, the `k`-th of those not yet processed, is processed or overwritten
before the consumer has taken `recordSteps` steps for each record up to it, and for each of its
reads that did not get the mutex, as long as the display is not paused. What other tasks store,
send or do in between cannot delay it. -/
theorem record_processed_within (h : Reaches b as s) (hrun : Machine.run (step b) s bs = some t)
    (hmax : 0 < b.cfg.logDrainBatchesMax) (hplay : s.consumer.state.drainPaused = false)
    (hquiet : ∀ msg ∈ handledMsgs b s bs, msg.id ≠ .pauseToggle)
    {k : ℕ} (hx : s.unread[k]? = some x)
    (hsteps : recordSteps * (k + 1 + bs.countP Action.missesRead) <
      bs.countP (·.task = some .consumer)) :
    x ∈ t.history.processed ∨ x ∈ t.history.overwritten := by
  have hmem : x ∈ s.unread := List.mem_of_getElem? hx
  obtain ⟨q, hl⟩ := h.ledger
  have hplace := countP_le_place (unread_increasing hl) hx
  obtain ⟨-, hdone | hover | ⟨hunread, hpaid⟩⟩ := unread_run h hrun hmax hplay hquiet hmem
  · exact .inl hdone
  · exact .inr hover
  · have hself : 0 < t.unreadUpTo x.number :=
      List.countP_pos_iff.mpr ⟨x, hunread, decide_eq_true (Nat.le_refl _)⟩
    have hround := stepsToRecord_le s.consumer
    simp only [State.unreadUpTo, recordSteps] at hpaid hplace hself hround hsteps
    omega

-- The producer stores its first sample.
private def storedRun : List Action :=
  [.timerInterrupt, .producerWake, .producerSample 0 ⟨fun _ ↦ 0⟩ 0 0,
    .producerWrite (some ⟨0, 0⟩) 0]

-- The consumer goes once through its loop and finds no message.
private def drainLoop (lock : Option Hold) (processSteps : ℕ) : List Action :=
  [.consumerReceiveTimeOut, .consumerDrain, .consumerRead lock] ++
    List.replicate processSteps .consumerProcess ++
    [.consumerStallTick, .consumerStall, .checkinTest .consumer, .checkinRead .consumer,
      .checkinStore .consumer]

-- A read misses the mutex, the next one gets it, and one more finds the log empty.
private def missedRun : List Action :=
  .consumerStart :: (drainLoop none 0 ++ drainLoop (some ⟨0, 0⟩) 2 ++ drainLoop (some ⟨0, 0⟩) 1)

/-- The sample is processed though one read missed the mutex. -/
theorem record_processed_within_missed :
    ∃ s t x, Reaches ⟨appConfig, true, 2000⟩ storedRun s ∧ s.unread[0]? = some x ∧
      Machine.run (step ⟨appConfig, true, 2000⟩) s missedRun = some t ∧
      (x ∈ t.history.processed ∨ x ∈ t.history.overwritten) := by
  have hrun : (Machine.run (step ⟨appConfig, true, 2000⟩) (powerOn appConfig) storedRun).any
      (fun s ↦ s.unread[0]?.isSome && !s.consumer.state.drainPaused &&
        ((Machine.run (step ⟨appConfig, true, 2000⟩) s missedRun).isSome &&
          (handledMsgs ⟨appConfig, true, 2000⟩ s missedRun).isEmpty)) = true := by
    decide +kernel
  obtain ⟨s, hs, hcheck⟩ := reaches_of_powerOn (by decide +kernel) hrun
  simp only [Bool.and_eq_true, Option.isSome_iff_exists, List.isEmpty_iff,
    Bool.not_eq_true'] at hcheck
  obtain ⟨⟨⟨x, hx⟩, hplay⟩, ⟨t, ht⟩, hnone⟩ := hcheck
  refine ⟨s, t, x, hs, hx, ht, record_processed_within hs ht (by decide) hplay ?_ hx (by decide)⟩
  rw [hnone]
  intro msg hmsg
  cases hmsg

end runs

end SensorAggregator.System
