import SensorAggregator.Base.Delivery
import SensorAggregator.System.Step

/-!
# Every sample is accounted for

`Ledger` ties the counters of `task_producer.c`, `task_consumer.c` and `ring_buffer.c` to the
samples themselves: the producer issues numbered samples, the log queues or overwrites them, a
failed write refuses them, and the consumer takes and finishes them, as in `Base.Delivery`.
-/

namespace SensorAggregator.System

open Base Datalog Tasks

/-- The producer has taken a sample and not yet tried to store it. -/
def inFlight : ProducerPc → ℕ
  | .write => 1
  | _ => 0

/-- The producer has taken a sample and not yet counted it. -/
def uncounted : ProducerPc → UInt32
  | .write | .ring | .update => 1
  | _ => 0

/-- The producer has dropped its sample and not yet counted the drop. -/
def uncountedDrop (p : Producer) : UInt32 :=
  if p.pc = .update ∧ p.cycle.writeDropped = true then 1 else 0

private theorem uncountedDrop_of_ne {p : Producer} (hne : p.pc ≠ .update) : uncountedDrop p = 0 :=
  if_neg fun hu ↦ hne hu.1

private theorem uncountedDrop_of_counted {p : Producer} (h : uncounted p.pc = 0) :
    uncountedDrop p = 0 := by
  apply uncountedDrop_of_ne
  intro hpc
  rw [hpc] at h
  cases h

/-- The consumer's and the producer's lists as one numbered stream. -/
def delivery (streak : ℕ) (q : Fifo Sample) (p : Producer) (c : Consumer) (h : History) :
    Delivery where
  issued := h.taken.length - inFlight p.pc
  done := h.processed.map (·.number)
  held := c.batchRest.map (·.number)
  queued := q.items.map (·.number)
  evicted := h.overwritten.map (·.number)
  refused := h.dropped.map (·.number)
  streak := streak

/-- The sample is one the producer took, under its own number. -/
def Genuine (taken : List SensorRecord) (x : Sample) : Prop :=
  ∃ i, x.number = i + 1 ∧ taken[i]? = some x.record

/-- What the counters say about the samples, while `q` is what the log holds. -/
structure Ledger (cfg : AppConfig) (streak : ℕ) (q : Fifo Sample) (rb : RingBuffer Sample)
    (p : Producer) (c : Consumer) (h : History) : Prop where
  ring : RingBuffer.Represents cfg.logCapacity.toNat rb q
  exact : (delivery streak q p c h).Exact
  genuine : ∀ x ∈ h.processed ++ (c.batchRest ++ q.history), Genuine h.taken x
  stored : ∀ x ∈ q.history, x.number ≤ h.taken.length - inFlight p.pc
  seqs : ∀ (i : ℕ) (r : SensorRecord), h.taken[i]? = some r → r.seq = UInt32.ofNat (i + 1)
  seq : p.record.seq = UInt32.ofNat h.taken.length
  current : uncounted p.pc = 1 → h.taken.getLast? = some p.record
  samples : p.stats.samples + uncounted p.pc = UInt32.ofNat h.taken.length
  drops : p.stats.logWriteDrops + uncountedDrop p = UInt32.ofNat h.dropped.length
  ringing : p.pc = .ring → p.cycle.writeDropped = false
  received : c.state.received = UInt32.ofNat h.processed.length
  dropped : q.dropped = h.overwritten.length
  resting : c.pc ≠ .process → c.batchRest = []
  lost : c.state.lost =
    UInt32.ofNat ((h.processed.map (·.number)).getLast?.getD 0) - UInt32.ofNat h.processed.length

variable {cfg : AppConfig} {streak : ℕ} {q : Fifo Sample} {rb rb' : RingBuffer Sample}
  {p p' : Producer} {c c' : Consumer} {h : History}

/-- Later samples do not change an earlier one. -/
theorem Genuine.mono {taken taken' : List SensorRecord} {x : Sample} (hx : Genuine taken x)
    (h : taken <+: taken') : Genuine taken' x := by
  obtain ⟨i, hi, hr⟩ := hx
  obtain ⟨rest, rfl⟩ := h
  refine ⟨i, hi, ?_⟩
  rw [List.getElem?_append_left (List.getElem?_eq_some_iff.mp hr).1, hr]

private theorem ledger_start {s₀ : State} (hs : Starts cfg s₀) :
    Ledger cfg 0 .empty s₀.log.ring s₀.producer s₀.consumer s₀.history := by
  have hring := hs.represents
  obtain ⟨_, _, _, _, _, rfl⟩ := hs
  exact {
    ring := hring
    exact := Delivery.exact_empty
    genuine := by
      intro x hx
      simp [State.boot, Consumer.boot, Consumer.batchRest, Fifo.empty] at hx
    stored := by
      intro x hx
      cases hx
    seqs := by
      intro i r hr
      simp [State.boot] at hr
    seq := rfl
    current := by
      intro hu
      cases hu
    samples := rfl
    drops := rfl
    ringing := by
      intro hr
      cases hr
    received := rfl
    dropped := rfl
    resting := fun _ ↦ rfl
    lost := show (0 : UInt32) = 0 - 0 by decide }

/-- The number of samples the producer has counted. -/
def counted (pc : ProducerPc) (taken : List SensorRecord) : ℕ :=
  taken.length - (uncounted pc).toNat

/-- The producer's own figure is that number. -/
theorem Ledger.samples_eq (hl : Ledger cfg streak q rb p c h) :
    p.stats.samples = UInt32.ofNat (counted p.pc h.taken) := by
  have hs := hl.samples
  have hcases : uncounted p.pc = 0 ∨ uncounted p.pc = 1 := by
    cases p.pc <;> simp [uncounted]
  rcases hcases with hu | hu
  · rw [hu, UInt32.add_zero] at hs
    rw [hs, counted, hu]
    rfl
  · obtain ⟨before, hbefore⟩ := List.getLast?_eq_some_iff.mp (hl.current hu)
    rw [hu, hbefore, List.length_append, List.length_singleton, Counter.ofNat_succ,
      UInt32.add_left_inj] at hs
    rw [hs, counted, hu, hbefore, List.length_append, List.length_singleton]
    rfl

private theorem Ledger.producerIdle (hl : Ledger cfg streak q rb p c h) (hpc : uncounted p.pc = 0)
    (hpc' : uncounted p'.pc = 0) (hrecord : p'.record = p.record)
    (hsamples : p'.stats.samples = p.stats.samples)
    (hdrops : p'.stats.logWriteDrops = p.stats.logWriteDrops) :
    Ledger cfg streak q rb p' c h := by
  have hflight : ∀ pc : ProducerPc, uncounted pc = 0 → inFlight pc = 0 := by
    intro pc hu
    cases pc with
    | write => cases hu
    | _ => rfl
  have hd : delivery streak q p' c h = delivery streak q p c h := by
    simp only [delivery, hflight _ hpc, hflight _ hpc']
  exact { hl with
    exact := hd ▸ hl.exact
    stored := by
      rw [hflight _ hpc', ← hflight _ hpc]
      exact hl.stored
    seq := hrecord ▸ hl.seq
    current := by
      intro hu
      rw [hpc'] at hu
      cases hu
    samples := by
      rw [hsamples, hpc', ← hpc]
      exact hl.samples
    drops := by
      rw [hdrops, uncountedDrop_of_counted hpc', ← uncountedDrop_of_counted hpc]
      exact hl.drops
    ringing := by
      intro hr
      rw [hr] at hpc'
      cases hpc' }

private theorem Ledger.consumerIdle (hl : Ledger cfg streak q rb p c h)
    (hresting : c'.pc ≠ .process → c.batchRest = []) (hbatch : c'.batchRest = c.batchRest)
    (hreceived : c'.state.received = c.state.received) (hlost : c'.state.lost = c.state.lost) :
    Ledger cfg streak q rb p c' h := by
  have hd : delivery streak q p c' h = delivery streak q p c h := by
    simp only [delivery, hbatch]
  exact { hl with
    exact := hd ▸ hl.exact
    genuine := hbatch ▸ hl.genuine
    received := hreceived.trans hl.received
    resting := fun hpc ↦ hbatch.trans (hresting hpc)
    lost := hlost.trans hl.lost }

private theorem Ledger.consumerAway (hl : Ledger cfg streak q rb p c h) (hpc : c.pc ≠ .process)
    (hbatch : c'.batchRest = c.batchRest) (hreceived : c'.state.received = c.state.received)
    (hlost : c'.state.lost = c.state.lost) : Ledger cfg streak q rb p c' h :=
  hl.consumerIdle (fun _ ↦ hl.resting hpc) hbatch hreceived hlost

/-- Taking a sample issues nothing yet: it is in flight until the write is over. -/
theorem Ledger.producerSample (hl : Ledger cfg streak q rb p c h) (hpc : p.pc = .sample)
    (captureUs : UInt64) (sensors : XadcSample) (buttons : UInt8) (writeStartUs : UInt64) :
    Ledger cfg streak q rb (p.takeSample captureUs sensors buttons writeStartUs) c
      { h with taken := h.taken ++
          [(p.takeSample captureUs sensors buttons writeStartUs).record] } := by
  have hflight : inFlight p.pc = 0 := by rw [hpc]; rfl
  have hcounted : uncounted p.pc = 0 := by rw [hpc]; rfl
  have hseq : (p.takeSample captureUs sensors buttons writeStartUs).record.seq =
      UInt32.ofNat (h.taken.length + 1) := by
    rw [Counter.ofNat_succ, ← hl.seq]
    rfl
  generalize hp' : p.takeSample captureUs sensors buttons writeStartUs = p' at hseq ⊢
  have hpc' : p'.pc = .write := by rw [← hp']; rfl
  have hstats : p'.stats = p.stats := by rw [← hp']; rfl
  have hissued : (h.taken ++ [p'.record]).length - inFlight p'.pc =
      h.taken.length - inFlight p.pc := by
    rw [hpc', hflight, List.length_append, List.length_singleton]
    rfl
  have hd : delivery streak q p' c { h with taken := h.taken ++ [p'.record] } =
      delivery streak q p c h := by
    simp only [delivery, hissued]
  exact { hl with
    exact := hd ▸ hl.exact
    genuine := fun x hx ↦ (hl.genuine x hx).mono (List.prefix_append _ _)
    stored := by
      rw [hissued]
      exact hl.stored
    seqs := by
      intro i r hr
      by_cases hi : i < h.taken.length
      · rw [List.getElem?_append_left hi] at hr
        exact hl.seqs i r hr
      · have hlen := (List.getElem?_eq_some_iff.mp hr).1
        simp only [List.length_append, List.length_singleton] at hlen
        have hi' : i = h.taken.length := by omega
        subst hi'
        rw [List.getElem?_concat_length, Option.some_inj] at hr
        rw [← hr, hseq]
    seq := by
      rw [hseq, List.length_append, List.length_singleton]
    current := by
      intro _
      rw [List.getLast?_concat]
    samples := by
      have hs := hl.samples
      rw [hcounted, UInt32.add_zero] at hs
      rw [hstats, hs, hpc', List.length_append, List.length_singleton, Counter.ofNat_succ]
      rfl
    drops := by
      have hs := hl.drops
      rw [uncountedDrop_of_ne (by rw [hpc]; decide)] at hs
      rw [hstats, uncountedDrop_of_ne (by rw [hpc']; decide)]
      exact hs
    ringing := by
      intro hr
      rw [hpc'] at hr
      cases hr }

/-- After a write nothing is in flight, and the sample is not counted yet. -/
theorem uncounted_wrote (p : Producer) (stored e : Bool) (nowUs : UInt64) :
    inFlight (p.wrote stored e nowUs).pc = 0 ∧ uncounted (p.wrote stored e nowUs).pc = 1 := by
  rcases p.pc_wrote stored e nowUs with h | h <;> rw [h] <;> exact ⟨rfl, rfl⟩

/-- At a write the sample in flight is the last one taken. -/
theorem Ledger.current_genuine (hl : Ledger cfg streak q rb p c h) (hpc : p.pc = .write) :
    0 < h.taken.length ∧ Genuine h.taken ⟨h.taken.length, p.record⟩ := by
  have hlast := hl.current (by rw [hpc]; rfl)
  obtain ⟨before, hbefore⟩ := List.getLast?_eq_some_iff.mp hlast
  have hlen : h.taken.length = before.length + 1 := by simp [hbefore]
  refine ⟨by omega, before.length, hlen, ?_⟩
  rw [hbefore, List.getElem?_concat_length]

/-- A write that gets no mutex refuses the sample. -/
theorem Ledger.producerDrop (hl : Ledger cfg streak q rb p c h) (hpc : p.pc = .write) (e : Bool)
    (nowUs : UInt64) :
    Ledger cfg (streak + 1) q rb (p.wrote false e nowUs) c
      { h with dropped := h.dropped ++ [⟨h.taken.length, p.record⟩] } := by
  obtain ⟨hpos, _⟩ := hl.current_genuine hpc
  have hflight : inFlight p.pc = 1 := by rw [hpc]; rfl
  obtain ⟨hflight', hcounted'⟩ := uncounted_wrote p false e nowUs
  have hd : delivery (streak + 1) q (p.wrote false e nowUs) c
      { h with dropped := h.dropped ++ [⟨h.taken.length, p.record⟩] } =
        (delivery streak q p c h).refuse := by
    simp only [delivery, Delivery.refuse, hflight, hflight', List.map_append, List.map_cons,
      List.map_nil, Nat.sub_zero, Nat.sub_add_cancel hpos]
  exact { hl with
    exact := hd ▸ hl.exact.refuse
    stored := by
      intro x hx
      rw [hflight', Nat.sub_zero]
      exact (hl.stored x hx).trans (Nat.sub_le _ _)
    current := fun _ ↦ hl.current (by rw [hpc]; rfl)
    samples := by
      have hs := hl.samples
      rw [hpc] at hs
      rw [hcounted']
      exact hs
    drops := by
      have hs := hl.drops
      rw [uncountedDrop_of_ne (by rw [hpc]; decide), UInt32.add_zero] at hs
      rw [List.length_append, List.length_singleton, Counter.ofNat_succ, ← hs]
      rfl
    ringing := by
      intro hr
      cases hr }

/-- A write that gets the mutex queues the sample, over the oldest one of a full log. -/
theorem Ledger.producerStore (hl : Ledger cfg streak q rb p c h) (hpc : p.pc = .write) (e : Bool)
    (nowUs : UInt64)
    (hring : RingBuffer.Represents cfg.logCapacity.toNat rb'
      (q.push cfg.logCapacity.toNat ⟨h.taken.length, p.record⟩)) :
    Ledger cfg 0 (q.push cfg.logCapacity.toNat ⟨h.taken.length, p.record⟩) rb'
      (p.wrote true e nowUs) c
      { h with overwritten :=
          if q.full cfg.logCapacity.toNat then h.overwritten ++ q.items.head?.toList
          else h.overwritten } := by
  obtain ⟨hpos, hgenuine⟩ := hl.current_genuine hpc
  have hflight : inFlight p.pc = 1 := by rw [hpc]; rfl
  obtain ⟨hflight', hcounted'⟩ := uncounted_wrote p true e nowUs
  generalize hsample : (⟨h.taken.length, p.record⟩ : Sample) = x at hring hgenuine ⊢
  have hnumber : x.number = h.taken.length := by rw [← hsample]
  have hhistory : (q.push cfg.logCapacity.toNat x).history = q.history ++ [x] := rfl
  have hd : delivery 0 (q.push cfg.logCapacity.toNat x) (p.wrote true e nowUs) c
      { h with overwritten :=
          if q.full cfg.logCapacity.toNat then h.overwritten ++ q.items.head?.toList
          else h.overwritten } =
        (delivery streak q p c h).store (q.full cfg.logCapacity.toNat) := by
    simp only [delivery, Delivery.store, Fifo.push, hflight, hflight', Nat.sub_zero,
      Nat.sub_add_cancel hpos, List.map_append, List.map_cons, List.map_nil, hnumber]
    cases q.full cfg.logCapacity.toNat with
    | false => rfl
    | true =>
      simp only [if_true, List.map_append, List.map_tail]
      cases q.items <;> rfl
  exact { hl with
    ring := hring
    exact := hd ▸ hl.exact.store _
    genuine := by
      intro y hy
      rw [hhistory] at hy
      simp only [List.mem_append, List.mem_singleton] at hy
      rcases hy with hy | hy | hy | rfl
      · exact hl.genuine y (by simp [hy])
      · exact hl.genuine y (by simp [hy])
      · exact hl.genuine y (by simp [hy])
      · exact hgenuine
    stored := by
      intro y hy
      rw [hflight', Nat.sub_zero]
      rw [hhistory] at hy
      rcases List.mem_append.mp hy with hy | hy
      · exact (hl.stored y hy).trans (Nat.sub_le _ _)
      · rw [List.mem_singleton.mp hy, hnumber]
    current := fun _ ↦ hl.current (by rw [hpc]; rfl)
    samples := by
      have hs := hl.samples
      rw [hpc] at hs
      rw [hcounted']
      exact hs
    drops := by
      have hs := hl.drops
      rw [uncountedDrop_of_ne (by rw [hpc]; decide)] at hs
      have hnone : uncountedDrop (p.wrote true e nowUs) = 0 := if_neg fun hu ↦ by cases hu.2
      rw [hnone]
      exact hs
    ringing := fun _ ↦ rfl
    dropped := by
      simp only [Fifo.push]
      cases hfull : q.full cfg.logCapacity.toNat with
      | false => simpa using hl.dropped
      | true =>
        cases hitems : q.items with
        | nil =>
          rw [Fifo.full, hitems, beq_iff_eq] at hfull
          exact absurd hfull.symm (Nat.ne_of_gt hl.ring.cap_pos)
        | cons y ys => simp [hl.dropped] }

/-- The doorbell is not counted here. -/
theorem Ledger.producerRing (hl : Ledger cfg streak q rb p c h) (hpc : p.pc = .ring)
    (sent : Bool) : Ledger cfg streak q rb (p.rang sent) c h := by
  have hstored := hl.ringing hpc
  have hd : delivery streak q (p.rang sent) c h = delivery streak q p c h := by
    simp only [delivery, hpc]
    rfl
  exact { hl with
    exact := hd ▸ hl.exact
    stored := by
      have hs := hl.stored
      rw [hpc] at hs
      exact hs
    current := fun _ ↦ hl.current (by rw [hpc]; rfl)
    samples := by
      have hs := hl.samples
      rw [hpc] at hs
      exact hs
    drops := by
      have hs := hl.drops
      rw [uncountedDrop_of_ne (by rw [hpc]; decide)] at hs
      have hnone : uncountedDrop (p.rang sent) = 0 := by
        refine if_neg fun hu ↦ ?_
        exact Bool.false_ne_true (hstored.symm.trans hu.2)
      rw [hnone]
      exact hs
    ringing := by
      intro hr
      cases hr }

/-- The end of a cycle counts the sample and its drop. -/
theorem Ledger.producerUpdate (hl : Ledger cfg streak q rb p c h) (hpc : p.pc = .update) :
    Ledger cfg streak q rb p.update c h := by
  have hd : delivery streak q p.update c h = delivery streak q p c h := by
    simp only [delivery, hpc]
    rfl
  obtain ⟨hsamples, hdrops⟩ := producerUpdateStats_counters p.stats p.record p.prevCaptureUs
    { p.cycle with
      readTimeUs := (p.writeStartUs - p.record.captureUs).toUInt32
      missedTicks := p.pendingTicks - 1 }
  exact { hl with
    exact := hd ▸ hl.exact
    stored := by
      have hs := hl.stored
      rw [hpc] at hs
      exact hs
    current := by
      intro hu
      cases hu
    samples := by
      have hs := hl.samples
      rw [hpc] at hs
      exact (UInt32.add_zero _).trans (hsamples.trans hs)
    drops := by
      have hs := hl.drops
      rw [uncountedDrop_of_ne (p := p.update) (by simp [Producer.update]), UInt32.add_zero, ← hs]
      refine hdrops.trans (congrArg _ ?_)
      simp only [uncountedDrop, hpc, true_and]
    ringing := by
      intro hr
      cases hr }

/-- A batch that was just read is the oldest part of the list. -/
theorem batchRest_gotBatch (hring : RingBuffer.Represents cfg.logCapacity.toNat rb q)
    (c : Consumer) (out : ℕ → Sample) (n : UInt32) :
    (c.gotBatch (RingBuffer.overlay out (q.items.take n.toNat))
      (UInt32.ofNat (min n.toNat q.items.length)) true).batchRest = q.items.take n.toNat := by
  have hle := hring.wf.length_le
  have hcap := hring.cap_lt
  have hcount : (UInt32.ofNat (min n.toNat q.items.length)).toNat =
      (q.items.take n.toNat).length := by
    rw [Counter.toNat_ofNat_of_lt (by omega), List.length_take]
  unfold Consumer.batchRest Consumer.gotBatch
  simp only [if_true, hcount, Nat.sub_zero]
  rw [← List.range_eq_range', RingBuffer.map_overlay]

/-- A read takes the oldest samples out of the log, in order. -/
theorem Ledger.consumerRead (hl : Ledger cfg streak q rb p c h) (hpc : c.pc = .read)
    (n : UInt32) (out : ℕ → Sample)
    (hring : RingBuffer.Represents cfg.logCapacity.toNat rb' (q.pop n.toNat)) :
    Ledger cfg streak (q.pop n.toNat) rb' p
      (c.gotBatch (RingBuffer.overlay out (q.items.take n.toNat))
        (UInt32.ofNat (min n.toNat q.items.length)) true) h := by
  have hrest := hl.resting (by rw [hpc]; decide)
  have hbatch := batchRest_gotBatch hl.ring c out n
  generalize hc' : c.gotBatch _ _ true = c' at hbatch ⊢
  have hpc' : c'.pc = .process := by rw [← hc']; rfl
  have hstate : c'.state = c.state := by rw [← hc']; rfl
  have hd : delivery streak (q.pop n.toNat) p c' h = (delivery streak q p c h).take n.toNat := by
    simp only [delivery, Delivery.take, Fifo.pop, hbatch, hrest, List.map_take, List.map_drop,
      List.map_nil, List.nil_append]
  exact { hl with
    ring := hring
    exact := hd ▸ hl.exact.take _
    genuine := by
      intro x hx
      rw [hbatch] at hx
      simp only [List.mem_append] at hx
      rcases hx with hx | hx | hx
      · exact hl.genuine x (by simp [hx])
      · have hmem : x ∈ q.history := by
          have hx' := List.mem_of_mem_take hx
          rw [hl.ring.wf.items_eq] at hx'
          exact List.mem_of_mem_drop hx'
        exact hl.genuine x (by simp [hmem])
      · have hmem : x ∈ q.history := hx
        exact hl.genuine x (by simp [hmem])
    stored := hl.stored
    received := by
      rw [hstate]
      exact hl.received
    dropped := hl.dropped
    resting := fun hne ↦ absurd hpc' hne
    lost := by
      rw [hstate]
      exact hl.lost }

/-- A read that gets no mutex takes nothing. -/
theorem Ledger.consumerTimeOut (hl : Ledger cfg streak q rb p c h) (hpc : c.pc = .read)
    (out : ℕ → Sample) : Ledger cfg streak q rb p (c.gotBatch out 0 false) h :=
  have hrest := hl.resting (by rw [hpc]; decide)
  hl.consumerIdle (fun _ ↦ hrest) hrest.symm rfl rfl

/-- One record of the batch is processed, or the loop over the batch ends. -/
theorem Ledger.consumerProcess (hl : Ledger cfg streak q rb p c h) (hpc : c.pc = .process) :
    Ledger cfg streak q rb p (c.process cfg)
      { h with processed := h.processed ++ c.batchRest.head?.toList } := by
  by_cases hidx : c.idx < c.batchCount.toNat
  · have hrest := Consumer.batchRest_process cfg hidx
    have hstate : (c.process cfg).state =
        (consumerProcessRecord cfg c.state (c.batch c.idx).record).1 := by
      simp only [Consumer.process, if_pos hidx]
    have hpc' : (c.process cfg).pc = .process := by
      simp only [Consumer.process, if_pos hidx, hpc]
    generalize c.process cfg = c' at hrest hstate hpc' ⊢
    generalize c.batch c.idx = x at hrest hstate
    have hprocessed : h.processed ++ c.batchRest.head?.toList = h.processed ++ [x] := by
      rw [hrest]
      rfl
    rw [hprocessed]
    obtain ⟨i, hi, hri⟩ := hl.genuine x (by simp [hrest])
    have hseq : x.record.seq = UInt32.ofNat x.number := by rw [hi, hl.seqs i _ hri]
    have hreceived : c'.state.received = UInt32.ofNat (h.processed ++ [x]).length := by
      rw [hstate, List.length_append, List.length_singleton, Counter.ofNat_succ, ← hl.received]
      rfl
    have hd : delivery streak q p c' { h with processed := h.processed ++ [x] } =
        (delivery streak q p c h).finish := by
      simp only [delivery, Delivery.finish, hrest, List.map_append, List.map_cons, List.map_nil,
        List.head?_cons, Option.toList_some, List.tail_cons]
    exact { hl with
      exact := hd ▸ hl.exact.finish
      genuine := by
        intro y hy
        apply hl.genuine y
        rw [hrest]
        simpa using hy
      received := hreceived
      resting := fun hne ↦ absurd hpc' hne
      lost := by
        rw [List.map_append, List.map_cons, List.map_nil, List.getLast?_concat, Option.getD_some,
          ← hseq, ← hreceived, hstate]
        rfl }
  · have hrest := Consumer.batchRest_of_le (Nat.le_of_not_lt hidx)
    rw [hrest, List.head?_nil, Option.toList_none, List.append_nil]
    have hsame : (c.process cfg).batchRest = c.batchRest ∧
        (c.process cfg).state = c.state := by
      rw [Consumer.process, if_neg hidx]
      split
      · exact ⟨rfl, rfl⟩
      · exact c.nextBatch_same cfg _
    exact hl.consumerIdle (fun _ ↦ hrest) hsame.1 (by rw [hsame.2]) (by rw [hsame.2])

/-- A report is not counted. -/
theorem Ledger.report (hl : Ledger cfg streak q rb p c h)
    (reports : List (SensorRecord × ProducerStats)) :
    Ledger cfg streak q rb p c { h with reports := reports } :=
  { hl with }

/-- How many samples in a row are dropped on a lock timeout, after one more action. -/
def dropStreak (n : ℕ) : Action → ℕ
  | .producerWrite none _ => n + 1
  | .producerWrite (some _) _ => 0
  | _ => n

/-- The samples dropped on a lock timeout since the last one that was stored. -/
def trailingDrops (as : List Action) : ℕ := as.foldl dropStreak 0

/-- A write of the producer, with and without the mutex. -/
theorem Ledger.producerWrite {s : State}
    (hl : Ledger cfg streak q s.log.ring s.producer s.consumer s.history)
    (hpc : s.producer.pc = .write) (lock : Option Hold) (nowUs : UInt64) :
    ∃ q', Ledger cfg (dropStreak streak (.producerWrite lock nowUs)) q'
      (s.producerWrite lock nowUs).log.ring (s.producerWrite lock nowUs).producer
      (s.producerWrite lock nowUs).consumer (s.producerWrite lock nowUs).history := by
  cases lock with
  | none => exact ⟨q, hl.producerDrop hpc _ nowUs⟩
  | some hold =>
    obtain ⟨hout, hring⟩ :=
      SensorLog.write_some hl.ring hold (State.sample s) s.producer.logWasEmpty
    have hstored := hl.producerStore hpc q.items.isEmpty nowUs hring
    refine ⟨q.push cfg.logCapacity.toNat s.sample, ?_⟩
    simp only [State.producerWrite, hout, (hl.ring.push _).2, hl.ring.contents_eq]
    exact hstored

/-- A read of the consumer, with and without the mutex. -/
theorem Ledger.read {s : State}
    (hl : Ledger cfg streak q s.log.ring s.producer s.consumer s.history)
    (hpc : s.consumer.pc = .read) (lock : Option Hold) :
    ∃ q', Ledger cfg streak q' (s.consumerRead cfg lock).log.ring
      (s.consumerRead cfg lock).producer (s.consumerRead cfg lock).consumer
      (s.consumerRead cfg lock).history := by
  cases lock with
  | none => exact ⟨q, hl.consumerTimeOut hpc s.consumer.batch⟩
  | some hold =>
    obtain ⟨hout, hring⟩ := SensorLog.read_some hl.ring hold s.consumer.batch
      cfg.logReadBatch s.consumer.batchCount
    have hread := hl.consumerRead hpc cfg.logReadBatch s.consumer.batch hring
    refine ⟨q.pop cfg.logReadBatch.toNat, ?_⟩
    simp only [State.consumerRead, hout]
    exact hread

/-- The producer's steps keep the books. -/
theorem Ledger.producer_next {b : Board} {s : State} {a : Action}
    (hl : Ledger b.cfg streak q s.log.ring s.producer s.consumer s.history)
    (ha : s.enabled a = true) (htask : a.task = some .producer) :
    ∃ q', Ledger b.cfg (dropStreak streak a) q' (s.next b a).log.ring (s.next b a).producer
      (s.next b a).consumer (s.next b a).history := by
  cases a with
  | producerWake =>
    have hpc : s.producer.pc = .waitTick := beq_iff_eq.mp (Bool.and_eq_true_iff.mp ha).1
    exact ⟨q, hl.producerIdle (by rw [hpc]; rfl) rfl rfl rfl rfl⟩
  | producerTimeOut =>
    have hpc : s.producer.pc = .waitTick := beq_iff_eq.mp (Bool.and_eq_true_iff.mp ha).1
    exact ⟨q, hl.producerIdle (by rw [hpc]; rfl) (congrArg uncounted hpc) rfl rfl rfl⟩
  | producerSample captureUs sensors buttons writeStartUs =>
    have hpc : s.producer.pc = .sample := beq_iff_eq.mp ha
    exact ⟨q, hl.producerSample hpc captureUs sensors buttons writeStartUs⟩
  | producerWrite lock nowUs =>
    have hpc : s.producer.pc = .write := beq_iff_eq.mp ha
    exact hl.producerWrite hpc lock nowUs
  | producerRing =>
    have hpc : s.producer.pc = .ring := beq_iff_eq.mp ha
    exact ⟨q, hl.producerRing hpc _⟩
  | producerUpdate =>
    have hpc : s.producer.pc = .update := beq_iff_eq.mp ha
    exact ⟨q, hl.producerUpdate hpc⟩
  | checkinTest client =>
    cases htask
    have hpc : s.producer.pc = .checkin .test := beq_iff_eq.mp ha
    have hcounted : uncounted (s.checkinTest b.cfg .producer).producer.pc = 0 := by
      rcases s.checkinTest_cases b.cfg .producer with h | h <;> rw [beq_iff_eq.mp h] <;> rfl
    exact ⟨q, hl.producerIdle (by rw [hpc]; rfl) hcounted rfl rfl rfl⟩
  | checkinRead client =>
    cases htask
    have hpc : s.producer.pc = .checkin .read := beq_iff_eq.mp ha
    exact ⟨q, hl.producerIdle (by rw [hpc]; rfl) rfl rfl rfl rfl⟩
  | checkinStore client =>
    cases htask
    have hpc : s.producer.pc = .checkin .store := beq_iff_eq.mp ha
    exact ⟨q, hl.producerIdle (by rw [hpc]; rfl) rfl rfl rfl rfl⟩
  | _ => cases htask

/-- The consumer's steps keep the books. -/
theorem Ledger.consumer_next {b : Board} {s : State} {a : Action}
    (hl : Ledger b.cfg streak q s.log.ring s.producer s.consumer s.history)
    (ha : s.enabled a = true) (htask : a.task = some .consumer) :
    ∃ q', Ledger b.cfg (dropStreak streak a) q' (s.next b a).log.ring (s.next b a).producer
      (s.next b a).consumer (s.next b a).history := by
  cases a with
  | consumerStart =>
    have hpc : s.consumer.pc = .start := beq_iff_eq.mp ha
    exact ⟨q, hl.consumerAway (by rw [hpc]; decide) rfl rfl rfl⟩
  | consumerReceive =>
    have hpc : s.consumer.pc = .receive := beq_iff_eq.mp (Bool.and_eq_true_iff.mp ha).1
    refine ⟨q, ?_⟩
    simp only [State.next, State.consumerReceive]
    split
    · exact hl
    · exact hl.consumerAway (by rw [hpc]; decide) rfl rfl rfl
  | consumerReceiveTimeOut =>
    have hpc : s.consumer.pc = .receive := beq_iff_eq.mp (Bool.and_eq_true_iff.mp ha).1
    exact ⟨q, hl.consumerAway (by rw [hpc]; decide) rfl rfl rfl⟩
  | consumerDepth =>
    have hpc : s.consumer.pc = .depth := beq_iff_eq.mp ha
    exact ⟨q, hl.consumerAway (by rw [hpc]; decide) rfl rfl rfl⟩
  | consumerHandle lock =>
    have hpc : s.consumer.pc = .handle := beq_iff_eq.mp ha
    have hne : s.consumer.pc ≠ .process := by rw [hpc]; decide
    refine ⟨q, ?_⟩
    obtain ⟨log, c, wdog, halted, hs, hring, hc, -⟩ := s.consumerHandle_cases b.cfg lock
    simp only [State.next, hs, hring]
    rcases hc with rfl | rfl
    · obtain ⟨hreceived, hlost⟩ := Consumer.toggled_counters s.consumer.state s.consumer.msg.id
      exact hl.consumerAway hne rfl hreceived hlost
    · exact hl.consumerAway hne rfl rfl rfl
  | consumerReport =>
    have hpc : s.consumer.pc = .report := beq_iff_eq.mp ha
    have hreported :=
      hl.report (s.history.reports ++ [(s.consumer.record.record, s.producer.stats)])
    exact ⟨q, hreported.consumerAway (by rw [hpc]; decide) rfl rfl rfl⟩
  | consumerDrain =>
    have hpc : s.consumer.pc = .drain := beq_iff_eq.mp ha
    obtain ⟨hbatch, hstate⟩ := s.consumer.drain_same b.cfg
    exact ⟨q, hl.consumerAway (by rw [hpc]; decide) hbatch (congrArg _ hstate)
      (congrArg _ hstate)⟩
  | consumerRead lock =>
    have hpc : s.consumer.pc = .read := beq_iff_eq.mp ha
    exact hl.read hpc lock
  | consumerProcess =>
    have hpc : s.consumer.pc = .process := beq_iff_eq.mp ha
    exact ⟨q, hl.consumerProcess hpc⟩
  | consumerStallTick =>
    have hpc : s.consumer.pc = .stallTick := beq_iff_eq.mp ha
    exact ⟨q, hl.consumerAway (by rw [hpc]; decide) rfl rfl rfl⟩
  | consumerStall =>
    have hpc : s.consumer.pc = .stall := beq_iff_eq.mp ha
    obtain ⟨hreceived, hlost, _⟩ := consumerCheckStall_same b.cfg s.consumer.state
      s.consumer.nowTick s.producer.stats.samples
    exact ⟨q, hl.consumerAway (by rw [hpc]; decide) rfl hreceived hlost⟩
  | checkinTest client =>
    cases htask
    have hpc : s.consumer.pc = .checkin .test := beq_iff_eq.mp ha
    exact ⟨q, hl.consumerAway (by rw [hpc]; decide) rfl rfl rfl⟩
  | checkinRead client =>
    cases htask
    have hpc : s.consumer.pc = .checkin .read := beq_iff_eq.mp ha
    exact ⟨q, hl.consumerAway (by rw [hpc]; decide) rfl rfl rfl⟩
  | checkinStore client =>
    cases htask
    have hpc : s.consumer.pc = .checkin .store := beq_iff_eq.mp ha
    exact ⟨q, hl.consumerAway (by rw [hpc]; decide) rfl rfl rfl⟩
  | _ => cases htask

/-- Every step keeps the books. -/
theorem Ledger.next {b : Board} {s : State} {a : Action}
    (hl : Ledger b.cfg streak q s.log.ring s.producer s.consumer s.history)
    (ha : s.enabled a = true) :
    ∃ q', Ledger b.cfg (dropStreak streak a) q' (s.next b a).log.ring (s.next b a).producer
      (s.next b a).consumer (s.next b a).history := by
  by_cases hp : a.task = some .producer
  · exact hl.producer_next ha hp
  · by_cases hc : a.task = some .consumer
    · exact hl.consumer_next ha hc
    · obtain ⟨hlog, hhistory⟩ := s.next_log b hp hc
      have hstreak : dropStreak streak a = streak := by
        cases a with
        | producerWrite => exact absurd rfl hp
        | _ => rfl
      refine ⟨q, ?_⟩
      rw [hlog, hhistory, hstreak, (s.next_producer b hp).1, (s.next_consumer b hc).1]
      exact hl

/-- In every reachable state the books are right. -/
theorem Reaches.ledger {b : Board} {as : List Action} {s : State} (h : Reaches b as s) :
    ∃ q, Ledger b.cfg (trailingDrops as) q s.log.ring s.producer s.consumer s.history := by
  refine h.induction (P := fun as s ↦
    ∃ q, Ledger b.cfg (trailingDrops as) q s.log.ring s.producer s.consumer s.history) ?_ ?_
  · exact fun s₀ hs₀ ↦ ⟨_, ledger_start hs₀⟩
  · intro as s a _ ⟨q, hl⟩ ha
    rw [trailingDrops, List.foldl_concat]
    exact hl.next ha

end SensorAggregator.System
