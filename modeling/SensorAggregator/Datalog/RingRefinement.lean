import Mathlib.Data.List.GetD
import Mathlib.Data.List.Infix
import Mathlib.Order.Bounds.Basic
import SensorAggregator.Base.Fifo
import SensorAggregator.Base.Machine
import SensorAggregator.Datalog.RingSlots

/-!
# The ring buffer refines a drop-oldest list

`Represents` relates the wrapping counters and masked slots of `ring_buffer.c` to a plain
`Fifo`. Its storage clause speaks of the last `capacity` records ever pushed, popped or not:
the waiting records are among them, and so is the one `ring_buffer_peek_newest` returns.
-/

namespace SensorAggregator.Datalog.RingBuffer

open Base

universe u

variable {α : Type u}

/-- The counters are those of the list modulo `2 ^ 32`, and each of the last `cap` records
pushed still sits in its slot. -/
structure Represents (cap : ℕ) (rb : RingBuffer α) (q : Fifo α) : Prop where
  wf : q.WF cap
  pow : ∃ k < 32, cap = 2 ^ k
  capacity : rb.capacity.toNat = cap
  mask : rb.indexMask = rb.capacity - 1
  head : rb.head = UInt32.ofNat q.history.length
  tail : rb.tail = UInt32.ofNat q.removed
  overwritten : rb.overwritten = UInt32.ofNat q.dropped
  fillHighWater : rb.fillHighWater = UInt32.ofNat q.peak
  hasNewest : rb.hasNewest = !q.history.isEmpty
  cells : ∃ storage, rb.storage = some storage ∧
    ∀ k < q.history.length, q.history.length ≤ k + cap →
      q.history[k]? = some (storage (k % cap))

variable {cap : ℕ} {rb : RingBuffer α} {q : Fifo α}

/-- An accepted capacity holds at least one record. -/
theorem Represents.cap_pos (h : Represents cap rb q) : 0 < cap := by
  obtain ⟨k, _, rfl⟩ := h.pow
  exact Nat.two_pow_pos k

/-- An accepted capacity leaves the fill level representable. -/
theorem Represents.cap_lt (h : Represents cap rb q) : cap < 2 ^ 32 := by
  rw [← h.capacity]
  exact rb.capacity.toNat_lt

private theorem Represents.masked (h : Represents cap rb q) : rb.Masked := by
  obtain ⟨k, hk, hpow⟩ := h.pow
  exact ⟨⟨k, Nat.le_of_lt_succ hk, h.capacity.trans hpow⟩, h.mask⟩

private theorem Represents.slot_ofNat (h : Represents cap rb q) (n : ℕ) :
    rb.slot (UInt32.ofNat n) = n % cap := by
  rw [h.masked.slot_ofNat, h.capacity]

private theorem Represents.slot_lt (h : Represents cap rb q) (c : UInt32) : rb.slot c < cap := by
  have hc : c = UInt32.ofNat c.toNat := UInt32.ofNat_toNat.symm
  rw [hc, h.slot_ofNat]
  exact Nat.mod_lt _ h.cap_pos

/-- The fill level is the length of the list. -/
theorem Represents.toNat_count (h : Represents cap rb q) :
    rb.count.toNat = q.items.length := by
  have hl := h.wf.length_items
  have hle := h.wf.length_le
  have hcap := h.cap_lt
  rw [count, h.head, h.tail, Counter.toNat_ofNat_sub h.wf.removed_le (by omega), hl]

/-- The fill level is the wrapped length of the list. -/
theorem Represents.count_eq (h : Represents cap rb q) :
    rb.count = UInt32.ofNat q.items.length := by
  rw [← h.toNat_count, UInt32.ofNat_toNat]

private theorem Represents.count_beq_capacity (h : Represents cap rb q) :
    (rb.count == rb.capacity) = q.full cap := by
  apply Bool.eq_iff_iff.mpr
  rw [beq_iff_eq, Fifo.full, beq_iff_eq, ← UInt32.toNat_inj, h.toNat_count, h.capacity]

private theorem Represents.getElem?_items (h : Represents cap rb q) {storage : ℕ → α}
    (hs : rb.storage = some storage) {i : ℕ} (hi : i < q.items.length) :
    q.items[i]? = some (storage (rb.slot (rb.tail + UInt32.ofNat i))) := by
  obtain ⟨storage', hs', hcells⟩ := h.cells
  cases hs.symm.trans hs'
  have hl := h.wf.length_items
  have hle := h.wf.length_le
  rw [h.tail, ← UInt32.ofNat_add, h.slot_ofNat, h.wf.getElem?_items]
  exact hcells _ (by omega) (by omega)

/-- The records between `tail` and `head` are the list. -/
theorem Represents.contents_eq (h : Represents cap rb q) : rb.contents = q.items := by
  obtain ⟨storage, hs, _⟩ := h.cells
  unfold contents
  rw [hs]
  apply List.ext_getElem?
  intro i
  rw [List.getElem?_map, h.toNat_count]
  by_cases hi : i < q.items.length
  · rw [List.getElem?_range hi, h.getElem?_items hs hi]
    rfl
  · rw [List.getElem?_eq_none (by simpa using hi), List.getElem?_eq_none (by omega)]
    rfl

/-- A successful `ring_buffer_init` represents the empty list. -/
theorem represents_init {rb₀ : RingBuffer α} {storage : ℕ → α} {capacity : UInt32}
    (h : rb₀.init (some storage) capacity = (rb, true)) :
    Represents capacity.toNat rb Fifo.empty := by
  unfold init at h
  simp only at h
  split at h
  · cases h
  · next haccepted =>
    obtain ⟨k, hk, hpow⟩ := (capacity_accepted_iff capacity).mp haccepted
    cases h
    exact ⟨Fifo.wf_empty _, ⟨k, Nat.lt_succ_of_le hk, hpow⟩, rfl, rfl, rfl, rfl, rfl, rfl, rfl,
      storage, rfl, by intro k hk; exact absurd hk (Nat.not_lt_zero k)⟩

private theorem cells_push (h : Represents cap rb q) {storage : ℕ → α}
    (hs : rb.storage = some storage) (a : α) (k : ℕ) (hk : k < (q.history ++ [a]).length)
    (hlast : (q.history ++ [a]).length ≤ k + cap) :
    (q.history ++ [a])[k]? =
      some (Function.update storage (q.history.length % cap) a (k % cap)) := by
  obtain ⟨storage', hs', hcells⟩ := h.cells
  cases hs.symm.trans hs'
  rw [List.length_append, List.length_singleton] at hk hlast
  by_cases he : k = q.history.length
  · rw [he, Function.update_self, List.getElem?_concat_length]
  · have hlt : k < q.history.length := by omega
    have hne : k % cap ≠ q.history.length % cap := fun hm ↦
      he (Counter.eq_of_mod_eq hm (by omega) (by omega))
    rw [Function.update_of_ne hne, List.getElem?_append_left hlt]
    exact hcells k hlt (by omega)

private theorem push_eq {storage : ℕ → α} (hs : rb.storage = some storage) (a : α) :
    let full := rb.count == rb.capacity
    let tail := if full then rb.tail + 1 else rb.tail
    let fill := rb.head + 1 - tail
    rb.push (some a) =
      ({ rb with
          storage := some (Function.update storage (rb.slot rb.head) a)
          head := rb.head + 1
          tail := tail
          overwritten := if full then rb.overwritten + 1 else rb.overwritten
          fillHighWater := if rb.fillHighWater < fill then fill else rb.fillHighWater
          hasNewest := true }, full) := by
  intro full tail fill
  unfold push
  simp only [hs, tail, fill]
  generalize hf : (rb.count == rb.capacity) = b
  have hfull : full = b := hf
  cases b with
  | true =>
    simp only [hfull, if_true, count, slot]
    split <;> rfl
  | false =>
    simp only [hfull, Bool.false_eq_true, if_false, count, slot]
    split <;> rfl

/-- `ring_buffer_push` appends to the list, and reports exactly the drops. -/
theorem Represents.push (h : Represents cap rb q) (a : α) :
    Represents cap (rb.push (some a)).1 (q.push cap a) ∧
      (rb.push (some a)).2 = q.full cap := by
  obtain ⟨storage, hs, _⟩ := h.cells
  have hwf := Fifo.wf_push h.cap_pos h.wf a
  have hhead : rb.head + 1 = UInt32.ofNat (q.push cap a).history.length := by
    rw [h.head, ← Counter.ofNat_succ]
    simp only [Fifo.push, List.length_append, List.length_singleton]
  have htail : (if q.full cap then rb.tail + 1 else rb.tail) =
      UInt32.ofNat (q.push cap a).removed := by
    rw [Fifo.removed_push, h.tail]
    split
    · rw [Counter.ofNat_succ]
    · rfl
  have hfill : rb.head + 1 - (if q.full cap then rb.tail + 1 else rb.tail) =
      UInt32.ofNat (q.push cap a).items.length := by
    rw [hhead, htail, hwf.length_items, UInt32.ofNat_sub hwf.removed_le]
  have hcap := h.cap_lt
  have hhigh : rb.fillHighWater < UInt32.ofNat (q.push cap a).items.length ↔
      q.peak < (q.push cap a).items.length := by
    have hpk := h.wf.peak_le
    have hlen := hwf.length_le
    rw [UInt32.lt_iff_toNat_lt, h.fillHighWater, Counter.toNat_ofNat_of_lt (by omega),
      Counter.toNat_ofNat_of_lt (by omega)]
  have hpeak : (q.push cap a).peak = max q.peak (q.push cap a).items.length := by
    simp only [Fifo.push, List.length_append, List.length_singleton]
  rw [push_eq hs, h.count_beq_capacity]
  refine ⟨⟨hwf, h.pow, h.capacity, h.mask, hhead, htail, ?_, ?_, ?_, _, rfl, ?_⟩, rfl⟩
  · simp only [Fifo.push, h.overwritten]
    split
    · rw [Counter.ofNat_succ]
    · rfl
  · simp only [hfill, hpeak]
    by_cases hlt : rb.fillHighWater < UInt32.ofNat (q.push cap a).items.length
    · rw [if_pos hlt, Nat.max_eq_right (hhigh.mp hlt).le]
    · rw [if_neg hlt, Nat.max_eq_left (Nat.le_of_not_lt (hlt ∘ hhigh.mpr)), h.fillHighWater]
  · simp [Fifo.push]
  · rw [h.head, h.slot_ofNat]
    exact cells_push h hs a

private theorem Represents.popCount_eq (h : Represents cap rb q) (n : UInt32) :
    rb.popCount n = UInt32.ofNat (min n.toNat q.items.length) := by
  have hlt : n < rb.count ↔ n.toNat < q.items.length := by
    rw [UInt32.lt_iff_toNat_lt, h.toNat_count]
  unfold popCount
  split
  · next hn => rw [Nat.min_eq_left (hlt.mp hn).le, UInt32.ofNat_toNat]
  · next hn => rw [Nat.min_eq_right (Nat.le_of_not_lt (hn ∘ hlt.mpr)), h.count_eq]

/-- A pop that moves nothing leaves the fill level. -/
theorem count_pop_of_popCount_eq_zero {rb : RingBuffer α} {n : UInt32} (h : rb.popCount n = 0)
    (out : Option (ℕ → α)) : (rb.pop out n).1.count = rb.count := by
  unfold RingBuffer.pop
  split
  · simp only [count, h, UInt32.add_zero]
  · rfl

/-- A pop moves the tail and nothing else of the ring. -/
theorem pop_same (rb : RingBuffer α) (out : Option (ℕ → α)) (n : UInt32) :
    (rb.pop out n).1 = { rb with tail := (rb.pop out n).1.tail } := by
  unfold RingBuffer.pop
  split <;> rfl

/-- `xs` written over the front of an array, the rest of it as before. -/
def overlay (out : ℕ → α) (xs : List α) (i : ℕ) : α := xs[i]?.getD (out i)

/-- What was written over the front of an array is read back from there. -/
theorem map_overlay (out : ℕ → α) (xs : List α) :
    (List.range xs.length).map (overlay out xs) = xs := by
  apply List.ext_getElem
  · rw [List.length_map, List.length_range]
  · intro i hi hi'
    rw [List.getElem_map, List.getElem_range, overlay, List.getElem?_eq_getElem hi',
      Option.getD_some]

private theorem Represents.copyOut_eq (h : Represents cap rb q) {storage : ℕ → α}
    (hs : rb.storage = some storage) (out : ℕ → α) {n : ℕ} (hn : n ≤ q.items.length) :
    rb.copyOut storage out n = overlay out (q.items.take n) := by
  induction n with
  | zero => rfl
  | succ n ih =>
    have hlt : n < q.items.length := hn
    funext i
    rw [copyOut, ih hlt.le]
    by_cases hi : i = n
    · subst hi
      rw [Function.update_self, overlay, List.getElem?_take_of_lt (Nat.lt_succ_self i),
        h.getElem?_items hs hlt, Option.getD_some]
    · rw [Function.update_of_ne hi, overlay, overlay, List.getElem?_take, List.getElem?_take]
      by_cases hin : i < n
      · rw [if_pos hin, if_pos (by omega)]
      · rw [if_neg hin, if_neg (by omega)]

/-- `ring_buffer_pop` moves the oldest records of the list into the caller's array. -/
theorem Represents.pop (h : Represents cap rb q) (out : ℕ → α) (n : UInt32) :
    Represents cap (rb.pop (some out) n).1 (q.pop n.toNat) ∧
      (rb.pop (some out) n).2 =
        (some (overlay out (q.items.take n.toNat)),
          UInt32.ofNat (min n.toNat q.items.length)) := by
  obtain ⟨storage, hs, hcells⟩ := h.cells
  have hcap := h.cap_lt
  have hle := h.wf.length_le
  have hcount : (rb.popCount n).toNat = min n.toNat q.items.length := by
    rw [h.popCount_eq, Counter.toNat_ofNat_of_lt (by omega)]
  have hout : rb.copyOut storage out (rb.popCount n).toNat =
      overlay out (q.items.take n.toNat) := by
    rw [hcount, h.copyOut_eq hs out (Nat.min_le_right _ _)]
    congr 1
    rw [← List.take_take, List.take_length]
  have htail : rb.tail + rb.popCount n = UInt32.ofNat (q.pop n.toNat).removed := by
    rw [h.popCount_eq, h.tail, Fifo.removed_pop, UInt32.ofNat_add]
  unfold RingBuffer.pop
  simp only [hs, hout]
  rw [← h.popCount_eq]
  exact ⟨⟨Fifo.wf_pop h.wf _, h.pow, h.capacity, h.mask, h.head, htail, h.overwritten,
    h.fillHighWater, h.hasNewest, storage, rfl, hcells⟩, rfl⟩

/-- `ring_buffer_peek_newest` returns the record pushed last, popped or not, and touches
nothing before the first push. -/
theorem Represents.peekNewest_eq (h : Represents cap rb q) (out : α) :
    rb.peekNewest (some out) = (some (q.newest.getD out), q.newest.isSome) := by
  obtain ⟨storage, hs, hcells⟩ := h.cells
  unfold RingBuffer.peekNewest Fifo.newest
  simp only [hs, h.hasNewest]
  rcases List.eq_nil_or_concat q.history with hnil | ⟨xs, a, hx⟩
  · simp [hnil]
  · have hlen : q.history.length = xs.length + 1 := by simp [hx]
    have hpos := h.cap_pos
    have hslot : rb.slot (rb.head - 1) = xs.length % cap := by
      rw [h.head, hlen, Counter.ofNat_succ, UInt32.add_sub_cancel, h.slot_ofNat]
    have hcell := hcells xs.length (by omega) (by omega)
    rw [hslot]
    rw [hx] at hcell
    simp only [List.concat_eq_append, List.getElem?_concat_length, Option.some.injEq] at hcell
    simp [hx, ← hcell]

/-- A call of the ring buffer's users, with the array or record its pointer refers to. -/
inductive Op (α : Type u) where
  | push (record : α)
  | pop (recordsOut : ℕ → α) (maxRecords : UInt32)
  | count
  | peekNewest (recordOut : α)

/-- What a call returns and leaves in the caller's memory. -/
inductive Reply (α : Type u) where
  | push (droppedOldest : Bool)
  | pop (popped : UInt32) (recordsOut : Option (ℕ → α))
  | count (fill : UInt32)
  | peekNewest (found : Bool) (recordOut : Option α)

/-- One call executed by the code. -/
def exec (rb : RingBuffer α) : Op α → RingBuffer α × Reply α
  | .push record => ((rb.push (some record)).1, .push (rb.push (some record)).2)
  | .pop out n =>
    ((rb.pop (some out) n).1, .pop (rb.pop (some out) n).2.2 (rb.pop (some out) n).2.1)
  | .count => (rb, .count rb.count)
  | .peekNewest out => (rb, .peekNewest (rb.peekNewest (some out)).2 (rb.peekNewest (some out)).1)

/-- The same call on the plain list that drops its oldest element when it holds `cap`. -/
def execFifo (cap : ℕ) (q : Fifo α) : Op α → Fifo α × Reply α
  | .push record => (q.push cap record, .push (q.full cap))
  | .pop out n =>
    (q.pop n.toNat, .pop (UInt32.ofNat (min n.toNat q.items.length))
      (some (overlay out (q.items.take n.toNat))))
  | .count => (q, .count (UInt32.ofNat q.items.length))
  | .peekNewest out => (q, .peekNewest q.newest.isSome (some (q.newest.getD out)))

/-- Every call answers as the list does and keeps representing it. -/
theorem Represents.exec (h : Represents cap rb q) (op : Op α) :
    Represents cap (rb.exec op).1 (execFifo cap q op).1 ∧
      (rb.exec op).2 = (execFifo cap q op).2 := by
  cases op with
  | push record =>
    obtain ⟨hr, hd⟩ := h.push record
    exact ⟨hr, congrArg Reply.push hd⟩
  | pop out n =>
    obtain ⟨hr, ho⟩ := h.pop out n
    refine ⟨hr, ?_⟩
    simp only [RingBuffer.exec, execFifo, ho]
  | count => exact ⟨h, congrArg Reply.count h.count_eq⟩
  | peekNewest out =>
    refine ⟨h, ?_⟩
    simp only [RingBuffer.exec, execFifo, h.peekNewest_eq]

private theorem peak_execFifo {q : Fifo α} (h : q.WF cap) (op : Op α) :
    (execFifo cap q op).1.peak = max q.peak (execFifo cap q op).1.items.length := by
  have hl := h.length_le_peak
  cases op with
  | push record => simp only [execFifo, Fifo.push, List.length_append, List.length_singleton]
  | pop out n =>
    simp only [execFifo, Fifo.pop, List.length_drop]
    omega
  | count | peekNewest => exact (Nat.max_eq_left hl).symm

private theorem isGreatest_peak {capacity : UInt32} {rb₀ : RingBuffer α} {storage : ℕ → α}
    (hinit : rb₀.init (some storage) capacity = (rb, true)) (ops : List (Op α)) :
    IsGreatest
      {n | ∃ p, p <+: ops ∧
        n = (Machine.trace (execFifo capacity.toNat) Fifo.empty p).1.items.length}
      (Machine.trace (execFifo capacity.toNat) Fifo.empty ops).1.peak := by
  induction ops using List.reverseRecOn with
  | nil =>
    refine ⟨⟨[], List.prefix_rfl, rfl⟩, ?_⟩
    rintro n ⟨p, hp, rfl⟩
    rw [List.prefix_nil.mp hp]
    exact Nat.le_refl 0
  | append_singleton ops op ih =>
    obtain ⟨h, _⟩ := Machine.trace_simulation (R := Represents capacity.toNat)
      (fun _ _ op hr ↦ hr.exec op) (represents_init hinit) ops
    obtain ⟨⟨p, hp, hpeak⟩, hub⟩ := ih
    rw [Machine.trace_concat, peak_execFifo h.wf]
    constructor
    · rcases Nat.le_total (Machine.trace (execFifo capacity.toNat) Fifo.empty ops).1.peak
        (execFifo capacity.toNat (Machine.trace (execFifo capacity.toNat) Fifo.empty ops).1
          op).1.items.length with hle | hle
      · refine ⟨ops ++ [op], List.prefix_rfl, ?_⟩
        rw [Nat.max_eq_right hle, Machine.trace_concat]
      · refine ⟨p, hp.trans (List.prefix_append _ _), ?_⟩
        rw [Nat.max_eq_left hle, hpeak]
    · rintro n ⟨p', hp', rfl⟩
      rcases List.prefix_concat_iff.mp hp' with rfl | hp'
      · rw [Machine.trace_concat]
        exact Nat.le_max_right _ _
      · exact Nat.le_trans (hub ⟨p', hp', rfl⟩) (Nat.le_max_left _ _)

/-- For every accepted capacity and every sequence of calls, the code answers as the
drop-oldest list does. Its fill level, its slots and the statistics derived from its counters
(`sensor_log.c:218–223`) are those of the list. -/
theorem ringBuffer_refines_fifo (rb₀ : RingBuffer α) (storage : ℕ → α) (capacity : UInt32)
    (hinit : rb₀.init (some storage) capacity = (rb, true)) (ops : List (Op α)) :
    let code := Machine.trace RingBuffer.exec rb ops
    let fifo := Machine.trace (execFifo capacity.toNat) Fifo.empty ops
    code.2 = fifo.2 ∧
      code.1.contents = fifo.1.items ∧
      code.1.count.toNat = fifo.1.items.length ∧
      fifo.1.items.length ≤ capacity.toNat ∧
      (∀ counter, code.1.slot counter < capacity.toNat) ∧
      code.1.overwritten = UInt32.ofNat fifo.1.dropped ∧
      code.1.head = UInt32.ofNat fifo.1.history.length ∧
      code.1.tail - code.1.overwritten = UInt32.ofNat fifo.1.popped ∧
      IsGreatest
        {n | ∃ p, p <+: ops ∧
          n = (Machine.trace (execFifo capacity.toNat) Fifo.empty p).1.items.length}
        code.1.fillHighWater.toNat := by
  intro code fifo
  obtain ⟨h, ho⟩ := Machine.trace_simulation (R := Represents capacity.toNat)
    (fun _ _ op hr ↦ hr.exec op) (represents_init hinit) ops
  have hpk := h.wf.peak_le
  have hcap := h.cap_lt
  refine ⟨ho, h.contents_eq, h.toNat_count, h.wf.length_le, h.slot_lt, h.overwritten, h.head,
    ?_, ?_⟩
  · rw [h.tail, h.overwritten, Fifo.removed, UInt32.ofNat_add, UInt32.add_sub_cancel]
  · rw [h.fillHighWater, Counter.toNat_ofNat_of_lt (by omega)]
    exact isGreatest_peak hinit ops

/-- Three pushes into two slots and a pop of more than is there. -/
theorem ringBuffer_refines_fifo_two :
    let ops := [Op.push 1, .push 2, .push 3, .pop (fun _ ↦ 0) 5, .count]
    let rb := ((⟨none, 0, 0, 0, 0, 0, 0, false⟩ : RingBuffer ℕ).init (some fun _ ↦ 0) 2).1
    (Machine.trace RingBuffer.exec rb ops).2 =
        (Machine.trace (execFifo 2) Fifo.empty ops).2 ∧
      (Machine.trace RingBuffer.exec rb ops).1.overwritten = 1 :=
  let h := ringBuffer_refines_fifo (⟨none, 0, 0, 0, 0, 0, 0, false⟩ : RingBuffer ℕ) (fun _ ↦ 0) 2
    rfl [.push 1, .push 2, .push 3, .pop (fun _ ↦ 0) 5, .count]
  ⟨h.1, h.2.2.2.2.2.1⟩

/-- The record of the last push among `ops`. -/
def lastPush (ops : List (Op α)) : Option α :=
  (ops.filterMap fun | .push record => some record | _ => none).getLast?

private theorem history_trace (cap : ℕ) (q : Fifo α) (ops : List (Op α)) :
    (Machine.trace (execFifo cap) q ops).1.history =
      q.history ++ ops.filterMap fun | .push record => some record | _ => none := by
  induction ops generalizing q with
  | nil => simp
  | cons op ops ih => cases op <;> simp [Machine.trace, ih, execFifo, Fifo.push, Fifo.pop]

/-- For every accepted capacity and every sequence of calls, `ring_buffer_peek_newest` returns
the record of the last push; it fails, leaving the caller's record alone, exactly when nothing
was ever pushed; and it changes nothing in the buffer. -/
theorem peekNewest_returns_last_push (rb₀ : RingBuffer α) (storage : ℕ → α) (capacity : UInt32)
    (hinit : rb₀.init (some storage) capacity = (rb, true)) (ops : List (Op α)) (out : α) :
    let rb' := (Machine.trace RingBuffer.exec rb ops).1
    (∀ record, lastPush ops = some record → rb'.peekNewest (some out) = (some record, true)) ∧
      ((rb'.peekNewest (some out)).2 = false ↔ ∀ record, .push record ∉ ops) ∧
      ((∀ record, .push record ∉ ops) → rb'.peekNewest (some out) = (some out, false)) ∧
      (rb'.exec (.peekNewest out)).1 = rb' := by
  intro rb'
  obtain ⟨h, _⟩ := Machine.trace_simulation (R := Represents capacity.toNat)
    (fun _ _ op hr ↦ hr.exec op) (represents_init hinit) ops
  have hpeek := h.peekNewest_eq out
  have hnewest : (Machine.trace (execFifo capacity.toNat) Fifo.empty ops).1.newest =
      lastPush ops := by
    rw [Fifo.newest, history_trace, lastPush]
    rfl
  have hnone : lastPush ops = none ↔ ∀ record, .push record ∉ ops := by
    rw [lastPush, List.getLast?_eq_none_iff, List.filterMap_eq_nil_iff]
    constructor
    · intro hn record hm
      have := hn _ hm
      simp at this
    · intro hn op hm
      cases op with
      | push record => exact absurd hm (hn record)
      | pop | count | peekNewest => rfl
  rw [hnewest] at hpeek
  refine ⟨?_, ?_, ?_, rfl⟩
  · intro record hr
    rw [hpeek, hr]
    rfl
  · rw [hpeek, ← hnone]
    exact Option.isSome_eq_false_iff.trans Option.isNone_iff_eq_none
  · intro hn
    rw [hpeek, hnone.mpr hn]
    rfl

/-- A single slot still shows the last of two records after both are gone. -/
theorem peekNewest_returns_last_push_one :
    let ops := [Op.push 1, .push 2, .pop (fun _ ↦ 0) 4]
    let rb := ((⟨none, 0, 0, 0, 0, 0, 0, false⟩ : RingBuffer ℕ).init (some fun _ ↦ 0) 1).1
    (Machine.trace RingBuffer.exec rb ops).1.peekNewest (some 9) = (some 2, true) :=
  (peekNewest_returns_last_push (⟨none, 0, 0, 0, 0, 0, 0, false⟩ : RingBuffer ℕ) (fun _ ↦ 0) 1
    rfl [.push 1, .push 2, .pop (fun _ ↦ 0) 4] 9).1 2 rfl

end SensorAggregator.Datalog.RingBuffer
