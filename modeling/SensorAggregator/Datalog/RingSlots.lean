import SensorAggregator.Base.Counter
import SensorAggregator.Datalog.RingBuffer

/-!
# The slots of an accepted capacity

What `ring_buffer_init` accepts, and why `counter & index_mask` is safe where the free-running
counters wrap: an accepted capacity divides `2 ^ 32`.
-/

namespace SensorAggregator.Datalog.RingBuffer

open Base

universe u

variable {α : Type u}

/-- The mask is the one of a capacity that is a power of two. -/
structure Masked (rb : RingBuffer α) : Prop where
  pow : ∃ k ≤ 31, rb.capacity.toNat = 2 ^ k
  mask : rb.indexMask = rb.capacity - 1

/-- The checks of `ring_buffer_init` pass for the powers of two. -/
theorem capacity_accepted_iff (capacity : UInt32) :
    ¬ (capacity = 0 ∨ capacity &&& (capacity - 1) ≠ 0 ∨ capacityMax < capacity) ↔
      ∃ k ≤ 31, capacity.toNat = 2 ^ k := by
  constructor
  · intro haccepted
    obtain ⟨hz, hp, -⟩ : capacity ≠ 0 ∧ capacity &&& (capacity - 1) = 0 ∧
        ¬ capacityMax < capacity := by
      simpa only [not_or, ne_eq, not_not] using haccepted
    obtain ⟨k, hk, hpow⟩ := (Counter.and_pred_eq_zero_iff hz).mp hp
    exact ⟨k, Nat.lt_succ_iff.mp hk, hpow⟩
  · rintro ⟨k, hk, hpow⟩ hrefused
    have hz : capacity ≠ 0 := by
      rintro rfl
      exact (Nat.two_pow_pos k).ne hpow
    rcases hrefused with hzero | hbits | hmax
    · exact hz hzero
    · exact hbits ((Counter.and_pred_eq_zero_iff hz).mpr ⟨k, Nat.lt_succ_of_le hk, hpow⟩)
    · have hle : 2 ^ k ≤ 2 ^ 31 := Nat.pow_le_pow_right (by decide) hk
      have hlt : 2 ^ 31 < capacity.toNat := UInt32.lt_iff_toNat_lt.mp hmax
      omega

/-- A refused call changes nothing. -/
theorem init_of_refused (rb : RingBuffer α) {storage : Option (ℕ → α)} {capacity : UInt32}
    (h : (rb.init storage capacity).2 = false) : (rb.init storage capacity).1 = rb := by
  revert h
  unfold init
  split
  · exact fun _ ↦ rfl
  · split
    · exact fun _ ↦ rfl
    · exact fun h ↦ absurd h.symm Bool.false_ne_true

/-- A call is accepted exactly when the capacity is a power of two. -/
theorem init_accepted_iff (rb : RingBuffer α) (storage : ℕ → α) (capacity : UInt32) :
    (rb.init (some storage) capacity).2 = true ↔ ∃ k ≤ 31, capacity.toNat = 2 ^ k := by
  rw [← capacity_accepted_iff]
  unfold init
  simp only
  split
  · next hrefused => exact iff_of_false Bool.false_ne_true fun h ↦ h hrefused
  · next haccepted => exact iff_of_true rfl haccepted

private theorem masked_init (rb : RingBuffer α) {storage : ℕ → α} {capacity : UInt32}
    (h : (rb.init (some storage) capacity).2 = true) :
    (rb.init (some storage) capacity).1.capacity = capacity ∧
      (rb.init (some storage) capacity).1.Masked := by
  have hpow := (rb.init_accepted_iff storage capacity).mp h
  have haccepted := (capacity_accepted_iff capacity).mpr hpow
  simp only [init, if_neg haccepted]
  exact ⟨trivial, hpow, rfl⟩

namespace Masked

variable {rb : RingBuffer α}

/-- The slot of a true count is its remainder by the capacity. -/
theorem slot_ofNat (h : rb.Masked) (n : ℕ) :
    rb.slot (UInt32.ofNat n) = n % rb.capacity.toNat := by
  obtain ⟨k, -, hpow⟩ := h.pow
  rw [slot, h.mask, Counter.toNat_ofNat_and_pred hpow]

/-- The mask takes the remainder by the capacity. -/
theorem slot_eq (h : rb.Masked) (c : UInt32) : rb.slot c = c.toNat % rb.capacity.toNat := by
  rw [← h.slot_ofNat, UInt32.ofNat_toNat]

private theorem slot_add (h : rb.Masked) (c : UInt32) (i : ℕ) :
    rb.slot (c + UInt32.ofNat i) = (c.toNat + i) % rb.capacity.toNat := by
  rw [← h.slot_ofNat, UInt32.ofNat_add, UInt32.ofNat_toNat]

/-- The wrapped successor of a counter is in the next slot, and that of the last slot is the
first. -/
theorem slot_succ (h : rb.Masked) (c : UInt32) :
    rb.slot (c + 1) = (rb.slot c + 1) % rb.capacity.toNat := by
  have hone : (1 : UInt32) = UInt32.ofNat 1 := rfl
  rw [hone, h.slot_add, h.slot_eq, Nat.mod_add_mod]

/-- Consecutive counters take every slot once, also across the wrap. -/
theorem bijOn_slot (h : rb.Masked) (c : UInt32) :
    Set.BijOn (fun i ↦ rb.slot (c + UInt32.ofNat i)) (Set.Iio rb.capacity.toNat)
      (Set.Iio rb.capacity.toNat) := by
  simp only [h.slot_add]
  exact Counter.bijOn_add_mod c.toNat rb.capacity.toNat

end Masked

/-- `ring_buffer_init` accepts the powers of two that 32 bits hold, and nothing else. The slots of
what it accepts are cyclic for every counter value, across the wrap: the mask is the remainder, the
next counter has the next slot, and `capacity` counters in a row have `capacity` slots. -/
theorem init_slots_cyclic (rb : RingBuffer α) (storage : ℕ → α) (capacity : UInt32) :
    let after := rb.init (some storage) capacity
    let cap := capacity.toNat
    (after.2 = true ↔ ∃ k ≤ 31, cap = 2 ^ k) ∧
      (after.2 = false → after.1 = rb) ∧
      (after.2 = true → ∀ c : UInt32,
        after.1.slot c = c.toNat % cap ∧
          after.1.slot (c + 1) = (after.1.slot c + 1) % cap ∧
          Set.BijOn (fun i ↦ after.1.slot (c + UInt32.ofNat i)) (Set.Iio cap) (Set.Iio cap)) := by
  intro after cap
  refine ⟨rb.init_accepted_iff storage capacity, rb.init_of_refused, ?_⟩
  intro haccepted c
  obtain ⟨hcapacity, hmasked⟩ := rb.masked_init haccepted
  have hcap : cap = after.1.capacity.toNat := congrArg UInt32.toNat hcapacity.symm
  rw [hcap]
  exact ⟨hmasked.slot_eq c, hmasked.slot_succ c, hmasked.bijOn_slot c⟩

end SensorAggregator.Datalog.RingBuffer
