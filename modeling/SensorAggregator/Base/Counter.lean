import Mathlib.Data.Nat.ModEq
import Mathlib.Order.Interval.Finset.Nat

/-!
# Free-running 32-bit counters and power-of-two masks

A counter that is never reset carries the number of events modulo `2 ^ 32`. Differences of two
such counters are exact while the true difference fits, and masking one with `capacity - 1`
commutes with the wrap because a power of two divides `2 ^ 32`.
-/

namespace Base.Counter

/-- The wrapped successor of a counter counts one more event. -/
theorem ofNat_succ (n : ℕ) : UInt32.ofNat (n + 1) = UInt32.ofNat n + 1 := UInt32.ofNat_add n 1

/-- A count below `2 ^ 32` is read back exactly. -/
theorem toNat_ofNat_of_lt {n : ℕ} (h : n < 2 ^ 32) : (UInt32.ofNat n).toNat = n := by
  rw [UInt32.toNat_ofNat', Nat.mod_eq_of_lt h]

/-- A counter that cannot have wrapped is zero only if it has counted nothing. -/
theorem eq_zero_of_ofNat {n : ℕ} (hlt : n < 2 ^ 32) (h : UInt32.ofNat n = 0) : n = 0 := by
  rw [← toNat_ofNat_of_lt hlt, h]
  rfl

/-- Equal wrapped counts are congruent modulo `2 ^ 32`. -/
theorem ofNat_eq_ofNat_iff {m n : ℕ} :
    UInt32.ofNat m = UInt32.ofNat n ↔ m % 2 ^ 32 = n % 2 ^ 32 := by
  rw [UInt32.ofNat_eq_iff_mod_eq_toNat, UInt32.toNat_ofNat']

/-- The wrapped difference of two counters is their true difference while that fits. -/
theorem toNat_ofNat_sub {m n : ℕ} (hle : m ≤ n) (hlt : n - m < 2 ^ 32) :
    (UInt32.ofNat n - UInt32.ofNat m).toNat = n - m := by
  rw [← UInt32.ofNat_sub hle, toNat_ofNat_of_lt hlt]

/-- The bit test `c & (c - 1) == 0` picks out the powers of two among the nonzero words. -/
theorem and_pred_eq_zero_iff {c : UInt32} (hc : c ≠ 0) :
    c &&& (c - 1) = 0 ↔ ∃ k < 32, c.toNat = 2 ^ k := by
  have hpos : c.toNat ≠ 0 := fun h ↦ hc (UInt32.toNat_inj.mp h)
  have hone : (1 : UInt32) ≤ c := by
    rw [UInt32.le_iff_toNat_le]
    exact Nat.one_le_iff_ne_zero.mpr hpos
  have hand : (c &&& (c - 1)).toNat = c.toNat &&& c.toNat - 1 := by
    rw [UInt32.toNat_and, UInt32.toNat_sub_of_le _ _ hone]
    rfl
  rw [← UInt32.toNat_inj, hand]
  constructor
  · intro h
    obtain ⟨k, hk⟩ := Nat.ne_zero_and_sub_one_eq_zero_iff_isPowerOfTwo.mp ⟨hpos, h⟩
    refine ⟨k, ?_, hk⟩
    exact (Nat.pow_lt_pow_iff_right (a := 2) (by decide)).mp (hk ▸ c.toNat_lt)
  · rintro ⟨k, _, hk⟩
    exact (Nat.ne_zero_and_sub_one_eq_zero_iff_isPowerOfTwo.mpr ⟨k, hk⟩).2

private theorem toNat_and_pred {cap : UInt32} {k : ℕ} (hcap : cap.toNat = 2 ^ k) (c : UInt32) :
    (c &&& (cap - 1)).toNat = c.toNat % cap.toNat := by
  have hone : (1 : UInt32) ≤ cap := by
    rw [UInt32.le_iff_toNat_le, hcap]
    exact Nat.one_le_two_pow
  rw [UInt32.toNat_and, UInt32.toNat_sub_of_le _ _ hone, hcap]
  exact Nat.and_two_pow_sub_one_eq_mod _ _

/-- A masked wrapped count is the remainder of the true count. -/
theorem toNat_ofNat_and_pred {cap : UInt32} {k : ℕ} (hcap : cap.toNat = 2 ^ k) (n : ℕ) :
    (UInt32.ofNat n &&& (cap - 1)).toNat = n % cap.toNat := by
  have hk : k ≤ 32 := by
    have h := cap.toNat_lt
    rw [hcap] at h
    exact ((Nat.pow_lt_pow_iff_right (by decide)).mp h).le
  rw [toNat_and_pred hcap, UInt32.toNat_ofNat', hcap]
  exact Nat.mod_mod_of_dvd _ (Nat.pow_dvd_pow 2 hk)

/-- Counts less than one capacity apart that share a slot are the same count. -/
theorem eq_of_mod_eq {i j cap : ℕ} (h : i % cap = j % cap) (hi : i < j + cap)
    (hj : j < i + cap) : i = j := by
  rcases Nat.le_total i j with hle | hle
  · have hd := (Nat.modEq_iff_dvd' hle).mp h
    have := Nat.eq_zero_of_dvd_of_lt hd (by omega)
    omega
  · have hd := (Nat.modEq_iff_dvd' hle).mp h.symm
    have := Nat.eq_zero_of_dvd_of_lt hd (by omega)
    omega

/-- One capacity of consecutive counts takes every slot once. -/
theorem bijOn_add_mod (n cap : ℕ) :
    Set.BijOn (fun i ↦ (n + i) % cap) (Set.Iio cap) (Set.Iio cap) := by
  refine ⟨?mapsTo, ?injOn, ?surjOn⟩
  case mapsTo =>
    intro i (hi : i < cap)
    exact Nat.mod_lt _ (Nat.zero_lt_of_lt hi)
  case injOn =>
    intro i (hi : i < cap) j (hj : j < cap) heq
    have := eq_of_mod_eq heq (by omega) (by omega)
    omega
  case surjOn =>
    intro slot (hslot : slot < cap)
    have himage := Finset.mem_range.mpr hslot
    rw [← Nat.image_Ico_mod n cap] at himage
    obtain ⟨m, hm, hmod⟩ := Finset.mem_image.mp himage
    have hm := Finset.mem_Ico.mp hm
    refine ⟨m - n, show m - n < cap by omega, ?_⟩
    show (n + (m - n)) % cap = slot
    rw [Nat.add_sub_cancel' hm.1, hmod]

/-- How many of the counts `1 … n` a counter modulo `M` shows as multiples of `p`. -/
def hits (M p n : ℕ) : ℕ := n / M * ((M - 1) / p + 1) + n % M / p

/-- One more count is a hit when the counter shows a multiple, the wrap to zero included. -/
theorem hits_succ {M : ℕ} (hM : 0 < M) (p n : ℕ) :
    hits M p (n + 1) = hits M p n + if (n + 1) % M % p = 0 then 1 else 0 := by
  have hlt := Nat.mod_lt n hM
  have hsplit := Nat.div_add_mod n M
  unfold hits
  by_cases hwrap : n % M + 1 = M
  · have hnext : n + 1 = M * (n / M + 1) := by
      rw [Nat.mul_add, Nat.mul_one]
      omega
    have hlast : n % M = M - 1 := by omega
    rw [hnext, Nat.mul_div_cancel_left _ hM, Nat.mul_mod_right, hlast, Nat.zero_mod, Nat.zero_div,
      if_pos rfl, Nat.add_mul]
    omega
  · have hnext : n + 1 = n % M + 1 + M * (n / M) := by omega
    have hdiv : (n + 1) / M = n / M := by
      rw [hnext, Nat.add_mul_div_left _ _ hM, Nat.div_eq_of_lt (by omega), Nat.zero_add]
    have hmod : (n + 1) % M = n % M + 1 := by
      rw [hnext, Nat.add_mul_mod_self_left, Nat.mod_eq_of_lt (by omega)]
    rw [hdiv, hmod, Nat.succ_div, Nat.add_assoc]
    simp only [Nat.dvd_iff_mod_eq_zero]

end Base.Counter
