import Mathlib.Data.Nat.Notation
import Mathlib.Tactic.ByContra

/-!
# Bits of a 32-bit word

A word is known by its bits, and a mask picks some of them out.
-/

namespace Base.Word

/-- Bit `i` of a word. -/
def bit (w : UInt32) (i : ℕ) : Bool := w.toBitVec.getLsbD i

variable {v w mask : UInt32} {i : ℕ}

/-- Zero has no bit. -/
@[simp] theorem bit_zero (i : ℕ) : bit 0 i = false := BitVec.getLsbD_zero

/-- The bits of both words. -/
@[simp] theorem bit_and (v w : UInt32) (i : ℕ) : bit (v &&& w) i = (bit v i && bit w i) :=
  BitVec.getLsbD_and

/-- The bits of either word. -/
@[simp] theorem bit_or (v w : UInt32) (i : ℕ) : bit (v ||| w) i = (bit v i || bit w i) :=
  BitVec.getLsbD_or

/-- The other bits of a word. -/
@[simp] theorem bit_complement (w : UInt32) (i : ℕ) :
    bit (~~~w) i = (decide (i < 32) && !bit w i) := BitVec.getLsbD_not

/-- A word has 32 bits. -/
theorem lt_of_bit (h : bit w i = true) : i < 32 := BitVec.lt_of_getLsbD h

/-- Words with the same bits are equal. -/
theorem ext (h : ∀ i, bit v i = bit w i) : v = w :=
  UInt32.toBitVec_inj.mp (BitVec.eq_of_getLsbD_eq fun i _ ↦ h i)

/-- A word other than 0 has a bit. -/
theorem ne_zero_iff : w ≠ 0 ↔ ∃ i, bit w i = true := by
  constructor
  · intro hne
    by_contra hnone
    apply hne
    apply ext
    intro i
    rw [bit_zero]
    exact Bool.eq_false_iff.mpr fun hi ↦ hnone ⟨i, hi⟩
  · rintro ⟨i, hi⟩ rfl
    rw [bit_zero] at hi
    exact Bool.false_ne_true hi

/-- A test with a mask finds a bit of the mask. -/
theorem and_ne_zero_iff : v &&& mask ≠ 0 ↔ ∃ i, bit mask i = true ∧ bit v i = true := by
  simp only [ne_zero_iff, bit_and, Bool.and_eq_true, and_comm]

/-- A test with a mask looks at the bits that make it up. -/
theorem and_ne_zero_iff_any (v mask : UInt32) (bits : List ℕ)
    (hmask : ∀ i < 32, bit mask i = bits.contains i) :
    v &&& mask ≠ 0 ↔ bits.any (bit v) = true := by
  rw [and_ne_zero_iff, List.any_eq_true]
  apply exists_congr
  intro i
  apply and_congr_left
  intro hi
  rw [hmask i (lt_of_bit hi), List.contains_iff_mem]

/-- A word has no bits besides a mask's. -/
theorem and_complement_eq_zero_iff :
    v &&& ~~~mask = 0 ↔ ∀ i, bit v i = true → bit mask i = true := by
  constructor
  · intro h i hv
    have hbit := congrArg (bit · i) h
    simpa [hv, lt_of_bit hv] using hbit
  · intro h
    apply ext
    intro i
    simp only [bit_and, bit_complement, bit_zero]
    cases hv : bit v i with
    | true => simp [h i hv]
    | false => simp

/-- Nothing is left of a mask that was cleared. -/
theorem and_complement_and_self (v mask : UInt32) : v &&& ~~~mask &&& mask = 0 := by
  apply ext
  intro i
  simp only [bit_and, bit_complement, bit_zero]
  cases bit mask i <;> simp

/-- Clearing a mask twice is clearing it. -/
theorem and_complement_and_complement (v mask : UInt32) :
    v &&& ~~~mask &&& ~~~mask = v &&& ~~~mask := by
  rw [UInt32.and_assoc, UInt32.and_self]

/-- Bits of a mask that are set are added to those already there. -/
theorem or_and_of_within (h : w &&& ~~~mask = 0) : (v ||| w) &&& mask = v &&& mask ||| w := by
  apply ext
  intro i
  have hmask := and_complement_eq_zero_iff.mp h i
  simp only [bit_and, bit_or]
  cases hw : bit w i with
  | true => simp [hmask hw]
  | false => simp

/-- Bits of a mask that are set leave the others alone. -/
theorem or_and_complement_of_within (h : w &&& ~~~mask = 0) :
    (v ||| w) &&& ~~~mask = v &&& ~~~mask := by
  apply ext
  intro i
  have hbit := congrArg (bit · i) h
  simp only [bit_and, bit_zero] at hbit
  simp only [bit_and, bit_or, Bool.and_or_distrib_right, hbit, Bool.or_false]

end Base.Word
