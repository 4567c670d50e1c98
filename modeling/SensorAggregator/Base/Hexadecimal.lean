import Mathlib.Algebra.Ring.Nat

/-!
# Hexadecimal numbers

The digits of a number in base sixteen, in capitals, and the number that such digits denote.
-/

namespace Base.Hexadecimal

/-- The digits of a number. -/
def toHex (n : ℕ) : List Char := (Nat.toDigits 16 n).map Char.toUpper

/-- A digit, or one of the letters that stand for ten and more. -/
def isHexDigit (c : Char) : Bool := c.isDigit || ('A' ≤ c && c ≤ 'F')

/-- The number that a digit stands for. -/
def digitValue (c : Char) : ℕ :=
  if c.isDigit then c.toNat - '0'.toNat else c.toNat - 'A'.toNat + 10

/-- The number that digits denote. -/
def value (digits : List Char) : ℕ := digits.foldl (fun n c ↦ 16 * n + digitValue c) 0

/-- The number that a text denotes. -/
def parse (text : List Char) : Option ℕ :=
  if text.isEmpty || !text.all isHexDigit then none else some (value text)

private theorem digitValue_digitChar {d : ℕ} (h : d < 16) :
    digitValue (Nat.digitChar d).toUpper = d ∧ isHexDigit (Nat.digitChar d).toUpper = true := by
  revert d
  decide

private theorem value_concat (digits : List Char) (c : Char) :
    value (digits ++ [c]) = 16 * value digits + digitValue c := by
  rw [value, List.foldl_append]
  rfl

private theorem value_leftpad (width : ℕ) (digits : List Char) :
    value (List.leftpad width '0' digits) = value digits := by
  have hzeros : ∀ k, (List.replicate k '0').foldl (fun n c ↦ 16 * n + digitValue c) 0 = 0 := by
    intro k
    induction k with
    | zero => rfl
    | succ k ih => exact ih
  rw [value, List.leftpad, List.foldl_append, hzeros]
  rfl

private theorem value_toHex (n : ℕ) :
    value (toHex n) = n ∧ ∀ c ∈ toHex n, isHexDigit c = true := by
  induction n using Nat.strongRecOn with
  | ind n ih =>
    rw [toHex, Nat.toDigits_eq_if (by decide)]
    by_cases hlt : n < 16
    · obtain ⟨hvalue, hdigit⟩ := digitValue_digitChar hlt
      rw [if_pos hlt]
      constructor
      · show 16 * 0 + digitValue (Nat.digitChar n).toUpper = n
        omega
      · intro c hc
        rw [List.mem_singleton.mp hc]
        exact hdigit
    · obtain ⟨hvalue, hdigits⟩ := ih (n / 16) (by omega)
      obtain ⟨hlast, hdigit⟩ := digitValue_digitChar (Nat.mod_lt n (show 0 < 16 by decide))
      rw [if_neg hlt, List.map_append]
      constructor
      · show value (toHex (n / 16) ++ [(n % 16).digitChar.toUpper]) = n
        rw [value_concat, hvalue, hlast]
        omega
      · intro c hc
        apply (List.mem_append.mp hc).elim (hdigits c)
        intro hc
        rw [List.mem_singleton.mp hc]
        exact hdigit

/-- A number in as many digits as asked for, or more if it needs them. -/
def padded (width n : ℕ) : List Char := List.leftpad width '0' (toHex n)

/-- Padding puts digits only. -/
theorem padded_digits {width n : ℕ} {c : Char} (hc : c ∈ padded width n) :
    isHexDigit c = true := by
  apply (List.mem_append.mp hc).elim
  · intro hc
    rw [List.eq_of_mem_replicate hc]
    decide
  · exact (value_toHex n).2 c

/-- A padded number is read back. -/
theorem parse_padded (width n : ℕ) : parse (padded width n) = some n := by
  have hne : (padded width n).isEmpty = false := by
    rw [List.isEmpty_eq_false_iff, padded, List.leftpad, toHex]
    intro h
    exact Nat.toDigits_ne_nil (List.map_eq_nil_iff.mp (List.append_eq_nil_iff.mp h).2)
  have hall : (padded width n).all isHexDigit = true :=
    List.all_eq_true.mpr fun _ hc ↦ padded_digits hc
  rw [parse, hne, hall]
  show some (value (padded width n)) = some n
  rw [padded, value_leftpad, (value_toHex n).1]

/-- How many digits a number takes. -/
theorem length_padded {width n k : ℕ} (hk : 0 < k) (h : n < 16 ^ k) :
    (padded width n).length ≤ max width k := by
  have hlen := (Nat.length_toDigits_le_iff (show 1 < 16 by decide) hk).mpr h
  rw [padded, List.length_leftpad, toHex, List.length_map]
  exact Nat.max_le.mpr ⟨Nat.le_max_left width k, Nat.le_trans hlen (Nat.le_max_right width k)⟩

end Base.Hexadecimal
