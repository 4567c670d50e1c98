import Mathlib.Algebra.Order.Field.Rat
import Mathlib.Data.Rat.Cast.Order
import Mathlib.Tactic.FieldSimp
import Mathlib.Tactic.Linarith
import Mathlib.Tactic.Positivity

/-!
# Decimal numerals

Numerals with a sign and a fixed number of digits after the point, what they denote, and what it
means that a number is another one rounded to so many places, halves away from zero.
-/

namespace Base.Decimal

/-- The digits before and after the point, in order, without needless zeros in front. -/
structure Numeral where
  negative : Bool
  whole : List Char
  fraction : List Char
  whole_ne_nil : whole ≠ []
  whole_digits : ∀ c ∈ whole, c.isDigit = true
  whole_head : whole.head? = some '0' → whole = ['0']
  fraction_digits : ∀ c ∈ fraction, c.isDigit = true

/-- The number that digits around a point denote. -/
def digitsValue (whole fraction : List Char) : ℚ :=
  Nat.ofDigitChars 10 whole 0 + Nat.ofDigitChars 10 fraction 0 / 10 ^ fraction.length

/-- The number that a text without a sign denotes: digits, and a point with more digits if there
is one. -/
def parseUnsigned (text : List Char) : Option ℚ :=
  let whole := text.takeWhile Char.isDigit
  if whole.isEmpty then none
  else
    match text.dropWhile Char.isDigit with
    | [] => some (digitsValue whole [])
    | '.' :: fraction =>
      if fraction.isEmpty || !fraction.all Char.isDigit then none
      else some (digitsValue whole fraction)
    | _ => none

/-- The number that a text denotes. -/
def parse : List Char → Option ℚ
  | '-' :: text => (parseUnsigned text).map Neg.neg
  | text => parseUnsigned text

/-- `y` is `x` rounded to `d` places, halves away from zero. -/
structure RoundsHalfAway (d : ℕ) (x y : ℚ) : Prop where
  places : ∃ n : ℤ, y = n / 10 ^ d
  near : |y - x| ≤ 1 / (2 * 10 ^ d)
  away : |y - x| = 1 / (2 * 10 ^ d) → |x| ≤ |y|

namespace Numeral

/-- The text of a numeral. -/
def toChars (n : Numeral) : List Char :=
  (if n.negative then ['-'] else []) ++ n.whole ++
    if n.fraction.isEmpty then [] else '.' :: n.fraction

/-- The number a numeral denotes. -/
def value (n : Numeral) : ℚ :=
  if n.negative then -digitsValue n.whole n.fraction else digitsValue n.whole n.fraction

end Numeral

private theorem head_toDigits {n : ℕ} (h : (Nat.toDigits 10 n).head? = some '0') :
    Nat.toDigits 10 n = ['0'] := by
  have hzero : n = 0 := by
    induction n using Nat.strongRecOn with
    | ind n ih =>
      rw [Nat.toDigits_eq_if (by decide)] at h
      split at h
      · exact Nat.digitChar_eq_zero.mp (Option.some.inj h)
      · next hle =>
        rw [List.head?_append_of_ne_nil _ Nat.toDigits_ne_nil] at h
        have hdiv := ih (n / 10) (by omega) h
        omega
  rw [hzero, Nat.toDigits_zero]

private theorem takeWhile_digits {whole : List Char} (rest : List Char)
    (hwhole : ∀ c ∈ whole, c.isDigit = true)
    (hrest : ∀ c, rest.head? = some c → c.isDigit = false) :
    (whole ++ rest).takeWhile Char.isDigit = whole ∧
      (whole ++ rest).dropWhile Char.isDigit = rest := by
  rw [List.takeWhile_append_of_pos hwhole, List.dropWhile_append_of_pos hwhole]
  cases rest with
  | nil => exact ⟨List.append_nil whole, rfl⟩
  | cons c rest =>
    have hc := hrest c rfl
    rw [List.takeWhile_cons_of_neg (by rw [hc]; decide),
      List.dropWhile_cons_of_neg (by rw [hc]; decide), List.append_nil]
    exact ⟨rfl, rfl⟩

private theorem parseUnsigned_digits (n : Numeral) :
    parseUnsigned (n.whole ++ if n.fraction.isEmpty then [] else '.' :: n.fraction) =
      some (digitsValue n.whole n.fraction) := by
  have hne : n.whole.isEmpty = false := List.isEmpty_eq_false_iff.mpr n.whole_ne_nil
  cases hfraction : n.fraction with
  | nil =>
    have hread := takeWhile_digits [] n.whole_digits (by simp)
    simp only [List.isEmpty_nil, if_true]
    simp only [parseUnsigned, hread, hne, Bool.false_eq_true, if_false]
  | cons c fraction =>
    have hread := takeWhile_digits ('.' :: c :: fraction) n.whole_digits
      (fun _ hc ↦ by rw [← Option.some.inj hc]; decide)
    have hall : (c :: fraction).all Char.isDigit = true :=
      List.all_eq_true.mpr (hfraction ▸ n.fraction_digits)
    simp only [List.isEmpty_cons, Bool.false_eq_true, if_false]
    simp only [parseUnsigned, hread, hne, hall, List.isEmpty_cons, Bool.false_eq_true, if_false,
      Bool.not_true, Bool.or_false]

/-- A numeral's text denotes the numeral's number. -/
theorem parse_toChars (n : Numeral) : parse n.toChars = some n.value := by
  have hdigits := parseUnsigned_digits n
  cases hnegative : n.negative with
  | true =>
    simp only [Numeral.toChars, Numeral.value, hnegative, if_true, List.cons_append,
      List.nil_append, parse, hdigits, Option.map_some]
  | false =>
    simp only [Numeral.toChars, Numeral.value, hnegative, Bool.false_eq_true, if_false,
      List.nil_append]
    -- The first character is a digit, so it is not taken for the sign.
    cases hwhole : n.whole with
    | nil => exact absurd hwhole n.whole_ne_nil
    | cons c whole =>
      have hc : c ≠ '-' := by
        rintro rfl
        exact absurd (n.whole_digits '-' (hwhole ▸ List.mem_cons_self)) (by decide)
      rw [hwhole] at hdigits
      rw [List.cons_append, parse]
      · exact hdigits
      · intro text htext
        exact hc (List.cons.inj htext).1

/-- A numeral is written with a sign, a point and digits only. -/
theorem mem_toChars {n : Numeral} {c : Char} (hc : c ∈ n.toChars) :
    c = '-' ∧ n.negative = true ∨ c = '.' ∨ c.isDigit = true := by
  rw [Numeral.toChars, List.mem_append, List.mem_append] at hc
  cases hc with
  | inl hc =>
    cases hc with
    | inl hsign =>
      split at hsign
      · next hnegative => exact .inl ⟨List.mem_singleton.mp hsign, hnegative⟩
      · exact absurd hsign List.not_mem_nil
    | inr hwhole => exact .inr (.inr (n.whole_digits c hwhole))
  | inr hpoint =>
    split at hpoint
    · exact absurd hpoint List.not_mem_nil
    · exact .inr ((List.mem_cons.mp hpoint).imp_right (n.fraction_digits c))

/-- The minus sign is written exactly when the numeral is negative. -/
theorem dash_mem_toChars (n : Numeral) : '-' ∈ n.toChars ↔ n.negative = true := by
  constructor
  · intro hdash
    have hchars := mem_toChars hdash
    simpa using hchars
  · intro hnegative
    rw [Numeral.toChars, hnegative]
    exact List.mem_cons_self

/-- How many characters a numeral takes. -/
theorem length_toChars (n : Numeral) :
    n.toChars.length = (if n.negative then 1 else 0) + n.whole.length +
      if n.fraction.isEmpty then 0 else n.fraction.length + 1 := by
  simp only [Numeral.toChars, List.length_append, apply_ite List.length, List.length_cons,
    List.length_nil, Nat.zero_add]

/-- A number below ten to the `d` in `d` digits. -/
def padded (n d : ℕ) : List Char :=
  if d = 0 then [] else List.leftpad d '0' (Nat.toDigits 10 n)

private theorem length_padded {n d : ℕ} (h : n < 10 ^ d) : (padded n d).length = d := by
  rw [padded]
  split
  · next hd => rw [hd, List.length_nil]
  · next hd =>
    rw [List.length_leftpad]
    exact Nat.max_eq_left ((Nat.length_toDigits_le_iff (by decide) (by omega)).mpr h)

private theorem padded_digits (n d : ℕ) : ∀ c ∈ padded n d, c.isDigit = true := by
  intro c hc
  rw [padded] at hc
  split at hc
  · exact absurd hc List.not_mem_nil
  · rw [List.leftpad, List.mem_append] at hc
    cases hc with
    | inl hzero => rw [List.eq_of_mem_replicate hzero]; decide
    | inr hdigit => exact Nat.isDigit_of_mem_toDigits (by decide) (by decide) hdigit

private theorem ofDigitChars_padded {n d : ℕ} (h : n < 10 ^ d) :
    Nat.ofDigitChars 10 (padded n d) 0 = n := by
  rw [padded]
  split
  · next hd =>
    rw [hd] at h
    rw [Nat.ofDigitChars_nil]
    omega
  · rw [List.leftpad, Nat.ofDigitChars_append, Nat.ofDigitChars_replicate_zero, Nat.mul_zero,
      Nat.ofDigitChars_ten_toDigits]

/-- The numeral of a number of units of the last of `d` places. -/
def Numeral.ofScaled (negative : Bool) (n d : ℕ) : Numeral where
  negative := negative
  whole := Nat.toDigits 10 (n / 10 ^ d)
  fraction := padded (n % 10 ^ d) d
  whole_ne_nil := Nat.toDigits_ne_nil
  whole_digits := fun _ hc ↦ Nat.isDigit_of_mem_toDigits (by decide) (by decide) hc
  whole_head := head_toDigits
  fraction_digits := padded_digits _ d

/-- As many digits stand after the point as places were asked for. -/
theorem length_fraction (negative : Bool) (n d : ℕ) :
    (Numeral.ofScaled negative n d).fraction.length = d :=
  length_padded (Nat.mod_lt n (Nat.pow_pos (by decide)))

/-- Without places there is no point. -/
theorem toChars_ofScaled_zero (negative : Bool) (n : ℕ) :
    (Numeral.ofScaled negative n 0).toChars =
      (if negative then ['-'] else []) ++ Nat.toDigits 10 n := by
  simp only [Numeral.toChars, Numeral.ofScaled, padded, Nat.pow_zero, Nat.div_one, if_true,
    List.isEmpty_nil, List.append_nil]

/-- With places there are as many digits after a point. -/
theorem toChars_ofScaled {d : ℕ} (negative : Bool) (n : ℕ) (hd : d ≠ 0) :
    (Numeral.ofScaled negative n d).toChars =
      (if negative then ['-'] else []) ++ Nat.toDigits 10 (n / 10 ^ d) ++
        '.' :: List.leftpad d '0' (Nat.toDigits 10 (n % 10 ^ d)) := by
  have hne : (Numeral.ofScaled negative n d).fraction.isEmpty = false := by
    rw [List.isEmpty_eq_false_iff, ne_eq, ← List.length_eq_zero_iff, length_fraction]
    exact hd
  rw [Numeral.toChars, hne]
  simp only [Numeral.ofScaled, padded, hd, Bool.false_eq_true, if_false]

/-- What a numeral of scaled units denotes. -/
theorem value_ofScaled (negative : Bool) (n d : ℕ) :
    (Numeral.ofScaled negative n d).value =
      if negative then -((n : ℚ) / 10 ^ d) else (n : ℚ) / 10 ^ d := by
  have hpow : (10 ^ d : ℚ) ≠ 0 := pow_ne_zero d (by norm_num)
  have hdigits : digitsValue (Numeral.ofScaled negative n d).whole
      (Numeral.ofScaled negative n d).fraction = (n : ℚ) / 10 ^ d := by
    rw [digitsValue, length_fraction]
    simp only [Numeral.ofScaled]
    rw [Nat.ofDigitChars_ten_toDigits,
      ofDigitChars_padded (Nat.mod_lt n (Nat.pow_pos (by decide)))]
    have hsplit : (n : ℚ) = (n / 10 ^ d : ℕ) * 10 ^ d + (n % 10 ^ d : ℕ) := by
      exact_mod_cast (Nat.div_add_mod' n (10 ^ d)).symm
    rw [eq_div_iff hpow, add_mul, div_mul_cancel₀ _ hpow]
    exact hsplit.symm
  rw [Numeral.value, hdigits]
  rfl

namespace RoundsHalfAway

/-- Rounding is symmetric about zero. -/
theorem neg {d : ℕ} {x y : ℚ} (h : RoundsHalfAway d x y) : RoundsHalfAway d (-x) (-y) := by
  have hdist : |-y - -x| = |y - x| := by rw [neg_sub_neg, abs_sub_comm]
  constructor
  · cases h.places with
    | intro n hn => exact ⟨-n, by rw [hn, Int.cast_neg, neg_div]⟩
  · rw [hdist]
    exact h.near
  · intro htie
    rw [hdist] at htie
    rw [abs_neg, abs_neg]
    exact h.away htie

/-- A number with so many places is rounded to itself. -/
theorem self (n : ℤ) (d : ℕ) : RoundsHalfAway d (n / 10 ^ d) (n / 10 ^ d) where
  places := ⟨n, rfl⟩
  near := by
    rw [sub_self, abs_zero]
    positivity
  away := fun _ ↦ le_rfl

/-- The quotient of a number plus half the divisor is the quotient rounded. -/
theorem of_half_up {a r D : ℕ} (d : ℕ) (hD : 0 < D) (hr : r = (a + D / 2) / D) :
    RoundsHalfAway d ((a : ℚ) / (10 ^ d * D)) ((r : ℚ) / 10 ^ d) := by
  have hbounds : 2 * (r * D) ≤ 2 * a + D ∧ 2 * a < 2 * (r * D) + D := by
    have hlow : r * D ≤ a + D / 2 := hr ▸ Nat.div_mul_le_self _ D
    have hhigh : a + D / 2 < r * D + D := hr ▸ Nat.lt_div_mul_add hD
    omega
  have hlow : 2 * ((r : ℚ) * D) ≤ 2 * a + D := by exact_mod_cast hbounds.1
  have hhigh : 2 * (a : ℚ) < 2 * (r * D) + D := by exact_mod_cast hbounds.2
  have hDpos : (0 : ℚ) < D := by exact_mod_cast hD
  have hscale : (0 : ℚ) < 10 ^ d * D := by positivity
  have hdist : |(r : ℚ) / 10 ^ d - a / (10 ^ d * D)| = |(r : ℚ) * D - a| / (10 ^ d * D) := by
    rw [← abs_of_pos hscale, ← abs_div, abs_of_pos hscale]
    congr 1
    field_simp
  have hhalf : (1 : ℚ) / (2 * 10 ^ d) = (D / 2) / (10 ^ d * D) := by
    field_simp
  constructor
  · exact ⟨r, by rw [Int.cast_natCast]⟩
  · rw [hdist, hhalf]
    apply div_le_div_of_nonneg_right _ hscale.le
    rw [abs_le]
    constructor <;> linarith
  · intro htie
    rw [hdist, hhalf, div_left_inj' hscale.ne'] at htie
    -- The lower bound is strict, so a tie was rounded up.
    have hup : (a : ℚ) ≤ r * D := by
      cases abs_choice ((r : ℚ) * D - a) with
      | inl h => linarith
      | inr h => linarith
    have hle : (a : ℚ) / (10 ^ d * D) ≤ r / 10 ^ d :=
      calc (a : ℚ) / (10 ^ d * D) ≤ r * D / (10 ^ d * D) := by gcongr
        _ = r / 10 ^ d := mul_div_mul_right _ _ hDpos.ne'
    rwa [abs_of_nonneg (by positivity), abs_of_nonneg (by positivity)]

/-- In units of the last place, a number is rounded to a whole number within half a unit. -/
theorem scaled {d : ℕ} {x : ℚ} {n : ℤ} (h : RoundsHalfAway d x (n / 10 ^ d)) :
    |n - 10 ^ d * x| ≤ 1 / 2 ∧ (|n - 10 ^ d * x| = 1 / 2 → |10 ^ d * x| ≤ |(n : ℚ)|) := by
  have hpow : (0 : ℚ) < 10 ^ d := by positivity
  have hdist : |(n : ℚ) / 10 ^ d - x| = |n - 10 ^ d * x| / 10 ^ d := by
    rw [← abs_of_pos hpow, ← abs_div, abs_of_pos hpow]
    congr 1
    field_simp
  have hhalf : (1 : ℚ) / (2 * 10 ^ d) = (1 / 2) / 10 ^ d := by
    field_simp
  constructor
  · have hnear := h.near
    rwa [hdist, hhalf, div_le_div_iff_of_pos_right hpow] at hnear
  · intro htie
    have haway := h.away (by rw [hdist, htie, hhalf])
    rwa [abs_div, abs_of_pos hpow, le_div_iff₀ hpow, mul_comm, ← abs_of_pos hpow, ← abs_mul]
      at haway

/-- No two whole numbers are both nearest and farther from zero. -/
theorem not_two_nearest {m n : ℤ} {x : ℚ} (hlt : m < n)
    (hm : |m - x| ≤ 1 / 2 ∧ (|m - x| = 1 / 2 → |x| ≤ |(m : ℚ)|))
    (hn : |n - x| ≤ 1 / 2 ∧ (|n - x| = 1 / 2 → |x| ≤ |(n : ℚ)|)) : False := by
  have hstep : (m : ℚ) + 1 ≤ n := by exact_mod_cast hlt
  have hbelow := (abs_le.mp hm.1).1
  have habove := (abs_le.mp hn.1).2
  have hxm : x = m + 1 / 2 := by linarith
  have hxn : x = n - 1 / 2 := by linarith
  have hlow := hm.2 (by rw [hxm, sub_add_cancel_left, abs_neg, abs_of_pos (by norm_num)])
  have hhigh := hn.2 (by rw [hxn, sub_sub_cancel, abs_of_pos (by norm_num)])
  -- The tie lies on one side of zero, and there one of the two is nearer to zero.
  cases le_or_gt 0 m with
  | inl hnonneg =>
    have hcast : (0 : ℚ) ≤ m := by exact_mod_cast hnonneg
    rw [abs_of_nonneg hcast, abs_of_pos (by linarith)] at hlow
    linarith
  | inr hneg =>
    have hcast : (m : ℚ) + 1 ≤ 0 := by exact_mod_cast hneg
    rw [abs_of_neg (by linarith), abs_of_nonpos (by linarith)] at hhigh
    linarith

/-- Only one number is another one rounded. -/
theorem unique {d : ℕ} {x y z : ℚ} (hy : RoundsHalfAway d x y) (hz : RoundsHalfAway d x z) :
    y = z := by
  obtain ⟨m, rfl⟩ := hy.places
  obtain ⟨n, rfl⟩ := hz.places
  have hm := hy.scaled
  have hn := hz.scaled
  cases lt_trichotomy m n with
  | inl hlt => exact (not_two_nearest hlt hm hn).elim
  | inr h =>
    cases h with
    | inl heq => rw [heq]
    | inr hgt => exact (not_two_nearest hgt hn hm).elim

/-- Rounding keeps the order. -/
theorem mono {d : ℕ} {x x' y y' : ℚ} (h : RoundsHalfAway d x y) (h' : RoundsHalfAway d x' y')
    (hle : x ≤ x') : y ≤ y' := by
  obtain ⟨n, rfl⟩ := h.places
  obtain ⟨n', rfl⟩ := h'.places
  have hpow : (0 : ℚ) < 10 ^ d := by positivity
  apply le_of_not_gt
  intro hlt
  have hnear := abs_le.mp h.scaled.1
  have hnear' := abs_le.mp h'.scaled.1
  have hstep : (n' : ℚ) + 1 ≤ n := by
    have hcast := (div_lt_div_iff_of_pos_right hpow).mp hlt
    exact_mod_cast hcast
  have hscale := mul_le_mul_of_nonneg_left hle hpow.le
  -- Half a unit is all there is between them, so the numbers are one and the same tie.
  have hsame : 10 ^ d * x = 10 ^ d * x' := by linarith
  have heq : x = x' := mul_left_cancel₀ hpow.ne' hsame
  rw [h.unique (heq ▸ h')] at hlt
  exact lt_irrefl _ hlt

end RoundsHalfAway

end Base.Decimal
