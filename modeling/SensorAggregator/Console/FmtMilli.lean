import SensorAggregator.Base.Decimal

/-!
# The fixed-point formatter

Models `console_fmt_milli` of `system/console.c`. A buffer is the characters from its address on;
`snprintf` is the one of the C standard.
-/

namespace SensorAggregator.Console

open Base.Decimal

/-- `CONSOLE_MAX_DECIMALS`, `console.c:13`. -/
def consoleMaxDecimals : UInt32 := 3

/-- A number of decimals that `pow10_table` has an entry for. -/
abbrev Decimals := { d : UInt32 // d ≤ consoleMaxDecimals }

/-- `pow10_table`, `console.c:77`. -/
def pow10Table : Vector UInt32 4 := #v[1, 10, 100, 1000]

/-- `pow10_table[d]`. -/
def pow10 (d : Decimals) : UInt32 := pow10Table.get ⟨d.val.toNat, Nat.lt_succ_of_le d.property⟩

/-- The limit on the decimals, `console.c:89–92`. -/
def limitDecimals (decimals : UInt32) : Decimals :=
  if h : consoleMaxDecimals < decimals then ⟨consoleMaxDecimals, UInt32.le_refl _⟩
  else ⟨decimals, UInt32.not_lt.mp h⟩

/-- `CONSOLE_MAX_DECIMALS - decimals`, `console.c:105`. -/
def Decimals.dropped (d : Decimals) : Decimals :=
  ⟨consoleMaxDecimals - d.val, UInt32.sub_le d.property⟩

/-- `magnitude` before it is rounded, `console.c:94–103`. -/
def magnitude (milliValue : Int32) : UInt32 :=
  if milliValue < 0 then (-(milliValue + 1)).toUInt32 + 1 else milliValue.toUInt32

/-- `magnitude` after it is rounded, `console.c:105–106`. -/
def rounded (milliValue : Int32) (d : Decimals) : UInt32 :=
  let dropDivisor := pow10 d.dropped
  (magnitude milliValue + dropDivisor / 2) / dropDivisor

/-- `sign`, `console.c:79–113`. -/
def sign (milliValue : Int32) (d : Decimals) : List Char :=
  if rounded milliValue d = 0 then [] else if milliValue < 0 then ['-'] else []

/-- What `snprintf` writes for `%lu`. -/
def fmtLu (value : UInt32) : List Char := Nat.toDigits 10 value.toNat

/-- What `snprintf` writes for `%0*lu`. -/
def fmtZeroLu (width value : UInt32) : List Char :=
  List.leftpad width.toNat '0' (Nat.toDigits 10 value.toNat)

/-- The text that `snprintf` is to write, `console.c:107–125`. -/
def fmtMilliText (milliValue : Int32) (d : Decimals) : List Char :=
  let magnitude := rounded milliValue d
  let fracUnit := pow10 d
  if d.val = 0 then sign milliValue d ++ fmtLu magnitude
  else sign milliValue d ++ fmtLu (magnitude / fracUnit) ++
    '.' :: fmtZeroLu d.val (magnitude % fracUnit)

/-- `snprintf` into a buffer of a length other than 0. -/
def snprintf (buf : List Char) (bufLen : ℕ) (text : List Char) : List Char :=
  let written := text.take (bufLen - 1) ++ ['\x00']
  written ++ buf.drop written.length

/-- The string that a buffer holds. -/
def cString (buf : List Char) : List Char := buf.takeWhile (· ≠ '\x00')

/-- `console_fmt_milli`, `console.c:75–128`: the buffer afterwards and the string returned. `none`
is `NULL`. -/
def consoleFmtMilli (buf : Option (List Char)) (bufLen : ℕ) (milliValue : Int32)
    (decimals : UInt32) : Option (List Char) × List Char :=
  match buf with
  | none => (none, [])
  | some chars =>
    if bufLen = 0 then (some chars, [])
    else
      let chars := snprintf chars bufLen (fmtMilliText milliValue (limitDecimals decimals))
      (some chars, cString chars)

/-- No intermediate value of 32 bits overflows. -/
structure NoOverflow (milliValue : Int32) (d : Decimals) : Prop where
  succ : milliValue < 0 → (milliValue + 1).toInt = milliValue.toInt + 1
  negated : milliValue < 0 → (-(milliValue + 1)).toInt = -(milliValue + 1).toInt
  converted : milliValue < 0 → ((-(milliValue + 1)).toUInt32.toNat : ℤ) = (-(milliValue + 1)).toInt
  magnitude : milliValue < 0 →
    ((-(milliValue + 1)).toUInt32 + 1).toNat = (-(milliValue + 1)).toUInt32.toNat + 1
  half : (Console.magnitude milliValue + pow10 d.dropped / 2).toNat =
    (Console.magnitude milliValue).toNat + (pow10 d.dropped / 2).toNat

private theorem toNat_pow10 (d : Decimals) : (pow10 d).toNat = 10 ^ d.val.toNat := by
  have htable : ∀ i : Fin 4, (pow10Table.get i).toNat = 10 ^ i.val := by decide
  exact htable ⟨d.val.toNat, Nat.lt_succ_of_le d.property⟩

private theorem toNat_dropped (d : Decimals) : d.dropped.val.toNat = 3 - d.val.toNat := by
  rw [Decimals.dropped, UInt32.toNat_sub_of_le _ _ d.property]
  rfl

/-- The limit is the smaller of the two. -/
theorem toNat_limitDecimals (decimals : UInt32) :
    (limitDecimals decimals).val.toNat = min decimals.toNat 3 := by
  rw [limitDecimals]
  split
  · next h =>
    have hlt : 3 < decimals.toNat := h
    show 3 = min decimals.toNat 3
    omega
  · next h =>
    have hle : decimals.toNat ≤ 3 := UInt32.not_lt.mp h
    show decimals.toNat = min decimals.toNat 3
    omega

/-- The negation is within 32 bits, that of the smallest value included. -/
theorem toInt_neg_succ {milliValue : Int32} (h : milliValue < 0) :
    (milliValue + 1).toInt = milliValue.toInt + 1 ∧
      (-(milliValue + 1)).toInt = -(milliValue + 1).toInt := by
  have hneg : milliValue.toInt < 0 := Int32.lt_iff_toInt_lt.mp h
  have hmin := milliValue.le_toInt
  have hsucc : (milliValue + 1).toInt = milliValue.toInt + 1 := by
    rw [Int32.toInt_add]
    apply Int.bmod_eq_of_le
    · show -(2 ^ 32 / 2) ≤ milliValue.toInt + 1
      omega
    · show milliValue.toInt + 1 < (2 ^ 32 + 1) / 2
      omega
  refine ⟨hsucc, ?_⟩
  rw [Int32.toInt_neg, hsucc]
  apply Int.bmod_eq_of_le
  · omega
  · omega

private theorem toNat_toUInt32 {milliValue : Int32} (h : 0 ≤ milliValue) :
    (milliValue.toUInt32.toNat : ℤ) = milliValue.toInt := by
  rw [Int32.toNat_toUInt32_of_le h, Int32.cast_toNatClampNeg _ h]

private theorem toNat_neg_succ {milliValue : Int32} (h : milliValue < 0) :
    ((-(milliValue + 1)).toUInt32.toNat : ℤ) = (-(milliValue + 1)).toInt ∧
      ((-(milliValue + 1)).toUInt32 + 1).toNat = (-(milliValue + 1)).toUInt32.toNat + 1 := by
  have hneg : milliValue.toInt < 0 := Int32.lt_iff_toInt_lt.mp h
  have hmin := milliValue.le_toInt
  have hexact := toInt_neg_succ h
  have hnonneg : 0 ≤ -(milliValue + 1) := by
    rw [Int32.le_iff_toInt_le, hexact.2, hexact.1, Int32.toInt_zero]
    omega
  have hconverted := toNat_toUInt32 hnonneg
  refine ⟨hconverted, ?_⟩
  rw [UInt32.toNat_add]
  apply Nat.mod_eq_of_lt
  show (-(milliValue + 1)).toUInt32.toNat + 1 < 2 ^ 32
  omega

/-- The magnitude is the absolute value. -/
theorem toNat_magnitude (milliValue : Int32) :
    (magnitude milliValue).toNat = milliValue.toInt.natAbs := by
  rw [magnitude]
  split
  · next h =>
    have hneg : milliValue.toInt < 0 := Int32.lt_iff_toInt_lt.mp h
    have hexact := toInt_neg_succ h
    have hnat := toNat_neg_succ h
    omega
  · next h =>
    have hnonneg : 0 ≤ milliValue := Int32.not_lt.mp h
    have hconverted := toNat_toUInt32 hnonneg
    omega

private theorem toNat_add_half (milliValue : Int32) (d : Decimals) :
    (magnitude milliValue + pow10 d.dropped / 2).toNat =
      (magnitude milliValue).toNat + (pow10 d.dropped / 2).toNat := by
  have hmin := milliValue.le_toInt
  have hmax := milliValue.toInt_lt
  have hpow : (pow10 d.dropped).toNat ≤ 10 ^ 3 := by
    rw [toNat_pow10, toNat_dropped]
    exact Nat.pow_le_pow_right (by decide) (by omega)
  rw [UInt32.toNat_add]
  apply Nat.mod_eq_of_lt
  rw [UInt32.toNat_div, toNat_magnitude]
  show milliValue.toInt.natAbs + (pow10 d.dropped).toNat / 2 < 2 ^ 32
  omega

/-- No intermediate value overflows, whatever is formatted. -/
theorem noOverflow (milliValue : Int32) (d : Decimals) : NoOverflow milliValue d where
  succ := fun h ↦ (toInt_neg_succ h).1
  negated := fun h ↦ (toInt_neg_succ h).2
  converted := fun h ↦ (toNat_neg_succ h).1
  magnitude := fun h ↦ (toNat_neg_succ h).2
  half := toNat_add_half milliValue d

private theorem toNat_rounded (milliValue : Int32) (d : Decimals) :
    (rounded milliValue d).toNat =
      (milliValue.toInt.natAbs + 10 ^ (3 - d.val.toNat) / 2) / 10 ^ (3 - d.val.toNat) := by
  rw [rounded, UInt32.toNat_div, toNat_add_half, UInt32.toNat_div, toNat_magnitude, toNat_pow10,
    toNat_dropped]
  rfl

private theorem rounded_div_lt (milliValue : Int32) (d : Decimals) :
    (rounded milliValue d).toNat / 10 ^ d.val.toNat < 10 ^ 7 := by
  have hmin := milliValue.le_toInt
  have hmax := milliValue.toInt_lt
  have hle : d.val.toNat ≤ 3 := d.property
  have hscale : 10 ^ (3 - d.val.toNat) * 10 ^ d.val.toNat = 10 ^ 3 := by
    rw [← Nat.pow_add, Nat.sub_add_cancel hle]
  have hhalf : 10 ^ (3 - d.val.toNat) ≤ 10 ^ 3 := Nat.pow_le_pow_right (by decide) (by omega)
  rw [toNat_rounded, Nat.div_div_eq_div_mul, hscale]
  omega

/-- Whether a minus sign is written. -/
def isNegative (milliValue : Int32) (d : Decimals) : Bool :=
  decide (milliValue < 0) && decide (rounded milliValue d ≠ 0)

private theorem sign_eq (milliValue : Int32) (d : Decimals) :
    sign milliValue d = if isNegative milliValue d then ['-'] else [] := by
  rw [sign, isNegative]
  by_cases hzero : rounded milliValue d = 0
  · simp [hzero]
  · by_cases hneg : milliValue < 0
    · simp [hzero, hneg]
    · simp [hzero, hneg]

/-- The numeral that is written. -/
def numeral (milliValue : Int32) (d : Decimals) : Numeral :=
  .ofScaled (isNegative milliValue d) (rounded milliValue d).toNat d.val.toNat

/-- The text is the numeral's. -/
theorem fmtMilliText_eq (milliValue : Int32) (d : Decimals) :
    fmtMilliText milliValue d = (numeral milliValue d).toChars := by
  rw [fmtMilliText, sign_eq, numeral]
  split
  · next hzero => rw [hzero, UInt32.toNat_zero, toChars_ofScaled_zero, fmtLu]
  · next hsome =>
    have hne : d.val.toNat ≠ 0 := fun h ↦ hsome (UInt32.toNat_inj.mp h)
    rw [toChars_ofScaled _ _ hne]
    simp only [fmtLu, fmtZeroLu, UInt32.toNat_div, UInt32.toNat_mod, toNat_pow10]

private theorem value_numeral (milliValue : Int32) (d : Decimals) :
    (numeral milliValue d).value =
      if milliValue < 0 then -((rounded milliValue d).toNat / 10 ^ d.val.toNat : ℚ)
      else (rounded milliValue d).toNat / 10 ^ d.val.toNat := by
  rw [numeral, value_ofScaled, isNegative]
  by_cases hzero : rounded milliValue d = 0
  · simp [hzero]
  · simp [hzero]

private theorem value_neg_iff (milliValue : Int32) (d : Decimals) :
    (numeral milliValue d).value < 0 ↔ isNegative milliValue d = true := by
  have hpow : (0 : ℚ) < 10 ^ d.val.toNat := by positivity
  rw [numeral, value_ofScaled]
  cases hnegative : isNegative milliValue d with
  | true =>
    simp only [isNegative, Bool.and_eq_true, decide_eq_true_eq] at hnegative
    have hne : (rounded milliValue d).toNat ≠ 0 := fun h ↦ hnegative.2 (UInt32.toNat_inj.mp h)
    have hpos : (0 : ℚ) < (rounded milliValue d).toNat := by
      exact_mod_cast Nat.pos_of_ne_zero hne
    exact iff_of_true (neg_neg_of_pos (div_pos hpos hpow)) rfl
  | false =>
    refine iff_of_false ?_ Bool.false_ne_true
    rw [if_neg Bool.false_ne_true, not_lt]
    positivity

/-- The numeral is the value in units, rounded. -/
theorem rounds_numeral (milliValue : Int32) (d : Decimals) :
    RoundsHalfAway d.val.toNat (milliValue.toInt / 1000) (numeral milliValue d).value := by
  have hle : d.val.toNat ≤ 3 := d.property
  have hscale : (10 ^ d.val.toNat * (10 ^ (3 - d.val.toNat) : ℕ) : ℚ) = 1000 := by
    rw [Nat.cast_pow, Nat.cast_ofNat, ← pow_add, Nat.add_sub_cancel' hle]
    norm_num
  have habs := RoundsHalfAway.of_half_up d.val.toNat
    (Nat.pow_pos (by decide)) (toNat_rounded milliValue d)
  rw [hscale] at habs
  rw [value_numeral]
  split
  · next h =>
    have hneg : milliValue.toInt < 0 := Int32.lt_iff_toInt_lt.mp h
    have hcast : (milliValue.toInt : ℚ) = -(milliValue.toInt.natAbs : ℚ) := by
      rw [Nat.cast_natAbs, abs_of_neg hneg, Int.cast_neg, neg_neg]
    rw [hcast, neg_div]
    exact habs.neg
  · next h =>
    have hnonneg : 0 ≤ milliValue.toInt := Int32.le_iff_toInt_le.mp (Int32.not_lt.mp h)
    have hcast : (milliValue.toInt : ℚ) = (milliValue.toInt.natAbs : ℚ) := by
      rw [Nat.cast_natAbs, abs_of_nonneg hnonneg]
    rw [hcast]
    exact habs

/-- The longest text has a sign, seven digits, a point and three more digits. -/
theorem length_fmtMilliText_le (milliValue : Int32) (d : Decimals) :
    (fmtMilliText milliValue d).length ≤ 12 := by
  have hle : d.val.toNat ≤ 3 := d.property
  have hwhole : (numeral milliValue d).whole.length ≤ 7 :=
    (Nat.length_toDigits_le_iff (by decide) (by decide)).mpr (rounded_div_lt milliValue d)
  have hfraction : (numeral milliValue d).fraction.length = d.val.toNat := length_fraction ..
  rw [fmtMilliText_eq, length_toChars, hfraction]
  split <;> split <;> omega

private theorem nul_not_mem_fmtMilliText (milliValue : Int32) (d : Decimals) :
    '\x00' ∉ fmtMilliText milliValue d := by
  intro h
  rw [fmtMilliText_eq] at h
  have hchars := mem_toChars h
  simp at hchars

private theorem cString_snprintf {text : List Char} (buf : List Char) (bufLen : ℕ)
    (hnul : '\x00' ∉ text) : cString (snprintf buf bufLen text) = text.take (bufLen - 1) := by
  have hchars : ∀ c ∈ text.take (bufLen - 1), decide (c ≠ '\x00') = true := fun c hc ↦
    decide_eq_true (fun h ↦ hnul (h ▸ List.mem_of_mem_take hc))
  rw [cString, snprintf, List.append_assoc, List.takeWhile_append_of_pos hchars,
    List.singleton_append, List.takeWhile_cons_of_neg (by decide), List.append_nil]

/-- What a call leaves in a buffer of some length, and the string it returns. -/
theorem consoleFmtMilli_eq (chars : List Char) {bufLen : ℕ} (hlen : bufLen ≠ 0)
    (milliValue : Int32) (decimals : UInt32) :
    let shown := (fmtMilliText milliValue (limitDecimals decimals)).take (bufLen - 1)
    consoleFmtMilli (some chars) bufLen milliValue decimals =
      (some (shown ++ '\x00' :: chars.drop (shown.length + 1)), shown) := by
  have hnul := nul_not_mem_fmtMilliText milliValue (limitDecimals decimals)
  intro shown
  simp only [consoleFmtMilli, if_neg hlen, cString_snprintf chars bufLen hnul]
  simp only [snprintf, List.append_assoc, List.singleton_append, List.length_append,
    List.length_singleton, shown]

/-- What a text must be to show a value in `d` decimals: a numeral with `d` digits after the point
that denotes the value rounded, and a minus sign only before a negative number. -/
structure Shows (milliValue : Int32) (d : ℕ) (text : List Char) : Prop where
  numeral : ∃ n : Numeral, text = n.toChars ∧ n.fraction.length = d
  rounds : ∃ value, parse text = some value ∧ RoundsHalfAway d (milliValue.toInt / 1000) value ∧
    ('-' ∈ text ↔ value < 0)

/-- The text shows the value. -/
theorem shows_fmtMilliText (milliValue : Int32) (d : Decimals) :
    Shows milliValue d.val.toNat (fmtMilliText milliValue d) where
  numeral := ⟨numeral milliValue d, fmtMilliText_eq milliValue d, length_fraction ..⟩
  rounds := by
    refine ⟨(numeral milliValue d).value, ?_, rounds_numeral milliValue d, ?_⟩
    · rw [fmtMilliText_eq, parse_toChars]
    · rw [fmtMilliText_eq, dash_mem_toChars, value_neg_iff]
      rfl

/-- With three decimals nothing is rounded off. -/
theorem parse_of_shows {milliValue : Int32} {text : List Char} (h : Shows milliValue 3 text) :
    parse text = some (milliValue.toInt / 1000 : ℚ) := by
  obtain ⟨value, hparse, hrounds, -⟩ := h.rounds
  have hself : RoundsHalfAway 3 (milliValue.toInt / 1000) (milliValue.toInt / 1000) := by
    have h := RoundsHalfAway.self milliValue.toInt 3
    norm_num at h
    exact h
  rw [hparse, hrounds.unique hself]

/-- Thirteen characters are enough for every value. -/
theorem consoleFmtMilli_full (chars : List Char) {bufLen : ℕ} (hlen : 13 ≤ bufLen)
    (milliValue : Int32) (decimals : UInt32) :
    let text := fmtMilliText milliValue (limitDecimals decimals)
    consoleFmtMilli (some chars) bufLen milliValue decimals =
      (some (text ++ '\x00' :: chars.drop (text.length + 1)), text) := by
  have hfit := length_fmtMilliText_le milliValue (limitDecimals decimals)
  have hcall := consoleFmtMilli_eq chars (Nat.ne_of_gt (by omega : 0 < bufLen)) milliValue
    decimals
  rwa [List.take_of_length_le (by omega)] at hcall

/-- The formatter shows every value in every number of decimals, in full if the buffer has 13
characters and cut off by its length otherwise; with three decimals no two values look the same. -/
theorem consoleFmtMilli_shows (decimals : UInt32) :
    (∀ milliValue, ∃ text, Shows milliValue (min decimals.toNat 3) text ∧
      (∀ chars bufLen, 13 ≤ bufLen →
        consoleFmtMilli (some chars) bufLen milliValue decimals =
          (some (text ++ '\x00' :: chars.drop (text.length + 1)), text)) ∧
      (∀ chars bufLen, 0 < bufLen → bufLen < 13 →
        let shown := text.take (bufLen - 1)
        consoleFmtMilli (some chars) bufLen milliValue decimals =
          (some (shown ++ '\x00' :: chars.drop (shown.length + 1)), shown)) ∧
      (3 ≤ decimals → parse text = some (milliValue.toInt / 1000 : ℚ)) ∧
      NoOverflow milliValue (limitDecimals decimals)) ∧
    (3 ≤ decimals → ∀ chars bufLen, 13 ≤ bufLen →
      Function.Injective fun milliValue ↦
        (consoleFmtMilli (some chars) bufLen milliValue decimals).2) := by
  have hshows : ∀ milliValue, Shows milliValue (min decimals.toNat 3)
      (fmtMilliText milliValue (limitDecimals decimals)) := by
    intro milliValue
    rw [← toNat_limitDecimals]
    exact shows_fmtMilliText milliValue (limitDecimals decimals)
  have hexact : ∀ milliValue, 3 ≤ decimals →
      parse (fmtMilliText milliValue (limitDecimals decimals)) =
        some (milliValue.toInt / 1000 : ℚ) := by
    intro milliValue hthree
    have hmin : min decimals.toNat 3 = 3 := Nat.min_eq_right hthree
    exact parse_of_shows (hmin ▸ hshows milliValue)
  constructor
  · intro milliValue
    refine ⟨_, hshows milliValue, ?_, ?_, hexact milliValue, noOverflow milliValue _⟩
    · intro chars bufLen hlen
      exact consoleFmtMilli_full chars hlen milliValue decimals
    · intro chars bufLen hpos _
      exact consoleFmtMilli_eq chars (Nat.ne_of_gt hpos) milliValue decimals
  · intro hthree chars bufLen hlen first second hsame
    simp only [consoleFmtMilli_full chars hlen] at hsame
    have hvalue := hexact first hthree
    rw [hsame, hexact second hthree, Option.some.injEq, div_left_inj' (by norm_num)] at hvalue
    apply Int32.toInt_inj.mp
    exact_mod_cast hvalue.symm

/-- The example of `console.h:29`. -/
example : (consoleFmtMilli (some []) 16 45213 2).2 = ['4', '5', '.', '2', '1'] := by decide

end SensorAggregator.Console
