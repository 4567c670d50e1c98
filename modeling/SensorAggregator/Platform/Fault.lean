import SensorAggregator.Console.WriteDec
import SensorAggregator.Drivers.WdtDrv

/-!
# The fault path

Models what `fault_halt` of `system/fault.c` prints. It returns to nobody: after the text it blinks
the LED until a reset.
-/

namespace SensorAggregator.Platform

open Base.Decimal Console Drivers

/-- What `fault_park` prints, `fault.c:34–41`. -/
def faultPark (wdt : WdtDrv) : List Char :=
  if wdt.isRunning then
    consoleWrite (some "\nwaiting for the watchdog to reset the board\n".toList)
  else consoleWrite (some "\nsystem halted\n".toList)

/-- What `fault_halt` prints before the code, `fault.c:58–60`. -/
def faultHead (what : Option (List Char)) : List Char :=
  consoleWrite (some "\n\nFATAL: ".toList) ++ consoleWrite what ++
    consoleWrite (some " failed, code ".toList)

/-- The sign, `fault.c:61–64`. -/
def faultSign (code : Int32) : List Char :=
  if code < 0 then consoleWrite (some "-".toList) else []

/-- The argument of `console_write_dec`, `fault.c:66`. -/
def faultMagnitude (code : Int32) : UInt32 :=
  if code < 0 then (-(code + 1)).toUInt32 + 1 else code.toUInt32

/-- What `fault_halt` prints, `fault.c:54–69`. -/
def faultHalt (wdt : WdtDrv) (stack : DecBuffer) (what : Option (List Char)) (code : Int32) :
    Option (List Char) :=
  (consoleWriteDec stack (faultMagnitude code)).map fun digits ↦
    faultHead what ++ (faultSign code ++ digits) ++ faultPark wdt

/-- The numeral that a code is printed as. -/
def codeNumeral (code : Int32) : Numeral :=
  .ofScaled (decide (code < 0)) (faultMagnitude code).toNat 0

private theorem toNat_faultMagnitude (code : Int32) :
    (faultMagnitude code).toNat = code.toInt.natAbs :=
  toNat_magnitude code

/-- The sign and the digits are the numeral's. -/
theorem toChars_codeNumeral (code : Int32) :
    (codeNumeral code).toChars =
      faultSign code ++ Nat.toDigits 10 (faultMagnitude code).toNat := by
  have hdash : consoleWrite (some "-".toList) = ['-'] := by decide
  rw [codeNumeral, toChars_ofScaled_zero, faultSign, hdash]
  simp only [decide_eq_true_eq]

/-- The numeral is the code. -/
theorem value_codeNumeral (code : Int32) : (codeNumeral code).value = code.toInt := by
  rw [codeNumeral, value_ofScaled, toNat_faultMagnitude, pow_zero, div_one, Nat.cast_natAbs]
  simp only [decide_eq_true_eq]
  split
  · next h =>
    have hneg : code.toInt < 0 := Int32.lt_iff_toInt_lt.mp h
    rw [abs_of_neg hneg, Int.cast_neg, neg_neg]
  · next h =>
    have hnonneg : 0 ≤ code.toInt := Int32.le_iff_toInt_le.mp (Int32.not_lt.mp h)
    rw [abs_of_nonneg hnonneg]

/-- `console_write_dec` stays in its buffer for every value and prints its decimal numeral, and the
code that `fault_halt` prints is the one it was given, that of the smallest value included. -/
theorem faultHalt_parse :
    (∀ (stack : DecBuffer) (value : UInt32),
      (∃ digits cursor, decDigits stack value = some (digits, cursor)) ∧
      ∃ n : Numeral, n.negative = false ∧ n.whole = Nat.toDigits 10 value.toNat ∧
        n.fraction = [] ∧ consoleWriteDec stack value = some n.toChars ∧
        parse n.toChars = some (value.toNat : ℚ)) ∧
    ∀ (wdt : WdtDrv) (stack : DecBuffer) (what : Option (List Char)) (code : Int32),
      (code < 0 → (code + 1).toInt = code.toInt + 1 ∧
        (-(code + 1)).toInt = -(code + 1).toInt) ∧
      ∃ n : Numeral, (n.negative = true ↔ code < 0) ∧ n.fraction = [] ∧
        faultHalt wdt stack what code = some (faultHead what ++ n.toChars ++ faultPark wdt) ∧
        parse n.toChars = some (code.toInt : ℚ) := by
  constructor
  · intro stack value
    obtain ⟨digits, cursor, hloop, -⟩ := decDigits_eq stack value
    have hchars := toChars_ofScaled_zero false value.toNat
    refine ⟨⟨digits, cursor, hloop⟩, .ofScaled false value.toNat 0, rfl, ?_, rfl, ?_, ?_⟩
    · show Nat.toDigits 10 (value.toNat / 10 ^ 0) = _
      rw [Nat.pow_zero, Nat.div_one]
    · rw [consoleWriteDec_eq, hchars]
      rfl
    · rw [parse_toChars, value_ofScaled, pow_zero, div_one]
      rfl
  · intro wdt stack what code
    refine ⟨toInt_neg_succ, codeNumeral code, decide_eq_true_iff, rfl, ?_, ?_⟩
    · rw [faultHalt, consoleWriteDec_eq, Option.map_some, toChars_codeNumeral]
    · rw [parse_toChars, value_codeNumeral]

/-- The smallest code, with the watchdog off. -/
example : faultHalt .boot (Vector.replicate 11 '?') (some "log".toList) (-2147483648) =
    some "\r\n\r\nFATAL: log failed, code -2147483648\r\nsystem halted\r\n".toList := by
  decide

end SensorAggregator.Platform
