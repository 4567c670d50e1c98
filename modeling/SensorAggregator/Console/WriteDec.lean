import SensorAggregator.Console.FmtMilli

/-!
# The raw console writes

Models `console_write` and `console_write_dec` of `system/console.c`, which the fault and watchdog
paths print with. What is put on the UART is a list of characters.
-/

namespace SensorAggregator.Console

open Base.Decimal

/-- The loop of `console_write`, `console.c:24–33`, over the characters from its address on. -/
def putText : List Char → List Char
  | [] => []
  | c :: text =>
    if c = '\x00' then [] else (if c = '\n' then ['\r', c] else [c]) ++ putText text

/-- `console_write`, `console.c:17–34`. `none` is `NULL`. -/
def consoleWrite : Option (List Char) → List Char
  | none => []
  | some text => putText text

/-- `digits[11]`, `console.c:38`. -/
abbrev DecBuffer := Vector Char 11

/-- `(char)('0' + (value % 10U))`, `console.c:45`. -/
def decDigit (value : UInt32) : Char := Char.ofNat ('0'.toNat + (value % 10).toNat)

/-- The loop of `console_write_dec`, `console.c:42–47`, from a value of `cursor` on. `none` is a
cursor moved in front of the buffer. -/
def writeDecLoop : (cursor : ℕ) → cursor < 11 → DecBuffer → UInt32 → Option (DecBuffer × Fin 11)
  | 0, _, _, _ => none
  | cursor + 1, h, digits, value =>
    have hcursor : cursor < 11 := Nat.lt_of_succ_lt h
    let digits := digits.set cursor (decDigit value) hcursor
    let value := value / 10
    if value ≠ 0 then writeDecLoop cursor hcursor digits value
    else some (digits, ⟨cursor, hcursor⟩)

/-- The buffer and the cursor after the loop, `console.c:38–47`, where the stack held `stack`. -/
def decDigits (stack : DecBuffer) (value : UInt32) : Option (DecBuffer × Fin 11) :=
  writeDecLoop 10 (by decide) (stack.set 10 '\x00') value

/-- `console_write_dec`, `console.c:36–50`. -/
def consoleWriteDec (stack : DecBuffer) (value : UInt32) : Option (List Char) :=
  (decDigits stack value).map fun (digits, cursor) ↦
    consoleWrite (some (digits.toList.drop cursor))

private theorem decDigit_eq (value : UInt32) :
    decDigit value = Nat.digitChar (value.toNat % 10) := by
  have hdigits : ∀ d : Fin 10, Char.ofNat ('0'.toNat + d.val) = Nat.digitChar d.val := by decide
  exact hdigits ⟨value.toNat % 10, Nat.mod_lt _ (by decide)⟩

/-- A text without line ends and terminators is put as it is, up to its terminator. -/
theorem putText_append_nul {text : List Char} (rest : List Char)
    (htext : ∀ c ∈ text, c ≠ '\x00' ∧ c ≠ '\n') : putText (text ++ '\x00' :: rest) = text := by
  induction text with
  | nil => rfl
  | cons c text ih =>
    obtain ⟨hnul, hline⟩ := htext c List.mem_cons_self
    rw [List.cons_append, putText, if_neg hnul, if_neg hline,
      ih fun c' hc' ↦ htext c' (List.mem_cons_of_mem c hc')]
    rfl

private theorem drop_toList_set (digits : DecBuffer) {cursor : ℕ} (h : cursor < 11) (c : Char) :
    (digits.set cursor c h).toList.drop cursor = c :: digits.toList.drop (cursor + 1) := by
  have hlen : cursor < (digits.toList.set cursor c).length := by simpa using h
  rw [Vector.toList_set, List.drop_eq_getElem_cons hlen, List.getElem_set_self,
    List.drop_set_of_lt (Nat.lt_succ_self cursor)]

private theorem div_ten_eq_zero_iff (value : UInt32) : value / 10 = 0 ↔ value.toNat < 10 := by
  rw [← UInt32.toNat_inj, UInt32.toNat_div]
  show value.toNat / 10 = 0 ↔ value.toNat < 10
  omega

/-- From a cursor with room for the digits of a value the loop ends within the buffer, with the
digits in front of what was there. -/
theorem writeDecLoop_eq (cursor : ℕ) (h : cursor < 11) (digits : DecBuffer) (value : UInt32)
    (hroom : (Nat.toDigits 10 value.toNat).length ≤ cursor) :
    ∃ digits' cursor', writeDecLoop cursor h digits value = some (digits', cursor') ∧
      digits'.toList.drop cursor' = Nat.toDigits 10 value.toNat ++ digits.toList.drop cursor := by
  induction cursor generalizing digits value with
  | zero => exact absurd hroom (Nat.not_le_of_gt Nat.length_toDigits_pos)
  | succ cursor ih =>
    have hcursor : cursor < 11 := Nat.lt_of_succ_lt h
    have hdiv : (value / 10).toNat = value.toNat / 10 := UInt32.toNat_div value 10
    have hsplit := Nat.toDigits_eq_if (b := 10) (n := value.toNat) (by decide)
    have hset := drop_toList_set digits hcursor (decDigit value)
    rw [writeDecLoop]
    by_cases hlast : value.toNat < 10
    · have hstop := (div_ten_eq_zero_iff value).mpr hlast
      refine ⟨_, _, if_neg (not_not_intro hstop), ?_⟩
      rw [hset, decDigit_eq, Nat.mod_eq_of_lt hlast, hsplit, if_pos hlast]
      rfl
    · -- The other digits take one place less, and end up in front of the one just written.
      have hmore := mt (div_ten_eq_zero_iff value).mp hlast
      rw [if_neg hlast, ← hdiv] at hsplit
      rw [hsplit, List.length_append, List.length_singleton] at hroom
      obtain ⟨digits', cursor', hloop, hdrop⟩ := ih hcursor
        (digits.set cursor (decDigit value) hcursor) (value / 10) (Nat.le_of_succ_le_succ hroom)
      refine ⟨digits', cursor', (if_pos hmore).trans hloop, ?_⟩
      rw [hdrop, hset, decDigit_eq, hsplit, List.append_assoc]
      rfl

/-- A 32-bit value has ten digits at most. -/
theorem length_toDigits_le_ten (value : UInt32) : (Nat.toDigits 10 value.toNat).length ≤ 10 := by
  have hlt := value.toNat_lt
  exact (Nat.length_toDigits_le_iff (by decide) (by decide)).mpr (by omega)

/-- The loop ends with the digits and the terminator from the cursor on. -/
theorem decDigits_eq (stack : DecBuffer) (value : UInt32) :
    ∃ digits cursor, decDigits stack value = some (digits, cursor) ∧
      digits.toList.drop cursor = Nat.toDigits 10 value.toNat ++ ['\x00'] := by
  obtain ⟨digits, cursor, hloop, hdrop⟩ := writeDecLoop_eq 10 (by decide)
    (stack.set 10 '\x00') value (length_toDigits_le_ten value)
  have hend : stack.toList.drop 11 = [] :=
    List.drop_eq_nil_of_le (by rw [Vector.length_toList])
  rw [drop_toList_set, hend] at hdrop
  exact ⟨digits, cursor, hloop, hdrop⟩

/-- What is put on the UART are the decimal digits of the value. -/
theorem consoleWriteDec_eq (stack : DecBuffer) (value : UInt32) :
    consoleWriteDec stack value = some (Nat.toDigits 10 value.toNat) := by
  obtain ⟨digits, cursor, hloop, hdrop⟩ := decDigits_eq stack value
  rw [consoleWriteDec, hloop]
  simp only [Option.map_some, consoleWrite, hdrop, Option.some.injEq]
  apply putText_append_nul
  intro c hc
  have hdigit : c.isDigit = true := Nat.isDigit_of_mem_toDigits (by decide) (by decide) hc
  constructor
  · rintro rfl
    exact absurd hdigit (by decide)
  · rintro rfl
    exact absurd hdigit (by decide)

end SensorAggregator.Console
