import SensorAggregator.Base.Columns
import SensorAggregator.Console.WriteDec

/-!
# The formatted console line

Models `console_printf` of `system/console.c` from the text that its format gives. The terminal
shows a CR LF as the line end it stands for.
-/

namespace SensorAggregator.Console

open Base.Columns Base.Decimal

/-- `CONSOLE_FMT_BUF_LEN`, `console.c:12`. -/
def consoleFmtBufLen : ℕ := 256

/-- `console_printf`, `console.c:52–73`: `s_fmt_buf` afterwards, and what is put on the UART. `none`
is a format that `vsnprintf` fails on. -/
def consolePrintf (fmtBuf : List Char) (text : Option (List Char)) : List Char × List Char :=
  match text with
  | none => (fmtBuf, [])
  | some text =>
    let fmtBuf := snprintf fmtBuf consoleFmtBufLen text
    (fmtBuf, consoleWrite (some fmtBuf) ++
      if consoleFmtBufLen ≤ text.length then consoleWrite (some "~\n".toList) else [])

/-- The text on a terminal, where a CR in front of a line end does not show. -/
def terminal : List Char → List Char
  | [] => []
  | c :: text => if c = '\r' ∧ text.head? = some '\n' then terminal text else c :: terminal text

/-- A text without terminators and carriage returns. -/
def Plain (text : List Char) : Prop := ∀ c ∈ text, c ≠ '\x00' ∧ c ≠ '\r'

/-- No character at all is plain. -/
theorem plain_nil : Plain [] := fun _ hc ↦ absurd hc List.not_mem_nil

/-- A text is checked for plainness character by character. -/
theorem plain_of_all {text : List Char}
    (h : (text.all fun c ↦ c ≠ '\x00' ∧ c ≠ '\r') = true) : Plain text :=
  fun c hc ↦ of_decide_eq_true (List.all_eq_true.mp h c hc)

/-- Plain texts one after the other are plain. -/
theorem Plain.append {text rest : List Char} (htext : Plain text) (hrest : Plain rest) :
    Plain (text ++ rest) := by
  intro c hc
  cases List.mem_append.mp hc with
  | inl hc => exact htext c hc
  | inr hc => exact hrest c hc

/-- The parts of a plain text are plain. -/
theorem Plain.of_append {text rest : List Char} (h : Plain (text ++ rest)) :
    Plain text ∧ Plain rest :=
  ⟨fun c hc ↦ h c (List.mem_append_left rest hc), fun c hc ↦ h c (List.mem_append_right text hc)⟩

/-- A plain text within one line. -/
structure IsLine (text : List Char) : Prop where
  plain : Plain text
  no_end : '\n' ∉ text

/-- It is checked character by character, too. -/
theorem isLine_of_all {text : List Char}
    (h : (text.all fun c ↦ (c ≠ '\x00' ∧ c ≠ '\r') ∧ c ≠ '\n') = true) : IsLine text where
  plain c hc := (of_decide_eq_true (List.all_eq_true.mp h c hc)).1
  no_end hc := (of_decide_eq_true (List.all_eq_true.mp h '\n' hc)).2 rfl

/-- Texts within a line make one. -/
theorem IsLine.append {text rest : List Char} (htext : IsLine text) (hrest : IsLine rest) :
    IsLine (text ++ rest) where
  plain := htext.plain.append hrest.plain
  no_end hc := (List.mem_append.mp hc).elim htext.no_end hrest.no_end

/-- A numeral in its column is within a line. -/
theorem isLine_of_holds {field : List Char} {n : Numeral} {before after : ℕ}
    (h : Holds field n before after) : IsLine field where
  plain c hc := by
    constructor
    · rintro rfl
      exact h.not_mem (by decide) hc
    · rintro rfl
      exact h.not_mem (by decide) hc
  no_end := h.not_mem (by decide)

/-- A plain text is put in front of what follows it. -/
theorem putText_append {text : List Char} (htext : Plain text) (rest : List Char) :
    putText (text ++ rest) = putText text ++ putText rest := by
  induction text with
  | nil => rfl
  | cons c text ih =>
    have hnul : c ≠ '\x00' := (htext c List.mem_cons_self).1
    rw [List.cons_append, putText, putText, if_neg hnul, if_neg hnul,
      ih fun c' hc' ↦ htext c' (List.mem_cons_of_mem c hc'), List.append_assoc]

private theorem terminal_putText {text : List Char} (htext : Plain text) (rest : List Char) :
    terminal (putText text ++ rest) = text ++ terminal rest := by
  induction text with
  | nil => rfl
  | cons c text ih =>
    obtain ⟨hnul, hcr⟩ := htext c List.mem_cons_self
    have hshow := ih fun c' hc' ↦ htext c' (List.mem_cons_of_mem c hc')
    rw [putText, if_neg hnul]
    split
    · next hline =>
      subst hline
      simp only [List.cons_append, List.nil_append, terminal, List.head?_cons]
      simp [hshow]
    · simp only [List.cons_append, List.nil_append, terminal, hcr, false_and, if_false, hshow]

/-- What a call puts is the text as far as it fits, and a mark if it does not. -/
theorem consolePrintf_put (fmtBuf : List Char) {text : List Char} (htext : Plain text) :
    (consolePrintf fmtBuf (some text)).2 = putText (text.take 255) ++
      if 256 ≤ text.length then putText "~\n".toList else [] := by
  have htake : Plain (text.take 255) := fun c hc ↦ htext c (List.mem_of_mem_take hc)
  show putText (text.take 255 ++ ['\x00'] ++ _) ++ _ = _
  rw [List.append_assoc, putText_append htake]
  show putText (text.take 255) ++ [] ++ _ = _
  rw [List.append_nil]
  rfl

/-- A plain text that is written shows as it is. -/
theorem terminal_consoleWrite {text : List Char} (htext : Plain text) (rest : List Char) :
    terminal (consoleWrite (some text) ++ rest) = text ++ terminal rest :=
  terminal_putText htext rest

/-- So does one that is formatted, if it is short enough. -/
theorem terminal_consolePrintf (fmtBuf : List Char) {text : List Char} (htext : Plain text)
    (hlen : text.length < 256) (rest : List Char) :
    terminal ((consolePrintf fmtBuf (some text)).2 ++ rest) = text ++ terminal rest := by
  rw [consolePrintf_put fmtBuf htext, if_neg (Nat.not_le_of_lt hlen), List.append_nil,
    List.take_of_length_le (Nat.le_of_lt_succ hlen), terminal_putText htext]

/-- A formatted line of fewer than 256 characters shows on the terminal as it is, whatever the
buffer held; of a longer one the first 255 do, with a mark behind them; and the length tells which
of the two it was. -/
theorem consolePrintf_faithful (fmtBuf : List Char) {text : List Char} (htext : Plain text) :
    let shown := terminal (consolePrintf fmtBuf (some text)).2
    (text.length < 256 → shown = text) ∧
      (256 ≤ text.length → shown = text.take 255 ++ "~\n".toList) ∧
      (text.length < 256 ↔ shown.length < 256) := by
  have htake : Plain (text.take 255) := fun c hc ↦ htext c (List.mem_of_mem_take hc)
  have hshort : text.length < 256 → terminal (consolePrintf fmtBuf (some text)).2 = text := by
    intro hlen
    have hshown := terminal_consolePrintf fmtBuf htext hlen []
    rw [List.append_nil] at hshown
    exact hshown.trans (List.append_nil text)
  have hlong : 256 ≤ text.length →
      terminal (consolePrintf fmtBuf (some text)).2 = text.take 255 ++ "~\n".toList := by
    intro hlen
    rw [consolePrintf_put fmtBuf htext, if_pos hlen, terminal_putText htake]
    rfl
  refine ⟨hshort, hlong, ?_⟩
  rcases Nat.lt_or_ge text.length 256 with hlen | hlen
  · rw [hshort hlen]
  · rw [hlong hlen, List.length_append, List.length_take]
    have hmark : "~\n".toList.length = 2 := rfl
    omega

/-- A line that just fits. -/
theorem consolePrintf_faithful_full :
    terminal (consolePrintf [] (some (List.replicate 254 '-' ++ ['\n']))).2 =
      List.replicate 254 '-' ++ ['\n'] :=
  (consolePrintf_faithful [] (by
    intro c hc
    rcases List.mem_append.mp hc with h | h
    · rw [List.eq_of_mem_replicate h]
      decide
    · rw [List.mem_singleton.mp h]
      decide)).1 (by rw [List.length_append, List.length_replicate]; decide)

end SensorAggregator.Console
