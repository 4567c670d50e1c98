import SensorAggregator.Base.Template
import SensorAggregator.Console.Printf
import SensorAggregator.Platform.Fault

/-!
# What a fault leaves on the terminal

The lines that `fault_halt` of `system/fault.c` prints are the last ones on the terminal. They are
read back from there: what failed, with which code, and whether the watchdog is running.
-/

namespace SensorAggregator.Platform

open Base Base.Columns Base.Decimal
open Console Drivers

/-- What failed and the code, in the line that `fault_halt` prints. The code has no blanks. -/
def readFaultLine (line : List Char) : Option (List Char × ℚ) :=
  (Template.strip "FATAL: ".toList line).bind fun rest ↦
    let code := (rest.reverse.takeWhile (· ≠ ' ')).reverse
    let words := rest.reverse.dropWhile (· ≠ ' ')
    (Template.strip " failed, code ".toList.reverse words).bind fun what ↦
      (parse code).map (what.reverse, ·)

/-- Whether the watchdog is running, in the line that `fault_park` prints. -/
def readParkLine (line : List Char) : Option Bool :=
  if line = "waiting for the watchdog to reset the board".toList then some true
  else if line = "system halted".toList then some false
  else none

/-- What failed, the code, and whether the watchdog is running, in the last lines of a terminal. -/
def readFault (shown : List Char) : Option (List Char × ℚ × Bool) :=
  match (shown.splitOn '\n').reverse with
  | [] :: park :: line :: _ =>
    (readFaultLine line).bind fun (what, code) ↦
      (readParkLine park).map fun running ↦ (what, code, running)
  | _ => none

/-- The line of `fault_halt`. -/
def faultLine (what : List Char) (code : Int32) : List Char :=
  "FATAL: ".toList ++ (what ++ (" failed, code ".toList ++ (codeNumeral code).toChars))

/-- The line of `fault_park`. -/
def parkLine (wdt : WdtDrv) : List Char :=
  if wdt.isRunning then "waiting for the watchdog to reset the board".toList
  else "system halted".toList

variable {what : List Char} {code : Int32} {wdt : WdtDrv}

private theorem readParkLine_parkLine (wdt : WdtDrv) :
    readParkLine (parkLine wdt) = some wdt.isRunning := by
  unfold parkLine
  cases wdt.isRunning with
  | false => decide
  | true => decide

private theorem readFaultLine_faultLine (what : List Char) (code : Int32) :
    readFaultLine (faultLine what code) = some (what, (code.toInt : ℚ)) := by
  have hblank := (Holds.toChars (codeNumeral code)).blank_not_mem
  have hcode : ∀ c ∈ (codeNumeral code).toChars.reverse, (decide (c ≠ ' ')) = true := by
    intro c hc
    apply decide_eq_true
    rintro rfl
    exact hblank (List.mem_reverse.mp hc)
  have hwords : (what ++ (" failed, code ".toList ++ (codeNumeral code).toChars)).reverse =
      (codeNumeral code).toChars.reverse ++
        (" failed, code ".toList.reverse ++ what.reverse) := by
    simp only [List.reverse_append, List.append_assoc]
  have hsep : " failed, code ".toList.reverse = ' ' :: "edoc ,deliaf ".toList := by decide
  unfold readFaultLine faultLine
  rw [Template.strip_append, Option.bind_some]
  simp only [hwords]
  rw [List.takeWhile_append_of_pos hcode, List.dropWhile_append_of_pos hcode, hsep,
    List.cons_append, List.takeWhile_cons_of_neg (by decide),
    List.dropWhile_cons_of_neg (by decide), ← List.cons_append, List.append_nil,
    Template.strip_append, Option.bind_some, List.reverse_reverse, List.reverse_reverse,
    parse_toChars, value_codeNumeral]
  rfl

private theorem putText_line {text : List Char} (h : IsLine text) : putText text = text := by
  have hput := @putText_append_nul text [] fun c hc ↦
    ⟨(h.plain c hc).1, fun hend ↦ h.no_end (hend ▸ hc)⟩
  have happend := putText_append h.plain ['\x00']
  rw [hput] at happend
  exact (happend.trans (List.append_nil _)).symm

private theorem terminal_append (before : List Char) {rest : List Char}
    (h : rest.head? ≠ some '\n') :
    terminal (before ++ rest) = terminal before ++ terminal rest := by
  induction before with
  | nil => rfl
  | cons c before ih =>
    have hhead : (before ++ rest).head? = some '\n' ↔ before.head? = some '\n' := by
      cases before with
      | nil => simp [h]
      | cons c' before => rfl
    simp only [List.cons_append, terminal, hhead, ih]
    split <;> rfl

/-- What `fault_halt` prints shows as two lines behind two line ends. -/
theorem terminal_faultHalt (stack : DecBuffer) (hwhat : IsLine what) :
    ∃ text, faultHalt wdt stack (some what) code = some text ∧ text.head? = some '\r' ∧
      terminal text =
        "\n\n".toList ++ (faultLine what code ++ '\n' :: (parkLine wdt ++ ['\n'])) := by
  have hstartPlain : Plain "\n\nFATAL: ".toList := plain_of_all rfl
  have hmidPlain : Plain " failed, code ".toList := plain_of_all rfl
  have hnumber := isLine_of_holds (Holds.toChars (codeNumeral code))
  have hcode : consoleWrite (some (codeNumeral code).toChars) = (codeNumeral code).toChars :=
    putText_line hnumber
  have hpark : faultPark wdt = consoleWrite (some ('\n' :: (parkLine wdt ++ ['\n']))) := by
    unfold faultPark parkLine
    split <;> rfl
  have hstart : "\n\nFATAL: ".toList = "\n\n".toList ++ "FATAL: ".toList := by decide
  have hparkPlain : Plain ('\n' :: (parkLine wdt ++ ['\n'])) := by
    unfold parkLine
    split <;> exact plain_of_all rfl
  refine ⟨consoleWrite (some "\n\nFATAL: ".toList) ++ (consoleWrite (some what) ++
    (consoleWrite (some " failed, code ".toList) ++
      (consoleWrite (some (codeNumeral code).toChars) ++
        (consoleWrite (some ('\n' :: (parkLine wdt ++ ['\n']))) ++ [])))), ?_, ?_, ?_⟩
  · rw [faultHalt, consoleWriteDec_eq, Option.map_some, ← toChars_codeNumeral, hpark, hcode,
      faultHead]
    simp only [List.append_assoc, List.append_nil]
  · rfl
  · rw [terminal_consoleWrite hstartPlain, terminal_consoleWrite hwhat.plain,
      terminal_consoleWrite hmidPlain, terminal_consoleWrite hnumber.plain,
      terminal_consoleWrite hparkPlain]
    unfold faultLine
    simp only [hstart, List.append_assoc, List.append_nil, terminal]

/-- Whatever the terminal showed before, what failed and its code are read back after a
`fault_halt`, and whether the watchdog is running. -/
theorem readFault_faultHalt (before : List Char) (stack : DecBuffer) (hwhat : IsLine what) :
    ∃ text, faultHalt wdt stack (some what) code = some text ∧
      readFault (terminal (before ++ text)) = some (what, (code.toInt : ℚ), wdt.isRunning) := by
  obtain ⟨text, htext, hhead, hshown⟩ := @terminal_faultHalt what code wdt stack hwhat
  refine ⟨text, htext, ?_⟩
  have hfault : '\n' ∉ faultLine what code := by
    have hline : IsLine (faultLine what code) := (isLine_of_all rfl).append <| hwhat.append <|
      (isLine_of_all rfl).append (isLine_of_holds (Holds.toChars _))
    exact hline.no_end
  have hpark : '\n' ∉ parkLine wdt := by
    unfold parkLine
    split <;> decide
  have hlines : terminal before ++ ("\n\n".toList ++
      (faultLine what code ++ '\n' :: (parkLine wdt ++ ['\n']))) =
        (terminal before ++ ['\n']) ++ '\n' ::
          (faultLine what code ++ '\n' :: (parkLine wdt ++ '\n' :: [])) := by
    simp
  rw [terminal_append before (by rw [hhead]; decide), hshown, hlines, readFault,
    List.splitOn_append_cons_self, List.splitOn_append_cons_self_of_not_mem hfault,
    List.splitOn_append_cons_self_of_not_mem hpark, List.reverse_append]
  show (readFaultLine (faultLine what code)).bind _ = _
  rw [readFaultLine_faultLine, Option.bind_some]
  simp only [readParkLine_parkLine, Option.map_some]

end SensorAggregator.Platform
