import Mathlib.Data.List.Forall2

/-!
# Texts with fields

A template is a fixed text with gaps. Filling the gaps gives a text, and reading a text against the
template gives the fields back, as long as no field contains the character that the text after it
begins with. Texts of several lines are split into their lines first.
-/

namespace Base

universe u

/-- The text in front of the first field, and the text after each field. -/
structure Template (α : Type u) where
  head : List α
  tails : List (List α)

namespace Template

variable {α : Type u}

/-- Fields and the texts after them, in turn. -/
def fillTails : List (List α) → List (List α) → List α
  | tail :: tails, field :: fields => field ++ (tail ++ fillTails tails fields)
  | _, _ => []

/-- The template with its gaps filled. -/
def fill (template : Template α) (fields : List (List α)) : List α :=
  template.head ++ fillTails template.tails fields

variable [DecidableEq α]

/-- A text without a prefix that it must have. -/
def strip (expected text : List α) : Option (List α) :=
  if expected.isPrefixOf text then some (text.drop expected.length) else none

/-- A field ends where the text after it may begin. -/
def inField (tail : List α) (c : α) : Bool := tail.head? != some c

/-- The fields of a text, each up to the text that must follow it. -/
def readTails : List (List α) → List α → Option (List (List α))
  | [], text => if text.isEmpty then some [] else none
  | tail :: tails, text =>
    (strip tail (text.dropWhile (inField tail))).bind fun rest ↦
      (readTails tails rest).map (text.takeWhile (inField tail) :: ·)

/-- The fields of a text that is the template filled. -/
def read (template : Template α) (text : List α) : Option (List (List α)) :=
  (strip template.head text).bind (readTails template.tails)

/-- The field does not contain the first character of the text after it. -/
def Fits (tail field : List α) : Prop := ∃ c rest, tail = c :: rest ∧ c ∉ field

/-- A prefix is stripped. -/
theorem strip_append (expected text : List α) : strip expected (expected ++ text) = some text := by
  rw [strip, if_pos (List.isPrefixOf_iff_prefix.mpr (List.prefix_append _ _)), List.drop_left]

private theorem Fits.span {tail field : List α} (h : Fits tail field) (rest : List α) :
    (field ++ (tail ++ rest)).takeWhile (inField tail) = field ∧
      (field ++ (tail ++ rest)).dropWhile (inField tail) = tail ++ rest := by
  obtain ⟨c, tail', rfl, hc⟩ := h
  have hfield : ∀ x ∈ field, inField (c :: tail') x = true := by
    intro x hx
    have hne : c ≠ x := fun h ↦ hc (h ▸ hx)
    simpa [inField] using hne
  have hstop : inField (c :: tail') c = false := by simp [inField]
  constructor
  · rw [List.takeWhile_append_of_pos hfield, List.cons_append,
      List.takeWhile_cons_of_neg (by simp [hstop]), List.append_nil]
  · rw [List.dropWhile_append_of_pos hfield, List.cons_append,
      List.dropWhile_cons_of_neg (by simp [hstop])]

private theorem readTails_fillTails {tails fields : List (List α)}
    (h : List.Forall₂ Fits tails fields) :
    readTails tails (fillTails tails fields) = some fields := by
  induction h with
  | nil => rfl
  | @cons tail field tails fields hfits _ ih =>
    obtain ⟨htake, hdrop⟩ := hfits.span (fillTails tails fields)
    rw [readTails, fillTails, htake, hdrop, strip_append, Option.bind_some, ih]
    rfl

/-- Reading undoes filling. -/
theorem read_fill {template : Template α} {fields : List (List α)}
    (h : List.Forall₂ Fits template.tails fields) :
    template.read (template.fill fields) = some fields := by
  rw [read, fill, strip_append]
  exact readTails_fillTails h

end Template

/-- Lines one after the other are split where they end. -/
theorem splitOn_lines {α : Type u} [DecidableEq α] {lines : List (List α)} {sep : α}
    (h : ∀ line ∈ lines, sep ∉ line) (rest : List α) :
    (lines.flatMap (· ++ [sep]) ++ rest).splitOn sep = lines ++ rest.splitOn sep := by
  induction lines with
  | nil => rfl
  | cons line lines ih =>
    have hline := h line List.mem_cons_self
    rw [List.flatMap_cons, List.append_assoc, List.append_assoc, List.singleton_append,
      List.splitOn_append_cons_self_of_not_mem hline,
      ih fun line' hline' ↦ h line' (List.mem_cons_of_mem line hline')]
    rfl

end Base
