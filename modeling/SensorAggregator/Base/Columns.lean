import SensorAggregator.Base.Decimal

/-!
# Numerals in columns

A numeral that is padded with blanks to the width of its column reads as the numeral.
-/

namespace Base.Columns

open Decimal

/-- The number in a field, blanks around it aside. -/
def number (field : List Char) : Option ℚ := parse (field.filter (· ≠ ' '))

/-- A field is a numeral between blanks. -/
structure Holds (field : List Char) (n : Numeral) (before after : ℕ) : Prop where
  eq : field = List.replicate before ' ' ++ (n.toChars ++ List.replicate after ' ')

namespace Holds

variable {field : List Char} {n : Numeral} {before after : ℕ}

/-- The characters of a field are those of its numeral and blanks. -/
theorem mem (h : Holds field n before after) {c : Char} (hc : c ∈ field) :
    c = '-' ∨ c = '.' ∨ c.isDigit = true ∨ c = ' ' ∧ 0 < before + after := by
  rw [h.eq, List.mem_append, List.mem_append, List.mem_replicate, List.mem_replicate] at hc
  rcases hc with ⟨hne, hc⟩ | hc | ⟨hne, hc⟩
  · exact .inr (.inr (.inr ⟨hc, by omega⟩))
  · exact (mem_toChars hc).imp And.left (Or.imp_right .inl)
  · exact .inr (.inr (.inr ⟨hc, by omega⟩))

/-- No other character is in a field. -/
theorem not_mem (h : Holds field n before after) {c : Char}
    (hc : c ≠ '-' ∧ c ≠ '.' ∧ c ≠ ' ' ∧ c.isDigit = false) : c ∉ field := by
  intro hmem
  rcases h.mem hmem with heq | heq | hdigit | ⟨heq, -⟩
  · exact hc.1 heq
  · exact hc.2.1 heq
  · exact Bool.false_ne_true (hc.2.2.2.symm.trans hdigit)
  · exact hc.2.2.1 heq

/-- A blank is not either, unless the field is padded. -/
theorem blank_not_mem (h : Holds field n 0 0) : ' ' ∉ field := by
  intro hmem
  rcases h.mem hmem with heq | heq | hdigit | ⟨-, hpos⟩
  · exact absurd heq (by decide)
  · exact absurd heq (by decide)
  · exact absurd hdigit (by decide)
  · exact absurd hpos (by decide)

/-- A field is read as its numeral. -/
theorem number (h : Holds field n before after) : number field = some n.value := by
  have hblanks : ∀ k, (List.replicate k ' ').filter (· ≠ ' ') = [] := by
    intro k
    apply List.filter_eq_nil_iff.mpr
    intro c hc
    simp [List.eq_of_mem_replicate hc]
  have hkeep : n.toChars.filter (· ≠ ' ') = n.toChars := by
    apply List.filter_eq_self.mpr
    intro c hc
    apply decide_eq_true
    rintro rfl
    have hclasses := mem_toChars hc
    simp at hclasses
  rw [Columns.number, h.eq, List.filter_append, List.filter_append, hblanks, hblanks, hkeep,
    List.nil_append, List.append_nil, parse_toChars]

/-- A numeral by itself is a field. -/
theorem toChars (n : Numeral) : Holds n.toChars n 0 0 :=
  ⟨(List.append_nil _).symm⟩

/-- Blanks may stand in front of a field. -/
theorem behind (h : Holds field n before after) (k : ℕ) :
    Holds (List.replicate k ' ' ++ field) n (k + before) after := by
  constructor
  rw [h.eq, List.replicate_add]
  simp only [List.append_assoc]

/-- It may be padded on the right. -/
theorem rightpad (h : Holds field n before after) (width : ℕ) :
    Holds (List.rightpad width ' ' field) n before (after + (width - field.length)) := by
  constructor
  rw [List.rightpad, h.eq, List.replicate_add]
  simp only [List.append_assoc]

/-- A blank may stand behind it. -/
theorem blank (h : Holds field n before after) : Holds (field ++ [' ']) n before (after + 1) := by
  constructor
  rw [h.eq, List.replicate_succ']
  simp only [List.append_assoc]

end Holds

/-- Units of the last of `d` places, the digits in front of the point and behind it given apart. -/
theorem holds_scaled {whole part d : ℕ} (hd : d ≠ 0) (hpart : part < 10 ^ d) :
    Holds (Nat.toDigits 10 whole ++ '.' :: List.leftpad d '0' (Nat.toDigits 10 part))
      (.ofScaled false (whole * 10 ^ d + part) d) 0 0 := by
  have hdiv : (whole * 10 ^ d + part) / 10 ^ d = whole := by
    rw [Nat.mul_comm, Nat.mul_add_div (Nat.pow_pos (by decide)), Nat.div_eq_of_lt hpart]
    rfl
  have hmod : (whole * 10 ^ d + part) % 10 ^ d = part := by
    rw [Nat.mul_comm, Nat.mul_add_mod, Nat.mod_eq_of_lt hpart]
  have htext := toChars_ofScaled false (whole * 10 ^ d + part) hd
  rw [hdiv, hmod] at htext
  rw [← List.nil_append (Nat.toDigits 10 whole)]
  exact htext ▸ Holds.toChars _

/-- A whole number. -/
theorem holds_nat (n : ℕ) : Holds (Nat.toDigits 10 n) (.ofScaled false n 0) 0 0 := by
  have htext := toChars_ofScaled_zero false n
  rw [← List.nil_append (Nat.toDigits 10 n)]
  exact htext ▸ Holds.toChars _

end Base.Columns
