/-
  Trimming and digits: what the fields of a row and the names made for it are built from.

  1. **Trimming** — it drops the white space at both ends (`trim_eq_dropEnds`).  So it only takes
     characters away (`mem_of_mem_trim`), and leaves a text alone whose ends are not white space
     (`trim_eq_self`).  What it leaves has such ends, so that trimming twice is trimming once
     (`trim_trim`).

  2. **Digits** — a number in decimal is written with at least one character, and all of them are
     digits, which are neither white space nor breaks.
-/
import TomeSql.Text.Decimal
import TomeSql.Text.Line
import TomeSql.Proofs.Ends

namespace TomeSql

open Unicode (isWhiteSpace)

namespace Text

/-! ## Trimming -/

theorem trimEnd_eq_rdropWhile (t : Text) : trimEnd t = t.rdropWhile isWhiteSpace := rfl

theorem mem_of_mem_trimStart {c : Char} {t : Text} (h : c ∈ trimStart t) : c ∈ t :=
  (List.dropWhile_suffix isWhiteSpace).subset h

theorem mem_of_mem_trimEnd {c : Char} {t : Text} (h : c ∈ trimEnd t) : c ∈ t :=
  (List.rdropWhile_prefix isWhiteSpace t).subset h

/-- Trimming only takes characters away. -/
theorem mem_of_mem_trim {c : Char} {t : Text} (h : c ∈ trim t) : c ∈ t :=
  mem_of_mem_trimStart (mem_of_mem_trimEnd h)

/-- Trimming drops the white space at both ends. -/
theorem trim_eq_dropEnds (t : Text) : trim t = dropEnds isWhiteSpace t := rfl

/-- A text whose first and last characters are not white space is left alone. -/
theorem trim_eq_self {t : Text} (hfirst : ∀ c ∈ t.head?, isWhiteSpace c = false)
    (hlast : ∀ c ∈ t.getLast?, isWhiteSpace c = false) : trim t = t := by
  rw [trim_eq_dropEnds]
  exact dropEnds_eq_self hfirst hlast

/-- What trimming leaves does not begin with white space. -/
theorem head?_trim {t : Text} : ∀ c ∈ (trim t).head?, isWhiteSpace c = false :=
  fun _ hc => not_of_mem_head?_dropEnds hc

/-- What trimming leaves does not end with white space. -/
theorem getLast?_trim {t : Text} : ∀ c ∈ (trim t).getLast?, isWhiteSpace c = false :=
  fun _ hc => not_of_mem_getLast?_dropEnds hc

/-- Trimming leaves the first character that is not white space at the front. -/
theorem head?_trim_eq_find? (t : Text) : (trim t).head? = t.find? fun c => !isWhiteSpace c := by
  rw [trim_eq_dropEnds, head?_dropEnds]

/-- Trimming twice is trimming once. -/
theorem trim_trim (t : Text) : trim (trim t) = trim t := trim_eq_self head?_trim getLast?_trim

/-! ## Digits -/

/-- A digit is in no range of white space: those below it end at 32, the next one starts at 133. -/
theorem isWhiteSpace_of_isDigit {c : Char} (h : c.isDigit = true) : isWhiteSpace c = false := by
  have hc : 48 ≤ c.toNat ∧ c.toNat ≤ 57 := by
    simpa [Char.isDigit, UInt32.le_iff_toNat_le] using h
  simp only [isWhiteSpace, Unicode.Ranges.has, Unicode.whiteSpaceRanges, Unicode.Ranges.hasCode]
  simp
  omega

theorem isLineBreak_of_isDigit {c : Char} (h : c.isDigit = true) : isLineBreak c = false := by
  rw [isLineBreak, ← Bool.not_eq_true, List.contains_iff_mem]
  intro hmem
  simp only [lineBreaks, List.mem_cons, List.not_mem_nil, or_false] at hmem
  rcases hmem with rfl | rfl | rfl | rfl | rfl | rfl | rfl | rfl | rfl | rfl <;>
    exact absurd h (by decide)

end Text

namespace Decimal

theorem isDigit_of_mem_ofNat {c : Char} {n : Nat} (h : c ∈ ofNat n) : c.isDigit = true :=
  Nat.isDigit_of_mem_toDigits (by decide) (by decide) h

theorem ofNat_ne_nil (n : Nat) : ofNat n ≠ [] := Nat.toDigits_ne_nil

end Decimal

end TomeSql
