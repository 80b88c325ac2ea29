/-
  Texts, and the few operations on them that all other modules share.

  1. **Carrier** — a text is the list of its characters, so that a scan over it is a recursion on a
     list and a law about it is an induction.  Literals are written `"…".toList`.

  2. **Trimming** — white space is Unicode's (`Unicode.isWhiteSpace`), on the left, on the right, or
     on both sides.

  3. **Fields** — `fields sep t` cuts `t` at every `sep`; there is always at least one field, and
     writing the separator between the fields gives `t` back.
-/
import TomeSql.Unicode.WhiteSpace

namespace TomeSql

/-- A text: its characters in order. -/
abbrev Text := List Char

-- Named once, so that membership of a text in a list is decided by the same term everywhere.
instance instLawfulBEqText : LawfulBEq Text := inferInstance

namespace Text

/-! ## Trimming -/

/-- Drops the white space at the left end. -/
def trimStart (t : Text) : Text := t.dropWhile Unicode.isWhiteSpace

/-- Drops the white space at the right end. -/
def trimEnd (t : Text) : Text := (t.reverse.dropWhile Unicode.isWhiteSpace).reverse

/-- Drops the white space at both ends. -/
def trim (t : Text) : Text := trimEnd (trimStart t)

/-! ## Beginnings -/

/-- What follows `start` in `t`, if `t` begins with `start`. -/
def after? : (start t : Text) → Option Text
  | [], t => some t
  | _ :: _, [] => none
  | s :: start, c :: t => if s = c then after? start t else none

/-- What follows a beginning is found behind it. -/
theorem after?_append (start t : Text) : after? start (start ++ t) = some t := by
  induction start with
  | nil => rfl
  | cons s start ih => simp [after?, ih]

/-- A rest is found exactly where the text is the beginning and that rest. -/
theorem after?_eq_some_iff {start t rest : Text} : after? start t = some rest ↔ t = start ++ rest := by
  induction start generalizing t with
  | nil => simp [after?]
  | cons s start ih =>
    cases t with
    | nil => simp [after?]
    | cons c t =>
      by_cases h : s = c
      · simp [after?, h, ih]
      · simp [after?, h, Ne.symm h]

/-! ## Fields -/

/-- The pieces of `t` between the occurrences of `sep`. -/
def fields (sep : Char) : Text → List Text
  | [] => [[]]
  | c :: t =>
    if c = sep then [] :: fields sep t
    else match fields sep t with
      | [] => [[c]]
      | f :: fs => (c :: f) :: fs

/-- Even the empty text is one field. -/
theorem fields_ne_nil (sep : Char) (t : Text) : fields sep t ≠ [] := by
  cases t with
  | nil => simp [fields]
  | cons c t =>
    rw [fields]
    split
    · simp
    · split <;> simp

/-- Cutting loses nothing but the separators. -/
theorem intercalate_fields (sep : Char) (t : Text) : [sep].intercalate (fields sep t) = t := by
  induction t with
  | nil => rfl
  | cons c t ih =>
    rw [fields]
    have hne := fields_ne_nil sep t
    cases hf : fields sep t with
    | nil => exact absurd hf hne
    | cons f fs =>
      rw [hf] at ih
      split
      · rename_i h
        rw [List.intercalate_cons_cons, ih, h]; rfl
      · cases fs with
        | nil => simpa using ih
        | cons g gs =>
          rw [List.intercalate_cons_cons] at ih ⊢
          simp only [List.cons_append]
          rw [ih]

/-- No field holds the separator. -/
theorem not_mem_of_mem_fields {sep : Char} {t f : Text} (h : f ∈ fields sep t) : sep ∉ f := by
  induction t generalizing f with
  | nil => simp [fields] at h; simp [h]
  | cons c t ih =>
    rw [fields] at h
    split at h
    · rcases List.mem_cons.mp h with rfl | h
      · simp
      · exact ih h
    · rename_i hc
      cases hf : fields sep t with
      | nil => simp [hf] at h; simp [h, Ne.symm hc]
      | cons g gs =>
        simp only [hf, List.mem_cons] at h ih
        rcases h with rfl | h
        · simpa [Ne.symm hc] using ih (Or.inl rfl)
        · exact ih (Or.inr h)

example : trim " a b\u3000".toList = "a b".toList := by decide
example : fields ';' "a;;b;".toList = ["a".toList, [], "b".toList, []] := by decide

end Text

end TomeSql
