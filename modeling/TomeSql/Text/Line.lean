/-
  Lines of a text.

  1. **Breaks** — ten characters end a line, and a carriage return directly followed by a line feed
     counts as one break.

  2. **`lines`** — the text between the breaks.  A break at the very end opens no further line, so
     the empty text has no lines and a lone break has one, the empty one.

  3. No line holds a break (`not_isLineBreak_of_mem_lines`).
-/
import TomeSql.Text.Basic

namespace TomeSql.Text

/-- The characters that end a line: line feed, vertical tab, form feed, carriage return, the file,
group and record separators, next line, and Unicode's line and paragraph separators. -/
def lineBreaks : List Char :=
  ['\n', '\x0b', '\x0c', '\r', '\x1c', '\x1d', '\x1e', '\x85', '\u2028', '\u2029']

/-- `c` ends a line. -/
def isLineBreak (c : Char) : Bool := lineBreaks.contains c

/-- The lines of a text, without their breaks. -/
def lines : Text → List Text
  | [] => []
  | '\r' :: '\n' :: t => [] :: lines t
  | c :: t =>
    if isLineBreak c then [] :: lines t
    else match lines t with
      | [] => [[c]]
      | l :: ls => (c :: l) :: ls

/-- No line holds a break. -/
theorem not_isLineBreak_of_mem_lines {t l : Text} (h : l ∈ lines t) :
    ∀ c ∈ l, isLineBreak c = false := by
  fun_induction lines t generalizing l with
  | case1 => simp at h
  | case2 t ih =>
    rcases List.mem_cons.mp h with rfl | h
    · simp
    · exact ih h
  | case3 c t _ _ ih =>
    rcases List.mem_cons.mp h with rfl | h
    · simp
    · exact ih h
  | case4 c t _ hc hl ih =>
    simp only [List.mem_singleton] at h
    simpa [h] using hc
  | case5 c t _ hc m ms hl ih =>
    rcases List.mem_cons.mp h with rfl | h
    · intro d hd
      rcases List.mem_cons.mp hd with rfl | hd
      · simpa using hc
      · exact ih (by simp [hl]) d hd
    · exact ih (by simp [hl, h])

example : lines "a\r\nb\n\rc".toList = ["a".toList, "b".toList, [], "c".toList] := by decide
example : lines [] = [] ∧ lines ['\n'] = [[]] ∧ lines "a\n\n".toList = ["a".toList, []] := by decide

end TomeSql.Text
