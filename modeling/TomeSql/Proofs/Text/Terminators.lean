/-
  Lines with what ends them: how a text is put together from lines, and what reading it gives.

  1. **Terminators** — a line ends with one of the ten breaks, or with a carriage return and a line
     feed together.

  2. **Merging** — a carriage return in front of an empty line that ends with a line feed: the two
     ends make one break, and the empty line is gone.  Nothing else goes wrong when lines are put one
     behind the other (`lines_text_append`, `lines_text_append_merged`).

  3. **Non-empty lines** — merging only loses empty lines, so whoever passes over those reads the same
     from every choice of terminators (`filter_lines_joined`).

  4. **Layouts** — lines of which no two neighbours merge, and perhaps a last one without a terminator,
     are the lines of their text (`LineLayout.lines_text`).
-/
import TomeSql.Proofs.Text.Pieces
import Mathlib.Data.List.Chain

namespace TomeSql.Text

/-! ## Terminators -/

/-- What ends a line. -/
inductive Terminator where
  /-- One of the ten breaks by itself. -/
  | single (c : Char) (isLineBreak_c : isLineBreak c = true)
  /-- A carriage return together with a line feed. -/
  | crlf
deriving DecidableEq

/-- A terminator as it stands in a text. -/
def Terminator.text : Terminator → Text
  | .single c _ => [c]
  | .crlf => ['\r', '\n']

/-- A line and what ends it. -/
structure EndedLine where
  content : Text
  terminator : Terminator
  not_isLineBreak : ∀ c ∈ content, isLineBreak c = false

namespace EndedLine

/-- A line with its terminator behind it. -/
def text (a : EndedLine) : Text := a.content ++ a.terminator.text

/-- A line whose freedom from breaks is computed, and what ends it. -/
def checked (content : Text) (terminator : Terminator) (h : content.any isLineBreak = false) :
    EndedLine :=
  ⟨content, terminator, not_isLineBreak_of_any h⟩

/-- The ends of two neighbours make one break. -/
def Merges (a b : EndedLine) : Prop :=
  a.terminator.text = ['\r'] ∧ b.content = [] ∧ b.terminator.text = ['\n']

instance (a b : EndedLine) : Decidable (a.Merges b) := inferInstanceAs (Decidable (_ ∧ _ ∧ _))

end EndedLine

/-- Lines one behind the other. -/
def joined (as : List EndedLine) : Text := as.flatMap EndedLine.text

@[simp] theorem joined_nil : joined [] = [] := rfl

@[simp] theorem joined_cons (a : EndedLine) (as : List EndedLine) :
    joined (a :: as) = a.text ++ joined as := rfl

/-! ## One line in front of a text -/

/-- A terminator ends one line, unless what follows makes a pair of it. -/
theorem lines_terminator_append {t : Terminator} {rest : Text}
    (hpair : t.text = ['\r'] → rest.head? ≠ some '\n') :
    lines (t.text ++ rest) = [] :: lines rest := by
  cases t with
  | crlf => exact lines_crlf rest
  | single c hc =>
    have hcr : c = '\r' → (Terminator.single c hc).text = ['\r'] := congrArg fun d => [d]
    exact lines_cons_of_break hc fun h => hpair (hcr h)

/-- A line with its terminator is one line in front of the others. -/
theorem lines_text_append (a : EndedLine) {rest : Text}
    (hpair : a.terminator.text = ['\r'] → rest.head? ≠ some '\n') :
    lines (a.text ++ rest) = a.content :: lines rest := by
  rw [EndedLine.text, List.append_assoc,
    lines_append a.not_isLineBreak (lines_terminator_append hpair), List.append_nil]

/-- Where the end of a line meets a line feed, both are one break. -/
theorem lines_text_append_merged {a : EndedLine} (ha : a.terminator.text = ['\r']) (rest : Text) :
    lines (a.text ++ '\n' :: rest) = a.content :: lines rest := by
  rw [EndedLine.text, ha, List.append_assoc, List.singleton_append,
    lines_append a.not_isLineBreak (lines_crlf rest), List.append_nil]

/-! ## Non-empty lines -/

/-- Where empty lines do not count, it is so even if a pair is made. -/
theorem filter_lines_text_append {p : Text → Bool} (hp : p [] = false) (a : EndedLine)
    (rest : Text) :
    (lines (a.text ++ rest)).filter p = (a.content :: lines rest).filter p := by
  by_cases hpair : a.terminator.text = ['\r'] ∧ rest.head? = some '\n'
  · -- the merged line is empty, and `p` passes over it in `rest`
    obtain ⟨hcr, hlf⟩ := hpair
    obtain ⟨rest, rfl⟩ := List.head?_eq_some_iff.mp hlf
    simp [lines_text_append_merged hcr, lines_newline, List.filter_cons, hp]
  · rw [lines_text_append a fun hcr hlf => hpair ⟨hcr, hlf⟩]

/-- Apart from empty lines, a text has the lines that it was put together from, whatever ends
them. -/
theorem filter_lines_joined {p : Text → Bool} (hp : p [] = false) (as : List EndedLine)
    (rest : Text) :
    (lines (joined as ++ rest)).filter p =
      (as.map EndedLine.content ++ lines rest).filter p := by
  induction as with
  | nil => rfl
  | cons a as ih =>
    rw [joined_cons, List.append_assoc, filter_lines_text_append hp, List.filter_cons, ih,
      List.map_cons, List.cons_append, List.filter_cons]

/-! ## Layouts -/

/-- A way to write lines: each with a terminator, so that no two neighbours merge, and perhaps a last
one without. -/
structure LineLayout where
  ended : List EndedLine
  /-- What stands behind the last terminator: a line, or nothing at all. -/
  last : Text
  not_isLineBreak_last : ∀ c ∈ last, isLineBreak c = false
  isChain_ended : ended.IsChain fun a b => ¬ a.Merges b

namespace LineLayout

/-- The text that is written. -/
def text (w : LineLayout) : Text := joined w.ended ++ w.last

/-- A layout whose conditions are computed. -/
def checked (ended : List EndedLine) (last : Text) (hlast : last.any isLineBreak = false)
    (hended : ended.IsChain fun a b => ¬ a.Merges b) : LineLayout :=
  ⟨ended, last, not_isLineBreak_of_any hlast, hended⟩

/-- The lines that are written. -/
def contents (w : LineLayout) : List Text :=
  w.ended.map EndedLine.content ++ if w.last = [] then [] else [w.last]

end LineLayout

/-- The text behind the last terminator is a line unless it is empty. -/
theorem lines_last {l : Text} (h : ∀ c ∈ l, isLineBreak c = false) :
    lines l = if l = [] then [] else [l] := by
  split
  · rename_i hnil
    rw [hnil]
    rfl
  · rename_i hne
    exact lines_of_not_break h hne

/-- A text begins with a line feed only where an empty line that ends with one begins. -/
theorem head?_joined_append {as : List EndedLine} {last : Text}
    (hlast : ∀ c ∈ last, isLineBreak c = false)
    (h : (joined as ++ last).head? = some '\n') :
    ∃ b ∈ as.head?, b.content = [] ∧ b.terminator.text = ['\n'] := by
  have hnewline : isLineBreak '\n' = true := by decide
  cases as with
  | nil =>
    have hfirst := hlast '\n' (List.mem_of_mem_head? h)
    rw [hnewline] at hfirst
    cases hfirst
  | cons b as =>
    refine ⟨b, rfl, ?_⟩
    rw [joined_cons, EndedLine.text] at h
    cases hcontent : b.content with
    | cons c l =>
      have hc : c = '\n' := by simpa [hcontent] using h
      have hfirst := b.not_isLineBreak c (hcontent ▸ List.mem_cons_self)
      rw [hc, hnewline] at hfirst
      cases hfirst
    | nil =>
      refine ⟨rfl, ?_⟩
      cases hterminator : b.terminator with
      | crlf => simp [hcontent, hterminator, Terminator.text] at h
      | single c hc => simpa [hcontent, hterminator, Terminator.text] using h

/-- Lines with their terminators are read back as they were given, if no two breaks merge. -/
theorem lines_joined_append {as : List EndedLine} {last : Text}
    (hlast : ∀ c ∈ last, isLineBreak c = false)
    (has : as.IsChain fun a b => ¬ a.Merges b) :
    lines (joined as ++ last) = as.map EndedLine.content ++ lines last := by
  induction as with
  | nil => rfl
  | cons a as ih =>
    rw [List.isChain_cons] at has
    rw [joined_cons, List.append_assoc, lines_text_append, ih has.2, List.map_cons, List.cons_append]
    intro hcr hlf
    obtain ⟨b, hb, hmerges⟩ := head?_joined_append hlast hlf
    exact has.1 b hb ⟨hcr, hmerges⟩

/-- The lines of a text are those that were written. -/
theorem LineLayout.lines_text (w : LineLayout) : lines w.text = w.contents := by
  rw [text, lines_joined_append w.not_isLineBreak_last w.isChain_ended,
    lines_last w.not_isLineBreak_last, contents]

end TomeSql.Text
