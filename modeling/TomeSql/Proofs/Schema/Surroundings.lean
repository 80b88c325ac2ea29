/-
  The columns of a table, whatever stands around them in the schema.

  1. **Blocks (`Declares`)** — the lines of a block, column lines and others mixed, with the names of the
     column lines in order.

  2. **Step lemmas** — what a line does to the reading that goes on behind it: in front of the start
     marker it is passed over; behind it, it gives a name, is passed over, or ends the reading.

  3. **Empty lines** — they are of no kind that matters (`columnsIn_filter`).  So it is no matter how the
     lines end, not even where two ends make one break and an empty line is lost.

  4. **Main result (`ofSchema_surrounded`)** — the names of the first block of the table are read, and
     neither what stands in front of it nor what comes behind it has a say.
-/
import TomeSql.Proofs.Schema.Grammar
import TomeSql.Proofs.Text.Terminators

namespace TomeSql

open Text (EndedLine joined)

namespace Schema

/-! ## Blocks -/

/-- The lines of a block, without the one that ends it, and the names that they declare. -/
inductive Declares : (lines names : List Text) → Prop
  | nil : Declares [] []
  | column {name line : Text} {lines names : List Text} :
    ColumnLine name line → Declares lines names → Declares (line :: lines) (name :: names)
  | other {line : Text} {lines names : List Text} :
    (∀ name, ¬ ColumnLine name line) → ¬ BlockEnd line → Declares lines names →
      Declares (line :: lines) names

/-! ## One line -/

/-- The names of the column lines in front of the end of a block. -/
def columnsBeforeEnd (lines : List Text) : List Text :=
  (lines.takeWhile fun l => !isBlockEnd l).filterMap columnName?

/-- The names of the column lines in the block of a table. -/
def columnsIn (table : Text) (lines : List Text) : List Text :=
  (block table lines).filterMap columnName?

variable {table line : Text}

theorem columnsBeforeEnd_cons_end (h : BlockEnd line) (lines : List Text) :
    columnsBeforeEnd (line :: lines) = [] := by
  rw [columnsBeforeEnd, List.takeWhile_cons_of_neg (by simp [isBlockEnd_iff.mpr h])]
  rfl

theorem columnsBeforeEnd_cons_column {name : Text} (h : ColumnLine name line) (lines : List Text) :
    columnsBeforeEnd (line :: lines) = name :: columnsBeforeEnd lines := by
  have hend : isBlockEnd line = false :=
    Bool.eq_false_iff.mpr fun hend => h.not_blockEnd (isBlockEnd_iff.mp hend)
  rw [columnsBeforeEnd, List.takeWhile_cons_of_pos (by simp [hend]),
    List.filterMap_cons_some (columnName?_eq_some_iff.mpr h)]
  rfl

theorem columnsBeforeEnd_cons_other (hcolumn : ∀ name, ¬ ColumnLine name line)
    (hend : ¬ BlockEnd line) (lines : List Text) :
    columnsBeforeEnd (line :: lines) = columnsBeforeEnd lines := by
  have hnot : isBlockEnd line = false := Bool.eq_false_iff.mpr fun h => hend (isBlockEnd_iff.mp h)
  rw [columnsBeforeEnd, List.takeWhile_cons_of_pos (by simp [hnot]),
    List.filterMap_cons_none (columnName?_eq_none_iff.mpr hcolumn)]
  rfl

theorem columnsIn_cons_start (h : StartMarker table line) (lines : List Text) :
    columnsIn table (line :: lines) = columnsBeforeEnd lines := by
  rw [columnsIn, block, List.dropWhile_cons_of_neg (by simp [isTableStart_iff.mpr h])]
  rfl

theorem columnsIn_cons_other (h : ¬ StartMarker table line) (lines : List Text) :
    columnsIn table (line :: lines) = columnsIn table lines := by
  have hnot : isTableStart table line = false :=
    Bool.eq_false_iff.mpr fun hstart => h (isTableStart_iff.mp hstart)
  rw [columnsIn, block, List.dropWhile_cons_of_pos (by simp [hnot])]
  rfl

/-! ## Many lines -/

/-- What stands behind the end of a block has no part in its columns. -/
theorem columnsBeforeEnd_append {body names : List Text} (hbody : Declares body names)
    {closing : Text} (hclosing : BlockEnd closing) (later : List Text) :
    columnsBeforeEnd (body ++ closing :: later) = names := by
  induction hbody with
  | nil => exact columnsBeforeEnd_cons_end hclosing later
  | column hcolumn _ ih => rw [List.cons_append, columnsBeforeEnd_cons_column hcolumn, ih]
  | other hcolumn hend _ ih => rw [List.cons_append, columnsBeforeEnd_cons_other hcolumn hend, ih]

/-- What stands in front of the start marker has none either. -/
theorem columnsIn_append {preamble : List Text} (hpreamble : ∀ l ∈ preamble, ¬ StartMarker table l)
    {start : Text} (hstart : StartMarker table start) (lines : List Text) :
    columnsIn table (preamble ++ start :: lines) = columnsBeforeEnd lines := by
  induction preamble with
  | nil => exact columnsIn_cons_start hstart lines
  | cons l preamble ih =>
    obtain ⟨hl, hpreamble⟩ := List.forall_mem_cons.mp hpreamble
    rw [List.cons_append, columnsIn_cons_other hl, ih hpreamble]

/-! ## Empty lines -/

theorem not_startMarker_nil : ¬ StartMarker table [] := by
  rintro ⟨a, b, c, d, -, -, -, -, -, h⟩
  simpa using congrArg List.length h

theorem not_blockEnd_nil : ¬ BlockEnd [] := by
  rw [← isBlockEnd_iff]
  decide

theorem not_columnLine_nil (name : Text) : ¬ ColumnLine name [] := by
  rw [← columnName?_eq_some_iff]
  exact fun h => absurd h (by simp [columnName?, Text.trimStart])

/-- Empty lines have no part in a block. -/
theorem columnsBeforeEnd_filter (lines : List Text) :
    columnsBeforeEnd (lines.filter fun l => !l.isEmpty) = columnsBeforeEnd lines := by
  induction lines with
  | nil => rfl
  | cons l lines ih =>
    cases l with
    | nil =>
      rw [columnsBeforeEnd_cons_other not_columnLine_nil not_blockEnd_nil, ← ih]
      rfl
    | cons c l =>
      rw [List.filter_cons_of_pos rfl, columnsBeforeEnd, columnsBeforeEnd, List.takeWhile_cons,
        List.takeWhile_cons]
      split
      · rw [List.filterMap_cons, List.filterMap_cons, ← columnsBeforeEnd, ih, ← columnsBeforeEnd]
      · rfl

/-- The columns of a table do not depend on empty lines. -/
theorem columnsIn_filter (lines : List Text) :
    columnsIn table (lines.filter fun l => !l.isEmpty) = columnsIn table lines := by
  induction lines with
  | nil => rfl
  | cons l lines ih =>
    by_cases hstart : StartMarker table l
    · have hne : l ≠ [] := by
        rintro rfl
        exact not_startMarker_nil hstart
      rw [List.filter_cons_of_pos (by simpa using hne), columnsIn_cons_start hstart,
        columnsIn_cons_start hstart, columnsBeforeEnd_filter]
    · rw [columnsIn_cons_other hstart, ← ih, List.filter_cons]
      split
      · exact columnsIn_cons_other hstart _
      · rfl

/-- The names that are read, by what each line does to them. -/
theorem columnNames_eq (table schema : Text) :
    columnNames table schema = columnsIn table (Text.lines schema) := rfl

/-- Lines in front of a text are read as they were written, whatever ends them. -/
theorem columnNames_joined_append (as : List EndedLine) (rest : Text) :
    columnNames table (joined as ++ rest) =
      columnsIn table (as.map EndedLine.content ++ Text.lines rest) := by
  rw [columnNames_eq, ← columnsIn_filter, Text.filter_lines_joined rfl, columnsIn_filter]

end Schema

namespace ColumnList

open Schema

/-- **The columns are those of the block, whatever surrounds it.**  In front of the start marker of
the table stand lines none of which is one, other tables included; then come column lines and lines
of no kind; and behind the line that ends the block there may be anything, another block of the same
table too. -/
theorem ofSchema_surrounded {table : Text} {preamble body : List EndedLine} {start : EndedLine}
    {names : List Text} {closing : Text}
    (hpreamble : ∀ a ∈ preamble, ¬ StartMarker table a.content)
    (hstart : StartMarker table start.content)
    (hbody : Declares (body.map EndedLine.content) names) (hne : names ≠ [])
    (hclosing : BlockEnd closing) (hline : ∀ c ∈ closing, Text.isLineBreak c = false)
    (rest : Text) :
    ofSchema table (joined preamble ++ start.text ++ joined body ++ closing ++ rest) =
      .ok ⟨table, names, hne⟩ := by
  have hnonempty : closing ≠ [] := by
    rintro rfl
    exact not_blockEnd_nil hclosing
  obtain ⟨more, later, hlines⟩ := Text.exists_lines_append hline hnonempty rest
  have hwritten : joined preamble ++ start.text ++ joined body ++ closing ++ rest =
      joined (preamble ++ start :: body) ++ (closing ++ rest) := by
    simp [joined]
  have hmarker : ∀ l ∈ preamble.map EndedLine.content, ¬ StartMarker table l := by
    simpa using hpreamble
  rw [ofSchema_eq_ok_iff]
  refine ⟨rfl, ?_⟩
  rw [hwritten, columnNames_joined_append, hlines, List.map_append, List.map_cons, List.append_assoc,
    List.cons_append, columnsIn_append hmarker hstart,
    columnsBeforeEnd_append hbody (hclosing.append more)]

/-- A table with special characters in its name, behind another table and in front of a second block
of its own, with lines that end in many ways. -/
theorem ofSchema_surrounded_by_tables :
    ofSchema "i.t\x60x(".toList
      ("CREATE TABLE \x60o\x60 (\r\n \x60z\x60 int\r\n)\u2028".toList ++
        "\u3000CREATE TABLE  \x60i.t\x60x(\x60 ( \x85".toList ++
        "-- \x60n\x60 \n\t\x60a b\x60 int,\x1c\x60c\x60\u2003\r\n".toList ++
        "  PRIMARY KEY (\x60c\x60)".toList ++
        "\n\x60q\x60 int\rCREATE TABLE \x60i.t\x60x(\x60 (\r\x60d\x60 int".toList) =
      .ok ⟨"i.t\x60x(".toList, ["a b".toList, "c".toList], by decide⟩ := by
  let preamble : List EndedLine :=
    [.checked "CREATE TABLE \x60o\x60 (".toList .crlf (by decide),
      .checked " \x60z\x60 int".toList (.single '\r' (by decide)) (by decide),
      -- this line is lost between the two ends
      .checked [] (.single '\n' (by decide)) (by decide),
      .checked ")".toList (.single '\u2028' (by decide)) (by decide)]
  let start : EndedLine :=
    .checked "\u3000CREATE TABLE  \x60i.t\x60x(\x60 ( ".toList (.single '\x85' (by decide)) (by decide)
  let body : List EndedLine :=
    [.checked "-- \x60n\x60 ".toList (.single '\n' (by decide)) (by decide),
      .checked "\t\x60a b\x60 int,".toList (.single '\x1c' (by decide)) (by decide),
      .checked "\x60c\x60\u2003".toList .crlf (by decide)]
  have hpreamble : ∀ a ∈ preamble, ¬ StartMarker "i.t\x60x(".toList a.content := by
    simp only [← isTableStart_iff]
    decide
  have hbody : Declares (body.map EndedLine.content) ["a b".toList, "c".toList] := by
    refine .other (columnName?_eq_none_iff.mp (by decide)) ?_ (.column ?_ (.column ?_ .nil))
    · rw [← isBlockEnd_iff]
      decide
    · exact columnName?_eq_some_iff.mp (by decide)
    · exact columnName?_eq_some_iff.mp (by decide)
  exact ofSchema_surrounded hpreamble (isTableStart_iff.mp (by decide) : StartMarker _ start.content)
    hbody (by decide) (isBlockEnd_iff.mp (by decide)) (Text.not_isLineBreak_of_any (by decide))
    "\n\x60q\x60 int\rCREATE TABLE \x60i.t\x60x(\x60 (\r\x60d\x60 int".toList

end ColumnList

end TomeSql
