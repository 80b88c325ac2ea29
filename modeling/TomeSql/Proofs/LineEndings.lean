/-
  Line endings: the same lines give the same result, whatever ends them.

  Both readings, of the input and of the schema, go through the lines of the text, and the lines of a
  text are those that were written (`Text.LineLayout.lines_text`).  So the choice of terminators shows
  neither in what is read nor in the numbers of the lines that errors name.
-/
import TomeSql.Batch.Basic
import TomeSql.Proofs.Text.Terminators
import TomeSql.Schema

namespace TomeSql

open Text (LineLayout)

/-- **Line endings do not matter.**  Two texts with the same lines, each ended in any way in which no
two neighbours merge, give the same batch or the same error, that of the lines by themselves, and the
same columns of every table. -/
theorem read_eq_of_contents_eq {v w : LineLayout} {lines : List Text} (hv : v.contents = lines)
    (hw : w.contents = lines) :
    (∀ o, Batch.ofText o v.text = Batch.ofLines o lines ∧
      Batch.ofText o w.text = Batch.ofLines o lines) ∧
    ∀ table, ColumnList.ofSchema table v.text = ColumnList.ofSchema table w.text := by
  have hv' : Text.lines v.text = lines := v.lines_text.trans hv
  have hw' : Text.lines w.text = lines := w.lines_text.trans hw
  refine ⟨fun o => ⟨?_, ?_⟩, fun table => ?_⟩
  · rw [Batch.ofText, hv']
  · rw [Batch.ofText, hw']
  · have hnames : Schema.columnNames table v.text = Schema.columnNames table w.text := by
      rw [Schema.columnNames, Schema.columnNames, hv', hw']
    cases hcolumns : ColumnList.ofSchema table w.text with
    | ok l =>
      rw [ColumnList.ofSchema_eq_ok_iff] at hcolumns ⊢
      rwa [hnames]
    | error e =>
      rw [ColumnList.ofSchema_eq_error_iff] at hcolumns ⊢
      rwa [hnames]

/-- Three lines of rows, the second one empty: both texts name the third one in their error.  Four lines
of a schema, the third one empty: both texts have the columns of the table. -/
theorem read_eq_of_mixed_endings :
    Batch.ofText {} "143\r\n\u2028bad".toList =
      .error ⟨3, .invalidInteger .spell "bad".toList⟩ ∧
    Batch.ofText {} "143\r\x0bbad\x1c".toList =
      .error ⟨3, .invalidInteger .spell "bad".toList⟩ ∧
    (ColumnList.ofSchema "t".toList
        "CREATE TABLE \x60t\x60 (\r\n\x60a\x60 int,\u2028\n\x60b\x60 int".toList).map (·.columns) =
      .ok ["a".toList, "b".toList] ∧
    (ColumnList.ofSchema "t".toList
        "CREATE TABLE \x60t\x60 (\x0b\x60a\x60 int,\r\x1c\x60b\x60 int\r\n".toList).map (·.columns) =
      .ok ["a".toList, "b".toList] := by
  let rows : List Text := ["143".toList, [], "bad".toList]
  let v : LineLayout := .checked
    [.checked "143".toList .crlf (by decide), .checked [] (.single '\u2028' (by decide)) (by decide)]
    "bad".toList (by decide) (by decide)
  let w : LineLayout := .checked
    [.checked "143".toList (.single '\r' (by decide)) (by decide),
      .checked [] (.single '\x0b' (by decide)) (by decide),
      .checked "bad".toList (.single '\x1c' (by decide)) (by decide)]
    [] (by decide) (by decide)
  have hv : v.contents = rows := by decide
  have hw : w.contents = rows := by decide
  have hrows : Batch.ofLines {} rows = .error ⟨3, .invalidInteger .spell "bad".toList⟩ := by rfl
  obtain ⟨hbatch, -⟩ := read_eq_of_contents_eq hv hw
  let start : Text := "CREATE TABLE \x60t\x60 (".toList
  let first : Text := "\x60a\x60 int,".toList
  let second : Text := "\x60b\x60 int".toList
  let v' : LineLayout := .checked
    [.checked start .crlf (by decide), .checked first (.single '\u2028' (by decide)) (by decide),
      .checked [] (.single '\n' (by decide)) (by decide)]
    second (by decide) (by decide)
  let w' : LineLayout := .checked
    [.checked start (.single '\x0b' (by decide)) (by decide),
      .checked first (.single '\r' (by decide)) (by decide),
      .checked [] (.single '\x1c' (by decide)) (by decide), .checked second .crlf (by decide)]
    [] (by decide) (by decide)
  have hv' : v'.contents = [start, first, [], second] := by decide
  have hw' : w'.contents = [start, first, [], second] := by decide
  have hcolumns : (ColumnList.ofSchema "t".toList v'.text).map (·.columns) =
      .ok ["a".toList, "b".toList] := by rfl
  obtain ⟨-, hschema⟩ := read_eq_of_contents_eq hv' hw'
  exact ⟨(hbatch {}).1.trans hrows, (hbatch {}).2.trans hrows, hcolumns,
    hschema "t".toList ▸ hcolumns⟩

end TomeSql
