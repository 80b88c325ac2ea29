/-
  Where the block of a table ends, and where the table itself does.

  1. **Own lines** — a table's own lines are those behind its start marker and in front of the next line
     that is a start marker of any table (`AnyStart`).

  2. **The block** — reading looks for one of three words at the beginning of a line and does not look for
     start markers.  So the block lies within the own lines when one of them begins with such a word, and
     takes in all of them and goes on behind them when none does (`isBlock_of_closed`,
     `isBlock_of_not_closed`).

  3. **Main result (`columns_sublist_own_iff`)** — the columns are those of the own lines exactly when the
     block ends among them, or when no column line stands between them and its end.

  4. **Refuted** — that they always are, and that tables without a column twice give columns without one
     twice (`not_forall_columns_own`).  A table that ends with its last key, without a line for the closing
     parenthesis, takes the columns of the next one.
-/
import TomeSql.Proofs.Schema.Extraction

namespace TomeSql

namespace Schema

/-! ## Own lines -/

/-- A start marker, of whatever table. -/
def AnyStart (line : Text) : Prop := ∃ table, StartMarker table line

/-- A line without the words for a table starts none. -/
theorem not_anyStart_of_eq_none {line : Text} (h : afterCreateTable? line = none) : ¬ AnyStart line := by
  rintro ⟨table, hstart⟩
  obtain ⟨behind, -, hafter⟩ := hstart.exists_after
  rw [h] at hafter
  cases hafter

/-- The block ends among the own lines of the table, or there is no column line between them and its
end. -/
def StaysWithin (own spilled : List Text) : Prop :=
  (∃ l ∈ own, BlockEnd l) ∨ ∀ l ∈ spilled, ∀ name, ¬ ColumnLine name l

variable {table start : Text} {lines before rest own after spilled beyond : List Text}

/-- A line that ends a block among the own lines ends the block there. -/
theorem isBlock_of_closed (hstart : CutAt (StartMarker table) lines before (start :: rest))
    (hown : CutAt AnyStart rest own after) (hclosed : ∃ l ∈ own, BlockEnd l) {body more : List Text}
    (hbody : CutAt BlockEnd own body more) : IsBlock table lines body := by
  have hrest : CutAt BlockEnd rest body (more ++ after) := by
    rw [hown.eq_append]
    exact hbody.append_right hclosed after
  exact ⟨before, start, rest, more ++ after, hstart, hrest⟩

/-- Without such a line the block goes on behind the own lines. -/
theorem isBlock_of_not_closed (hstart : CutAt (StartMarker table) lines before (start :: rest))
    (hown : CutAt AnyStart rest own after) (hopen : ∀ l ∈ own, ¬ BlockEnd l)
    (hspilled : CutAt BlockEnd after spilled beyond) : IsBlock table lines (own ++ spilled) := by
  have hrest : CutAt BlockEnd rest (own ++ spilled) beyond := by
    rw [hown.eq_append]
    exact hspilled.append_left hopen
  exact ⟨before, start, rest, beyond, hstart, hrest⟩

/-! ## Tables without a column twice -/

/-- Between a start marker and the next one, or the end, no column is declared twice. -/
def SectionsDistinct (lines : List Text) : Prop :=
  ∀ before start rest, lines = before ++ start :: rest → AnyStart start →
    ∀ own after, CutAt AnyStart rest own after → (declared own).Nodup

theorem sectionsDistinct_nil : SectionsDistinct [] := by
  intro before start rest hcut
  simp at hcut

/-- A line in front keeps tables without a column twice, if it starts one or none. -/
theorem sectionsDistinct_cons {line : Text} (hlines : SectionsDistinct lines)
    (hline : AnyStart line → ∃ own after, CutAt AnyStart lines own after ∧ (declared own).Nodup) :
    SectionsDistinct (line :: lines) := by
  refine forall_cut_cons_iff.mpr ⟨?_, hlines⟩
  intro hstart own after hown
  obtain ⟨own', after', hown', hnodup⟩ := hline hstart
  obtain ⟨rfl, -⟩ := hown.unique hown'
  exact hnodup

theorem sectionsDistinct_cons_of_none {line : Text} (hlines : SectionsDistinct lines)
    (hline : afterCreateTable? line = none) : SectionsDistinct (line :: lines) :=
  sectionsDistinct_cons hlines fun hstart => absurd hstart (not_anyStart_of_eq_none hline)

end Schema

namespace ColumnList

open Schema

variable {table schema start : Text} {l : ColumnList}
  {before rest own after spilled beyond body more : List Text}

/-! ## The columns -/

/-- The columns that are read are those of the block. -/
theorem columns_eq_of_isBlock (hread : ofSchema table schema = .ok l)
    (hblock : IsBlock table (Text.lines schema) body) : l.columns = declared body := by
  obtain ⟨-, hcolumns⟩ := ofSchema_eq_ok_iff.mp hread
  rw [hcolumns, hblock.columnNames_eq]

/-- A block that ends among the own lines of its table gives no other column. -/
theorem columns_sublist_of_closed (hread : ofSchema table schema = .ok l)
    (hstart : CutAt (StartMarker table) (Text.lines schema) before (start :: rest))
    (hown : CutAt AnyStart rest own after) (hclosed : ∃ line ∈ own, BlockEnd line) :
    l.columns.Sublist (declared own) := by
  obtain ⟨body, more, hbody⟩ := exists_cutAt BlockEnd own
  have hcolumns := columns_eq_of_isBlock hread (isBlock_of_closed hstart hown hclosed hbody)
  rw [hcolumns, hbody.eq_append, declared_append]
  exact List.sublist_append_left _ _

/-- A block that does not end there gives the columns behind them as well, up to the next line that ends
a block. -/
theorem columns_eq_of_not_closed (hread : ofSchema table schema = .ok l)
    (hstart : CutAt (StartMarker table) (Text.lines schema) before (start :: rest))
    (hown : CutAt AnyStart rest own after) (hopen : ∀ line ∈ own, ¬ BlockEnd line)
    (hspilled : CutAt BlockEnd after spilled beyond) :
    l.columns = declared own ++ declared spilled := by
  have hblock := isBlock_of_not_closed hstart hown hopen hspilled
  rw [columns_eq_of_isBlock hread hblock, declared_append]

/-- So the columns are the table's own exactly where its block ends among its own lines, or no column
line is spilled into it. -/
theorem columns_sublist_iff_staysWithin (hread : ofSchema table schema = .ok l)
    (hstart : CutAt (StartMarker table) (Text.lines schema) before (start :: rest))
    (hown : CutAt AnyStart rest own after) (hspilled : CutAt BlockEnd after spilled beyond) :
    l.columns.Sublist (declared own) ↔ StaysWithin own spilled := by
  by_cases hclosed : ∃ line ∈ own, BlockEnd line
  · have hsublist := columns_sublist_of_closed hread hstart hown hclosed
    exact ⟨fun _ => Or.inl hclosed, fun _ => hsublist⟩
  · have hopen : ∀ line ∈ own, ¬ BlockEnd line := fun line hline hend => hclosed ⟨line, hline, hend⟩
    have hcolumns := columns_eq_of_not_closed hread hstart hown hopen hspilled
    rw [StaysWithin, ← declared_eq_nil_iff]
    constructor
    · intro hsublist
      -- a list is no longer than one that it is a part of
      have hlength := hsublist.length_le
      rw [hcolumns, List.length_append] at hlength
      exact Or.inr (List.length_eq_zero_iff.mp (by omega))
    · intro hwithin
      rcases hwithin with hyes | hnone
      · exact absurd hyes hclosed
      · rw [hcolumns, hnone, List.append_nil]

/-- **Columns of a table and columns of the next one.**  The columns that are read are those of the
table's own lines exactly when one of these ends the block, or when no column line stands between them
and the line that does.  In the first case they are those in front of that line; where no own line ends
the block, they are all of the own ones and, behind them, those of other tables.  Columns of own lines
only are each declared by an own line, and none is there twice if no own line declares one again. -/
theorem columns_sublist_own_iff (hread : ofSchema table schema = .ok l)
    (hstart : CutAt (StartMarker table) (Text.lines schema) before (start :: rest))
    (hown : CutAt AnyStart rest own after) (hspilled : CutAt BlockEnd after spilled beyond) :
    (l.columns.Sublist (declared own) ↔ StaysWithin own spilled) ∧
    ((∃ line ∈ own, BlockEnd line) → ∀ body more, CutAt BlockEnd own body more →
      l.columns = declared body) ∧
    ((∀ line ∈ own, ¬ BlockEnd line) → l.columns = declared own ++ declared spilled) ∧
    (StaysWithin own spilled → (∀ name ∈ l.columns, ∃ line ∈ own, ColumnLine name line) ∧
      ((declared own).Nodup → l.columns.Nodup)) := by
  have hiff := columns_sublist_iff_staysWithin hread hstart hown hspilled
  refine ⟨hiff, fun hclosed body more hbody => ?_, fun hopen => ?_, fun hwithin => ⟨?_, ?_⟩⟩
  · exact columns_eq_of_isBlock hread (isBlock_of_closed hstart hown hclosed hbody)
  · exact columns_eq_of_not_closed hread hstart hown hopen hspilled
  · intro name hname
    exact mem_declared_iff.mp ((hiff.mpr hwithin).subset hname)
  · intro hnodup
    exact hnodup.sublist (hiff.mpr hwithin)

end ColumnList

/-! ## Two tables -/

namespace Schema

/-- Two tables.  The first one is closed in the line of its last key, the second one in a line of its
own. -/
def twoTables : Text :=
  ("CREATE TABLE \x60t\x60 (\n\x60a\x60 int,\nUNIQUE KEY (\x60a\x60));\n".toList ++
    "CREATE TABLE \x60u\x60 (\n\x60a\x60 int,\n\x60b\x60 int\n);\n".toList)

/-- The own lines of the first table. -/
def firstOwn : List Text := ["\x60a\x60 int,".toList, "UNIQUE KEY (\x60a\x60));".toList]

/-- The start marker of the second table. -/
def secondStart : Text := "CREATE TABLE \x60u\x60 (".toList

/-- The own lines of the second table. -/
def secondOwn : List Text := ["\x60a\x60 int,".toList, "\x60b\x60 int".toList, ");".toList]

theorem lines_twoTables : Text.lines twoTables =
    "CREATE TABLE \x60t\x60 (".toList :: (firstOwn ++ secondStart :: secondOwn) := by decide

theorem anyStart_secondStart : AnyStart secondStart := ⟨"u".toList, isTableStart_iff.mp (by decide)⟩

theorem cutAt_firstStart : CutAt (StartMarker "t".toList) (Text.lines twoTables) []
    ("CREATE TABLE \x60t\x60 (".toList :: (firstOwn ++ secondStart :: secondOwn)) := by
  rw [lines_twoTables, cutAt_iff not_isTableStart_iff]
  decide

theorem cutAt_secondStart : CutAt (StartMarker "u".toList) (Text.lines twoTables)
    ("CREATE TABLE \x60t\x60 (".toList :: firstOwn) (secondStart :: secondOwn) := by
  rw [lines_twoTables, cutAt_iff not_isTableStart_iff]
  decide

theorem cutAt_firstOwn :
    CutAt AnyStart (firstOwn ++ secondStart :: secondOwn) firstOwn (secondStart :: secondOwn) := by
  have hnone : ∀ line ∈ firstOwn, afterCreateTable? line = none := by decide
  refine ⟨rfl, fun line hline => not_anyStart_of_eq_none (hnone line hline), ?_⟩
  rintro line ⟨⟩
  exact anyStart_secondStart

theorem cutAt_secondOwn : CutAt AnyStart secondOwn secondOwn [] := by
  have hnone : ∀ line ∈ secondOwn, afterCreateTable? line = none := by decide
  exact ⟨rfl, fun line hline => not_anyStart_of_eq_none (hnone line hline), nofun⟩

/-- Each table by itself declares no column twice. -/
theorem sectionsDistinct_twoTables : SectionsDistinct (Text.lines twoTables) := by
  rw [lines_twoTables]
  refine sectionsDistinct_cons ?_ fun _ => ⟨firstOwn, _, cutAt_firstOwn, by decide⟩
  refine sectionsDistinct_cons_of_none (sectionsDistinct_cons_of_none ?_ (by decide)) (by decide)
  refine sectionsDistinct_cons ?_ fun _ => ⟨secondOwn, _, cutAt_secondOwn, by decide⟩
  refine sectionsDistinct_cons_of_none (sectionsDistinct_cons_of_none ?_ (by decide)) (by decide)
  exact sectionsDistinct_cons_of_none sectionsDistinct_nil (by decide)

end Schema

namespace ColumnList

open Schema

/-- The first block has no end of its own, and so runs on into the second one. -/
theorem ofSchema_first : ofSchema "t".toList twoTables =
    .ok ⟨"t".toList, ["a".toList, "a".toList, "b".toList], by decide⟩ := by
  rw [ofSchema_eq_ok_iff, columnNames, lines_twoTables]
  exact ⟨rfl, by decide⟩

/-- The second one is read as it stands. -/
theorem ofSchema_second : ofSchema "u".toList twoTables =
    .ok ⟨"u".toList, ["a".toList, "b".toList], by decide⟩ := by
  rw [ofSchema_eq_ok_iff, columnNames, lines_twoTables]
  exact ⟨rfl, by decide⟩

/-- The columns of the second table are its own, and those of the first one are not. -/
theorem columns_own_of_twoTables :
    ["a".toList, "b".toList].Sublist (declared secondOwn) ∧ ["a".toList, "b".toList].Nodup ∧
      ¬ ["a".toList, "a".toList, "b".toList].Sublist (declared firstOwn) := by
  have hend : CutAt BlockEnd (secondStart :: secondOwn)
      [secondStart, "\x60a\x60 int,".toList, "\x60b\x60 int".toList] [");".toList] :=
    (cutAt_iff not_isBlockEnd_iff).mpr (by decide)
  have hnil : CutAt BlockEnd [] [] [] := (cutAt_iff not_isBlockEnd_iff).mpr (by decide)
  obtain ⟨hsecond, -, -, hgood⟩ :=
    columns_sublist_own_iff ofSchema_second cutAt_secondStart cutAt_secondOwn hnil
  obtain ⟨hfirst, -, -, -⟩ :=
    columns_sublist_own_iff ofSchema_first cutAt_firstStart cutAt_firstOwn hend
  have hwithin : StaysWithin secondOwn [] :=
    Or.inl ⟨");".toList, by decide, isBlockEnd_iff.mp (by decide)⟩
  refine ⟨hsecond.mpr hwithin, (hgood hwithin).2 (by decide), fun hsublist => ?_⟩
  rcases hfirst.mp hsublist with ⟨line, hline, hblockEnd⟩ | hnone
  · have hnot : ∀ line ∈ firstOwn, isBlockEnd line = false := by decide
    rw [← isBlockEnd_iff, hnot line hline] at hblockEnd
    cases hblockEnd
  · rw [← declared_eq_nil_iff] at hnone
    exact absurd hnone (by decide)

/-- The columns of the first table are read as its `a`, and then `a` and `b` of the second one. -/
theorem not_forall_columns_own :
    (¬ ∀ (table schema : Text) (l : ColumnList) (before rest own after : List Text) (start : Text),
      ofSchema table schema = .ok l →
      CutAt (StartMarker table) (Text.lines schema) before (start :: rest) →
      CutAt AnyStart rest own after → ∀ name ∈ l.columns, ∃ line ∈ own, ColumnLine name line) ∧
    ¬ ∀ (table schema : Text) (l : ColumnList), ofSchema table schema = .ok l →
      SectionsDistinct (Text.lines schema) → l.columns.Nodup := by
  constructor
  · intro h
    have hb := h _ _ _ _ _ _ _ _ ofSchema_first cutAt_firstStart cutAt_firstOwn "b".toList (by decide)
    rw [← mem_declared_iff] at hb
    exact absurd hb (by decide)
  · intro h
    have hnodup := h _ _ _ ofSchema_first sectionsDistinct_twoTables
    exact absurd hnodup (by decide)

end ColumnList

end TomeSql
