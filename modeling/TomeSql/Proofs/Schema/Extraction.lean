/-
  What is read from a schema, said by the grammar of its lines alone.

  1. **Names in a start marker (`StartMarker.unique`)** — the name is what stands between the first and
     the last backtick of the line, whatever it holds, so that a line is a start marker of one table at
     most.

  2. **The block (`IsBlock`)** — the lines behind the first start marker of the table, up to the first of
     them that ends a block, or up to the end of the text.  It is where the two searches of a reading stop
     (`IsBlock.block_eq`).

  3. **Main result (`ofSchema_grammar`)** — the columns are the names of the column lines of that block,
     in order.  Without a start marker, or without a column line in the block, there are none, and that is
     an error.
-/
import TomeSql.Proofs.Cuts
import TomeSql.Proofs.Schema.Surroundings

namespace TomeSql

namespace Schema

open Text (Blank)

/-! ## The name in a start marker -/

theorem backtick_not_mem_of_blank {t : Text} (h : Blank t) : '\x60' ∉ t := by
  intro hmem
  have hwhite := h '\x60' hmem
  exact absurd hwhite (by decide)

/-- What stands behind the words of a start marker is the name between its backticks, and then nothing with
a backtick. -/
theorem StartMarker.exists_after {table line : Text} (h : StartMarker table line) :
    ∃ behind, '\x60' ∉ behind ∧ afterCreateTable? line = some (Sql.name table ++ behind) := by
  obtain ⟨a, b, c, d, ha, hb, hne, hc, hd, rfl⟩ := h
  refine ⟨c ++ '(' :: d, ?_, ?_⟩
  · intro hmem
    rcases List.mem_append.mp hmem with hmem | hmem
    · exact backtick_not_mem_of_blank hc hmem
    · rcases List.mem_cons.mp hmem with hparenthesis | hmem
      · exact absurd hparenthesis (by decide)
      · exact backtick_not_mem_of_blank hd hmem
  · exact afterCreateTable?_eq_some_iff.mpr ⟨a, b, ha, hb, hne, beginsDark_name table _, by simp⟩

/-- A line is a start marker of one table at most. -/
theorem StartMarker.unique {table table' line : Text} (h : StartMarker table line)
    (h' : StartMarker table' line) : table = table' := by
  obtain ⟨behind, hbehind, hafter⟩ := h.exists_after
  obtain ⟨behind', hbehind', hafter'⟩ := h'.exists_after
  rw [hafter, Option.some.injEq] at hafter'
  have hnames : '\x60' :: table ++ '\x60' :: behind = '\x60' :: table' ++ '\x60' :: behind' := by
    simpa [Sql.name] using hafter'
  obtain ⟨hname, -⟩ := Text.eq_of_sep_append hbehind hbehind' hnames
  exact (List.cons.inj hname).2

/-! ## The block -/

/-- The lines of the table's block: those behind its first start marker and in front of the first of
them that ends a block. -/
def IsBlock (table : Text) (lines body : List Text) : Prop :=
  ∃ before start rest after, CutAt (StartMarker table) lines before (start :: rest) ∧
    CutAt BlockEnd rest body after

theorem not_isTableStart_iff {table : Text} (l : Text) :
    (!isTableStart table l) = true ↔ ¬ StartMarker table l := by
  rw [Bool.not_eq_true', ← Bool.not_eq_true, isTableStart_iff]

theorem not_isBlockEnd_iff (l : Text) : (!isBlockEnd l) = true ↔ ¬ BlockEnd l := by
  rw [Bool.not_eq_true', ← Bool.not_eq_true, isBlockEnd_iff]

variable {table : Text} {lines body : List Text}

/-- The two searches stop where the block begins and ends. -/
theorem IsBlock.block_eq (h : IsBlock table lines body) : block table lines = body := by
  obtain ⟨before, start, rest, after, hstart, hbody⟩ := h
  obtain ⟨-, hrest⟩ := (cutAt_iff not_isTableStart_iff).mp hstart
  obtain ⟨hbody, -⟩ := (cutAt_iff not_isBlockEnd_iff).mp hbody
  rw [block, ← hrest, List.drop_one, List.tail_cons, hbody]

/-- Without a start marker nothing is read. -/
theorem block_eq_nil (h : ∀ body, ¬ IsBlock table lines body) : block table lines = [] := by
  obtain ⟨before, found, hstart⟩ := exists_cutAt (StartMarker table) lines
  cases found with
  | nil =>
    obtain ⟨-, hnone⟩ := (cutAt_iff not_isTableStart_iff).mp hstart
    rw [block, ← hnone]
    rfl
  | cons start rest =>
    obtain ⟨body, after, hbody⟩ := exists_cutAt BlockEnd rest
    exact absurd ⟨before, start, rest, after, hstart, hbody⟩ (h body)

theorem IsBlock.not_blockEnd (h : IsBlock table lines body) : ∀ l ∈ body, ¬ BlockEnd l := by
  obtain ⟨before, start, rest, after, -, hbody⟩ := h
  exact hbody.not_stop

theorem IsBlock.mem_lines (h : IsBlock table lines body) : ∀ l ∈ body, l ∈ lines := by
  obtain ⟨before, start, rest, after, ⟨rfl, -, -⟩, ⟨rfl, -, -⟩⟩ := h
  intro l hl
  simp [hl]

/-! ## The names -/

/-- The names of the column lines among `lines`, in order. -/
def declared (lines : List Text) : List Text := lines.filterMap columnName?

theorem mem_declared_iff {name : Text} : name ∈ declared lines ↔ ∃ l ∈ lines, ColumnLine name l := by
  simp only [declared, List.mem_filterMap, columnName?_eq_some_iff]

theorem declared_append (xs ys : List Text) : declared (xs ++ ys) = declared xs ++ declared ys :=
  List.filterMap_append

/-- Lines without a column line declare nothing. -/
theorem declared_eq_nil_iff : declared lines = [] ↔ ∀ l ∈ lines, ∀ name, ¬ ColumnLine name l := by
  simp only [List.eq_nil_iff_forall_not_mem, mem_declared_iff, not_exists, not_and]
  exact ⟨fun h l hl name => h name l hl, fun h name l hl => h l hl name⟩

/-- Lines of which none ends a block declare the names of the column lines among them. -/
theorem declares_iff {names : List Text} :
    Declares body names ↔ (∀ l ∈ body, ¬ BlockEnd l) ∧ names = declared body := by
  constructor
  · intro h
    induction h with
    | nil => exact ⟨List.forall_mem_nil _, rfl⟩
    | column hcolumn _ ih =>
      obtain ⟨hends, rfl⟩ := ih
      refine ⟨List.forall_mem_cons.mpr ⟨hcolumn.not_blockEnd, hends⟩, ?_⟩
      exact (List.filterMap_cons_some (columnName?_eq_some_iff.mpr hcolumn)).symm
    | other hcolumn hend _ ih =>
      obtain ⟨hends, rfl⟩ := ih
      refine ⟨List.forall_mem_cons.mpr ⟨hend, hends⟩, ?_⟩
      exact (List.filterMap_cons_none (columnName?_eq_none_iff.mpr hcolumn)).symm
  · rintro ⟨hends, rfl⟩
    induction body with
    | nil => exact .nil
    | cons l body ih =>
      obtain ⟨hend, hends⟩ := List.forall_mem_cons.mp hends
      cases hname : columnName? l with
      | some name =>
        rw [declared, List.filterMap_cons_some hname]
        exact .column (columnName?_eq_some_iff.mp hname) (ih hends)
      | none =>
        rw [declared, List.filterMap_cons_none hname]
        exact .other (columnName?_eq_none_iff.mp hname) hend (ih hends)

/-- The names that are read are those that the block declares. -/
theorem IsBlock.columnNames_eq {schema : Text} (h : IsBlock table (Text.lines schema) body) :
    columnNames table schema = declared body := by
  rw [columnNames, h.block_eq, declared]

/-- Names are read exactly where the table has a block with a column line. -/
theorem columnNames_ne_nil_iff {schema : Text} : columnNames table schema ≠ [] ↔
    ∃ body, IsBlock table (Text.lines schema) body ∧ ∃ l ∈ body, ∃ name, ColumnLine name l := by
  constructor
  · intro hne
    by_cases hblock : ∃ body, IsBlock table (Text.lines schema) body
    · obtain ⟨body, hbody⟩ := hblock
      obtain ⟨name, hname⟩ := List.exists_mem_of_ne_nil _ hne
      rw [hbody.columnNames_eq, mem_declared_iff] at hname
      obtain ⟨l, hl, hcolumn⟩ := hname
      exact ⟨body, hbody, l, hl, name, hcolumn⟩
    · have hnone : columnNames table schema = [] := by
        rw [columnNames, block_eq_nil (not_exists.mp hblock)]
        rfl
      exact absurd hnone hne
  · rintro ⟨body, hbody, l, hl, name, hcolumn⟩
    have hname : name ∈ columnNames table schema := by
      rw [hbody.columnNames_eq]
      exact mem_declared_iff.mpr ⟨l, hl, hcolumn⟩
    exact List.ne_nil_of_mem hname

/-- A column line of a schema gives a name without backticks and breaks. -/
theorem ColumnLine.name_clean {name line : Text} (h : ColumnLine name line)
    (hline : ∀ c ∈ line, Text.isLineBreak c = false) :
    name ≠ [] ∧ '\x60' ∉ name ∧ ∀ c ∈ name, Text.isLineBreak c = false := by
  obtain ⟨a, b, rest, -, -, -, hne, hbacktick, rfl⟩ := h
  refine ⟨hne, hbacktick, ?_⟩
  intro c hc
  apply hline
  simp [Sql.name, hc]

end Schema

namespace ColumnList

open Schema

/-- Reading a schema gives the columns that the block of the table declares. -/
theorem ofSchema_eq_ok_iff_declares {table schema : Text} {l : ColumnList} :
    ofSchema table schema = .ok l ↔ l.table = table ∧
      ∃ body, IsBlock table (Text.lines schema) body ∧ Declares body l.columns := by
  rw [ofSchema_eq_ok_iff]
  refine and_congr_right fun _ => ⟨?_, ?_⟩
  · intro hcolumns
    have hne : columnNames table schema ≠ [] := hcolumns ▸ l.columns_ne_nil
    obtain ⟨body, hbody, -⟩ := columnNames_ne_nil_iff.mp hne
    refine ⟨body, hbody, declares_iff.mpr ⟨hbody.not_blockEnd, ?_⟩⟩
    rw [hcolumns, hbody.columnNames_eq]
  · rintro ⟨body, hbody, hdeclares⟩
    obtain ⟨-, hcolumns⟩ := declares_iff.mp hdeclares
    rw [hcolumns, hbody.columnNames_eq]

theorem exists_ofSchema_eq_ok_iff {table schema : Text} :
    (∃ l, ofSchema table schema = .ok l) ↔ columnNames table schema ≠ [] := by
  constructor
  · rintro ⟨l, hl⟩
    obtain ⟨-, hcolumns⟩ := ofSchema_eq_ok_iff.mp hl
    exact hcolumns ▸ l.columns_ne_nil
  · intro hne
    exact ⟨⟨table, columnNames table schema, hne⟩, ofSchema_eq_ok_iff.mpr ⟨rfl, rfl⟩⟩

/-- **Columns by the grammar.**  Reading succeeds exactly when there is a start marker of the table and a
column line in the block behind it, and then gives the names that the block declares, in order, each of
them not empty and free of backticks and breaks.  In all other cases the columns of the table are reported
as missing.  A line is a start marker of one table at most, and no column line ends a block. -/
theorem ofSchema_grammar (table schema : Text) :
    (∀ l, ofSchema table schema = .ok l ↔ l.table = table ∧
      ∃ body, IsBlock table (Text.lines schema) body ∧ Declares body l.columns) ∧
    ((∃ l, ofSchema table schema = .ok l) ↔
      ∃ body, IsBlock table (Text.lines schema) body ∧ ∃ line ∈ body, ∃ name, ColumnLine name line) ∧
    (∀ l, ofSchema table schema = .ok l → ∀ name ∈ l.columns,
      name ≠ [] ∧ '\x60' ∉ name ∧ ∀ c ∈ name, Text.isLineBreak c = false) ∧
    ((¬ ∃ body, IsBlock table (Text.lines schema) body ∧ ∃ line ∈ body, ∃ name, ColumnLine name line) →
      ofSchema table schema = .error (.missingColumns table)) ∧
    (∀ other line, StartMarker table line → StartMarker other line → table = other) ∧
    ∀ name line, ColumnLine name line → ¬ BlockEnd line := by
  refine ⟨fun l => ofSchema_eq_ok_iff_declares, ?_, ?_, ?_, fun _ _ => StartMarker.unique,
    fun _ _ => ColumnLine.not_blockEnd⟩
  · rw [exists_ofSchema_eq_ok_iff, columnNames_ne_nil_iff]
  · -- the lines of a text hold no breaks
    intro l hl name hname
    obtain ⟨-, body, hbody, hdeclares⟩ := ofSchema_eq_ok_iff_declares.mp hl
    obtain ⟨-, hcolumns⟩ := declares_iff.mp hdeclares
    rw [hcolumns, mem_declared_iff] at hname
    obtain ⟨line, hline, hcolumn⟩ := hname
    exact hcolumn.name_clean (Text.not_isLineBreak_of_mem_lines (hbody.mem_lines line hline))
  · intro hnone
    rw [ofSchema_eq_error_iff]
    refine ⟨?_, rfl⟩
    by_contra hne
    exact hnone (columnNames_ne_nil_iff.mp hne)

/-- A name with a backtick and a parenthesis; a line with an empty name, which declares nothing; and a block
that only the end of the text ends.  Another table has no column line in front of its end. -/
theorem ofSchema_grammar_of_open_block :
    ofSchema "a\x60(".toList
        "CREATE TABLE \x60a\x60(\x60(\n\x60\x60 int\n\x60x y\x60\tint,\rKEYS\n\x60z\x60 ".toList =
      .ok ⟨"a\x60(".toList, ["x y".toList, "z".toList], by decide⟩ ∧
    ofSchema "b".toList "CREATE TABLE \x60b\x60 (\n KEY (\x60x\x60),\n\x60x\x60 int\n".toList =
      .error (.missingColumns "b".toList) := by
  have hlines : Text.lines
      "CREATE TABLE \x60a\x60(\x60(\n\x60\x60 int\n\x60x y\x60\tint,\rKEYS\n\x60z\x60 ".toList =
        "CREATE TABLE \x60a\x60(\x60(".toList ::
          ["\x60\x60 int".toList, "\x60x y\x60\tint,".toList, "KEYS".toList, "\x60z\x60 ".toList] := by
    decide
  have hblock : IsBlock "a\x60(".toList (Text.lines
      "CREATE TABLE \x60a\x60(\x60(\n\x60\x60 int\n\x60x y\x60\tint,\rKEYS\n\x60z\x60 ".toList)
        ["\x60\x60 int".toList, "\x60x y\x60\tint,".toList, "KEYS".toList, "\x60z\x60 ".toList] := by
    rw [hlines]
    refine ⟨[], _, _, [], (cutAt_iff not_isTableStart_iff).mpr ⟨by decide, rfl⟩, ?_⟩
    exact (cutAt_iff not_isBlockEnd_iff).mpr (by decide)
  refine ⟨((ofSchema_grammar _ _).1 _).mpr ⟨rfl, _, hblock, ?_⟩, ?_⟩
  · exact declares_iff.mpr ⟨hblock.not_blockEnd, by decide⟩
  · refine (ofSchema_grammar _ _).2.2.2.1 ?_
    rw [← columnNames_ne_nil_iff]
    decide

end ColumnList

end TomeSql
