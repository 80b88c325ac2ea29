/-
  Scripts piece by piece: no text that goes into a script is read as anything but what it is meant
  to be.

  1. **Comments** — the time and the numbers at the top hold no line feed, and neither do the names in
     the headings, so each comment ends where it is meant to.

  2. **Layout (`Script.lexemes`)** — the pieces of a script in order.  It is read as these when each
     backtick in its names is doubled (`Script.reads`), and only then, since every name that is read
     is of this kind (`isWritten_of_lex_eq`).

  3. **Statements (`splitStatements_lexemes`)** — the `delete`, then the clones in order.

  4. **Main result (`Generation.lex_render_iff`)** — the columns of a schema hold no backtick at all, so
     all is settled by the table and the key column, which are given as SQL writes them.

  5. **Refuted** — that nothing has to be asked of the settings (`Generation.splitStatements_too_long`).
-/
import TomeSql.Proofs.Generation
import TomeSql.Proofs.Script.Injective
import TomeSql.Proofs.Sql.Layout

namespace TomeSql

/-! ## Comments -/

theorem Timestamp.newline_not_mem_render (t : Timestamp) : '\n' ∉ t.render := by
  have hpadded : ∀ width n, '\n' ∉ Decimal.padded width n := Decimal.not_mem_padded (by decide)
  have hyear : ∀ y, '\n' ∉ Date.yearText y := by
    intro y
    rw [Date.yearText]
    split
    · simp [hpadded]
    · split <;> simp [hpadded]
  simp [Timestamp.render, Date.render, hpadded, hyear]

namespace Script

open Sql

/-- What the comment lines at the top say. -/
def headerTexts (s : Script) : List Text :=
  [ "Generated by tomesmith at ".toList ++ s.generatedAt.render,
    "Template entry: ".toList ++ Decimal.ofNat s.policy.template.toNat,
    "ScriptName: ".toList ++ s.policy.scriptName,
    "Dummy spell: ".toList ++ Decimal.ofNat s.policy.dummySpell.toNat,
    "AllowableClass: ".toList ++ Decimal.ofInt s.policy.allowableClass.toInt,
    "AllowableRace: ".toList ++ orUnchanged s.policy.allowableRace,
    "RequiredLevel: ".toList ++ orUnchanged s.policy.requiredLevel ]

theorem header_eq_flatMap (s : Script) :
    s.header = s.headerTexts.flatMap fun t => "-- ".toList ++ (t ++ ['\n']) := by
  simp [header, headerTexts, comment]

/-- No text of the header holds a line feed, if the script's name holds none. -/
theorem newline_not_mem_headerTexts {s : Script} (h : '\n' ∉ s.policy.scriptName) :
    ∀ t ∈ s.headerTexts, '\n' ∉ t := by
  have hnat : ∀ n, '\n' ∉ Decimal.ofNat n := Decimal.not_mem_ofNat (by decide)
  have hint : ∀ n, '\n' ∉ Decimal.ofInt n := Decimal.not_mem_ofInt (by decide) (by decide)
  have hor : ∀ n, '\n' ∉ orUnchanged n := by
    intro n
    cases n with
    | none =>
      have hnote : '\n' ∉ "(unchanged)".toList := by decide
      exact hnote
    | some n => exact hint _
  simp [headerTexts, Timestamp.newline_not_mem_render, hnat, hint, hor, h]

/-! ## Layout -/

/-- What the record of a tome is meant to be. -/
def recordLexemes (p : Policy) (columns : ColumnList) (t : Tome) : List Lexeme :=
  [.comment (headingText t)] ++ (insertion p columns t).lexemes ++ codeText ";\n\n".toList

/-- What a script is meant to be. -/
def lexemes (s : Script) : List Lexeme :=
  s.headerTexts.map .comment ++ codeText "\n".toList ++ (deletion s.policy s.tomes).lexemes ++
  codeText ";\n\n".toList ++ s.tomes.flatMap (recordLexemes s.policy s.columns)

variable {p : Policy} {columns : ColumnList} {s : Script}

/-- A record reads as a comment line and its statement. -/
theorem reads_record {t : Tome} (hname : '\n' ∉ t.name) (htable : IsWritten p.table)
    (hkey : IsWritten p.keyColumn) (hcolumns : ∀ c ∈ columns.columns, IsWritten c) :
    Reads (record p columns t) (recordLexemes p columns t) := by
  have hheading : Reads (heading t) [.comment (headingText t)] := by
    rw [heading_eq]
    exact reads_comment (newline_not_mem_headingText hname)
  have hnames : ∀ n ∈ (insertion p columns t).names, IsWritten n := by
    simpa [insertion, Statement.names, htable, hkey] using hcolumns
  have hgap : Reads "\n\n".toList (codeText "\n\n".toList) := reads_code rfl
  have hall := (hheading.append (Statement.reads hnames)).append hgap
  -- the layout has the semicolon with the line feeds behind it
  rw [← List.append_assoc, List.append_assoc _ [Lexeme.code ';']] at hall
  exact hall

/-- A script is read as what it is meant to be. -/
theorem reads (hscript : '\n' ∉ s.policy.scriptName) (hnames : ∀ t ∈ s.tomes, '\n' ∉ t.name)
    (htable : IsWritten s.policy.table) (hkey : IsWritten s.policy.keyColumn)
    (hcolumns : ∀ c ∈ s.columns.columns, IsWritten c) : Reads s.render s.lexemes := by
  have hheader : Reads s.header (s.headerTexts.map .comment) := by
    rw [header_eq_flatMap, List.map_eq_flatMap]
    exact reads_flatMap fun t ht => reads_comment (newline_not_mem_headerTexts hscript t ht)
  have hdeletion : ∀ n ∈ (deletion s.policy s.tomes).names, IsWritten n := by
    simpa [deletion, Statement.names] using And.intro htable hkey
  have hrecords : Reads (s.tomes.flatMap (record s.policy s.columns))
      (s.tomes.flatMap (recordLexemes s.policy s.columns)) :=
    reads_flatMap fun t ht => reads_record (hnames t ht) htable hkey hcolumns
  have hbreak : Reads "\n".toList (codeText "\n".toList) := reads_code rfl
  have hgap : Reads "\n\n".toList (codeText "\n\n".toList) := reads_code rfl
  have hall := (((hheader.append hbreak).append (Statement.reads hdeletion)).append hgap).append hrecords
  rw [← List.append_assoc _ _ [Lexeme.code ';'], List.append_assoc _ [Lexeme.code ';']] at hall
  exact hall

/-- A script that is read as what it is meant to be has well-written names. -/
theorem isWritten_of_lex_eq (h : lex s.render = s.lexemes) :
    IsWritten s.policy.table ∧ IsWritten s.policy.keyColumn := by
  have hwritten : ∀ n, .identifier n ∈ (deletion s.policy s.tomes).lexemes → IsWritten n := by
    intro n hn
    have hmem : .identifier n ∈ lex s.render := by
      rw [h]
      simp only [lexemes, List.mem_append]
      exact Or.inl (Or.inl (Or.inr hn))
    exact isWritten_of_mem_lex hmem
  rw [deletion, Statement.lexemes_delete] at hwritten
  simp only [List.mem_append, List.mem_singleton] at hwritten
  exact ⟨hwritten _ (by simp), hwritten _ (by simp)⟩

/-! ## Statements -/

/-- Behind a statement come two line feeds, and above the next one stands its heading. -/
theorem splitStatements_records (tomes : List Tome) :
    splitStatements (codeText "\n\n".toList ++ tomes.flatMap (recordLexemes p columns)) =
      tomes.map fun t => (insertion p columns t).lexemes := by
  have hgap : Gap (codeText "\n\n".toList) := gap_codeText rfl
  induction tomes with
  | nil =>
    rw [List.flatMap_nil, List.append_nil]
    exact splitStatements_gap hgap
  | cons t tomes ih =>
    have hfirst := splitStatements_append (hgap.append (gap_comments [headingText t]))
      (insertion p columns t).isStatement_lexemes
      (codeText "\n\n".toList ++ tomes.flatMap (recordLexemes p columns))
    have hsemicolon : codeText ";\n\n".toList = .code ';' :: codeText "\n\n".toList := rfl
    rw [List.map_cons, ← ih, ← hfirst, List.flatMap_cons, recordLexemes, hsemicolon]
    simp only [List.append_assoc, List.cons_append, List.map_singleton]

/-- Cut at its semicolons, a script falls into its statements. -/
theorem splitStatements_lexemes (s : Script) :
    splitStatements s.lexemes = s.statements.map Statement.lexemes := by
  have hgap : Gap (codeText "\n".toList) := gap_codeText rfl
  have hfirst := splitStatements_append ((gap_comments s.headerTexts).append hgap)
    (deletion s.policy s.tomes).isStatement_lexemes
    (codeText "\n\n".toList ++ s.tomes.flatMap (recordLexemes s.policy s.columns))
  have hsemicolon : codeText ";\n\n".toList = .code ';' :: codeText "\n\n".toList := rfl
  rw [splitStatements_records] at hfirst
  rw [statements, List.map_cons, List.map_map, Function.comp_def, ← hfirst, lexemes, hsemicolon]
  simp only [List.append_assoc, List.cons_append]

end Script

namespace Generation

open Sql Script

/-- **Nothing in a script is read as anything but what it is meant to be.**  When the script name
holds no line feed, the script of a generation is read as its comments, the names and the literals in
its statements, and the characters of SQL between them, exactly when each backtick in the table and
in the key column is doubled.  Its statements then are the `delete` and one clone for each tome of
the batch, in order. -/
theorem lex_render_iff {s : Settings} {schema input : Text} {time : Timestamp} {g : Generation}
    (h : run s schema input time = .ok g) (hscript : '\n' ∉ s.policy.scriptName) :
    (lex g.script.render = g.script.lexemes ↔
      IsWritten s.policy.table ∧ IsWritten s.policy.keyColumn) ∧
    (IsWritten s.policy.table → IsWritten s.policy.keyColumn →
      splitStatements (lex g.script.render) = (deletion s.policy g.batch.tomes).lexemes ::
          (g.batch.tomes.map fun t => (insertion s.policy g.columns t).lexemes) ∧
      (splitStatements (lex g.script.render)).length = g.batch.tomes.length + 1) := by
  obtain ⟨-, -, hg⟩ := run_eq_ok h
  have hpolicy : g.script.policy = s.policy := by rw [hg]
  have hread : IsWritten s.policy.table → IsWritten s.policy.keyColumn →
      lex g.script.render = g.script.lexemes := by
    intro htable hkey
    rw [← hpolicy] at hscript htable hkey
    exact (Script.reads hscript (fun t ht => newline_not_mem_name h ht) htable hkey
      fun c hc => isWritten_of_not_mem (backtick_not_mem_column h hc)).lex_eq
  constructor
  · constructor
    · intro hlex
      have hwritten := isWritten_of_lex_eq hlex
      rwa [hpolicy] at hwritten
    · exact fun hwritten => hread hwritten.1 hwritten.2
  · intro htable hkey
    have hsplit : splitStatements (lex g.script.render) = (deletion s.policy g.batch.tomes).lexemes ::
        g.batch.tomes.map fun t => (insertion s.policy g.columns t).lexemes := by
      rw [hread htable hkey, splitStatements_lexemes, hg, statements, List.map_cons, List.map_map]
      rfl
    refine ⟨hsplit, ?_⟩
    rw [hsplit, List.length_cons, List.length_map]

/-- A table whose name holds a backtick, and a tome whose name is a statement. -/
theorem lex_render_of_tricky_name :
    ∃ g, run { policy := { table := "a\x60\x60b".toList } }
        "CREATE TABLE \x60a\x60\x60b\x60 (\n  \x60name\x60 int,\n);\n".toList
        "7\t'; DROP TABLE t; -- \\\n".toList ⟨0, 0⟩ = .ok g ∧
      g.batch.tomes.map (·.name) = ["'; DROP TABLE t; -- \\".toList] ∧
      (splitStatements (lex g.script.render)).length = 2 := by
  obtain ⟨g, hrun, hnames⟩ : ∃ g, run { policy := { table := "a\x60\x60b".toList } }
      "CREATE TABLE \x60a\x60\x60b\x60 (\n  \x60name\x60 int,\n);\n".toList
      "7\t'; DROP TABLE t; -- \\\n".toList ⟨0, 0⟩ = .ok g ∧
        g.batch.tomes.map (·.name) = ["'; DROP TABLE t; -- \\".toList] := ⟨_, rfl, rfl⟩
  have htable : IsWritten "a\x60\x60b".toList := ⟨"a\x60b".toList, by decide⟩
  have hkey : IsWritten "entry".toList := ⟨"entry".toList, by decide⟩
  have hcount := ((lex_render_iff hrun (by decide)).2 htable hkey).2
  have hlength := congrArg List.length hnames
  rw [List.length_map] at hlength
  exact ⟨g, hrun, hnames, by rw [hcount, hlength]; rfl⟩

/-- A script name that holds a line feed ends its comment, and a key column that holds a single
backtick ends its name: what comes behind is read as statements. -/
theorem splitStatements_too_long :
    (∃ s g, Settings.parse? "script_name = \"x\\nDROP TABLE t;\"\n".toList = some s ∧
      run s "CREATE TABLE \x60item_template\x60 (\n  \x60entry\x60 int,\n);\n".toList "143\n".toList
        ⟨0, 0⟩ = .ok g ∧
      g.batch.tomes.length = 1 ∧ (splitStatements (lex g.script.render)).length = 3) ∧
    ∃ s g, Settings.parse? "key_column = \"k\x60 = 1; DROP TABLE t; -- \"\n".toList = some s ∧
      run s "CREATE TABLE \x60item_template\x60 (\n  \x60entry\x60 int,\n);\n".toList "143\n".toList
        ⟨0, 0⟩ = .ok g ∧
      g.batch.tomes.length = 1 ∧ (splitStatements (lex g.script.render)).length = 4 := by
  have hscript : Settings.parse? "script_name = \"x\\nDROP TABLE t;\"\n".toList =
      some { policy := { scriptName := "x\nDROP TABLE t;".toList } } := by decide +kernel
  have hkey : Settings.parse? "key_column = \"k\x60 = 1; DROP TABLE t; -- \"\n".toList =
      some { policy := { keyColumn := "k\x60 = 1; DROP TABLE t; -- ".toList } } := by decide +kernel
  exact ⟨⟨_, _, hscript, rfl, rfl, by decide +kernel⟩, ⟨_, _, hkey, rfl, rfl, by decide +kernel⟩⟩

end Generation

end TomeSql
