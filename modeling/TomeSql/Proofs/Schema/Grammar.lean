/-
  The grammar of the lines that matter in a schema.

  1. **Start markers (`isTableStart_iff`)** — `CREATE TABLE`, the name in backticks and an opening
     parenthesis, nothing else on the line, and white space in between.  The name is taken literally,
     whatever it holds.

  2. **Column lines (`columnName?_eq_some_iff`)** — a non-empty name in backticks and white space behind
     it, and then anything.

  3. **Block ends (`isBlockEnd_iff`)** — a line that begins with one of three words.  A column line
     begins with a backtick and is never one of them.
-/
import TomeSql.Proofs.Text.Pieces
import TomeSql.Schema

namespace TomeSql

namespace Schema

open Text (Blank BeginsDark)

/-! ## The kinds of lines -/

/-- The start marker of a table. -/
def StartMarker (table line : Text) : Prop :=
  ∃ a b c d, Blank a ∧ Blank b ∧ b ≠ [] ∧ Blank c ∧ Blank d ∧
    line = a ++ "CREATE TABLE".toList ++ b ++ Sql.name table ++ c ++ '(' :: d

/-- A line that declares a column of this name. -/
def ColumnLine (name line : Text) : Prop :=
  ∃ a b rest, Blank a ∧ Blank b ∧ b ≠ [] ∧ name ≠ [] ∧ '\x60' ∉ name ∧
    line = a ++ Sql.name name ++ b ++ rest

/-- What a line that ends the block begins with. -/
def endWords : List Text := ["PRIMARY KEY".toList, "KEY ".toList, [')']]

/-- A line that ends the block. -/
def BlockEnd (line : Text) : Prop :=
  ∃ a word rest, Blank a ∧ word ∈ endWords ∧ line = a ++ word ++ rest

/-! ## Start markers -/

theorem beginsDark_name (t rest : Text) : BeginsDark (Sql.name t ++ rest) :=
  Text.beginsDark_cons (by decide) _

/-- The words are found behind white space, with white space behind them. -/
theorem afterCreateTable?_eq_some_iff {line rest : Text} :
    afterCreateTable? line = some rest ↔
      ∃ a b, Blank a ∧ Blank b ∧ b ≠ [] ∧ BeginsDark rest ∧
        line = a ++ "CREATE TABLE".toList ++ b ++ rest := by
  rw [afterCreateTable?]
  constructor
  · intro h
    split at h
    · rename_i c tail hafter
      rw [Text.after?_eq_some_iff] at hafter
      split at h
      · rename_i hc
        cases h
        obtain ⟨a, ha, hline⟩ := Text.exists_blank_append_trimStart line
        obtain ⟨b, hb, htail⟩ := Text.exists_blank_append_trimStart tail
        refine ⟨a, c :: b, ha, List.forall_mem_cons.mpr ⟨hc, hb⟩, List.cons_ne_nil c b,
          Text.beginsDark_trimStart tail, ?_⟩
        rw [hline, hafter]
        conv => lhs; rw [htail]
        simp
      · cases h
    · cases h
  · rintro ⟨a, b, ha, hb, hne, hrest, rfl⟩
    obtain ⟨c, b, rfl⟩ := List.exists_cons_of_ne_nil hne
    obtain ⟨hc, hb⟩ := List.forall_mem_cons.mp hb
    have htrim : Text.trimStart (a ++ ("CREATE TABLE".toList ++ (c :: b ++ rest))) =
        "CREATE TABLE".toList ++ (c :: b ++ rest) :=
      Text.trimStart_append ha (Text.beginsDark_cons (by decide) _)
    rw [List.append_assoc, List.append_assoc, htrim, Text.after?_append]
    simp [hc, Text.trimStart_append hb hrest]

theorem isBlank_iff {t : Text} : isBlank t = true ↔ Blank t := List.all_eq_true

/-- Start markers are found, and nothing else. -/
theorem isTableStart_iff {table line : Text} :
    isTableStart table line = true ↔ StartMarker table line := by
  rw [isTableStart]
  constructor
  · intro h
    split at h
    · rename_i rest hrest
      obtain ⟨named, hnamed, hafter⟩ := Option.bind_eq_some_iff.mp hrest
      obtain ⟨a, b, ha, hb, hne, -, hline⟩ := afterCreateTable?_eq_some_iff.mp hnamed
      rw [Text.after?_eq_some_iff] at hafter
      split at h
      · rename_i d hd
        obtain ⟨c, hc, hrest⟩ := Text.exists_blank_append_trimStart rest
        refine ⟨a, b, c, d, ha, hb, hne, hc, isBlank_iff.mp h, ?_⟩
        rw [hline, hafter, hrest, hd]
        simp
      · cases h
    · cases h
  · rintro ⟨a, b, c, d, ha, hb, hne, hc, hd, rfl⟩
    have hnamed : afterCreateTable? (a ++ "CREATE TABLE".toList ++ b ++ Sql.name table ++ c ++ '(' :: d) =
        some (Sql.name table ++ (c ++ '(' :: d)) :=
      afterCreateTable?_eq_some_iff.mpr
        ⟨a, b, ha, hb, hne, beginsDark_name table _, by simp⟩
    have htrim : Text.trimStart (c ++ '(' :: d) = '(' :: d :=
      Text.trimStart_append hc (Text.beginsDark_cons (by decide) d)
    rw [hnamed, Option.bind_some, Text.after?_append]
    simp [htrim, isBlank_iff.mpr hd]

/-! ## Column lines -/

/-- Columns are found by their lines, and by nothing else. -/
theorem columnName?_eq_some_iff {line name : Text} :
    columnName? line = some name ↔ ColumnLine name line := by
  constructor
  · intro h
    obtain ⟨a, ha, hline⟩ := Text.exists_blank_append_trimStart line
    rw [columnName?] at h
    split at h
    · rename_i rest htrim
      split at h
      · rename_i c t e d tail htake hdrop
        split at h
        · rename_i hd
          cases h
          have hrest : rest = c :: t ++ e :: d :: tail := by
            rw [← htake, ← hdrop, List.takeWhile_append_dropWhile]
          have hclosing : e = '\x60' := by
            have hnot := List.head?_dropWhile_not (· != '\x60') rest
            simpa [hdrop] using hnot
          have hname : '\x60' ∉ c :: t := by
            intro hmem
            rw [← htake] at hmem
            simpa using List.mem_takeWhile_imp hmem
          refine ⟨a, [d], tail, ha, List.forall_mem_singleton.mpr hd, List.cons_ne_nil d [],
            List.cons_ne_nil c t, hname, ?_⟩
          rw [hline, htrim, hrest, hclosing]
          simp [Sql.name]
        · cases h
      · cases h
    · cases h
  · rintro ⟨a, b, rest, ha, hb, hne, hname, hbacktick, rfl⟩
    obtain ⟨d, b, rfl⟩ := List.exists_cons_of_ne_nil hne
    obtain ⟨c, t, rfl⟩ := List.exists_cons_of_ne_nil hname
    have htrim : Text.trimStart (a ++ Sql.name (c :: t) ++ d :: b ++ rest) =
        '\x60' :: (c :: t ++ '\x60' :: d :: (b ++ rest)) := by
      rw [List.append_assoc, List.append_assoc, Text.trimStart_append ha (beginsDark_name _ _)]
      simp [Sql.name]
    rw [columnName?, htrim]
    simp only [Text.takeWhile_append_sep hbacktick, Text.dropWhile_append_sep hbacktick]
    rw [if_pos (hb d List.mem_cons_self)]

/-- A line declares one column at most. -/
theorem ColumnLine.unique {line n n' : Text} (h : ColumnLine n line) (h' : ColumnLine n' line) :
    n = n' :=
  Option.some.inj ((columnName?_eq_some_iff.mpr h).symm.trans (columnName?_eq_some_iff.mpr h'))

/-- A line without a name is no column line. -/
theorem columnName?_eq_none_iff {line : Text} :
    columnName? line = none ↔ ∀ name, ¬ ColumnLine name line := by
  simp only [Option.eq_none_iff_forall_ne_some, ne_eq, columnName?_eq_some_iff]

/-! ## Block ends -/

theorem beginsDark_endWord {word : Text} (h : word ∈ endWords) (rest : Text) :
    BeginsDark (word ++ rest) := by
  simp only [endWords, List.mem_cons, List.not_mem_nil, or_false] at h
  obtain rfl | rfl | rfl := h <;> exact Text.beginsDark_cons (by decide) _

/-- The test for the end of a block is the grammar's. -/
theorem isBlockEnd_iff {line : Text} : isBlockEnd line = true ↔ BlockEnd line := by
  have hwords : isBlockEnd line = true ↔ ∃ word ∈ endWords, word <+: Text.trimStart line := by
    simp [isBlockEnd, endWords, List.isPrefixOf_iff_prefix, or_assoc]
  rw [hwords]
  constructor
  · rintro ⟨word, hword, rest, hrest⟩
    obtain ⟨a, ha, hline⟩ := Text.exists_blank_append_trimStart line
    exact ⟨a, word, rest, ha, hword, by rw [hline, ← hrest, List.append_assoc]⟩
  · rintro ⟨a, word, rest, ha, hword, rfl⟩
    refine ⟨word, hword, ?_⟩
    rw [List.append_assoc, Text.trimStart_append ha (beginsDark_endWord hword rest)]
    exact List.prefix_append word rest

/-- What ends a block goes on doing so whatever is written behind it. -/
theorem BlockEnd.append {line : Text} (h : BlockEnd line) (more : Text) : BlockEnd (line ++ more) := by
  obtain ⟨a, word, rest, ha, hword, rfl⟩ := h
  exact ⟨a, word, rest ++ more, ha, hword, List.append_assoc _ rest more⟩

/-- A column line does not end the block. -/
theorem ColumnLine.not_blockEnd {name line : Text} (h : ColumnLine name line) : ¬ BlockEnd line := by
  obtain ⟨a, b, rest, ha, -, -, -, -, rfl⟩ := h
  rintro ⟨a', word, rest', ha', hword, heq⟩
  rw [List.append_assoc, List.append_assoc, List.append_assoc] at heq
  have htrim := congrArg Text.trimStart heq
  rw [Text.trimStart_append ha (beginsDark_name name _),
    Text.trimStart_append ha' (beginsDark_endWord hword rest')] at htrim
  simp only [endWords, List.mem_cons, List.not_mem_nil, or_false] at hword
  obtain rfl | rfl | rfl := hword <;> simp [Sql.name] at htrim

end Schema

end TomeSql
