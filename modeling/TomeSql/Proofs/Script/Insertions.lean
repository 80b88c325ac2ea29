/-
  The clone of a tome, read back from its text.

  1. **Items (`forall₂_itemsFor`)** — column by column, the selection says what the rules on overrides
     say: a literal where one is given, and the column by itself elsewhere.

  2. **Main result (`readClone_insertion`)** — no column of a schema holds a backtick, so these items and
     the column list are what is found in the text, whatever the names and the settings hold.

  3. **The key column (`exists_keyLiteral`)** — it gets one literal, and all rows that the clone adds
     hold it.  That is the entry, unless a named override for the same column says something else; then
     the `delete` does not find the rows, since it looks for entries.

  4. **Refuted** — that the key column always gets the entry (`not_forall_keyItem_eq_entry`).
-/
import TomeSql.Proofs.Generation
import TomeSql.Proofs.Script.Rerun
import TomeSql.Proofs.Sql.Reader

namespace TomeSql.Script

open Sql

/-! ## Items -/

variable {table schema : Text} {columns : ColumnList} {p : Policy} {t : Tome}

/-- There is an item for each column, in the order of the table. -/
theorem columns_itemsFor (p : Policy) (columns : ColumnList) (t : Tome) :
    (itemsFor p columns t).map (·.column) = columns.columns := by
  rw [itemsFor, List.map_map]
  exact List.map_id _

/-- The selection follows the rules on overrides. -/
theorem forall₂_itemsFor (p : Policy) (columns : ColumnList) (t : Tome) :
    List.Forall₂ (fun c (i : Item) => i.column = c ∧ ∀ l, i.literal = some l ↔ p.Overridden t c l)
      columns.columns (itemsFor p columns t) := by
  rw [itemsFor, List.forall₂_map_right_iff, List.forall₂_same]
  exact fun c _ => ⟨rfl, fun l => Policy.override?_eq_some_iff⟩

/-- The columns and the items of a clone are read back from its text. -/
theorem readClone_itemsFor (h : ColumnList.ofSchema table schema = .ok columns) (p : Policy)
    (t : Tome) (rest : Text) :
    readClone p.table p.keyColumn p.template ((insertion p columns t).render ++ rest) =
      some ((columns.columns, itemsFor p columns t), rest) := by
  have hne : itemsFor p columns t ≠ [] := by
    rw [itemsFor, Ne, List.map_eq_nil_iff]
    exact columns.columns_ne_nil
  have hbacktick : ∀ i ∈ itemsFor p columns t, '\x60' ∉ i.column := by
    intro i hi
    have hcolumn : i.column ∈ columns.columns := by
      rw [← columns_itemsFor p columns t]
      exact List.mem_map_of_mem hi
    rw [(ColumnList.ofSchema_eq_ok_iff.mp h).2] at hcolumn
    exact Schema.backtick_not_mem_of_mem_columnNames hcolumn
  have hread := readClone_render p.table p.keyColumn p.template hne hbacktick rest
  rw [columns_itemsFor] at hread
  rw [insertion_eq_clone, hread]

/-- **The clone of a tome is read back from its text.**  For the columns of a schema, a policy and a
tome, the text of the clone begins and ends with the fixed words that hold the table, the key column
and the template.  Between them the column list is that of the schema, and the selection has one item
for each column, in order: the column by itself when it is not overridden, and otherwise the column
with the literal that the rules on overrides give it. -/
theorem readClone_insertion (h : ColumnList.ofSchema table schema = .ok columns) (p : Policy)
    (t : Tome) (rest : Text) :
    ∃ items, readClone p.table p.keyColumn p.template ((insertion p columns t).render ++ rest) =
        some ((columns.columns, items), rest) ∧
      items.length = columns.columns.length ∧
      List.Forall₂ (fun c (i : Item) => i.column = c ∧ ∀ l, i.literal = some l ↔ p.Overridden t c l)
        columns.columns items := by
  have hitems := forall₂_itemsFor p columns t
  exact ⟨_, readClone_itemsFor h p t rest, hitems.length_eq.symm, hitems⟩

/-- Columns that look like a list and like an item, and names that look like the end of a literal. -/
theorem readClone_insertion_of_tricky_names :
    ∃ columns items, ColumnList.ofSchema "t".toList
        ("CREATE TABLE \x60t\x60 (\n \x60a, b\x60 int,\n \x60name\x60 int,\n".toList ++
          " \x601 AS ScriptName\x60 int,\n \x60ScriptName\x60 int\n".toList) = .ok columns ∧
      readClone "t".toList "a, b".toList 18600
          ((insertion { table := "t".toList, keyColumn := "a, b".toList, scriptName := "\\".toList }
            columns ⟨7, 8, "', 1 AS \x60x\x60) ".toList, none⟩).render ++ ";".toList) =
        some ((columns.columns, items), ";".toList) ∧
      items = [⟨"a, b".toList, some (.integer 7)⟩,
        ⟨"name".toList, some (.text "', 1 AS \x60x\x60) ".toList)⟩, ⟨"1 AS ScriptName".toList, none⟩,
        ⟨"ScriptName".toList, some (.text "\\".toList)⟩] := by
  obtain ⟨columns, hcolumns, hnames⟩ : ∃ columns, ColumnList.ofSchema "t".toList
      ("CREATE TABLE \x60t\x60 (\n \x60a, b\x60 int,\n \x60name\x60 int,\n".toList ++
        " \x601 AS ScriptName\x60 int,\n \x60ScriptName\x60 int\n".toList) = .ok columns ∧
      columns.columns = ["a, b".toList, "name".toList, "1 AS ScriptName".toList, "ScriptName".toList] :=
    ⟨_, rfl, rfl⟩
  obtain ⟨items, hread, -, -⟩ := readClone_insertion hcolumns
    { table := "t".toList, keyColumn := "a, b".toList, scriptName := "\\".toList }
    ⟨7, 8, "', 1 AS \x60x\x60) ".toList, none⟩ ";".toList
  have hitems := hread.symm.trans (readClone_itemsFor hcolumns _ _ _)
  rw [Option.some.injEq, Prod.mk.injEq, Prod.mk.injEq, itemsFor, hnames] at hitems
  exact ⟨columns, items, hcolumns, hread, hitems.1.2⟩

/-! ## The key column -/

/-- **What the key column gets.**  When the key column is one of the schema, its item in the clone of a
tome has a literal, which is the one that the rules on overrides give it: the entry, exactly when no
named override gives the same column something else.  All rows that the clone adds have this literal
as their key, so that a `delete` takes them away exactly when it lists an entry equal to it. -/
theorem exists_keyLiteral (h : ColumnList.ofSchema table schema = .ok columns)
    (hkey : p.keyColumn ∈ columns.columns) (t : Tome) :
    ∃ items k,
      readClone p.table p.keyColumn p.template (insertion p columns t).render =
        some ((columns.columns, items), []) ∧
      List.Forall₂ (fun c (i : Item) => i.column = c ∧ (c = p.keyColumn → i.literal = some k))
        columns.columns items ∧
      p.Overridden t p.keyColumn k ∧
      (k = .integer t.entry.toNat ↔
        ∀ l, p.NamedOverride t p.keyColumn l → l = .integer t.entry.toNat) ∧
      ∀ db : Database, ∃ added, (insertion p columns t).exec db p.table = db p.table ++ added ∧
        ∀ r ∈ added, r p.keyColumn = some k ∧
          ∀ tomes : List Tome, hasKeyIn p.keyColumn (tomes.map (·.entry)) r = true ↔
            ∃ u ∈ tomes, k = .integer u.entry.toNat := by
  obtain ⟨k, hk⟩ := p.exists_overridden_keyColumn t
  have hread := readClone_itemsFor h p t []
  rw [List.append_nil] at hread
  refine ⟨_, k, hread, ?_, hk, ?_, ?_⟩
  · refine (forall₂_itemsFor p columns t).imp ?_
    rintro c i ⟨hcolumn, hliteral⟩
    refine ⟨hcolumn, ?_⟩
    rintro rfl
    exact (hliteral k).mpr hk
  · rw [← Policy.overridden_entry_iff]
    constructor
    · rintro rfl
      exact hk
    · exact hk.eq
  · intro db
    refine ⟨_, by rw [exec_insertion, Function.update_self], ?_⟩
    intro r hr
    obtain ⟨r₀, -, rfl⟩ := List.mem_map.mp hr
    have hvalue : cloneOf p columns t r₀ p.keyColumn = some k := by
      rw [cloneOf, if_pos hkey, Policy.override?_eq_some_iff.mpr hk, Option.some_or]
    refine ⟨hvalue, ?_⟩
    intro tomes
    simp only [hasKeyIn, hasKey, hvalue, List.any_map, List.any_eq_true, Function.comp_apply,
      beq_iff_eq, Option.some.injEq]

/-- A named override does no harm where it says the same as the entry. -/
theorem exists_keyLiteral_of_equal_spell :
    ∃ columns items, ColumnList.ofSchema "t".toList
        "CREATE TABLE \x60t\x60 (\n \x60name\x60 int,\n \x60spellid_2\x60 int\n".toList = .ok columns ∧
      "spellid_2".toList ∈ columns.columns ∧
      readClone "item_template".toList "spellid_2".toList 18600
          (insertion { keyColumn := "spellid_2".toList } columns ⟨116, 116, "Bolt".toList, none⟩).render =
        some ((columns.columns, items), []) ∧
      List.Forall₂ (fun c (i : Item) =>
          i.column = c ∧ (c = "spellid_2".toList → i.literal = some (.integer 116)))
        columns.columns items := by
  obtain ⟨columns, hcolumns, hnames⟩ : ∃ columns, ColumnList.ofSchema "t".toList
      "CREATE TABLE \x60t\x60 (\n \x60name\x60 int,\n \x60spellid_2\x60 int\n".toList = .ok columns ∧
      columns.columns = ["name".toList, "spellid_2".toList] := ⟨_, rfl, rfl⟩
  have hmem : "spellid_2".toList ∈ columns.columns := by
    rw [hnames]
    exact List.mem_cons_of_mem _ List.mem_cons_self
  obtain ⟨items, k, hread, hitems, -, hk, -⟩ := exists_keyLiteral hcolumns
    (p := { keyColumn := "spellid_2".toList }) hmem ⟨116, 116, "Bolt".toList, none⟩
  have hentry : k = .integer 116 := by
    refine hk.mpr fun l hl => ?_
    have hfound := Policy.override?_eq_some_iff.mpr (.named hl)
    exact (Option.some.inj hfound).symm
  rw [hentry] at hitems
  exact ⟨columns, items, hcolumns, hmem, hread, hitems⟩

/-- With the name as its key column, a clone has the tome's name as its key, which no `delete` lists. -/
theorem not_forall_keyItem_eq_entry :
    ¬ ∀ (table schema : Text) (columns : ColumnList) (p : Policy) (t : Tome) (items : List Item),
      ColumnList.ofSchema table schema = .ok columns → p.keyColumn ∈ columns.columns →
      readClone p.table p.keyColumn p.template (insertion p columns t).render =
        some ((columns.columns, items), []) →
      ∀ i ∈ items, i.column = p.keyColumn → i.literal = some (.integer t.entry.toNat) := by
  intro h
  obtain ⟨columns, hcolumns, hnames⟩ : ∃ columns, ColumnList.ofSchema "item_template".toList
      "CREATE TABLE \x60item_template\x60 (\n  \x60entry\x60 int,\n  \x60name\x60 int,\n);\n".toList =
        .ok columns ∧ columns.columns = ["entry".toList, "name".toList] := ⟨_, rfl, rfl⟩
  have hread := readClone_itemsFor hcolumns { keyColumn := "name".toList }
    ⟨91000, 7, "Blink".toList, none⟩ []
  rw [List.append_nil] at hread
  have hmem : "name".toList ∈ columns.columns := by
    rw [hnames]
    exact List.mem_cons_of_mem _ List.mem_cons_self
  have hitem : (⟨"name".toList, some (.text "Blink".toList)⟩ : Item) ∈
      itemsFor { keyColumn := "name".toList } columns ⟨91000, 7, "Blink".toList, none⟩ := by
    rw [itemsFor, hnames]
    exact List.mem_cons_of_mem _ List.mem_cons_self
  have hliteral := h _ _ _ _ _ _ hcolumns hmem hread _ hitem rfl
  cases hliteral

end TomeSql.Script
