/-
  A script can be run again: what its statements do to a database, once and twice.

  1. **Text** — the text of a script is that of its statements, each under comment lines and with a
     blank line behind it (`render_eq_statements`).

  2. **Literals** — in the clone for a tome exactly the overridden columns of the table stand with a
     literal (`literalFor_items`).  The key column is among them when no named override is for it,
     and its literal is the tome's entry (`Policy.override?_keyColumn`).

  3. **The clones (`execAll_insertions`)** — each of them finds the template rows that were there
     before the first one, since no clone has the template's key.

  4. **Main result (`exec_statements`)** — a run leaves the rows with other keys as they are and puts
     the clones behind them.  The next run begins by taking away just these clones, which brings it
     to the database that the first one had after its `delete`; so it ends where that ended.
-/
import TomeSql.Proofs.Script.Overrides
import TomeSql.Proofs.Sql.Execution
import TomeSql.Script.Basic

namespace TomeSql

namespace Script

open Sql

/-! ## The statements in the text -/

/-- The comment line above the clone of a tome. -/
def heading (t : Tome) : Text :=
  comment [Decimal.ofNat t.entry.toNat, ": ".toList, t.name, " (learns spell ".toList,
    Decimal.ofNat t.spell.toNat, ")".toList]

/-- What stands above each statement. -/
def headings (s : Script) : List Text := (s.header ++ "\n".toList) :: s.tomes.map heading

/-- The text of a script is that of its statements, each with comment lines above it. -/
theorem render_eq_statements (s : Script) :
    s.render = (List.zipWith (fun above st => above ++ st.render ++ "\n\n".toList)
      s.headings s.statements).flatten := by
  have hrecords : s.tomes.flatMap (record s.policy s.columns) =
      (List.zipWith (fun above st => above ++ Statement.render st ++ "\n\n".toList)
        (s.tomes.map heading) (s.tomes.map (insertion s.policy s.columns))).flatten := by
    rw [List.zipWith_map, List.zipWith_self, List.flatMap]
    rfl
  rw [headings, statements, List.zipWith_cons_cons, List.flatten_cons, ← hrecords, render]

/-! ## The clone of a row -/

variable (p : Policy) (columns : ColumnList)

/-- The row that a tome gets from a template row: the overridden columns of the table hold their
literals, and all others the template's values. -/
def cloneOf (t : Tome) (r : Record) : Record := fun c =>
  if c ∈ columns.columns then (p.override? t c).or (r c) else r c

/-- The items of the clone for a tome. -/
def itemsFor (t : Tome) : List Item := columns.columns.map fun c => ⟨c, p.override? t c⟩

theorem insertion_eq_clone (t : Tome) :
    insertion p columns t = .clone p.table p.keyColumn p.template (itemsFor p columns t) := rfl

/-! ## The statements of one tome and of all -/

/-- The items of a clone carry the override of each column of the table. -/
theorem literalFor_items (f : Text → Option Literal) (names : List Text) (c : Text) :
    literalFor (names.map fun n => ⟨n, f n⟩) c = if c ∈ names then f c else none := by
  induction names with
  | nil => rfl
  | cons n names ih =>
    rw [literalFor] at ih ⊢
    rw [List.map_cons, List.findSome?_cons, ih]
    by_cases hn : n = c
    · subst hn
      cases f n <;> simp
    · simp [hn, Ne.symm hn]

/-- A row that is copied with the items of a tome is the clone for that tome. -/
theorem copyWith_itemsFor (t : Tome) : copyWith (itemsFor p columns t) = cloneOf p columns t := by
  funext r c
  rw [copyWith, itemsFor, literalFor_items, cloneOf]
  by_cases hc : c ∈ columns.columns <;> simp [hc]

/-- The `delete` takes the listed rows out of its table and leaves all other tables. -/
theorem exec_deletion (tomes : List Tome) (db : Database) :
    (deletion p tomes).exec db = Function.update db p.table
      ((db p.table).filter fun r => !hasKeyIn p.keyColumn (tomes.map (·.entry)) r) := rfl

/-- A clone adds one row for each row of the template. -/
theorem exec_insertion (t : Tome) (db : Database) :
    (insertion p columns t).exec db = Function.update db p.table
      (db p.table ++ ((db p.table).filter (hasKey p.keyColumn p.template)).map (cloneOf p columns t)) := by
  rw [insertion_eq_clone, Statement.exec, copyWith_itemsFor]

variable {p columns}

/-- A clone has its tome's entry as its key. -/
theorem hasKey_cloneOf (hcolumn : p.keyColumn ∈ columns.columns) (hnamed : p.keyColumn ∉ Column.named)
    (t : Tome) (r : Record) : hasKey p.keyColumn t.entry (cloneOf p columns t r) = true := by
  rw [hasKey, cloneOf, if_pos hcolumn, Policy.override?_keyColumn t hnamed]
  exact beq_self_eq_true _

/-- The clones go behind the rows that are there, tome by tome, all from the same template rows. -/
theorem execAll_insertions (hcolumn : p.keyColumn ∈ columns.columns)
    (hnamed : p.keyColumn ∉ Column.named) {tomes : List Tome}
    (htemplate : p.template ∉ tomes.map (·.entry)) (db : Database) :
    execAll (tomes.map (insertion p columns)) db = Function.update db p.table
      (db p.table ++ tomes.flatMap fun t =>
        ((db p.table).filter (hasKey p.keyColumn p.template)).map (cloneOf p columns t)) := by
  induction tomes generalizing db with
  | nil => simp [execAll]
  | cons t tomes ih =>
    rw [List.map_cons, List.mem_cons, not_or] at htemplate
    -- the rows for `t` are no template rows, so the statements after it find the same ones
    have hnone : ∀ rows : List Record,
        (rows.map (cloneOf p columns t)).filter (hasKey p.keyColumn p.template) = [] := by
      intro rows
      rw [List.filter_eq_nil_iff]
      intro r hr htemp
      obtain ⟨r₀, -, rfl⟩ := List.mem_map.mp hr
      exact htemplate.1 (eq_of_hasKey htemp (hasKey_cloneOf hcolumn hnamed t r₀))
    rw [List.map_cons, execAll_cons, ih htemplate.2, exec_insertion, Function.update_self,
      Function.update_idem, List.filter_append, hnone, List.append_nil, List.flatMap_cons,
      List.append_assoc]

/-- All that a run does: the listed entries lose their rows, and the clones go behind the rest. -/
theorem execAll_statements {s : Script} (hcolumn : s.policy.keyColumn ∈ s.columns.columns)
    (hnamed : s.policy.keyColumn ∉ Column.named)
    (htemplate : s.policy.template ∉ s.tomes.map (·.entry)) (db : Database) :
    execAll s.statements db = Function.update db s.policy.table
      (((db s.policy.table).filter fun r =>
          !hasKeyIn s.policy.keyColumn (s.tomes.map (·.entry)) r) ++
        s.tomes.flatMap fun t =>
          ((db s.policy.table).filter (hasKey s.policy.keyColumn s.policy.template)).map
            (cloneOf s.policy s.columns t)) := by
  rw [statements, execAll_cons, execAll_insertions hcolumn hnamed htemplate, exec_deletion,
    Function.update_self, Function.update_idem]
  -- the `delete` has left the template rows as they were
  rw [filter_hasKey_of_not_mem htemplate]

/-- After a run the `delete` takes away the clones and nothing else. -/
theorem exec_deletion_execAll {s : Script} (hcolumn : s.policy.keyColumn ∈ s.columns.columns)
    (hnamed : s.policy.keyColumn ∉ Column.named)
    (htemplate : s.policy.template ∉ s.tomes.map (·.entry)) (db : Database) :
    (deletion s.policy s.tomes).exec (execAll s.statements db) =
      (deletion s.policy s.tomes).exec db := by
  rw [execAll_statements hcolumn hnamed htemplate, exec_deletion, Function.update_self,
    Function.update_idem, exec_deletion, List.filter_append, List.filter_filter]
  have hclones : ∀ rows : List Record,
      (s.tomes.flatMap fun t => rows.map (cloneOf s.policy s.columns t)).filter
        (fun r => !hasKeyIn s.policy.keyColumn (s.tomes.map (·.entry)) r) = [] := by
    intro rows
    rw [List.filter_eq_nil_iff]
    intro r hr
    obtain ⟨t, ht, hr⟩ := List.mem_flatMap.mp hr
    obtain ⟨r₀, -, rfl⟩ := List.mem_map.mp hr
    have hin := (hasKeyIn_iff_mem (hasKey_cloneOf hcolumn hnamed t r₀)).mpr
      (List.mem_map_of_mem (f := (·.entry)) ht)
    simp [hin]
  rw [hclones, List.append_nil]
  simp only [Bool.and_self]

/-- **A script can be run again.**  Its text is that of its statements.  Where the key column has no
named override and the template is no entry of the script, a run leaves the rows with other keys
unchanged and in order and puts behind them, tome by tome, one clone for each template row, with the
tome's entry as its key; it touches no other table; and a second run changes nothing. -/
theorem exec_statements (s : Script) (db : Database)
    (hcolumn : s.policy.keyColumn ∈ s.columns.columns)
    (hnamed : s.policy.keyColumn ∉ Column.named)
    (htemplate : s.policy.template ∉ s.tomes.map (·.entry)) :
    s.render = (List.zipWith (fun above st => above ++ st.render ++ "\n\n".toList)
      s.headings s.statements).flatten ∧
    execAll s.statements db s.policy.table =
      ((db s.policy.table).filter fun r =>
          !hasKeyIn s.policy.keyColumn (s.tomes.map (·.entry)) r) ++
        (s.tomes.flatMap fun t =>
          ((db s.policy.table).filter (hasKey s.policy.keyColumn s.policy.template)).map
            (cloneOf s.policy s.columns t)) ∧
    (∀ t r, hasKey s.policy.keyColumn t.entry (cloneOf s.policy s.columns t r) = true) ∧
    (∀ table, table ≠ s.policy.table → execAll s.statements db table = db table) ∧
    execAll s.statements (execAll s.statements db) = execAll s.statements db := by
  have hrun := execAll_statements hcolumn hnamed htemplate db
  refine ⟨s.render_eq_statements, ?_, fun t r => hasKey_cloneOf hcolumn hnamed t r, ?_, ?_⟩
  · rw [hrun, Function.update_self]
  · intro table hother
    rw [hrun, Function.update_of_ne hother]
  · -- both runs go on from the same database after their `delete`
    have hdelete := exec_deletion_execAll hcolumn hnamed htemplate db
    calc execAll s.statements (execAll s.statements db)
        = execAll (s.tomes.map (insertion s.policy s.columns))
            ((deletion s.policy s.tomes).exec (execAll s.statements db)) := execAll_cons _ _ _
      _ = execAll (s.tomes.map (insertion s.policy s.columns))
            ((deletion s.policy s.tomes).exec db) := by rw [hdelete]
      _ = execAll s.statements db := (execAll_cons _ _ _).symm

/-- A row of the template and one that an earlier run made: the second is replaced, and a third row
comes for the new tome. -/
theorem exec_statements_two_tomes :
    ∃ (s : Script) (db : Database),
      s.policy.keyColumn ∈ s.columns.columns ∧ s.policy.keyColumn ∉ Column.named ∧
      s.policy.template ∉ s.tomes.map (·.entry) ∧
      (execAll s.statements db s.policy.table).map (· s.policy.keyColumn) =
        [some (.integer 18600), some (.integer 91000), some (.integer 91001)] ∧
      execAll s.statements (execAll s.statements db) = execAll s.statements db :=
  ⟨⟨⟨"item_template".toList, ["entry".toList, "name".toList], by simp⟩,
      [⟨91000, 116, "Blink".toList, none⟩, ⟨91001, 143, "Slow".toList, some 8⟩], {}, ⟨0, 0⟩⟩,
    fun _ => [fun _ => some (.integer 18600), fun _ => some (.integer 91000)],
    by decide, by decide, by decide, rfl,
    (exec_statements _ _ (by decide) (by decide) (by decide)).2.2.2.2⟩

end Script

end TomeSql
