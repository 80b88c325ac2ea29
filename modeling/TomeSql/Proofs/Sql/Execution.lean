/-
  What the statements of a script do to a database.

  1. **Rows** — a table is a list of rows, and a row gives a value to each of its columns.  A value
     is a literal or NULL.

  2. **`delete`** — takes the rows away whose key is one of the listed entries, and leaves the others
     as they are and in order.

  3. **`clone`** — puts a copy of each row that has the template's key behind the rows that are
     there.  In the copy a column that stands with a literal holds that literal; every other column
     has its value from the template.
-/
import TomeSql.Sql.Statement
import Mathlib.Logic.Function.Basic

namespace TomeSql.Sql

/-- The value in a column; none is NULL. -/
abbrev Value := Option Literal

/-- A row of a table: the value in each column. -/
abbrev Record := Text → Value

/-- The rows of each table, by the name of the table. -/
abbrev Database := Text → List Record

/-- The key of the row is the entry `e`. -/
def hasKey (key : Text) (e : UInt32) (r : Record) : Bool := r key == some (.integer e.toNat)

/-- The key of the row is one of the entries. -/
def hasKeyIn (key : Text) (entries : List UInt32) (r : Record) : Bool :=
  entries.any fun e => hasKey key e r

/-- The literal that stands in place of a column, if one does. -/
def literalFor (items : List Item) (column : Text) : Option Literal :=
  items.findSome? fun i => if i.column = column then i.literal else none

/-- The copy of a row with the literals in place. -/
def copyWith (items : List Item) (r : Record) : Record := fun c => (literalFor items c).or (r c)

/-- What a statement does to the database. -/
def Statement.exec : Statement → Database → Database
  | .delete table key entries, db =>
    Function.update db table ((db table).filter fun r => !hasKeyIn key entries r)
  | .clone table key template items, db =>
    Function.update db table
      (db table ++ ((db table).filter (hasKey key template)).map (copyWith items))

/-- What statements do one after the other. -/
def execAll (statements : List Statement) (db : Database) : Database :=
  statements.foldl (fun db s => s.exec db) db

theorem execAll_cons (s : Statement) (rest : List Statement) (db : Database) :
    execAll (s :: rest) db = execAll rest (s.exec db) := rfl

/-! ## Keys -/

/-- A row has one key. -/
theorem eq_of_hasKey {key : Text} {d e : UInt32} {r : Record} (hd : hasKey key d r = true)
    (he : hasKey key e r = true) : d = e := by
  simp only [hasKey, beq_iff_eq] at hd he
  rw [hd, Option.some.injEq, Literal.integer.injEq, Int.natCast_inj] at he
  exact UInt32.toNat_inj.mp he

/-- A row of a known key is removed exactly where its key is listed. -/
theorem hasKeyIn_iff_mem {key : Text} {entries : List UInt32} {e : UInt32} {r : Record}
    (h : hasKey key e r = true) : hasKeyIn key entries r = true ↔ e ∈ entries := by
  rw [hasKeyIn, List.any_eq_true]
  constructor
  · rintro ⟨d, hd, hr⟩
    exact eq_of_hasKey h hr ▸ hd
  · exact fun he => ⟨e, he, h⟩

/-! ## Rows that a delete leaves -/

/-- An entry that is not listed keeps its rows. -/
theorem filter_hasKey_of_not_mem {key : Text} {entries : List UInt32} {e : UInt32}
    (h : e ∉ entries) (rows : List Record) :
    (rows.filter fun r => !hasKeyIn key entries r).filter (hasKey key e) =
      rows.filter (hasKey key e) := by
  rw [List.filter_filter]
  apply List.filter_congr
  intro r _
  by_cases hr : hasKey key e r = true
  · have hnot : hasKeyIn key entries r = false := by
      rw [← Bool.not_eq_true, hasKeyIn_iff_mem hr]
      exact h
    simp [hr, hnot]
  · simp [hr]

/-- An entry that is listed keeps none. -/
theorem filter_hasKey_of_mem {key : Text} {entries : List UInt32} {e : UInt32}
    (h : e ∈ entries) (rows : List Record) :
    (rows.filter fun r => !hasKeyIn key entries r).filter (hasKey key e) = [] := by
  rw [List.filter_filter, List.filter_eq_nil_iff]
  intro r _
  by_cases hr : hasKey key e r = true
  · simp [hr, (hasKeyIn_iff_mem hr).mpr h]
  · simp [hr]

end TomeSql.Sql
