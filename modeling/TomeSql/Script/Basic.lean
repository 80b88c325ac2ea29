/-
  Scripts: the statements that bring a batch of tomes into the database.

  1. **Statements** — one `delete` of all entries of the batch, which makes the script fit to be run
     again, then one `clone` of the template for each tome.

  2. **Text** — comment lines that say how the script came about, the `delete`, and each `clone`
     under a comment line of its own.

  3. **Warnings** — an override of a column that the table does not have is left out of the clones;
     each such column is reported once, in the order of code points.
-/
import TomeSql.Log
import TomeSql.Script.Policy
import TomeSql.Timestamp

namespace TomeSql

/-- A script for `tomes`, on a table with the given columns. -/
structure Script where
  columns : ColumnList
  tomes : List Tome
  policy : Policy
  generatedAt : Timestamp

namespace Script

/-! ## Statements -/

/-- The statement that removes all rows of the batch. -/
def deletion (p : Policy) (tomes : List Tome) : Sql.Statement :=
  .delete p.table p.keyColumn (tomes.map (·.entry))

/-- The statement that makes the row of one tome. -/
def insertion (p : Policy) (columns : ColumnList) (t : Tome) : Sql.Statement :=
  .clone p.table p.keyColumn p.template (columns.columns.map fun c => ⟨c, p.override? t c⟩)

/-- The statements of a script in order. -/
def statements (s : Script) : List Sql.Statement :=
  deletion s.policy s.tomes :: s.tomes.map (insertion s.policy s.columns)

/-! ## Text -/

/-- A comment line. -/
def comment (parts : List Text) : Text := "-- ".toList ++ parts.flatten ++ ['\n']

/-- A number of the policy, or the note that the template's value stays. -/
def orUnchanged : Option Int32 → Text
  | some n => Decimal.ofInt n.toInt
  | none => "(unchanged)".toList

/-- The comment lines at the top. -/
def header (s : Script) : Text :=
  comment ["Generated by tomesmith at ".toList, s.generatedAt.render] ++
  comment ["Template entry: ".toList, Decimal.ofNat s.policy.template.toNat] ++
  comment ["ScriptName: ".toList, s.policy.scriptName] ++
  comment ["Dummy spell: ".toList, Decimal.ofNat s.policy.dummySpell.toNat] ++
  comment ["AllowableClass: ".toList, Decimal.ofInt s.policy.allowableClass.toInt] ++
  comment ["AllowableRace: ".toList, orUnchanged s.policy.allowableRace] ++
  comment ["RequiredLevel: ".toList, orUnchanged s.policy.requiredLevel]

/-- The comment line and the statement of one tome. -/
def record (p : Policy) (columns : ColumnList) (t : Tome) : Text :=
  comment [Decimal.ofNat t.entry.toNat, ": ".toList, t.name, " (learns spell ".toList,
    Decimal.ofNat t.spell.toNat, ")".toList] ++
  (insertion p columns t).render ++ "\n\n".toList

/-- The text of a script. -/
def render (s : Script) : Text :=
  s.header ++ "\n".toList ++ (deletion s.policy s.tomes).render ++ "\n\n".toList ++
  s.tomes.flatMap (record s.policy s.columns)

/-! ## Warnings -/

/-- Adds a text to a list in strictly increasing order, if it is not there yet. -/
def insertInOrder (t : Text) : List Text → List Text
  | [] => [t]
  | u :: us => if t < u then t :: u :: us else if t = u then u :: us else u :: insertInOrder t us

/-- The overridden columns that the table lacks, in strictly increasing order.  Tomes differ in
their overrides only by the level, so the first one and a look at all levels are enough. -/
def missingColumns (s : Script) : List Text :=
  match s.tomes with
  | [] => []
  | first :: _ =>
    let level := if s.tomes.any (·.level.isSome) then [Column.requiredLevel] else []
    let touched := (s.policy.overrides first).map Prod.fst ++ level
    (touched.filter fun c => !s.columns.contains c).foldr insertInOrder []

/-- The warnings of a script. -/
def warnings (s : Script) : List Log.Event :=
  s.missingColumns.map (.columnMissing s.columns.table)

end Script

end TomeSql
