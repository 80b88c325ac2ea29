/-
  What a run writes into every clone, and which columns it touches.

  1. **Policy** — the table and its key column, the template, and the literals that are the same for
     all tomes.

  2. **Overrides** — for one tome, the columns that do not keep the template's value.  The first
     spell slot holds a harmless spell, which lets the client use the item; the second teaches.  The
     race is overridden only if the policy says so, the level if the tome or else the policy has
     one.

  3. **Key column** — it gets the tome's entry, unless one of the other overrides is for that very
     column; so every column has at most one override.
-/
import TomeSql.Tome
import TomeSql.Sql.Statement

namespace TomeSql

/-- The choices that hold for all tomes of a script. -/
structure Policy where
  /-- The table that the rows go to. -/
  table : Text := "item_template".toList
  /-- The column that tells the rows of the table apart. -/
  keyColumn : Text := "entry".toList
  /-- The entry of the row that is cloned. -/
  template : UInt32 := 18600
  /-- The harmless spell in the first slot. -/
  dummySpell : UInt32 := 483
  /-- The item script that does the teaching. -/
  scriptName : Text := "item_hardcore_ability".toList
  /-- The classes that may use the item; `-1` is all. -/
  allowableClass : Int32 := -1
  /-- The races that may use it, if that is to change. -/
  allowableRace : Option Int32 := none
  /-- The level required of tomes without one of their own, if that is to change. -/
  requiredLevel : Option Int32 := none
deriving DecidableEq

/-! ## The columns that may be overridden -/

namespace Column

/-- The display name. -/
def name : Text := "name".toList
/-- The classes that may use the item. -/
def allowableClass : Text := "AllowableClass".toList
/-- The races that may use the item. -/
def allowableRace : Text := "AllowableRace".toList
/-- The level required of the user. -/
def requiredLevel : Text := "RequiredLevel".toList
/-- The spell in the first slot. -/
def spell1 : Text := "spellid_1".toList
/-- How the first spell is set off. -/
def trigger1 : Text := "spelltrigger_1".toList
/-- The uses of the first spell. -/
def charges1 : Text := "spellcharges_1".toList
/-- The spell in the second slot. -/
def spell2 : Text := "spellid_2".toList
/-- How the second spell is set off. -/
def trigger2 : Text := "spelltrigger_2".toList
/-- The uses of the second spell. -/
def charges2 : Text := "spellcharges_2".toList
/-- The script that handles the item. -/
def scriptName : Text := "ScriptName".toList

end Column

namespace Policy

open Sql (Literal)

/-! ## Overrides -/

/-- The level that a tome's row requires, if it is not the template's. -/
def levelOf (p : Policy) (t : Tome) : Option Int32 := t.level.or p.requiredLevel

/-- The override of a column, where there is a number for it. -/
def optional (column : Text) (n : Option Int32) : List (Text × Literal) :=
  match n with
  | some n => [(column, .integer n.toInt)]
  | none => []

/-- The overrides of the columns with a fixed name. -/
def namedOverrides (p : Policy) (t : Tome) : List (Text × Literal) :=
  [ (Column.name, .text t.name),
    (Column.allowableClass, .integer p.allowableClass.toInt),
    (Column.spell1, .integer p.dummySpell.toNat),
    (Column.trigger1, .integer 0),
    (Column.charges1, .integer (-1)),
    (Column.spell2, .integer t.spell.toNat),
    (Column.trigger2, .integer 0),
    (Column.charges2, .integer 0),
    (Column.scriptName, .text p.scriptName) ] ++
  optional Column.allowableRace p.allowableRace ++
  optional Column.requiredLevel (p.levelOf t)

/-- The override of the key column, which gives way to a named one. -/
def keyOverride (p : Policy) (t : Tome) : List (Text × Literal) :=
  if p.keyColumn ∈ (p.namedOverrides t).map Prod.fst then []
  else [(p.keyColumn, .integer t.entry.toNat)]

/-- The literals that replace the template's values for one tome, by column. -/
def overrides (p : Policy) (t : Tome) : List (Text × Literal) := p.namedOverrides t ++ p.keyOverride t

/-- The literal for a column, if it is overridden. -/
def override? (p : Policy) (t : Tome) (column : Text) : Option Literal :=
  (p.overrides t).lookup column

end Policy

end TomeSql
