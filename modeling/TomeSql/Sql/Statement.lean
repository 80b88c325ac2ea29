/-
  The two statements that a script is made of, and their text.

  1. **`delete`** — removes the rows of a table whose key is one of the listed entries.

  2. **`clone`** — for each row whose key is the template's, inserts a copy in which some columns
     hold literals.  Each column stands once in the column list and once, in the same place, in the
     selection: by itself when it is copied, or as a literal under its name.
-/
import TomeSql.Sql.Literal

namespace TomeSql.Sql

/-- A column of a copied row: the template's value, or a literal in its place. -/
structure Item where
  column : Text
  literal : Option Literal
deriving DecidableEq

/-- A statement on the table `table`, whose rows are told apart by the column `key`. -/
inductive Statement where
  | delete (table key : Text) (entries : List UInt32)
  | clone (table key : Text) (template : UInt32) (items : List Item)
deriving DecidableEq

/-- Puts a comma and a blank between the parts of a list. -/
def commaSeparated (parts : List Text) : Text := ", ".toList.intercalate parts

/-- An item of the selection. -/
def Item.render (i : Item) : Text :=
  match i.literal with
  | some l => l.render ++ " AS ".toList ++ name i.column
  | none => name i.column

/-- The text of a statement, up to and including its semicolon. -/
def Statement.render : Statement → Text
  | .delete table key entries =>
    "DELETE FROM ".toList ++ name table ++ " WHERE ".toList ++ name key ++ " IN (".toList ++
    commaSeparated (entries.map fun e => Decimal.ofNat e.toNat) ++ ");".toList
  | .clone table key template items =>
    "INSERT INTO ".toList ++ name table ++
    " (".toList ++ commaSeparated (items.map fun i => name i.column) ++ ")\n".toList ++
    "SELECT ".toList ++ commaSeparated (items.map Item.render) ++ "\n".toList ++
    "FROM ".toList ++ name table ++ "\n".toList ++
    "WHERE ".toList ++ name key ++ " = ".toList ++ Decimal.ofNat template.toNat ++ ";".toList

theorem Statement.render_delete (table key : Text) (entries : List UInt32) :
    (delete table key entries).render =
      "DELETE FROM ".toList ++ name table ++ " WHERE ".toList ++ name key ++ " IN (".toList ++
      commaSeparated (entries.map fun e => Decimal.ofNat e.toNat) ++ ");".toList := rfl

theorem Statement.render_clone (table key : Text) (template : UInt32) (items : List Item) :
    (clone table key template items).render =
      "INSERT INTO ".toList ++ name table ++
      " (".toList ++ commaSeparated (items.map fun i => name i.column) ++ ")\n".toList ++
      "SELECT ".toList ++ commaSeparated (items.map Item.render) ++ "\n".toList ++
      "FROM ".toList ++ name table ++ "\n".toList ++
      "WHERE ".toList ++ name key ++ " = ".toList ++ Decimal.ofNat template.toNat ++ ";".toList := rfl

example : (Statement.delete "t".toList "k".toList [1, 20]).render =
    "DELETE FROM \x60t\x60 WHERE \x60k\x60 IN (1, 20);".toList := by decide

end TomeSql.Sql
