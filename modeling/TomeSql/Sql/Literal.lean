/-
  Literal values and names in SQL, as MySQL reads them.

  A text literal stands between single quotes; a backslash and a single quote inside it each get a
  backslash in front.  A name stands between backticks as it is.
-/
import TomeSql.Text.Decimal

namespace TomeSql.Sql

/-- How a character is written inside a text literal. -/
def escapedChar (c : Char) : Text :=
  if c = '\\' then ['\\', '\\'] else if c = '\'' then ['\\', '\''] else [c]

/-- The text literal of `t`. -/
def quote (t : Text) : Text := '\'' :: t.flatMap escapedChar ++ ['\'']

/-- A name between backticks, whatever it holds. -/
def name (t : Text) : Text := '\x60' :: t ++ ['\x60']

/-- A literal value. -/
inductive Literal where
  | integer (n : Int)
  | text (t : Text)
deriving DecidableEq

/-- A literal as it is written in a statement. -/
def Literal.render : Literal → Text
  | .integer n => Decimal.ofInt n
  | .text t => quote t

example : quote "Kel'Thuzad".toList = "'Kel\\'Thuzad'".toList := by decide
example : quote "\\'".toList = "'\\\\\\''".toList := by decide

end TomeSql.Sql
