/-
  What a directive asks of the fields of an event or a span.

  It names a field, and may give the value that the field must have, behind an equals sign.  A value
  is a number or a pattern; truth values and plain words are patterns as well, and so is every number
  without a plus sign.  A second equals sign ends the value, and what follows is not looked at.
-/
import TomeSql.Pattern.Expression

namespace TomeSql.Log

open Scanner

/-! ## Numbers -/

/-- An exponent: its letter, an optional sign and digits. -/
def exponent : Scanner Unit := do
  discard (expect 'e' <|> expect 'E')
  discard (optional (expect '+' <|> expect '-'))
  require !(← run Char.isDigit).isEmpty

/-- Digits with at most one point among or around them, and perhaps an exponent behind. -/
def digitsAndExponent : Scanner Unit := do
  let whole ← run Char.isDigit
  let fraction ← optional (expect '.' *> run Char.isDigit)
  require (!whole.isEmpty || fraction.any fun f => !f.isEmpty)
  discard (optional exponent)

/-- The names of numbers that have no digits. -/
def numberNames : List Text := ["inf".toList, "infinity".toList, "nan".toList]

/-- The text is a number: digits or a name, behind an optional sign. -/
def isNumber (t : Text) : Bool :=
  let u := match t with
    | '+' :: u | '-' :: u => u
    | _ => t
  numberNames.contains (u.map Char.toLower) || ((digitsAndExponent <* atEnd) u).isSome

example : isNumber "+1.e-5".toList = true ∧ isNumber "-NaN".toList = true := by decide +kernel
example : isNumber "+1e".toList = false ∧ isNumber ".".toList = false := by decide +kernel

/-! ## Tests -/

/-- The name of a field, and the value that is asked for. -/
structure FieldTest where
  name : Text
  value : Option Text := none
deriving DecidableEq

/-- Reads a test. -/
def FieldTest.ofText? (t : Text) : Option FieldTest :=
  match Text.fields '=' t with
  | [] => none
  | [name] => if name.isEmpty then none else some { name := name }
  | name :: value :: _ =>
    if isNumber value || Pattern.isPattern value then some { name := name, value := some value }
    else none

example : FieldTest.ofText? "a=b=(".toList = some ⟨"a".toList, some "b".toList⟩ := by decide +kernel
example : FieldTest.ofText? "a=(".toList = none ∧ FieldTest.ofText? [] = none := by decide +kernel

end TomeSql.Log
