/-
  Texts quoted for a message.

  A quoted text stands between double quotes.  Tab, line feed, carriage return and NUL are written
  as a backslash and a letter, the quote and the backslash with a backslash in front, and all that
  could not be seen by itself, or would attach to the character before it, by its number in braces.
-/
import TomeSql.Text.Basic
import TomeSql.Unicode.Printable

namespace TomeSql.Text

/-- The lower-case hexadecimal digits of a number. -/
def hexadecimal (n : Nat) : Text := Nat.toDigits 16 n

/-- How a character is written inside a quoted text. -/
def quotedChar (c : Char) : Text :=
  match c with
  | '\x00' => ['\\', '0']
  | '\t' => ['\\', 't']
  | '\n' => ['\\', 'n']
  | '\r' => ['\\', 'r']
  | '"' => ['\\', '"']
  | '\\' => ['\\', '\\']
  | c =>
    if Unicode.isAttached c || !Unicode.isPrintable c then
      ['\\', 'u', '\x7b'] ++ hexadecimal c.toNat ++ ['\x7d']
    else [c]

/-- The quoted form of a text. -/
def quoted (t : Text) : Text := '"' :: t.flatMap quotedChar ++ ['"']

example : quoted "a\"\\\t".toList = "\"a\\\"\\\\\\t\"".toList := by decide
example : quoted ['\x1b'] = ['"', '\\', 'u', '\x7b', '1', 'b', '\x7d', '"'] := by decide

end TomeSql.Text
