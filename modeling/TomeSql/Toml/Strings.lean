/-
  The four kinds of strings of a TOML document.

  Between double quotes a backslash begins an escape; between single quotes nothing does.  Three
  quotes of either kind make a string that goes over several lines: a line end right after them is
  dropped, every other one counts as a line feed, and up to two quotes may stand inside or right
  before the closing three.  Between three double quotes a backslash at the end of a line takes away
  the line end and all blanks and line ends that follow.
-/
import TomeSql.Toml.Gaps

namespace TomeSql.Toml

open Scanner

/-! ## Escapes -/

/-- The character with the number that `n` hexadecimal digits write. -/
def numberedChar (n : Nat) : Scanner Char := do
  numbered (numeral 16 (← exactly n isHexDigit))

/-- What follows the backslash of an escape. -/
def escaped : Scanner Char := do
  match ← satisfy fun _ => true with
  | 'b' => return '\x08'
  | 'f' => return '\x0c'
  | 'n' => return '\n'
  | 'r' => return '\r'
  | 't' => return '\t'
  | '"' => return '"'
  | '\\' => return '\\'
  | 'u' => numberedChar 4
  | 'U' => numberedChar 8
  | _ => failure

/-- An escape. -/
def escape : Scanner Text := do
  discard (expect '\\')
  return [← escaped]

/-! ## Strings on one line -/

/-- One or more characters of a class. -/
def someOf (p : Char → Bool) : Scanner Text := do
  let t ← run p
  require (!t.isEmpty)
  return t

/-- Characters that stand for themselves between double quotes. -/
def isBasic (c : Char) : Bool := isPlain c && c != '"' && c != '\\'

/-- Characters that may stand between single quotes. -/
def isLiteral (c : Char) : Bool := isPlain c && c != '\''

/-- A string between double quotes. -/
def basicString : Scanner Text := do
  discard (expect '"')
  let parts ← many (someOf isBasic <|> escape)
  discard (expect '"')
  return parts.flatten

/-- A string between single quotes. -/
def literalString : Scanner Text := do
  discard (expect '\'')
  let t ← run isLiteral
  discard (expect '\'')
  return t

/-! ## Strings over several lines -/

/-- A line end inside a string. -/
def innerNewline : Scanner Text := do
  newline
  return ['\n']

/-- A backslash at the end of a line, with all blanks and line ends after it. -/
def lineContinuation : Scanner Text := do
  discard (expect '\\')
  blanks
  newline
  discard (many (discard (satisfy isBlank) <|> newline))
  return []

/-- One or two quotes that do not close the string. -/
def innerQuotes (quote : Char) : Scanner Text := do
  let quotes ← run (· == quote)
  require (quotes.length == 1 || quotes.length == 2)
  return quotes

/-- The closing quotes, with the one or two before them that belong to the string. -/
def closingQuotes (quote : Char) : Scanner Text := fun t =>
  let count := (t.takeWhile (· == quote)).length
  let inside := min (count - 3) 2
  if count < 3 then none else some (List.replicate inside quote, t.drop (inside + 3))

/-- A string between three quotes on either side. -/
def multilineString (quote : Char) (part : Scanner Text) : Scanner Text := do
  discard (word [quote, quote, quote])
  discard (optional newline)
  let parts ← many (part <|> innerNewline <|> innerQuotes quote)
  let last ← closingQuotes quote
  return parts.flatten ++ last

/-- A string of any kind. -/
def string : Scanner Text :=
  multilineString '"' (someOf isBasic <|> lineContinuation <|> escape) <|> basicString <|>
  multilineString '\'' (someOf isLiteral) <|> literalString

/-- Scans a whole text. -/
def scanAll? (s : Scanner α) (t : Text) : Option α :=
  match s t with
  | some (a, []) => some a
  | _ => none

example : scanAll? string "\"a\\tb\\u00e9\"".toList = some "a\tbé".toList := by decide +kernel
example : scanAll? string "'''\na\\'b\r\n''''".toList = some "a\\'b\n'".toList := by decide +kernel
example : scanAll? string "\"\"\"a \\\n  b\"\"\"".toList = some "a b".toList := by decide +kernel
example : scanAll? string "\"\\e\"".toList = none := by decide +kernel

end TomeSql.Toml
