/-
  What stands between the parts of a TOML document: blanks, line ends and comments.
-/
import TomeSql.Text.Scanner

namespace TomeSql.Toml

open Scanner

/-- Blanks within a line: space and tab. -/
def isBlank (c : Char) : Bool := c == ' ' || c == '\t'

/-- Characters that may stand in a document: not a control character, but for the tab. -/
def isPlain (c : Char) : Bool := c == '\t' || (' ' ≤ c && c != '\x7f')

/-- Skips blanks within a line. -/
def blanks : Scanner Unit := discard (run isBlank)

/-- A line end: a line feed, or a carriage return and a line feed. -/
def newline : Scanner Unit := discard (expect '\n' <|> (expect '\r' *> expect '\n'))

/-- A comment, up to the end of its line. -/
def comment : Scanner Unit := do
  discard (expect '#')
  discard (run isPlain)

/-- The end of a line, or of the document. -/
def lineEnd : Scanner Unit := newline <|> atEnd

/-- What may follow an expression on its line. -/
def endOfExpression : Scanner Unit := do
  blanks
  discard (optional comment)
  lineEnd

/-- Skips blanks, line ends and whole comments. -/
def gaps : Scanner Unit :=
  discard (many (discard (satisfy isBlank) <|> newline <|> (comment *> newline)))

end TomeSql.Toml
