/-
  The white space of Unicode: the characters with the property `White_Space`.

  It is wider than the six ASCII characters (no-break space, the spaces of U+2000 to U+200A and the
  ideographic space belong to it) and leaves out what only looks blank (zero-width space, U+FEFF)
  and the separators U+001C to U+001F.
-/
import TomeSql.Unicode.Ranges

namespace TomeSql.Unicode

/-- The code points with the property `White_Space`. -/
def whiteSpaceRanges : Ranges :=
  [ (0x9, 0xD), (0x20, 0x20), (0x85, 0x85), (0xA0, 0xA0), (0x1680, 0x1680), (0x2000, 0x200A),
    (0x2028, 0x2029), (0x202F, 0x202F), (0x205F, 0x205F), (0x3000, 0x3000)]

/-- White space: what trimming removes and what separates the words of a schema line. -/
def isWhiteSpace (c : Char) : Bool := whiteSpaceRanges.has c

example : isWhiteSpace '\x0b' = true ∧ isWhiteSpace '\u3000' = true := by decide
example : isWhiteSpace '\x1c' = false ∧ isWhiteSpace '\ufeff' = false := by decide

end TomeSql.Unicode
