/-
  The lower-case form of a text.

  Each character is mapped by itself, except the capital sigma: it becomes `ς` at the end of a word
  and `σ` elsewhere.  A sigma ends a word when, looking through the characters that case mapping
  ignores, a cased letter comes before it and none after it.
-/
import TomeSql.Text.Basic
import TomeSql.Unicode.Casing
import TomeSql.Unicode.Lowercase

namespace TomeSql.Text

/-- The first character that case mapping does not look through is a cased letter. -/
def meetsCased (t : Text) : Bool :=
  match t.dropWhile Unicode.isCaseIgnorable with
  | [] => false
  | c :: _ => Unicode.isCased c

/-- The lower-case form of `c`, where `before` is the text to its left, nearest character first, and
`behind` the text to its right. -/
def lowerAt (before : Text) (c : Char) (behind : Text) : Text :=
  if c = 'Σ' then [if meetsCased before && !meetsCased behind then 'ς' else 'σ']
  else Unicode.lowerChar c

/-- The lower-case form of `t` when `before`, nearest character first, stands to its left. -/
def lowercaseAfter (before : Text) : Text → Text
  | [] => []
  | c :: t => lowerAt before c t ++ lowercaseAfter (c :: before) t

/-- The lower-case form of a text. -/
def lowercase (t : Text) : Text := lowercaseAfter [] t

example : lowercase "Tome of ZZ".toList = "tome of zz".toList := by decide
example : lowercase "ΑΣ Σ".toList = "ας σ".toList := by decide +kernel

end TomeSql.Text
