/-
  Patterns for texts: what all their parts share.

  1. **Mode** — a pattern is read in a mode, which settings inside it change.  In the loose mode white
     space and comments between its signs mean nothing.  Without Unicode its characters are bytes,
     and it may not say anything that could match a part of a character.

  2. **Depth** — the parts of a pattern nest.  A row of parts is one level deeper than the deepest of
     them, unless it has a single part, which stands for itself.
-/
import TomeSql.Text.Scanner

namespace TomeSql.Pattern

/-! ## Modes -/

/-- How a pattern is read. -/
structure Mode where
  /-- White space and comments mean nothing. -/
  loose : Bool := false
  /-- It is about characters of all scripts. -/
  unicode : Bool := true
deriving DecidableEq

namespace Mode

/-- The mode after a setting: the letters up to a minus sign turn on, the ones behind it off. -/
def change (m : Mode) (letters : Text) : Mode :=
  let on := letters.takeWhile (· != '-')
  let off := letters.dropWhile (· != '-')
  { loose := (m.loose || on.contains 'x') && !off.contains 'x'
    unicode := (m.unicode || on.contains 'u') && !off.contains 'u' }

example : ({} : Mode).change "x-u".toList = ⟨true, false⟩ := by decide

end Mode

/-! ## Gaps -/

/-- Drops white space and comments, each up to the end of its line. -/
def dropGaps : (inComment : Bool) → Text → Text
  | _, [] => []
  | true, c :: t => dropGaps (c != '\n') t
  | false, c :: t =>
    if Unicode.isWhiteSpace c then dropGaps false t
    else if c = '#' then dropGaps true t
    else c :: t

/-- Skips what means nothing in the mode. -/
def skip (m : Mode) : Scanner Unit := fun t => some ((), if m.loose then dropGaps false t else t)

/-- The character ahead: in the loose mode white space is looked through, and the sign of a comment
with the white space behind it, as long as anything else follows. -/
def ahead? (m : Mode) (t : Text) : Option Char :=
  if !m.loose then t.head?
  else match Text.trimStart t with
    | [] => t.head?
    | '#' :: u => (Text.trimStart u).head?.or t.head?
    | c :: _ => some c

example : dropGaps false " # a\n\tb".toList = "b".toList := by decide
example : ahead? ⟨true, true⟩ " # ]".toList = some ']' := by decide

/-! ## Depth -/

/-- How deep a row of parts is, by the depths of the parts. -/
def rowDepth : List Nat → Nat
  | [] => 0
  | [d] => d
  | ds => ds.foldl max 0 + 1

/-- How deep a pattern may be. -/
def depthLimit : Nat := 250

example : rowDepth [3] = 3 ∧ rowDepth [0, 2, 1] = 3 := by decide

end TomeSql.Pattern
