/-
  Patterns as a whole, and which texts are patterns.

  1. **Expressions** — alternatives separated by bars; each is a row of pieces.  A piece is an atom,
     brackets, a group in parentheses, or a setting such as `(?x)`.  Every piece but a setting can be
     repeated, also more than once; a question mark right behind a repetition makes it lazy.

  2. **Groups** — a group may have a name, which no other group has, or settings for what is in it.
     A setting that stands alone holds up to the end of the group around it.

  3. **`isPattern`** — a text is a pattern if all of it is an expression, no name is given twice, and
     nothing nests deeper than the limit.
-/
import TomeSql.Pattern.Brackets
import TomeSql.Unicode.Alphanumeric

namespace TomeSql.Pattern

open Scanner

/-! ## Beginnings of groups -/

/-- What an opening parenthesis begins. -/
inductive Opening where
  /-- A setting, for what follows. -/
  | setting (m : Mode)
  /-- A group, which is read in a mode of its own. -/
  | group (m : Mode) (name : Option Text)

/-- Characters that a name may begin with. -/
def isNameStart (c : Char) : Bool := c == '_' || Unicode.isAlphabetic c

/-- Characters that a name may go on with. -/
def isNameChar (c : Char) : Bool := "_.[]".toList.contains c || Unicode.isAlphanumeric c

/-- Reads the name of a group, and its end mark. -/
def groupName : Scanner Text := do
  let first ← satisfy isNameStart
  let rest ← run isNameChar
  discard (expect '>')
  return first :: rest

/-- The letters and the sign of settings. -/
def settingLetters : Text := "imsUuRx-".toList

/-- Reads the letters of a setting: none of them twice, and a minus sign only before a letter. -/
def settings : Scanner Text := do
  let letters ← run fun c => c != ':' && c != ')'
  require (letters.all settingLetters.contains && decide letters.Nodup
    && letters.getLast? != some '-')
  return letters

/-- Reads what follows an opening parenthesis up to the first piece of a group, or a setting. -/
def groupStart (m : Mode) : Scanner Opening := do
  skip m
  match ← optional (word "?P<".toList <|> word "?<".toList), ← peek? with
  | some _, _ => return .group m (← groupName)
  | none, some '?' =>
    discard (expect '?')
    let letters ← settings
    match ← satisfy fun _ => true with
    | ':' => return .group (m.change letters) none
    | _ =>
      require !letters.isEmpty
      return .setting (m.change letters)
  | none, _ => return .group m none

/-! ## Expressions -/

/-- What is kept of a piece, or of a row of them. -/
structure Piece where
  depth : Nat := 0
  /-- The names of the groups in it. -/
  names : List Text := []
  repeatable : Bool := true
deriving DecidableEq

/-- A row of pieces. -/
def Piece.row (ps : List Piece) : Piece :=
  { depth := rowDepth (ps.map (·.depth)), names := ps.flatMap (·.names) }

/-- Reads an expression up to the end of the pattern or of the group around it.  `alternatives` are
the ones before the last bar and `pieces` the ones behind it, the latest first; `fuel` bounds the
number of signs. -/
def expression : (fuel : Nat) → Mode → (alternatives pieces : List Piece) → Scanner Piece
  | 0, _, _, _ => failure
  | n + 1, m, alternatives, pieces => do
    skip m
    match ← peek? with
    | none | some ')' => return .row (.row pieces :: alternatives)
    | some '|' =>
      discard (expect '|')
      expression n m (.row pieces :: alternatives) []
    | some '(' =>
      discard (expect '(')
      match ← groupStart m with
      | .setting inner => expression n inner alternatives ({ repeatable := false } :: pieces)
      | .group inner name =>
        let body ← expression n inner [] []
        discard (expect ')')
        expression n m alternatives
          ({ depth := body.depth + 1, names := name.toList ++ body.names } :: pieces)
    | some '[' =>
      discard (expect '[')
      let depth ← brackets m
      expression n m alternatives ({ depth := depth } :: pieces)
    | some '\x7b' => failure
    | some c =>
      if c = '?' ∨ c = '*' ∨ c = '+' then
        match pieces with
        | last :: before =>
          require last.repeatable
          discard (expect c)
          discard (optional (expect '?'))
          expression n m alternatives ({ last with depth := last.depth + 1 } :: before)
        | [] => failure
      else do
        let a ← atom m
        require (a.admitted m)
        expression n m alternatives ({} :: pieces)

/-- The text is a pattern. -/
def isPattern (t : Text) : Bool :=
  match expression (t.length + 1) {} [] [] t with
  | some (whole, []) => decide whole.names.Nodup && whole.depth ≤ depthLimit
  | _ => false

example : isPattern "".toList = true ∧ isPattern "a??|[^b-d]+(?<n>c)".toList = true := by decide +kernel
example : isPattern "(a".toList = false ∧ isPattern "a)".toList = false ∧
    isPattern "|*".toList = false ∧ isPattern "(?x)*".toList = false := by decide +kernel
example : isPattern "(?P<n>a)(?P<n>b)".toList = false ∧ isPattern "\\b".toList = false ∧
    isPattern "(?-u:\\b)a".toList = true := by decide +kernel

end TomeSql.Pattern
