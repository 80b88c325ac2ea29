/-
  Brackets: sets of characters.

  1. **Items** — a character, a range `a-z` in increasing order, an escape, a named set `[:alpha:]`, or
     brackets within.  A minus sign at the beginning or before the closing bracket stands for
     itself, and so does a closing bracket that comes first.

  2. **Operators** — `&&`, `--` and `~~` join the items before them with the ones behind, from the left.
     An operand may be empty.

  3. **Exclusion** — a set that is turned round by `^` holds characters beyond ASCII, so it needs
     Unicode.
-/
import TomeSql.Pattern.Atom

namespace TomeSql.Pattern

open Scanner

/-! ## Items -/

/-- Reads a character or an escape within brackets. -/
def single (m : Mode) : Scanner Atom := do
  match ← satisfy fun _ => true with
  | '\\' => escape m
  | c => return .literal c

/-- A minus sign stands here between the ends of a range. -/
def isRangeSign (m : Mode) : Text → Bool
  | '-' :: t => ahead? m t != some ']' && ahead? m t != some '-'
  | _ => false

/-- Reads an item that is a character, an escape or a range. -/
def item (m : Mode) : Scanner Unit := do
  let low ← single m
  skip m
  if isRangeSign m (← get) then
    discard (expect '-')
    skip m
    let high ← single m
    match low.char?, high.char? with
    | some a, some b => require (low.listed m && high.listed m && a ≤ b)
    | _, _ => failure
  else require (low.listed m)

/-- The names of sets. -/
def setNames : List Text :=
  ["alnum", "alpha", "ascii", "blank", "cntrl", "digit", "graph", "lower", "print", "punct",
    "space", "upper", "word", "xdigit"].map (·.toList)

/-- Reads a named set, and tells whether it is turned round. -/
def named : Scanner Bool := do
  discard (word "[:".toList)
  let negated ← optional (expect '^')
  let name ← run (· != ':')
  require (setNames.contains name)
  discard (word ":]".toList)
  return negated.isSome

/-- Reads an operator. -/
def operator : Scanner Unit :=
  discard (word "&&".toList <|> word "--".toList <|> word "~~".toList)

/-! ## Sets -/

/-- Reads what comes first behind the opening bracket, and counts the items in it. -/
def opening (m : Mode) : Scanner Nat := do
  skip m
  let negated ← optional (expect '^')
  require (m.unicode || negated.isNone)
  skip m
  let dashes ← many (expect '-' <* skip m)
  if dashes.isEmpty then return (← optional (expect ']')).toList.length
  else return dashes.length

/-- How deep the operands are that were read, by the one before the operator and the items behind
it. -/
def operandsDepth (before : Option Nat) (items : List Nat) : Nat :=
  match before with
  | none => rowDepth items
  | some d => max d (rowDepth items) + 1

/-- Reads up to the closing bracket, and tells how deep the set is; `fuel` bounds the number of
items. -/
def operands (m : Mode) : (fuel : Nat) → (before : Option Nat) → (items : List Nat) → Scanner Nat
  | 0, _, _ => failure
  | n + 1, before, items => do
    skip m
    match ← optional named, ← peek? with
    | some negated, _ =>
      require (m.unicode || !negated)
      operands m n before (0 :: items)
    | none, some '[' =>
      discard (expect '[')
      let leading ← opening m
      let inner ← operands m n none (List.replicate leading 0)
      operands m n before ((inner + 1) :: items)
    | none, some ']' =>
      discard (expect ']')
      return operandsDepth before items
    | none, _ =>
      match ← optional operator with
      | some _ => operands m n (some (operandsDepth before items)) []
      | none =>
        item m
        operands m n before (0 :: items)

/-- Reads a set behind its opening bracket, and tells how deep the brackets are. -/
def brackets (m : Mode) : Scanner Nat := do
  let leading ← opening m
  let inner ← operands m ((← get).length + 1) none (List.replicate leading 0)
  return inner + 1

example : brackets {} "]a-z[:digit:]]b".toList = some (2, "b".toList) := by decide +kernel
example : brackets {} "z-a]".toList = none ∧ brackets {} "a".toList = none := by decide +kernel

end TomeSql.Pattern
