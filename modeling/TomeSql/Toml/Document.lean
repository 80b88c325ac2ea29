/-
  TOML documents.

  1. **Keys** — bare, or quoted on one line; a dotted key has less than 80 parts.

  2. **Values** — arrays and inline tables nest less than 80 deep, so the recursion is on the depth
     still allowed.

  3. **Expressions** — a document is a sequence of lines, each blank, a comment, a key with its
     value, or a header.  A header moves the place that later keys are added to.

  4. **`parse?`** — the entries of a document, if all of it is well formed and no key is given twice.
-/
import TomeSql.Toml.Numbers

namespace TomeSql.Toml

open Scanner

/-- How deep values nest and how many parts a key has, at most, plus one. -/
def nestingLimit : Nat := 80

/-! ## Keys -/

/-- Characters of a bare key. -/
def isBare (c : Char) : Bool := c.isAlphanum || c == '_' || c == '-'

/-- One part of a key, with the blanks around it. -/
def keyPart : Scanner Text := do
  blanks
  let part ← basicString <|> literalString <|> someOf isBare
  blanks
  return part

/-- A key: its parts, which are at least one. -/
def key : Scanner (List Text) := do
  let parts ← separated keyPart '.'
  require (parts.length < nestingLimit)
  return parts

/-- Adds a value under a key with the given parts. -/
def putKey (parts : List Text) (v : Value) (es : Entries) : Option Entries :=
  match parts.getLast? with
  | none => none
  | some last => es.put last v parts.dropLast

/-! ## Values -/

/-- A value that is not made of others. -/
def scalar : Scanner Value := do
  match ← peek? with
  | none => failure
  | some c =>
    if c == '"' || c == '\'' then .string <$> string
    else if c == 't' then word "true".toList *> pure (.boolean true)
    else if c == 'f' then word "false".toList *> pure (.boolean false)
    else number

/-- An array, whose items are read by `value`; a comma may follow the last one. -/
def array (value : Scanner Value) : Scanner Value := do
  discard (expect '[')
  let items ← (do
      let items ← separated (gaps *> value <* gaps) ','
      discard (optional (expect ','))
      return items) <|> pure []
  gaps
  discard (expect ']')
  return .array items

/-- A key and its value, on one line. -/
def keyValue (value : Scanner Value) : Scanner (List Text × Value) := do
  let k ← key
  discard (expect '=')
  blanks
  let v ← value
  blanks
  return (k, v)

/-- An inline table, whose values are read by `value`. -/
def inlineTable (value : Scanner Value) : Scanner Value := do
  discard (expect '\x7b')
  let pairs ← separated (keyValue value) ',' <|> pure []
  blanks
  discard (expect '\x7d')
  match pairs.foldlM (fun es p => putKey p.1 p.2 es) ([] : Entries) with
  | some es => return .table .inline es
  | none => failure

/-- A value that holds others at most `depth` deep. -/
def value : (depth : Nat) → Scanner Value
  | 0 => scalar
  | depth + 1 => do
    match ← peek? with
    | some '[' => array (value depth)
    | some '\x7b' => inlineTable (value depth)
    | _ => scalar

/-! ## Expressions -/

/-- What the lines read so far make: the entries, and the path of the header that later keys belong
to. -/
structure Document where
  entries : Entries := []
  here : List Text := []

namespace Document

/-- Adds a key and its value under the current header. -/
def add (d : Document) (parts : List Text) (v : Value) : Option Document :=
  (d.entries.changeAt (putKey parts v) d.here).map fun es => { d with entries := es }

/-- Opens what a header names, where `make` opens the last part in its table. -/
def enter (d : Document) (make : Text → Entries → Option Entries) (parts : List Text) :
    Option Document :=
  match parts.getLast? with
  | none => none
  | some last => (d.entries.changeAt (make last) parts.dropLast).map fun es => ⟨es, parts⟩

end Document

/-- A key and its value on a line of their own. -/
def keyLine (d : Document) : Scanner Document := do
  let (k, v) ← keyValue (value (nestingLimit - 1))
  endOfExpression
  (d.add k v : Option Document)

/-- A header in single brackets. -/
def tableHeader (d : Document) : Scanner Document := do
  discard (expect '[')
  let k ← key
  discard (expect ']')
  endOfExpression
  (d.enter Entries.openTable k : Option Document)

/-- A header in double brackets. -/
def elementHeader (d : Document) : Scanner Document := do
  discard (word "[[".toList)
  let k ← key
  discard (word "]]".toList)
  endOfExpression
  (d.enter Entries.openElement k : Option Document)

/-- A line that adds nothing. -/
def emptyLine (d : Document) : Scanner Document := do
  blanks
  (comment *> lineEnd) <|> newline
  return d

/-- A line of a document. -/
def expression (d : Document) : Scanner Document := do
  blanks
  emptyLine d <|> elementHeader d <|> tableHeader d <|> keyLine d

/-- The lines of a document up to its end, at most `n` of them. -/
def expressions : (n : Nat) → Document → Scanner Document
  | 0, d => pure d
  | n + 1, d => (do blanks; atEnd; pure d) <|> (do expressions n (← expression d))

/-- The entries of a document; a byte order mark in front of it is passed over. -/
def parse? (t : Text) : Option Entries :=
  let t := if t.head? = some '\ufeff' then t.tail else t
  (scanAll? (expressions (t.length + 1) {}) t).map (·.entries)

/-! ## Examples -/

/-- The text is a well-formed document. -/
def accepts (t : String) : Bool := (parse? t.toList).isSome

example : accepts "a.b = 1\n[a.c]\nd = [1, 2,] # e\n[[f]]\r\n[[f]]\n\"\" = 07:32:00" = true := by
  decide +kernel
example : accepts "a = 1\na = 2" = false ∧ accepts "[a]\n[a]" = false := by decide +kernel
example : accepts "a.b = 1\n[a]" = false ∧ accepts "[a.b]\n[a]" = true := by decide +kernel
example : accepts "a = 01" = false ∧ accepts "a = 0o17" = true ∧ accepts "a = 1979-02-29" = false := by
  decide +kernel

end TomeSql.Toml
