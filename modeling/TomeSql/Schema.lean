/-
  The columns of one table, read out of a schema.

  1. **Lines** — a schema is read line by line, and three kinds of lines matter: the start marker
     of the wanted table, a column line, and a line that ends the block (a key, or the closing
     parenthesis).  Everything else is passed over.

  2. **Block** — the lines after the first start marker and before the next block end, or up to the
     end of the text when nothing closes the block.

  3. **Columns** — the names of the block's column lines, in order.  A table without any is an
     error, so a `ColumnList` is never empty.

  A name that is too long for a pattern is refused before the schema is read.  That refusal is the run's
  (`Run.readColumns`), not the reader's.
-/
import TomeSql.Sql.Literal
import TomeSql.Text.Line

namespace TomeSql

/-- The columns of a table in declaration order; there is at least one. -/
structure ColumnList where
  table : Text
  columns : List Text
  columns_ne_nil : columns ≠ []
deriving DecidableEq

/-- Why no columns were found. -/
inductive SchemaError where
  /-- The table has no start marker, or its block no column line. -/
  | missingColumns (table : Text)
deriving DecidableEq

namespace SchemaError

/-- The text of the error. -/
def message : SchemaError → Text
  | .missingColumns table =>
    "failed to parse \x60".toList ++ table ++
      "\x60 columns from schema (table not found or no column lines)".toList

end SchemaError

namespace Schema

/-! ## The three kinds of lines -/

/-- The whole of `t` is white space. -/
def isBlank (t : Text) : Bool := t.all Unicode.isWhiteSpace

/-- What follows the words `CREATE TABLE` and at least one white space, if `line` begins with them
apart from white space in front. -/
def afterCreateTable? (line : Text) : Option Text :=
  match Text.after? "CREATE TABLE".toList (Text.trimStart line) with
  | some (c :: rest) => if Unicode.isWhiteSpace c then some (Text.trimStart rest) else none
  | _ => none

/-- The start marker of `table`: `CREATE TABLE`, the name in backticks and an opening parenthesis,
with nothing but white space around them. -/
def isTableStart (table line : Text) : Bool :=
  match (afterCreateTable? line).bind (Text.after? (Sql.name table)) with
  | some rest =>
    match Text.trimStart rest with
    | '(' :: tail => isBlank tail
    | _ => false
  | none => false

/-- A line that ends the block: a key, or the closing parenthesis. -/
def isBlockEnd (line : Text) : Bool :=
  let t := Text.trimStart line
  "PRIMARY KEY".toList.isPrefixOf t || "KEY ".toList.isPrefixOf t || [')'].isPrefixOf t

/-- The name in a column line: a non-empty name in backticks, followed by white space. -/
def columnName? (line : Text) : Option Text :=
  match Text.trimStart line with
  | '\x60' :: rest =>
    match rest.takeWhile (· != '\x60'), rest.dropWhile (· != '\x60') with
    | c :: name, _ :: d :: _ => if Unicode.isWhiteSpace d then some (c :: name) else none
    | _, _ => none
  | _ => none

/-! ## The block -/

/-- The lines between the start marker of `table` and the end of its block. -/
def block (table : Text) (lines : List Text) : List Text :=
  ((lines.dropWhile fun l => !isTableStart table l).drop 1).takeWhile fun l => !isBlockEnd l

/-- The column names in the block of `table`. -/
def columnNames (table schema : Text) : List Text :=
  (block table (Text.lines schema)).filterMap columnName?

end Schema

namespace ColumnList

/-- The columns that `schema` declares for `table`. -/
def ofSchema (table schema : Text) : Except SchemaError ColumnList :=
  match h : Schema.columnNames table schema with
  | [] => .error (.missingColumns table)
  | c :: cs => .ok ⟨table, c :: cs, by simp⟩

/-- The number of columns. -/
def length (l : ColumnList) : Nat := l.columns.length

/-- The table declares a column of this name, upper and lower case told apart. -/
def contains (l : ColumnList) (name : Text) : Bool := l.columns.contains name

/-- Reading succeeds exactly with the names of the block. -/
theorem ofSchema_eq_ok_iff {table schema : Text} {l : ColumnList} :
    ofSchema table schema = .ok l ↔ l.table = table ∧ l.columns = Schema.columnNames table schema := by
  obtain ⟨t, cs, hne⟩ := l
  rw [ofSchema]
  split <;> rename_i h
  · simp only [reduceCtorEq, h, false_iff, not_and]
    exact fun _ => hne
  · simp only [Except.ok.injEq, mk.injEq, h]
    exact ⟨fun ⟨a, b⟩ => ⟨a.symm, b.symm⟩, fun ⟨a, b⟩ => ⟨a.symm, b.symm⟩⟩

/-- Reading fails exactly when the block has no column line, or there is no block. -/
theorem ofSchema_eq_error_iff {table schema : Text} {e : SchemaError} :
    ofSchema table schema = .error e ↔
      Schema.columnNames table schema = [] ∧ e = .missingColumns table := by
  rw [ofSchema]
  split <;> rename_i h
  · simp [h, eq_comm]
  · simp [h]

end ColumnList

example : Schema.isTableStart "t".toList " CREATE TABLE  \x60t\x60( ".toList = true := by decide
example : Schema.isTableStart "t".toList "CREATE TABLE \x60t\x60 (\x60a\x60 int);".toList = false := by
  decide
example : Schema.columnName? "  \x60a b\x60 int,".toList = some "a b".toList := by decide
example : Schema.columnNames "t".toList
    "CREATE TABLE \x60t\x60 (\n \x60a\x60 int,\n-- x\n \x60b\x60 int\n) ;\n \x60c\x60 int".toList
    = ["a".toList, "b".toList] := by decide

end TomeSql
