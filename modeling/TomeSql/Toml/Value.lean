/-
  The values of a TOML document, and how its tables are put together.

  1. **Values** — numbers with a fraction and points in time keep the text that they are written
     with, since nothing here computes with them.

  2. **Origin of a table** — a table is opened by a header of its own, implied by a longer header,
     built by dotted keys, or written inline.  The origin decides what may be added later.

  3. **Adding** — `put` follows a dotted key: it builds the tables on the way, passes through those
     that other dotted keys or longer headers made, and never into one that is closed.  `openTable`
     and `openElement` do the same for `[header]` and `[[header]]`.
-/
import TomeSql.Text.Basic

namespace TomeSql.Toml

/-- How a table came about. -/
inductive Origin where
  /-- By a header of its own. -/
  | header
  /-- By a header that goes through it. -/
  | implied
  /-- By a dotted key. -/
  | dotted
  /-- Written between braces; nothing can be added. -/
  | inline
deriving DecidableEq

/-- A value. -/
inductive Value where
  | string (t : Text)
  | integer (n : Int)
  | float (written : Text)
  | boolean (b : Bool)
  | dateTime (written : Text)
  | array (items : List Value)
  | table (origin : Origin) (entries : List (Text × Value))
  /-- The tables opened by headers in double brackets, in order. -/
  | tables (elements : List (List (Text × Value)))

/-- The keys of a table with their values. -/
abbrev Entries := List (Text × Value)

namespace Entries

/-- Puts another value in the place of the one under `key`. -/
def replace (es : Entries) (key : Text) (v : Value) : Entries :=
  es.map fun e => if e.1 = key then (key, v) else e

/-- Adds a key that is not there yet. -/
def addNew (es : Entries) (key : Text) (v : Value) : Option Entries :=
  match es.lookup key with
  | none => some (es ++ [(key, v)])
  | some _ => none

/-- Changes the last of the tables opened by double brackets. -/
def changeLast (f : Entries → Option Entries) (elements : List Entries) : Option Value :=
  match elements.getLast? with
  | none => none
  | some last => (f last).map fun changed => .tables (elements.dropLast ++ [changed])

/-- Adds a value under a dotted key, whose last part is `key`. -/
def put (key : Text) (v : Value) : (path : List Text) → Entries → Option Entries
  | [], es => es.addNew key v
  | part :: path, es =>
    match es.lookup part with
    | none => (put key v path []).map fun inner => es ++ [(part, .table .dotted inner)]
    | some (.table .dotted inner) =>
      (put key v path inner).map fun changed => es.replace part (.table .dotted changed)
    | some (.table .implied inner) =>
      if path.isEmpty then none
      else (put key v path inner).map fun changed => es.replace part (.table .implied changed)
    | some (.tables elements) =>
      if path.isEmpty then none
      else (changeLast (put key v path) elements).map (es.replace part)
    | some _ => none

/-- Changes the table that a header's path leads to; tables that are missing on the way are
implied. -/
def changeAt (f : Entries → Option Entries) : (path : List Text) → Entries → Option Entries
  | [], es => f es
  | part :: path, es =>
    match es.lookup part with
    | none => (changeAt f path []).map fun inner => es ++ [(part, .table .implied inner)]
    | some (.table .inline _) => none
    | some (.table origin inner) =>
      (changeAt f path inner).map fun changed => es.replace part (.table origin changed)
    | some (.tables elements) => (changeLast (changeAt f path) elements).map (es.replace part)
    | some _ => none

/-- Opens the table `key` by its header: a new one, or one that was only implied so far. -/
def openTable (key : Text) (es : Entries) : Option Entries :=
  match es.lookup key with
  | none => some (es ++ [(key, .table .header [])])
  | some (.table .implied inner) => some (es.replace key (.table .header inner))
  | some _ => none

/-- Opens one more table of the array `key`. -/
def openElement (key : Text) (es : Entries) : Option Entries :=
  match es.lookup key with
  | none => some (es ++ [(key, .tables [[]])])
  | some (.tables elements) => some (es.replace key (.tables (elements ++ [[]])))
  | some _ => none

end Entries

end TomeSql.Toml
