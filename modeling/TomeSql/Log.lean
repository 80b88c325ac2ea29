/-
  What a run reports about itself.

  An event has a level, a message, the part of the program that it comes from, and fields.  A log
  line shows all of them: the level, the part, the message, and each field as a name and a value.
-/
import TomeSql.Schema
import TomeSql.Batch.Basic

namespace TomeSql.Log

/-- How much a reader is told: each level includes those before it. -/
inductive Level where
  | off
  | error
  | warn
  | info
  | debug
  | trace
deriving DecidableEq

/-- All levels, in the order of their ranks. -/
def Level.all : List Level := [.off, .error, .warn, .info, .debug, .trace]

/-- The rank of a level. -/
def Level.rank : Level → Nat
  | .off => 0
  | .error => 1
  | .warn => 2
  | .info => 3
  | .debug => 4
  | .trace => 5

/-- The name of a level in log lines. -/
def Level.label : Level → Text
  | .off => "OFF".toList
  | .error => "ERROR".toList
  | .warn => "WARN".toList
  | .info => "INFO".toList
  | .debug => "DEBUG".toList
  | .trace => "TRACE".toList

/-- The level that a text names: a label in letters of either case, or a rank. -/
def Level.ofText? (t : Text) : Option Level :=
  match Decimal.read 0 18446744073709551615 t with
  | .ok n => Level.all[n.toNat]?
  | .error _ => Level.all.find? fun l => l.label == t.map Char.toUpper

/-- Something worth reporting. -/
inductive Event where
  /-- The columns of a table were read. -/
  | columnsExtracted (table : Text) (columns : Nat)
  /-- An input was read. -/
  | inputParsed (accepted skipped : Nat) (nextEntry : UInt32)
  /-- A column to be overridden is not in the table. -/
  | columnMissing (table column : Text)
  /-- A script was written. -/
  | generationComplete (statements : Nat)
deriving DecidableEq

/-- The value of a field. -/
inductive Value where
  | number (n : Nat)
  | plain (t : Text)
  | quoted (t : Text)
deriving DecidableEq

/-- A value as it is shown in a log line. -/
def Value.render : Value → Text
  | .number n => Decimal.ofNat n
  | .plain t => t
  | .quoted t => Text.quoted t

namespace Event

/-- The event of a successful reading of a table's columns. -/
def ofColumns (l : ColumnList) : Event := .columnsExtracted l.table l.length

/-- The event of a successful reading of an input. -/
def ofBatch (b : Batch) : Event := .inputParsed b.tomes.length b.tally.total b.nextEntry

/-- The level of an event. -/
def level : Event → Level
  | .columnMissing .. => .warn
  | _ => .debug

/-- The part of the program that reports an event. -/
def target : Event → Text
  | .columnsExtracted .. => "tomesmith_core::schema".toList
  | .inputParsed .. => "tomesmith_core::spec".toList
  | .columnMissing .. => "tomesmith_core::render".toList
  | .generationComplete .. => "tomesmith".toList

/-- The message of an event. -/
def message : Event → Text
  | .columnsExtracted .. => "extracted table columns".toList
  | .inputParsed .. => "parsed input lines".toList
  | .columnMissing .. => "override column not in schema; left out of output".toList
  | .generationComplete .. => "generation complete".toList

/-- The fields of an event, in the order in which they are shown. -/
def fields : Event → List (Text × Value)
  | .columnsExtracted table columns =>
    [("table".toList, .plain table), ("columns".toList, .number columns)]
  | .inputParsed accepted skipped nextEntry =>
    [("accepted".toList, .number accepted), ("skipped".toList, .number skipped),
      ("next_entry".toList, .number nextEntry.toNat)]
  | .columnMissing table column =>
    [("table".toList, .plain table), ("column".toList, .quoted column)]
  | .generationComplete statements => [("statements".toList, .number statements)]

/-- The event is shown to a reader who is told as much as `l`. -/
def shownAt (e : Event) (l : Level) : Bool := e.level.rank ≤ l.rank

/-- The log line of an event. -/
def line (e : Event) : Text :=
  e.level.label ++ ' ' :: e.target ++ ": ".toList ++ e.message ++
  e.fields.flatMap fun f => ' ' :: f.1 ++ '=' :: f.2.render

example : (Event.columnMissing "t".toList "a".toList).line =
    "WARN tomesmith_core::render: override column not in schema; left out of output table=t column=\"a\"".toList :=
  by decide

end Event

end TomeSql.Log
