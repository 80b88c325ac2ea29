/-
  Generation: from a schema and an input to a script.

  The columns are read first, then the rows; the first failure is the answer.  An input without
  any tome still has a script, which removes and adds nothing.
-/
import TomeSql.Script.Basic
import TomeSql.Settings

namespace TomeSql

/-- Why there is no script. -/
inductive GenerationError where
  | schema (e : SchemaError)
  | rows (e : RowError)
deriving DecidableEq

/-- What a schema and an input give. -/
structure Generation where
  columns : ColumnList
  batch : Batch
  script : Script

namespace Generation

/-- Reads the schema and the input and makes the script, as of `time`. -/
def run (s : Settings) (schema input : Text) (time : Timestamp) : Except GenerationError Generation := do
  let columns ← (ColumnList.ofSchema s.policy.table schema).mapError .schema
  let batch ← (Batch.ofText s.reading input).mapError .rows
  return ⟨columns, batch, ⟨columns, batch.tomes, s.policy, time⟩⟩

/-- What is reported on the way, in order. -/
def events (g : Generation) : List Log.Event :=
  .ofColumns g.columns :: .ofBatch g.batch :: g.script.warnings

end Generation

end TomeSql
