/-
  What a script is made of: columns of the schema and tomes of the input.

  1. **Parts (`run_eq_ok`)** — a generation that succeeds has read the columns and the rows, and its
     script is for just these.  Read columns and rows are enough for one (`run_of_ok`).

  2. **Texts** — so no column holds a backtick, since it stood between two of them, and no name holds a
     line feed, since it stood on a line.
-/
import TomeSql.Generation
import TomeSql.Proofs.Batch.Invariants
import TomeSql.Proofs.Schema.Grammar

namespace TomeSql

namespace Schema

/-- A column name stands between two backticks and holds none. -/
theorem backtick_not_mem_of_columnName? {line n : Text} (h : columnName? line = some n) :
    '\x60' ∉ n := by
  obtain ⟨a, b, rest, -, -, -, -, hbacktick, -⟩ := columnName?_eq_some_iff.mp h
  exact hbacktick

/-- So no column of a schema holds a backtick. -/
theorem backtick_not_mem_of_mem_columnNames {table schema n : Text}
    (h : n ∈ columnNames table schema) : '\x60' ∉ n := by
  obtain ⟨line, -, hline⟩ := List.mem_filterMap.mp h
  exact backtick_not_mem_of_columnName? hline

end Schema

namespace Generation

open Batch

variable {s : Settings} {schema input : Text} {time : Timestamp} {g : Generation}

/-- All that a generation consists of when it succeeds. -/
theorem run_eq_ok (h : run s schema input time = .ok g) :
    ColumnList.ofSchema s.policy.table schema = .ok g.columns ∧
    ofText s.reading input = .ok g.batch ∧
    g.script = ⟨g.columns, g.batch.tomes, s.policy, time⟩ := by
  obtain ⟨columns, hcolumns, h⟩ := bind_eq_ok_iff.mp h
  obtain ⟨batch, hbatch, h⟩ := bind_eq_ok_iff.mp h
  cases h
  exact ⟨mapError_eq_ok_iff.mp hcolumns, mapError_eq_ok_iff.mp hbatch, rfl⟩

/-- Columns and rows are all that a script takes. -/
theorem run_of_ok {columns : ColumnList} {batch : Batch}
    (hcolumns : ColumnList.ofSchema s.policy.table schema = .ok columns)
    (hbatch : ofText s.reading input = .ok batch) :
    run s schema input time = .ok ⟨columns, batch, ⟨columns, batch.tomes, s.policy, time⟩⟩ := by
  rw [run, hcolumns, hbatch]
  rfl

/-- The columns of a generated script hold no backtick. -/
theorem backtick_not_mem_column (h : run s schema input time = .ok g) {n : Text}
    (hn : n ∈ g.script.columns.columns) : '\x60' ∉ n := by
  obtain ⟨hcolumns, -, hscript⟩ := run_eq_ok h
  rw [hscript, (ColumnList.ofSchema_eq_ok_iff.mp hcolumns).2] at hn
  exact Schema.backtick_not_mem_of_mem_columnNames hn

/-- The names of a generated script hold no line feed. -/
theorem newline_not_mem_name (h : run s schema input time = .ok g) {t : Tome}
    (ht : t ∈ g.script.tomes) : '\n' ∉ t.name := by
  obtain ⟨-, hbatch, hscript⟩ := run_eq_ok h
  rw [hscript] at ht
  exact Batch.newline_not_mem_name hbatch ht

end Generation

end TomeSql
