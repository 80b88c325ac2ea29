/-
  The template and the `delete` of a script.

  1. **Entries of candidates** — a row gets the entry it names, or the first entry plus the number of
     rows before it that named none (`Batch.entry_candidate_eq_iff`).  Nothing on the way compares these
     with the template.

  2. **Main result (`template_listed_iff`)** — the list between the parentheses of the `delete` reads back
     as the entries of the script (`Script.opening`, `Script.listed`).  So it has the template exactly when
     an accepted row names the template's entry or gets it from the counter.  In all other cases the rows
     that the clones are made from are still there after the `delete`.

  3. **Refuted** — that it never does (`not_forall_template_not_listed`).
-/
import TomeSql.Proofs.Batch.Entries
import TomeSql.Proofs.Generation
import TomeSql.Proofs.Script.Injective
import TomeSql.Proofs.Sql.Execution

namespace TomeSql

namespace Generation

open Batch Sql

/-- **The template and the `delete`.**  What stands in the text of a script between the parentheses of the
`delete` reads back as the entries of its tomes; the template is among them exactly when an accepted
row names it or gets it from the counter; and its rows are there after the `delete` exactly when it is
not. -/
theorem template_listed_iff {s : Settings} {schema input : Text} {time : Timestamp} {g : Generation}
    (h : run s schema input time = .ok g) :
    (g.script.render = g.script.opening ++ (Script.listed g.script.tomes ++ ");\n\n".toList ++
          g.script.tomes.flatMap (Script.record g.script.policy g.script.columns)) ∧
      ')' ∉ Script.listed g.script.tomes ∧
      readEntries (Script.listed g.script.tomes) = .ok (g.script.tomes.map (·.entry)) ∧
      Script.deletion g.script.policy g.script.tomes =
        .delete s.policy.table s.policy.keyColumn (g.script.tomes.map (·.entry))) ∧
    (s.policy.template ∈ g.script.tomes.map (·.entry) ↔
      ∃ earlier row later, rows (Text.lines input) = earlier ++ row :: later ∧
        HasVerdict s.reading (candidatesOf s.reading earlier) (candidate s.reading earlier row)
          .accepted ∧
        row.GetsEntry s.reading.firstEntry earlier s.policy.template) ∧
    ∀ db : Database,
      ((Script.deletion g.script.policy g.script.tomes).exec db s.policy.table).filter
          (hasKey s.policy.keyColumn s.policy.template) =
        if s.policy.template ∈ g.script.tomes.map (·.entry) then []
        else (db s.policy.table).filter (hasKey s.policy.keyColumn s.policy.template) := by
  obtain ⟨-, hbatch, hscript⟩ := run_eq_ok h
  rw [hscript]
  refine ⟨⟨Script.render_eq_opening _, Script.parenthesis_not_mem_listed _,
    readEntries_commaSeparated _, rfl⟩, mem_entries_iff hbatch s.policy.template, ?_⟩
  intro db
  rw [Script.deletion, Statement.exec, Function.update_self]
  split
  · rename_i hlisted
    exact filter_hasKey_of_mem hlisted _
  · rename_i hfree
    exact filter_hasKey_of_not_mem hfree _

/-- A row that names the template's entry does no harm when it is left out as a placeholder. -/
theorem template_kept_of_placeholder :
    ∃ g, run {} "CREATE TABLE \x60item_template\x60 (\n  \x60entry\x60 int,\n);\n".toList
        "18600\t7\tTome of ZZ\t5\n143\n".toList ⟨0, 0⟩ = .ok g ∧
      g.script.tomes.map (·.entry) = [91000] ∧
      ∀ db : Database,
        ((Script.deletion g.script.policy g.script.tomes).exec db "item_template".toList).filter
            (hasKey "entry".toList 18600) =
          (db "item_template".toList).filter (hasKey "entry".toList 18600) := by
  obtain ⟨g, hrun, hentries⟩ : ∃ g, run {}
      "CREATE TABLE \x60item_template\x60 (\n  \x60entry\x60 int,\n);\n".toList
      "18600\t7\tTome of ZZ\t5\n143\n".toList ⟨0, 0⟩ = .ok g ∧
        g.script.tomes.map (·.entry) = [91000] := ⟨_, rfl, rfl⟩
  refine ⟨g, hrun, hentries, fun db => ?_⟩
  have hrows := (template_listed_iff hrun).2.2 db
  rw [hentries, if_neg (by decide)] at hrows
  exact hrows

/-- A counter that starts at the template's entry gives it to the first row: the `delete` of the
script then lists the template. -/
theorem not_forall_template_not_listed :
    ¬ ∀ (file : Text) (s : Settings) (schema input : Text) (time : Timestamp) (g : Generation),
      Settings.parse? file = some s → run s schema input time = .ok g →
        s.policy.template ∉ g.script.tomes.map (·.entry) := by
  intro h
  have hparse : Settings.parse? "start_entry = 18600\n".toList =
      some { reading := { firstEntry := 18600 } } := by decide +kernel
  obtain ⟨g, hrun, hentries⟩ : ∃ g, run { reading := { firstEntry := 18600 } }
      "CREATE TABLE \x60item_template\x60 (\n  \x60entry\x60 int,\n);\n".toList "143\n".toList ⟨0, 0⟩ =
        .ok g ∧ g.script.tomes.map (·.entry) = [18600] := ⟨_, rfl, rfl⟩
  have hnot := h _ _ _ _ _ g hparse hrun
  rw [hentries] at hnot
  exact hnot List.mem_cons_self

end Generation

end TomeSql
