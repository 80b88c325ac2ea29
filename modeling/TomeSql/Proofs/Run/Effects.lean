/-
  What a run leaves behind.

  1. **Crux** — all that can fail comes before the output but the output itself.  So a course that fails
     has only read, and put out what a fault of the output let through (`course_eq_error`); one that
     succeeds ends in a single delivery (`finished_eq_ok`).

  2. **Main result (`runOn_effects`)** — where standard output and the files of the working directory take
     all that they are given, a run that does not exit with 0 has printed nothing and changed nothing
     there.  One that made a script and exits with 0 has delivered just this script.

  3. **Refuted** — that a script goes to standard output only by the path `-`
     (`not_forall_output_here`): an output path may lead to a device.
-/
import TomeSql.Proofs.Run.Stages

namespace TomeSql.Run

open CommandLine (Choices)
open Machine (Failed OnlyWrote)

variable {packages : Packages}

/-- A course that does not end with status 0 has only read, and put out what a fault of the output let
through. -/
theorem course_of_status_ne_zero {c : Choices} {m : Machine}
    (h : status (course packages c m).1 ≠ 0) :
    ∃ after script, LeftAlone m after ∧ Failed after (course packages c m).2 (Text.encode script) := by
  obtain ⟨r, m', hcourse⟩ : ∃ r m', course packages c m = (r, m') := ⟨_, _, rfl⟩
  rw [hcourse] at h ⊢
  obtain e | n | n := r
  · exact course_eq_error hcourse
  · -- without a tome the course ends in front of the output
    obtain ⟨file, schema, input, after, s, g, -, hleft, -, -, hfinished⟩ := course_eq_ok hcourse
    obtain ⟨hlength, hnone, -⟩ := finished_eq_ok hfinished
    exact ⟨after, [], hleft, .unchanged (hnone (List.eq_nil_of_length_eq_zero hlength.symm))⟩
  · exact absurd rfl h

/-- On a dependable machine it has printed nothing, and changed nothing in the working directory. -/
theorem course_of_dependable {c : Choices} {m : Machine} (hm : m.Dependable)
    (h : status (course packages c m).1 ≠ 0) :
    (course packages c m).2.stdout = m.stdout ∧
      ∀ l, (Machine.below? m.here l).isSome → (course packages c m).2.node? l = m.node? l := by
  obtain ⟨after, script, hleft, hfailed⟩ := course_of_status_ne_zero h
  obtain ⟨hstdout, hnodes⟩ := hfailed.of_dependable (hleft.dependable hm)
  rw [hleft.stdout_eq] at hstdout
  rw [hleft.here_eq, hleft.node?_eq] at hnodes
  exact ⟨hstdout, hnodes⟩

/-- **What a run leaves behind.**  Where standard output and the files of the working directory take all
that they are given, a run that does not exit with 0 has printed nothing and changed nothing in the
working directory.  A run that made a script and exits with 0 has delivered just this script. -/
theorem runOn_effects (packages : Packages) (logVariable : Option Text) (arguments : List Text)
    (m : Machine) :
    (m.Dependable → (runOn packages logVariable arguments m).1 ≠ 0 →
      (runOn packages logVariable arguments m).2.stdout = m.stdout ∧
      ∀ l, (Machine.below? m.here l).isSome →
        (runOn packages logVariable arguments m).2.node? l = m.node? l) ∧
    ∀ c, CommandLine.parse arguments = .ok (.generate c) →
      (runOn packages logVariable arguments m).1 = 0 →
        ∃ file schema input after s g, Finds packages c m file schema input after ∧
          settingsOf packages c file = .ok s ∧
          outcome packages c file schema input m.clock = .ok g ∧
          Delivery s g.script.render m (runOn packages logVariable arguments m).2 := by
  constructor
  · intro hm hstatus
    cases hparse : CommandLine.parse arguments with
    | error e =>
      rw [runOn, run, hparse]
      exact ⟨rfl, fun _ _ => rfl⟩
    | ok request =>
      cases request with
      -- help and the version do print, but they exit with 0
      | help =>
        rw [runOn, run, hparse] at hstatus
        exact absurd rfl hstatus
      | version =>
        rw [runOn, run, hparse] at hstatus
        exact absurd rfl hstatus
      | generate c =>
        obtain ⟨said, hrun, -⟩ := runOn_generate hparse packages logVariable m
        rw [hrun] at hstatus ⊢
        exact course_of_dependable hm hstatus
  · intro c hparse hstatus
    obtain ⟨said, hrun, -⟩ := runOn_generate hparse packages logVariable m
    rw [hrun] at hstatus ⊢
    obtain ⟨n, hok⟩ := status_eq_zero_iff.mp hstatus
    obtain ⟨file, schema, input, after, s, g, hfinds, hleft, hs, ho, hfinished⟩ :=
      course_eq_ok (Prod.ext hok rfl : course packages c m = (.ok (n + 1), (course packages c m).2))
    obtain ⟨hlength, -, hdelivery⟩ := finished_eq_ok hfinished
    have hsome : g.batch.tomes ≠ [] := List.ne_nil_of_length_eq_add_one hlength.symm
    exact ⟨file, schema, input, after, s, g, hfinds, hs, ho,
      (hdelivery hsome).of_leftAlone hleft said⟩

/-- A machine with a schema of two columns and with one row on standard input. -/
def oneRow : Machine :=
  { Machine.fresh.putFile ["s.sql".toList] (Text.encode
      "CREATE TABLE \x60item_template\x60 (\n  \x60entry\x60 int,\n  \x60name\x60 int\n);\n".toList) with
    stdin := Text.encode "116\tA\n".toList }

/-- The arguments that name this schema and an output path. -/
def argumentsFor (output : Text) : List Text :=
  ["--schema-sql".toList, "s.sql".toList, "--output".toList, output]

/-- Nothing on this machine fails. -/
theorem dependable_oneRow : oneRow.Dependable := ⟨rfl, fun _ _ => rfl⟩

/-- A device that takes nothing ends the run with 1 and changes nothing, and a script that goes to a new
file is all of it. -/
theorem runOn_effects_of_new_file :
    (runOn {} none (argumentsFor "/dev/full".toList) oneRow).1 = 1 ∧
      (runOn {} none (argumentsFor "/dev/full".toList) oneRow).2.stdout = [] ∧
      (∀ l, (Machine.below? oneRow.here l).isSome →
        (runOn {} none (argumentsFor "/dev/full".toList) oneRow).2.node? l = oneRow.node? l) ∧
    (runOn {} none (argumentsFor "o.sql".toList) oneRow).1 = 0 ∧
      ∃ g : Generation, OnlyWrote oneRow (runOn {} none (argumentsFor "o.sql".toList) oneRow).2
        ["tmp".toList, "work".toList, "o.sql".toList] (Text.encode g.script.render) := by
  have hfull : (runOn {} none (argumentsFor "/dev/full".toList) oneRow).1 = 1 := by decide +kernel
  have hright : (runOn {} none (argumentsFor "o.sql".toList) oneRow).1 = 0 := by decide +kernel
  have hparse : CommandLine.parse (argumentsFor "o.sql".toList) =
      .ok (.generate { schema := some "s.sql".toList, output := some "o.sql".toList }) := by
    decide +kernel
  have hfind : oneRow.findForWriting "o.sql".toList =
      .ok (["tmp".toList, "work".toList, "o.sql".toList], none) := by decide +kernel
  obtain ⟨hstdout, hnodes⟩ := (runOn_effects {} none (argumentsFor "/dev/full".toList) oneRow).1
    dependable_oneRow (by rw [hfull]; decide)
  obtain ⟨file, schema, input, after, s, g, -, hs, -, hdelivery⟩ :=
    (runOn_effects {} none (argumentsFor "o.sql".toList) oneRow).2 _ hparse hright
  have hpath : s.outputPath = "o.sql".toList := outputPath_of_settingsOf hs rfl
  refine ⟨hfull, hstdout, hnodes, hright, g, ?_⟩
  cases hdelivery with
  | printed hprinted =>
    rw [Settings.writesToStdout, hpath] at hprinted
    exact absurd hprinted (by decide)
  | written _ hwritten _ honly =>
    rw [hpath, hfind] at hwritten
    simp only [Except.ok.injEq, Prod.mk.injEq] at hwritten
    rwa [hwritten.1]
  | taken _ htaken hdevice =>
    rw [hpath, hfind, hdevice] at htaken
    cases htaken

/-- An output path may lead to a device, which is no file of the working directory: the script is
then on standard output, though the path is not `-`. -/
theorem not_forall_output_here :
    ¬ ∀ (packages : Packages) (logVariable : Option Text) (arguments : List Text) (m : Machine)
        (c : Choices),
      m.Dependable → CommandLine.parse arguments = .ok (.generate c) →
      (runOn packages logVariable arguments m).1 = 0 →
        ∃ file schema input after s g, Finds packages c m file schema input after ∧
          settingsOf packages c file = .ok s ∧
          outcome packages c file schema input m.clock = .ok g ∧
          (s.outputPath = ['-'] ∧ (runOn packages logVariable arguments m).2.nodes = m.nodes ∧
              (runOn packages logVariable arguments m).2.stdout = m.stdout ++ g.script.render ∨
            ∃ l, m.findForWriting s.outputPath = .ok (l, m.node? l) ∧
              (Machine.below? m.here l).isSome ∧
              OnlyWrote m (runOn packages logVariable arguments m).2 l
                (Text.encode g.script.render)) := by
  intro h
  have hparse : CommandLine.parse (argumentsFor "/dev/stdout".toList) =
      .ok (.generate { schema := some "s.sql".toList, output := some "/dev/stdout".toList }) := by
    decide +kernel
  have hstatus : (runOn {} none (argumentsFor "/dev/stdout".toList) oneRow).1 = 0 := by decide +kernel
  have hstdout : (runOn {} none (argumentsFor "/dev/stdout".toList) oneRow).2.stdout ≠ oneRow.stdout := by
    decide +kernel
  obtain ⟨file, schema, input, after, s, g, hfinds, hs, -, ⟨hpath, -⟩ | ⟨l, -, -, honly⟩⟩ :=
    h {} none _ oneRow _ dependable_oneRow hparse hstatus
  · rw [outputPath_of_settingsOf hs rfl] at hpath
    exact absurd hpath (by decide)
  · exact hstdout honly.stdout_eq

end TomeSql.Run
