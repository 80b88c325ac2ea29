/-
  The stages of a run's course: what each one finds, and what it leaves.

  1. **Findings (`Finds`)** — the bytes of the settings file, of the schema and of the input, each as
     the run comes upon it.  Reading standard input takes it away, so the machine moves on from one to
     the next.

  2. **Library (`outcome`)** — what the library makes of the same bytes, without a machine: settings,
     pattern, columns, rows, script, and the first failure among them.

  3. **Delivery (`Delivery`)** — where a script has gone, and what is as before.

  4. **Both ways** — from found bytes a course goes as the library does (`course_of_finds_error`,
     `course_of_finds_ok`), and one that succeeds has found its bytes (`course_eq_ok`).  A course that
     fails leaves all but standard input alone, and of the output what a fault lets through
     (`course_eq_error`).
-/
import TomeSql.Proofs.Generation
import TomeSql.Proofs.Run.Course
import TomeSql.Proofs.Text.Utf8

namespace TomeSql.Run

open CommandLine (Choices)
open Machine (Failed OnlyWrote)

/-! ## What reading leaves -/

/-- Nothing is changed but what is left of standard input. -/
def LeftAlone (m m' : Machine) : Prop := ∃ rest, m' = { m with stdin := rest }

namespace LeftAlone

variable {m m' m'' : Machine}

theorem refl (m : Machine) : LeftAlone m m := ⟨m.stdin, rfl⟩

theorem trans (h : LeftAlone m m') (h' : LeftAlone m' m'') : LeftAlone m m'' := by
  obtain ⟨rest, rfl⟩ := h
  obtain ⟨rest', rfl⟩ := h'
  exact ⟨rest', rfl⟩

/-- What a step leaves, given as its equation. -/
theorem of_eq {α : Type} {p : α × Machine} {r : α} (h : p = (r, m')) (hleft : LeftAlone m p.2) :
    LeftAlone m m' := by
  rwa [h] at hleft

theorem stdout_eq (h : LeftAlone m m') : m'.stdout = m.stdout := by
  obtain ⟨rest, rfl⟩ := h
  rfl

theorem clock_eq (h : LeftAlone m m') : m'.clock = m.clock := by
  obtain ⟨rest, rfl⟩ := h
  rfl

theorem node?_eq (h : LeftAlone m m') : m'.node? = m.node? := by
  obtain ⟨rest, rfl⟩ := h
  rfl

theorem here_eq (h : LeftAlone m m') : m'.here = m.here := by
  obtain ⟨rest, rfl⟩ := h
  rfl

/-- Reading brings no fault. -/
theorem dependable (h : LeftAlone m m') (hm : m.Dependable) : m'.Dependable := by
  obtain ⟨rest, rfl⟩ := h
  exact ⟨hm.stdout, hm.writing⟩

end LeftAlone

/-- Looking for the settings file and reading it changes nothing else. -/
theorem leftAlone_settingsFile (c : Choices) (m : Machine) : LeftAlone m (settingsFile c m).2 := by
  rw [settingsFile]
  split
  · exact m.read_snd (settingsPath c)
  · exact LeftAlone.refl m

theorem reading_snd {α β : Type} (p : Except FileFault α × Machine) (failure : FileFault → Failure)
    (f : α → Except Failure β) : (Course.reading p failure f).2 = p.2 := by
  obtain ⟨r, m⟩ := p
  cases r <;> rfl

variable {packages : Packages}

theorem leftAlone_loaded (c : Choices) (m : Machine) : LeftAlone m (loaded packages c m).2 := by
  rw [loaded, reading_snd]
  exact leftAlone_settingsFile c m

/-- A course in two steps that each leave the machine alone does so too. -/
theorem leftAlone_andThen {α β : Type} {m : Machine} {p : Course α} {f : α → Machine → Course β}
    (hp : LeftAlone m p.2) (hf : ∀ a m', LeftAlone m' (f a m').2) : LeftAlone m (p.andThen f).2 := by
  obtain ⟨r, m'⟩ := p
  cases r with
  | error e => exact hp
  | ok a => exact hp.trans (hf a m')

/-- Making the script only reads. -/
theorem leftAlone_generated (s : Settings) (m : Machine) :
    LeftAlone m (generated packages s m).2 := by
  refine leftAlone_andThen ?_ fun _ m => leftAlone_andThen ?_ fun _ m => LeftAlone.refl m
  · refine leftAlone_andThen (LeftAlone.refl m) fun _ m => ?_
    rw [reading_snd]
    exact Machine.read_snd _ s.schemaPath
  · rw [batchFound, reading_snd]
    exact Machine.readInput_snd _ s.inputPath

/-! ## Courses that succeed -/

/-- A course in two steps succeeds exactly when both do. -/
theorem andThen_eq_ok_iff {α β : Type} {p : Course α} {f : α → Machine → Course β} {b : β}
    {m' : Machine} :
    p.andThen f = (.ok b, m') ↔ ∃ a m, p = (.ok a, m) ∧ f a m = (.ok b, m') := by
  obtain ⟨r, m⟩ := p
  cases r with
  | error e => simp [Course.andThen]
  | ok a => simp [Course.andThen]

theorem andThen_eq_error_iff {α β : Type} {p : Course α} {f : α → Machine → Course β} {e : Failure}
    {m' : Machine} :
    p.andThen f = (.error e, m') ↔
      p = (.error e, m') ∨ ∃ a m, p = (.ok a, m) ∧ f a m = (.error e, m') := by
  obtain ⟨r, m⟩ := p
  cases r with
  | error e => simp [Course.andThen]
  | ok a => simp [Course.andThen]

/-- A course that reads succeeds exactly when the bytes are there and fit. -/
theorem reading_eq_ok_iff {α β : Type} {p : Except FileFault α × Machine}
    {failure : FileFault → Failure} {f : α → Except Failure β} {b : β} {m' : Machine} :
    Course.reading p failure f = (.ok b, m') ↔ ∃ a, p = (.ok a, m') ∧ f a = .ok b := by
  obtain ⟨r, m⟩ := p
  cases r with
  | error e => simp [Course.reading]
  | ok a => simp [Course.reading, and_comm]

/-- Where all bytes fit, only reading can fail. -/
theorem reading_eq_error {α : Type} {p : Except FileFault α × Machine}
    {failure : FileFault → Failure} {e : Failure} {m' : Machine}
    (h : Course.reading p failure .ok = (.error e, m')) : ∃ f, p = (.error f, m') := by
  obtain ⟨r, m⟩ := p
  cases r with
  | error f =>
    cases h
    exact ⟨f, rfl⟩
  | ok a => cases h

/-- A script that is made is made of bytes that were read, as the library makes it. -/
theorem generated_eq_ok {s : Settings} {m m' : Machine} {g : Generation}
    (h : generated packages s m = (.ok g, m')) :
    packages.checkPattern s.policy.table = .ok () ∧
    ∃ schema input m₁, m.read s.schemaPath = (.ok schema, m₁) ∧
      m₁.readInput s.inputPath = (.ok input, m') ∧
      Generation.run s (Text.decodeLossy schema) (Text.decodeLossy input) m.clock = .ok g := by
  have hclock : m'.clock = m.clock := (LeftAlone.of_eq h (leftAlone_generated s m)).clock_eq
  obtain ⟨columns, m₁, hcolumns, h⟩ := andThen_eq_ok_iff.mp h
  obtain ⟨batch, m₂, hbatch, h⟩ := andThen_eq_ok_iff.mp h
  cases h
  obtain ⟨_, m₀, hfirst, hcolumns⟩ := andThen_eq_ok_iff.mp hcolumns
  obtain ⟨hpattern, rfl⟩ := Prod.mk.inj hfirst
  obtain ⟨schema, hschema, hcolumns⟩ := reading_eq_ok_iff.mp hcolumns
  obtain ⟨input, hinput, hbatch⟩ := reading_eq_ok_iff.mp hbatch
  refine ⟨hpattern, schema, input, m₁, hschema, hinput, ?_⟩
  rw [Generation.run_of_ok (mapError_eq_ok_iff.mp hcolumns) (mapError_eq_ok_iff.mp hbatch), hclock]

/-- What a run comes upon: the bytes of the settings file, if there is one, of the schema and of the
input, each if it goes on so far; `after` is the machine when all of them are read. -/
def Finds (packages : Packages) (c : Choices) (m : Machine) (file : Option (List UInt8))
    (schema input : List UInt8) (after : Machine) : Prop :=
  ∃ m₁, settingsFile c m = (.ok file, m₁) ∧
    ∀ s, settingsOf packages c file = .ok s → packages.checkPattern s.policy.table = .ok () →
      ∃ m₂, m₁.read s.schemaPath = (.ok schema, m₂) ∧
        ∀ columns,
          ColumnList.ofSchema s.policy.table (Text.decodeLossy schema) = .ok columns →
            m₂.readInput s.inputPath = (.ok input, after)

/-- What the library makes of the same bytes: settings, the pattern for the table, columns, rows and
script, or the first failure among them. -/
def outcome (packages : Packages) (c : Choices) (file : Option (List UInt8))
    (schema input : List UInt8) (time : Timestamp) : Except Failure Generation := do
  let s ← settingsOf packages c file
  packages.checkPattern s.policy.table
  (Generation.run s (Text.decodeLossy schema) (Text.decodeLossy input) time).mapError .generation

variable {c : Choices} {m m' after : Machine} {file : Option (List UInt8)}
  {schema input : List UInt8} {time : Timestamp} {s : Settings} {g : Generation}

/-- With settings and a pattern for their table, the rest is the library's generation. -/
theorem outcome_of_settings (hs : settingsOf packages c file = .ok s)
    (hpattern : packages.checkPattern s.policy.table = .ok ()) :
    outcome packages c file schema input time =
      (Generation.run s (Text.decodeLossy schema) (Text.decodeLossy input) time).mapError
        .generation := by
  rw [outcome, hs]
  simp only [bind, Except.bind, hpattern]

/-- A run that succeeds has found its bytes, and went on to the output from there. -/
theorem course_eq_ok {n : Nat} (h : course packages c m = (.ok n, m')) :
    ∃ file schema input after s g, Finds packages c m file schema input after ∧ LeftAlone m after ∧
      settingsOf packages c file = .ok s ∧
      outcome packages c file schema input m.clock = .ok g ∧
      finished s g after = (.ok n, m') := by
  obtain ⟨s, m₁, hloaded, h⟩ := andThen_eq_ok_iff.mp h
  obtain ⟨g, after, hgenerated, h⟩ := andThen_eq_ok_iff.mp h
  have hleft : LeftAlone m m₁ := .of_eq hloaded (leftAlone_loaded c m)
  have hleft' : LeftAlone m₁ after := .of_eq hgenerated (leftAlone_generated s m₁)
  obtain ⟨file, hfile, hs⟩ := reading_eq_ok_iff.mp hloaded
  obtain ⟨hpattern, schema, input, m₂, hschema, hinput, hrun⟩ := generated_eq_ok hgenerated
  refine ⟨file, schema, input, after, s, g, ⟨m₁, hfile, ?_⟩, hleft.trans hleft', hs, ?_, h⟩
  · intro s' hs' _
    cases hs.symm.trans hs'
    exact ⟨m₂, hschema, fun _ _ => hinput⟩
  · rw [outcome_of_settings hs hpattern, ← hleft.clock_eq, hrun]
    rfl

/-! ## Delivery -/

/-- Where a script has gone. -/
inductive Delivery (s : Settings) (script : Text) (m m' : Machine) : Prop
  /-- It was printed. -/
  | printed (path_eq : s.writesToStdout = true) (nodes_eq : m'.nodes = m.nodes)
    (stdout_eq : m'.stdout = m.stdout ++ script)
  /-- It is all of the file that the output path leads to, be it old or new. -/
  | written {l : Location} (path_ne : s.writesToStdout = false)
    (find_eq : m.findForWriting s.outputPath = .ok (l, m.node? l))
    (not_device : ∀ d, m.node? l ≠ some (.device d)) (only : OnlyWrote m m' l (Text.encode script))
  /-- The device that the output path leads to has taken it. -/
  | taken {l : Location} {d : Device} (path_ne : s.writesToStdout = false)
    (find_eq : m.findForWriting s.outputPath = .ok (l, m.node? l))
    (device : m.node? l = some (.device d)) (nodes_eq : m'.nodes = m.nodes)
    (stdout_eq : m'.stdout = if d = .stdout then m.stdout ++ script else m.stdout)

variable {script : Text}

/-- What was read before it and what is said after it do not matter to a delivery. -/
theorem Delivery.of_leftAlone (h : LeftAlone m after) (hdelivery : Delivery s script after m')
    (said : Text) : Delivery s script m { m' with stderr := said } := by
  obtain ⟨rest, rfl⟩ := h
  cases hdelivery with
  | printed hpath hnodes hstdout => exact .printed hpath hnodes hstdout
  | written hpath hfind hdevice honly =>
    exact .written hpath hfind hdevice ⟨honly.stdout_eq, honly.node?_self, honly.node?_other⟩
  | taken hpath hfind hdevice hnodes hstdout => exact .taken hpath hfind hdevice hnodes hstdout

/-- A delivery that succeeds has printed the script, or written it to the file or the device of the
path. -/
theorem delivered_eq_ok (h : delivered s script m = (.ok (), m')) : Delivery s script m m' := by
  rw [delivered] at h
  split at h
  · rename_i hpath
    obtain ⟨_, hprint, -⟩ := reading_eq_ok_iff.mp h
    rw [Machine.print_eq_ok hprint]
    exact .printed hpath rfl rfl
  · rename_i hpath
    have hpath := eq_false_of_ne_true hpath
    split at h
    · cases h
    · cases h
    · rename_i hwrite
      cases h
      obtain ⟨l, hfind, hplace⟩ := Machine.write_done hwrite
      obtain ⟨d, hdevice, hgave⟩ | ⟨hdevice, honly⟩ := hplace
      · have hstdout := hgave.stdout_eq
        rw [Text.decodeLossy_encode] at hstdout
        exact .taken hpath hfind hdevice hgave.nodes_eq hstdout
      · exact .written hpath hfind hdevice honly

/-- An output that does not take the script leaves what its fault lets through. -/
theorem delivered_eq_error {e : Failure} (h : delivered s script m = (.error e, m')) :
    Failed m m' (Text.encode script) := by
  rw [delivered] at h
  split at h
  · obtain ⟨f, hprint⟩ := reading_eq_error h
    obtain ⟨n, hfault, heq⟩ := Machine.print_failed hprint
    exact .printed hfault (by rw [Text.decodeLossy_encode, heq])
  · split at h <;> cases h
    · exact Machine.write_failed ‹_› (by simp)
    · exact Machine.write_failed ‹_› (by simp)

/-! ## The end of a course -/

/-- A run that ends well has delivered its script, or has no tome and left everything alone. -/
theorem finished_eq_ok {n : Nat} (h : finished s g m = (.ok n, m')) :
    n = g.batch.tomes.length ∧ (g.batch.tomes = [] → m' = m) ∧
      (g.batch.tomes ≠ [] → Delivery s g.script.render m m') := by
  rw [finished] at h
  split at h
  · rename_i hnone
    cases h
    have hnone := List.isEmpty_iff.mp hnone
    exact ⟨by rw [hnone, List.length_nil], fun _ => rfl, fun hsome => absurd hnone hsome⟩
  · rename_i hsome
    obtain ⟨_, m₁, hdelivered, h⟩ := andThen_eq_ok_iff.mp h
    cases h
    exact ⟨rfl, fun hnone => absurd (List.isEmpty_iff.mpr hnone) hsome,
      fun _ => delivered_eq_ok hdelivered⟩

/-- Only the output can fail in the end, and it leaves what its fault lets through. -/
theorem finished_eq_error {e : Failure} (h : finished s g m = (.error e, m')) :
    Failed m m' (Text.encode g.script.render) := by
  rw [finished] at h
  split at h
  · cases h
  · obtain hdelivered | ⟨_, m₁, -, h⟩ := andThen_eq_error_iff.mp h
    · exact delivered_eq_error hdelivered
    · cases h

/-- A run that fails has changed nothing but what is left of standard input, and what the output took of
the script before it failed. -/
theorem course_eq_error {e : Failure} (h : course packages c m = (.error e, m')) :
    ∃ after script, LeftAlone m after ∧ Failed after m' (Text.encode script) := by
  obtain hloaded | ⟨s, m₁, hloaded, h⟩ := andThen_eq_error_iff.mp h
  · exact ⟨m', [], .of_eq hloaded (leftAlone_loaded c m), .unchanged rfl⟩
  have hleft : LeftAlone m m₁ := .of_eq hloaded (leftAlone_loaded c m)
  obtain hgenerated | ⟨g, m₂, hgenerated, h⟩ := andThen_eq_error_iff.mp h
  · exact ⟨m', [], hleft.trans (.of_eq hgenerated (leftAlone_generated s m₁)), .unchanged rfl⟩
  · have hleft' : LeftAlone m₁ m₂ := .of_eq hgenerated (leftAlone_generated s m₁)
    exact ⟨m₂, g.script.render, hleft.trans hleft', finished_eq_error h⟩

end TomeSql.Run
