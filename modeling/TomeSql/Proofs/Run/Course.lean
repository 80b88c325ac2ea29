/-
  The course of a run: what it does on a machine, apart from what it says.

  1. **Saying nothing (`Leads`)** — a step leads from a machine to a result and a machine, whatever
     stands on standard error before and after it.  What a step says is no part of this, so neither is
     the voice of the run.

  2. **Courses** — `loaded`, `generated`, `delivered` and `finished` are the steps of a run as functions
     of the machine.  None of them knows a voice.

  3. **Main results** — a run takes its course, with every voice (`leads_perform`), and ends with the
     status of it (`runOn_generate`).

  What other packages decide (`Packages`) is passed along, and nothing is assumed of it.
-/
import TomeSql.Proofs.Host.Machine
import TomeSql.Proofs.Settings
import TomeSql.Run

namespace TomeSql.Run

open CommandLine (Choices)

/-- What a step comes to: its result and the machine that it leaves. -/
abbrev Course (α : Type) := Except Failure α × Machine

/-- What a course that goes on with `f` comes to. -/
def Course.andThen {α β : Type} (p : Course α) (f : α → Machine → Course β) : Course β :=
  match p with
  | (.error e, m) => (.error e, m)
  | (.ok a, m) => f a m

/-- What a course comes to that makes something of what was read. -/
def Course.reading {α β : Type} (p : Except FileFault α × Machine) (failure : FileFault → Failure)
    (f : α → Except Failure β) : Course β :=
  match p with
  | (.error e, m) => (.error (failure e), m)
  | (.ok a, m) => (f a, m)

/-- Three courses one after the other may be put together from either side. -/
theorem Course.andThen_assoc {α β γ : Type} (p : Course α) (f : α → Machine → Course β)
    (g : β → Machine → Course γ) :
    (p.andThen f).andThen g = p.andThen fun a m => (f a m).andThen g := by
  obtain ⟨r, m⟩ := p
  cases r <;> rfl

/-! ## Saying nothing -/

/-- The step leads from `m` to `p`, whatever stands on standard error. -/
def Leads {α : Type} (x : ExceptT Failure (StateM Machine) α) (m : Machine) (p : Course α) : Prop :=
  ∀ said, ∃ said', x.run.run { m with stderr := said } = (p.1, { p.2 with stderr := said' })

/-- The action only says something. -/
def Speaks (x : StateM Machine Unit) : Prop :=
  ∀ (m : Machine) (said : Text), ∃ said', x.run { m with stderr := said } = ((), { m with stderr := said' })

namespace Leads

variable {α β : Type} {x : ExceptT Failure (StateM Machine) α}
  {f : α → ExceptT Failure (StateM Machine) β} {m : Machine} {p : Course α}

theorem pure (a : α) (m : Machine) : Leads (Pure.pure a) m (.ok a, m) := fun said => ⟨said, rfl⟩

theorem throw (e : Failure) (m : Machine) : Leads (α := α) (MonadExcept.throw e) m (.error e, m) :=
  fun said => ⟨said, rfl⟩

/-- A decision that is made without the machine. -/
theorem ofExcept (r : Except Failure α) (m : Machine) : Leads (MonadExcept.ofExcept r) m (r, m) := by
  cases r with
  | error e => exact throw e m
  | ok a => exact pure a m

/-- After a step that succeeds the chain goes on from the machine that it leaves. -/
theorem bind_ok {a : α} {m' : Machine} {q : Course β} (hx : Leads x m (.ok a, m'))
    (hf : Leads (f a) m' q) : Leads (x >>= f) m q := by
  intro said
  obtain ⟨said', hx⟩ := hx said
  obtain ⟨said'', hf⟩ := hf said'
  refine ⟨said'', ?_⟩
  rw [ExceptT.run_bind, StateT.run_bind, hx]
  exact hf

/-- A step that fails ends the chain, and its machine is that of the chain. -/
theorem bind_error {e : Failure} {m' : Machine} (hx : Leads x m (.error e, m')) :
    Leads (x >>= f) m (.error e, m') := by
  intro said
  obtain ⟨said', hx⟩ := hx said
  refine ⟨said', ?_⟩
  rw [ExceptT.run_bind, StateT.run_bind, hx]
  rfl

/-- Steps one after the other. -/
theorem bind {q : α → Machine → Course β} (hx : Leads x m p) (hf : ∀ a m', Leads (f a) m' (q a m')) :
    Leads (x >>= f) m (p.andThen q) := by
  obtain ⟨r, m'⟩ := p
  cases r with
  | error e => exact hx.bind_error
  | ok a => exact hx.bind_ok (hf a m')

theorem map {g : α → β} (hx : Leads x m p) : Leads (g <$> x) m (p.1.map g, p.2) := by
  intro said
  obtain ⟨said', hx⟩ := hx said
  refine ⟨said', ?_⟩
  rw [ExceptT.run_map, StateT.run_map, hx]
  rfl

/-- An operation of the machine whose result does not depend on standard error. -/
theorem lift {y : StateM Machine α} {a : α} {m' : Machine}
    (h : ∀ said, ∃ said', y.run { m with stderr := said } = (a, { m' with stderr := said' })) :
    Leads (liftM y) m (.ok a, m') := by
  intro said
  obtain ⟨said', h⟩ := h said
  refine ⟨said', ?_⟩
  rw [ExceptT.run_liftM, StateT.run_map, h]
  rfl

/-- What is said in front of a step does not matter. -/
theorem speak {y : StateM Machine Unit} (hy : Speaks y) {g : Unit → ExceptT Failure (StateM Machine) β}
    {q : Course β} (hg : Leads (g ()) m q) : Leads (liftM y >>= g) m q :=
  (lift (hy m)).bind_ok hg

/-- Reading a file leads to what the machine reads. -/
theorem read (m : Machine) (path : Text) :
    Leads (liftM (Host.read (m := StateM Machine) path)) m (.ok (m.read path).1, (m.read path).2) := by
  refine lift fun said => ⟨said, ?_⟩
  rw [← Machine.read_stderr, Host.read, Machine.read]
  split <;> rfl

/-- Writing leads to what the machine writes, whatever a device has on standard error then. -/
theorem write (m : Machine) (path : Text) (bytes : List UInt8) :
    Leads (liftM (Host.write (m := StateM Machine) path bytes)) m
      (.ok (m.write path bytes).1, (m.write path bytes).2) := by
  refine lift fun said => ?_
  obtain ⟨said', hwrite⟩ := m.write_stderr said path bytes
  refine ⟨said', ?_⟩
  rw [← hwrite, Host.write, Machine.write]
  split <;> rfl

theorem readStdin (m : Machine) :
    Leads (liftM (Host.readStdin (m := StateM Machine))) m (.ok m.readStdin.1, m.readStdin.2) := by
  refine lift fun said => ⟨said, ?_⟩
  rw [← Machine.readStdin_stderr]
  rfl

theorem print (m : Machine) (t : Text) :
    Leads (liftM (Host.print (m := StateM Machine) t)) m (.ok (m.print t).1, (m.print t).2) := by
  refine lift fun said => ⟨said, ?_⟩
  rw [← Machine.print_stderr]
  rfl

/-- Reading something and going on with what was read. -/
theorem reading {x : ExceptT Failure (StateM Machine) (Except FileFault α)} {m : Machine}
    {p : Except FileFault α × Machine} {failure : FileFault → Failure} {f : α → Except Failure β}
    {k : Except FileFault α → ExceptT Failure (StateM Machine) β} (hx : Leads x m (.ok p.1, p.2))
    (herror : ∀ e m, Leads (k (.error e)) m (.error (failure e), m))
    (hok : ∀ a m, Leads (k (.ok a)) m (f a, m)) : Leads (x >>= k) m (.reading p failure f) := by
  refine hx.bind_ok ?_
  obtain ⟨r, m'⟩ := p
  cases r with
  | error e => exact herror e m'
  | ok a => exact hok a m'

end Leads

/-! ## What is said -/

theorem speaks_complain (line : Text) : Speaks (Host.complain line) := fun _ _ => ⟨_, rfl⟩

theorem speaks_pure : Speaks (Pure.pure ()) := fun _ said => ⟨said, rfl⟩

theorem Speaks.bind {x : StateM Machine Unit} {f : Unit → StateM Machine Unit} (hx : Speaks x)
    (hf : Speaks (f ())) : Speaks (x >>= f) := by
  intro m said
  obtain ⟨said', hx⟩ := hx m said
  obtain ⟨said'', hf⟩ := hf m said'
  refine ⟨said'', ?_⟩
  rw [StateT.run_bind, hx, ← hf]
  rfl

theorem speaks_note (v : Voice) (line : Text) : Speaks (note v line) := by
  rw [note]
  split
  · exact speaks_complain line
  · exact speaks_pure

theorem speaks_log (v : Voice) (e : Log.Event) : Speaks (log v e) := by
  rw [log]
  split
  · exact speaks_complain e.line
  · exact speaks_pure

theorem speaks_logAll (v : Voice) (es : List Log.Event) : Speaks (logAll v es) := by
  rw [logAll]
  induction es with
  | nil => exact speaks_pure
  | cons e es ih => exact (speaks_log v e).bind ih

theorem leads_complainAll (lines : List Text) (m : Machine) :
    Leads (lines.forM fun line => liftM (Host.complain (m := StateM Machine) line)) m (.ok (), m) := by
  induction lines with
  | nil => exact Leads.pure () m
  | cons line lines ih => exact Leads.speak (speaks_complain line) ih

/-! ## Settings -/

/-- The settings file that a run looks for. -/
def settingsPath (c : Choices) : Text := c.config.getD defaultSettingsPath

/-- Reads the settings file: the one that is named, or else the usual one if it is there. -/
def settingsFile (c : Choices) (m : Machine) : Except FileFault (Option (List UInt8)) × Machine :=
  if c.config.isSome || m.fileExists defaultSettingsPath then
    ((m.read (settingsPath c)).1.map some, (m.read (settingsPath c)).2)
  else (.ok none, m)

/-- The settings of a command line and of the bytes of a settings file, if there is one. -/
def settingsOf (packages : Packages) (c : Choices) : Option (List UInt8) → Except Failure Settings
  | none => .ok (Settings.effective c [])
  | some bytes =>
    match Text.decode? bytes with
    | none => .error (.unreadable (settingsPath c) .notUtf8)
    | some file =>
      match Toml.parse? file with
      | none => .error (.settings (packages.settingsWords file))
      | some es =>
        if (Settings.ofEntries? es).isSome then .ok (Settings.effective c es)
        else .error (.settings (packages.settingsWords file))

variable {packages : Packages}

/-- An output path of the command line counts, whatever the settings file says. -/
theorem outputPath_of_settingsOf {c : Choices} {file : Option (List UInt8)} {s : Settings} {path : Text}
    (h : settingsOf packages c file = .ok s) (hc : c.output = some path) : s.outputPath = path := by
  have hpath : ∀ es, (Settings.effective c es).outputPath = path := fun es => by
    rw [Settings.effective, hc]
    rfl
  simp only [settingsOf] at h
  repeat' split at h
  all_goals cases h
  all_goals exact hpath _

/-- Reads the settings. -/
def loaded (packages : Packages) (c : Choices) (m : Machine) : Course Settings :=
  .reading (settingsFile c m) (.unreadable (settingsPath c)) (settingsOf packages c)

/-- Reading a settings file leads to the settings of the command line and its bytes. -/
theorem leads_readSettings (c : Choices) (m : Machine) :
    Leads (c.applyTo <$> readSettings (settingsPath c) packages) m
      (.reading (m.read (settingsPath c)) (.unreadable (settingsPath c))
        fun bytes => settingsOf packages c (some bytes)) := by
  rw [readSettings, map_bind]
  refine Leads.reading (.read m _) (fun f m => (Leads.throw _ m).map) fun bytes m => ?_
  simp only [settingsOf]
  cases Text.decode? bytes with
  | none => exact (Leads.throw _ m).map
  | some file =>
    cases hes : Toml.parse? file with
    | none =>
      simp only [Settings.parse?, hes, Option.bind_none]
      exact (Leads.throw _ m).map
    | some es =>
      simp only [Settings.parse?, hes, Option.bind_some]
      cases hbase : Settings.ofEntries? es with
      | none => exact (Leads.throw _ m).map
      | some base =>
        simp only [Option.isSome_some, if_true, ← Settings.applyTo_eq_effective hbase c]
        exact (Leads.pure base m).map

/-- Where there is a settings file, it is read. -/
theorem loaded_of_read {c : Choices} {m : Machine}
    (h : (c.config.isSome || m.fileExists defaultSettingsPath) = true) :
    loaded packages c m = .reading (m.read (settingsPath c)) (.unreadable (settingsPath c))
      fun bytes => settingsOf packages c (some bytes) := by
  rw [loaded, settingsFile, if_pos h]
  obtain ⟨r, m'⟩ := m.read (settingsPath c)
  cases r <;> rfl

/-- The settings are loaded in the same way with every voice. -/
theorem leads_baseSettings (v : Voice) (c : Choices) (m : Machine) :
    Leads (c.applyTo <$> baseSettings packages v c.config) m (loaded packages c m) := by
  cases hconfig : c.config with
  | some path =>
    have hpath : settingsPath c = path := by rw [settingsPath, hconfig, Option.getD_some]
    rw [loaded_of_read (by simp [hconfig])]
    simp only [baseSettings, ← hpath]
    exact leads_readSettings c m
  | none =>
    have hpath : settingsPath c = defaultSettingsPath := by rw [settingsPath, hconfig, Option.getD_none]
    have hexists : Leads (liftM (Host.fileExists (m := StateM Machine) defaultSettingsPath)) m
        (.ok (m.fileExists defaultSettingsPath), m) := Leads.lift fun said => ⟨said, rfl⟩
    simp only [baseSettings, map_bind]
    refine hexists.bind_ok ?_
    cases hfile : m.fileExists defaultSettingsPath with
    | true =>
      rw [loaded_of_read (by simp [hfile]), if_pos rfl, ← hpath]
      exact leads_readSettings c m
    | false =>
      rw [loaded, settingsFile, hconfig, hfile, if_neg Bool.false_ne_true, map_bind]
      refine Leads.speak (speaks_note v _) ?_
      simp only [Course.reading, settingsOf, ← Settings.applyTo_default]
      exact (Leads.pure ({} : Settings) m).map

/-! ## Columns and rows -/

/-- Reads the columns of the table, once the pattern for its name is built. -/
def columnsFound (packages : Packages) (s : Settings) (m : Machine) : Course ColumnList :=
  Course.andThen (packages.checkPattern s.policy.table, m) fun _ m =>
    .reading (m.read s.schemaPath) (.unreadable s.schemaPath) fun schema =>
      (ColumnList.ofSchema s.policy.table (Text.decodeLossy schema)).mapError
        fun e => .generation (.schema e)

/-- With a pattern and a schema, the columns are those that the schema has for the table. -/
theorem columnsFound_of_read {s : Settings} {m m' : Machine} {schema : List UInt8}
    (hpattern : packages.checkPattern s.policy.table = .ok ())
    (hread : m.read s.schemaPath = (.ok schema, m')) :
    columnsFound packages s m =
      ((ColumnList.ofSchema s.policy.table (Text.decodeLossy schema)).mapError
        fun e => .generation (.schema e), m') := by
  rw [columnsFound, hpattern, Course.andThen, hread, Course.reading]

/-- The failure of reading the input. -/
def inputFailure (s : Settings) : FileFault → Failure :=
  match s.inputPath with
  | none => .stdinUnreadable
  | some path => .inputUnreadable path

/-- Reads the rows. -/
def batchFound (s : Settings) (m : Machine) : Course Batch :=
  .reading (m.readInput s.inputPath) (inputFailure s) fun input =>
    (Batch.ofText s.reading (Text.decodeLossy input)).mapError fun e => .generation (.rows e)

/-- The columns are found in the same way with every voice. -/
theorem leads_readColumns (v : Voice) (s : Settings) (m : Machine) :
    Leads (readColumns v s packages) m (columnsFound packages s m) := by
  rw [readColumns, columnsFound]
  refine Leads.speak (speaks_note v _) ((Leads.ofExcept _ m).bind fun _ m => ?_)
  refine Leads.reading (.read m _) (fun f m => Leads.throw _ m) fun schema m => ?_
  simp only
  cases ColumnList.ofSchema s.policy.table (Text.decodeLossy schema) with
  | error e => exact Leads.throw _ m
  | ok columns =>
    exact Leads.speak (speaks_log v _) (Leads.speak (speaks_note v _) (Leads.pure columns m))

/-- The input is read from the file that is named, or from standard input. -/
theorem leads_readInput (s : Settings) (m : Machine) :
    Leads (readInput s) m
      (.reading (m.readInput s.inputPath) (inputFailure s)
        fun input => .ok (Text.decodeLossy input)) := by
  rw [readInput, inputFailure]
  cases s.inputPath with
  | none =>
    exact Leads.reading (.readStdin m) (fun f m => Leads.throw _ m) fun input m => Leads.pure _ m
  | some path =>
    exact Leads.reading (.read m path) (fun f m => Leads.throw _ m) fun input m => Leads.pure _ m

/-- The rows are found in the same way with every voice, though those left out are reported. -/
theorem leads_readBatch (v : Voice) (s : Settings) (m : Machine) :
    Leads (readBatch v s) m (batchFound s m) := by
  have hinput := leads_readInput s m
  rw [readBatch, batchFound]
  obtain ⟨r, m', hread⟩ : ∃ r m', m.readInput s.inputPath = (r, m') := ⟨_, _, rfl⟩
  rw [hread] at hinput ⊢
  cases r with
  | error f => exact hinput.bind_error
  | ok input =>
    refine hinput.bind_ok ?_
    simp only [Course.reading]
    cases Batch.ofText s.reading (Text.decodeLossy input) with
    | error e => exact Leads.throw _ m'
    | ok batch =>
      exact Leads.speak (speaks_log v _) ((leads_complainAll _ m').bind_ok (Leads.pure batch m'))

/-! ## The script -/

/-- Reads the columns and the rows, and makes the script. -/
def generated (packages : Packages) (s : Settings) (m : Machine) : Course Generation :=
  (columnsFound packages s m).andThen fun columns m =>
    (batchFound s m).andThen fun batch m =>
      (.ok ⟨columns, batch, ⟨columns, batch.tomes, s.policy, m.clock⟩⟩, m)

/-- Puts out a script. -/
def delivered (s : Settings) (script : Text) (m : Machine) : Course Unit :=
  if s.writesToStdout then .reading (m.print script) .notTaken .ok
  else
    match m.write s.outputPath (Text.encode script) with
    | (.notCreated f, m) => (.error (.notCreated s.outputPath f), m)
    | (.notWritten f, m) =>
      (.error (writingFailure s.outputPath (Text.encode script).length f), m)
    | (.done, m) => (.ok (), m)

/-- Goes on to the output, if there is a tome; the result is the number of tomes. -/
def finished (s : Settings) (g : Generation) (m : Machine) : Course Nat :=
  if g.batch.tomes.isEmpty then (.ok 0, m)
  else (delivered s g.script.render m).andThen fun _ m => (.ok g.batch.tomes.length, m)

/-- The course of a run. -/
def course (packages : Packages) (c : Choices) (m : Machine) : Course Nat :=
  (loaded packages c m).andThen fun s m => (generated packages s m).andThen fun g m => finished s g m

/-- A script is delivered in the same way with every voice. -/
theorem leads_putOut (v : Voice) (s : Settings) (script : Text) (m : Machine) :
    Leads (putOut v s script) m (delivered s script m) := by
  rw [putOut, delivered]
  split
  · exact Leads.reading (.print m script) (fun f m => Leads.throw _ m) fun _ m => Leads.pure _ m
  · refine (Leads.write m s.outputPath (Text.encode script)).bind_ok ?_
    obtain ⟨w, m'⟩ := m.write s.outputPath (Text.encode script)
    cases w with
    | notCreated f => exact Leads.throw _ m'
    | notWritten f => exact Leads.throw _ m'
    | done => exact Leads.lift (speaks_note v _ m')

/-- From the settings on, a run reads, makes the script and delivers it. -/
theorem leads_generate (v : Voice) (s : Settings) (m : Machine) :
    Leads (generate packages v s) m ((generated packages s m).andThen fun g m => finished s g m) := by
  rw [generate, generated, Course.andThen_assoc]
  refine (leads_readColumns v s m).bind fun columns m => ?_
  rw [Course.andThen_assoc]
  refine (leads_readBatch v s m).bind fun batch m => ?_
  simp only [Course.andThen, finished]
  split
  · exact Leads.speak (speaks_complain _) (Leads.pure 0 m)
  · have hnow : Leads (liftM (Host.now (m := StateM Machine))) m (.ok m.clock, m) :=
      Leads.lift fun said => ⟨said, rfl⟩
    refine hnow.bind_ok (Leads.speak (speaks_logAll v _) ?_)
    refine (leads_putOut v s _ m).bind fun _ m => ?_
    exact Leads.speak (speaks_log v _) (Leads.speak (speaks_note v _) (Leads.pure _ m))

/-- **A run takes its course**, whatever it is to say. -/
theorem leads_perform (packages : Packages) (logVariable : Option Text) (c : Choices) (m : Machine) :
    Leads (perform packages logVariable c) m (course packages c m) := by
  have hperform : perform (m := StateM Machine) packages logVariable c =
      (c.applyTo <$> baseSettings packages (voice c.verbose logVariable) c.config) >>=
        generate packages (voice c.verbose logVariable) := by
    rw [perform, bind_map_left]
  rw [hperform]
  exact (leads_baseSettings _ c m).bind fun s m => leads_generate _ s m

/-! ## Whole runs -/

/-- A run on a machine: the exit status, and the machine that it leaves. -/
def runOn (packages : Packages) (logVariable : Option Text) (arguments : List Text) (m : Machine) :
    UInt32 × Machine :=
  (run (m := StateM Machine) logVariable arguments packages).run m

/-- The exit status of a course. -/
def status : Except Failure Nat → UInt32
  | .error _ => 1
  | .ok 0 => 2
  | .ok (_ + 1) => 0

/-- Status 0 stands for a script with at least one tome. -/
theorem status_eq_zero_iff {r : Except Failure Nat} : status r = 0 ↔ ∃ n, r = .ok (n + 1) := by
  obtain e | _ | n := r <;> simp [status]

/-- A run that is to make a script takes its course and ends with the status of it; a failure is the
last thing that it says. -/
theorem runOn_generate {arguments : List Text} {c : Choices}
    (h : CommandLine.parse arguments = .ok (.generate c)) (packages : Packages)
    (logVariable : Option Text) (m : Machine) :
    ∃ said, runOn packages logVariable arguments m =
        (status (course packages c m).1, { (course packages c m).2 with stderr := said }) ∧
      ∀ e, (course packages c m).1 = .error e →
        "Error: ".toList ++ e.message ++ ['\n'] <:+ said := by
  obtain ⟨said, hperform⟩ := leads_perform packages logVariable c m m.stderr
  rw [show ({ m with stderr := m.stderr } : Machine) = m from rfl] at hperform
  rw [runOn, run, h]
  simp only [StateT.run_bind, hperform]
  generalize course packages c m = p
  obtain ⟨r, m'⟩ := p
  cases r with
  | error e =>
    refine ⟨said ++ ("Error: ".toList ++ e.message) ++ ['\n'], rfl, fun e' he' => ?_⟩
    cases he'
    rw [List.append_assoc said]
    exact List.suffix_append said _
  | ok n =>
    refine ⟨said, ?_, fun e he => by cases he⟩
    cases n <;> rfl

end TomeSql.Run
