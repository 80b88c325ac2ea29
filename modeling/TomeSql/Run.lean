/-
  A run of the program, from the command line to the exit status.

  1. **Order** — settings, columns, input, script, output; the first failure ends the run before
     anything is put out, but for an output that takes a part of the script and then fails.

  2. **Exit status** — 0 when a script was put out, or help or the version was asked for; 1 after a
     failure; 2 for a wrong command line and for an input without tomes.

  3. **Standard error** — the reports on rows left out, the events that the filter of the log shows,
     and, when more was asked for, notes on each step.

  4. **Packages** — what other packages decide by rules of their own is a parameter of a run: the words in
     which a settings file is refused, and whether the pattern for a table name can be built at all.
-/
import TomeSql.CommandLine.Parser
import TomeSql.Generation
import TomeSql.Host.Basic
import TomeSql.Log.Filter
import TomeSql.Text.Utf8

namespace TomeSql

/-! ## Failures -/

/-- Why a run ends with status 1. -/
inductive Failure where
  /-- The settings file is not valid, in the words of its reader if they are known. -/
  | settings (words : Option Text := none)
  /-- The settings file or the schema cannot be read. -/
  | unreadable (path : Text) (f : FileFault)
  /-- The pattern for the table name cannot be built, in the words of the pattern package. -/
  | pattern (words : Text)
  | generation (e : GenerationError)
  /-- The input file cannot be read. -/
  | inputUnreadable (path : Text) (f : FileFault)
  /-- Standard input cannot be read. -/
  | stdinUnreadable (f : FileFault)
  /-- The output file cannot be opened. -/
  | notCreated (path : Text) (f : FileFault)
  /-- The output file does not take the script out of the buffer. -/
  | notWritten (path : Text) (f : FileFault)
  /-- Standard output does not take the script, or the output file one that goes past the buffer. -/
  | notTaken (f : FileFault)
deriving DecidableEq

namespace Failure

/-- A failure with its cause, whose lines are moved in, in a paragraph of its own. -/
def withCause (what cause : Text) : Text :=
  what ++ "\n\nCaused by:\n    ".toList ++
    cause.flatMap fun c => if c = '\n' then "\n    ".toList else [c]

/-- The text of a failure. -/
def message : Failure → Text
  | .settings none => "Parse error".toList
  | .settings (some words) => "Parse error: ".toList ++ words
  | .unreadable path f => "IO error: ".toList ++ path ++ ": ".toList ++ f.message
  | .pattern words => withCause ("invalid table name pattern: ".toList ++ words) words
  | .generation (.schema e) => e.message
  | .generation (.rows e) => e.message
  | .inputUnreadable path f => withCause ("Failed to read input ".toList ++ path) f.message
  | .stdinUnreadable f => withCause "Failed to read stdin".toList f.message
  | .notCreated path f => withCause ("Failed to create ".toList ++ path) f.message
  | .notWritten path f => withCause ("Failed to write ".toList ++ path) f.message
  | .notTaken f => f.message

example : (pattern "size limit exceeded".toList).message =
    "invalid table name pattern: size limit exceeded\n\nCaused by:\n    size limit exceeded".toList := by
  decide +kernel

end Failure

/-! ## Packages -/

/-- What other packages decide by rules of their own.  A run is stated for all of them. -/
structure Packages where
  /-- The words in which the reader of settings refuses a file; none where they are not known. -/
  settingsWords : Text → Option Text := fun _ => none
  /-- The words in which the pattern for a table name is refused; none if it can be built. -/
  patternRefusal : Text → Option Text := fun _ => none

/-- The pattern for a table name can be built. -/
def Packages.checkPattern (packages : Packages) (table : Text) : Except Failure Unit :=
  match packages.patternRefusal table with
  | none => .ok ()
  | some words => .error (.pattern words)

namespace Run

/-- The settings file that is looked for when none is named. -/
def defaultSettingsPath : Text := "tomesmith.toml".toList

/-- The name and version of the program. -/
def versionText : Text := "tomesmith 0.1.0\n".toList

/-- The help text. -/
def helpText : Text :=
  "Tomesmith - generate SQL for learned-spell tome items\n\nUsage: tomesmith [OPTIONS]\n\nOptions:\n".toList ++
  CommandLine.Parameter.all.flatMap (fun p => "  ".toList ++ p.shown ++ "\n".toList) ++
  "  --verbose\n  --help\n  --version\n".toList

/-! ## What is said on the way -/

/-- How much a run says. -/
structure Voice where
  verbose : Bool
  filter : Log.Filter

/-- The filter of a log variable, which counts unless more was asked for.  Without one that can be
read, warnings are shown. -/
def filterOf (logVariable : Option Text) : Log.Filter :=
  (logVariable.bind Log.Filter.ofText?).getD (.upTo .warn)

/-- The voice of a run. -/
def voice (verbose : Bool) (logVariable : Option Text) : Voice :=
  ⟨verbose, if verbose then .upTo .debug else filterOf logVariable⟩

variable {m : Type → Type} [Monad m] [Host m]

/-- Says something when more was asked for. -/
def note (v : Voice) (line : Text) : m Unit := if v.verbose then Host.complain line else pure ()

/-- Logs an event, if the filter shows it. -/
def log (v : Voice) (e : Log.Event) : m Unit :=
  if v.filter.shows e then Host.complain e.line else pure ()

/-- Logs events in order. -/
def logAll (v : Voice) (es : List Log.Event) : m Unit := es.forM (log v)

/-! ## The steps -/

/-- Reads a settings file. -/
def readSettings (path : Text) (packages : Packages := {}) : ExceptT Failure m Settings := do
  match ← Host.read (m := m) path with
  | .error f => throw (.unreadable path f)
  | .ok bytes =>
    match Text.decode? bytes with
    | none => throw (.unreadable path .notUtf8)
    | some file =>
      match Settings.parse? file with
      | none => throw (.settings (packages.settingsWords file))
      | some s => return s

/-- The settings below those of the command line: of the file that is named, or else of the one that
is looked for, or else the defaults. -/
def baseSettings (packages : Packages) (v : Voice) (named : Option Text) :
    ExceptT Failure m Settings := do
  match named with
  | some path => readSettings path packages
  | none =>
    if ← Host.fileExists (m := m) defaultSettingsPath then readSettings defaultSettingsPath packages
    else
      note (m := m) v "No config file found, using defaults".toList
      return {}

/-- Reads the columns of the table.  The pattern for its name is built before the schema is read. -/
def readColumns (v : Voice) (s : Settings) (packages : Packages := {}) :
    ExceptT Failure m ColumnList := do
  note (m := m) v ("Reading schema from: ".toList ++ s.schemaPath)
  MonadExcept.ofExcept (packages.checkPattern s.policy.table)
  match ← Host.read (m := m) s.schemaPath with
  | .error f => throw (.unreadable s.schemaPath f)
  | .ok bytes =>
    match ColumnList.ofSchema s.policy.table (Text.decodeLossy bytes) with
    | .error e => throw (.generation (.schema e))
    | .ok columns =>
      log (m := m) v (.ofColumns columns)
      note (m := m) v ("  ".toList ++ Decimal.ofNat columns.length ++ " columns in \x60".toList ++
        columns.table ++ "\x60".toList)
      return columns

/-- Reads the input. -/
def readInput (s : Settings) : ExceptT Failure m Text := do
  match s.inputPath with
  | none =>
    match ← Host.readStdin (m := m) with
    | .error f => throw (.stdinUnreadable f)
    | .ok bytes => return Text.decodeLossy bytes
  | some path =>
    match ← Host.read (m := m) path with
    | .error f => throw (.inputUnreadable path f)
    | .ok bytes => return Text.decodeLossy bytes

/-- Reads the rows and reports on those left out. -/
def readBatch (v : Voice) (s : Settings) : ExceptT Failure m Batch := do
  match Batch.ofText s.reading (← readInput s) with
  | .error e => throw (.generation (.rows e))
  | .ok batch =>
    log (m := m) v (.ofBatch batch)
    (batch.tally.messages s.reading.placeholder).forM fun line => Host.complain (m := m) line
    return batch

/-- The number of bytes that the output buffer holds. -/
def bufferSize : Nat := 8192

/-- The failure of writing a script of `size` bytes.  One that fits into the buffer leaves it when
the buffer is emptied at the end, and only that step names the file. -/
def writingFailure (path : Text) (size : Nat) (f : FileFault) : Failure :=
  if size < bufferSize then .notWritten path f else .notTaken f

/-- Puts out a script. -/
def putOut (v : Voice) (s : Settings) (script : Text) : ExceptT Failure m Unit := do
  if s.writesToStdout then
    match ← Host.print (m := m) script with
    | .error f => throw (.notTaken f)
    | .ok _ => return ()
  else
    let bytes := Text.encode script
    match ← Host.write (m := m) s.outputPath bytes with
    | .notCreated f => throw (.notCreated s.outputPath f)
    | .notWritten f => throw (writingFailure s.outputPath bytes.length f)
    | .done => note (m := m) v ("Script saved to: ".toList ++ s.outputPath)

/-- Makes the script and puts it out; the result is the number of its tomes. -/
def generate (packages : Packages) (v : Voice) (s : Settings) : ExceptT Failure m Nat := do
  let columns ← readColumns v s packages
  let batch ← readBatch v s
  if batch.tomes.isEmpty then
    Host.complain (m := m) "No specs found in input.".toList
    return 0
  let script : Script := ⟨columns, batch.tomes, s.policy, ← Host.now (m := m)⟩
  logAll (m := m) v script.warnings
  putOut v s script.render
  log (m := m) v (.generationComplete batch.tomes.length)
  note (m := m) v ("Wrote ".toList ++ Decimal.ofNat batch.tomes.length ++ " INSERT statements".toList)
  return batch.tomes.length

/-- What the choices of a command line ask for. -/
def perform (packages : Packages) (logVariable : Option Text) (c : CommandLine.Choices) :
    ExceptT Failure m Nat := do
  let v := voice c.verbose logVariable
  let base ← baseSettings packages v c.config
  generate packages v (c.applyTo base)

/-- A whole run; the result is the exit status.  `logVariable` is the value of the log variable.  Help
and the version end well, whether or not standard output takes them. -/
def run (logVariable : Option Text) (arguments : List Text) (packages : Packages := {}) : m UInt32 := do
  match CommandLine.parse arguments with
  | .error e =>
    Host.complain ("error: ".toList ++ e.message)
    return 2
  | .ok .help =>
    let _ ← Host.print helpText
    return 0
  | .ok .version =>
    let _ ← Host.print versionText
    return 0
  | .ok (.generate c) =>
    match ← (perform packages logVariable c).run with
    | .error f =>
      Host.complain ("Error: ".toList ++ f.message)
      return 1
    | .ok 0 => return 2
    | .ok _ => return 0

end Run

end TomeSql
