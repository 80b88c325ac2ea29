/-
  Settings: everything that a run can be told.

  1. **Layers** — a setting has a default, which a settings file may replace, which in turn a command
     line may replace.

  2. **Settings file** — a TOML document whose top-level keys are settings.  A key of another name is
     passed over; a setting of the wrong type or out of its range makes the whole file invalid.
-/
import TomeSql.Batch.Basic
import TomeSql.Script.Policy
import TomeSql.Toml.Document

namespace TomeSql

/-- All settings of a run. -/
structure Settings where
  /-- The file that declares the table. -/
  schemaPath : Text := "sql/base/mangos.sql".toList
  /-- The file that the script goes to; `-` is standard output. -/
  outputPath : Text := "sql/updates/mangos/z2831_01_mangos_mage_tomes.sql".toList
  /-- The file with the rows; none is standard input. -/
  inputPath : Option Text := none
  /-- How the rows are read. -/
  reading : Batch.Options := {}
  /-- What is written into every row of the table. -/
  policy : Policy := {}
deriving DecidableEq

namespace Settings

/-- The script goes to standard output. -/
def writesToStdout (s : Settings) : Bool := s.outputPath == ['-']

/-! ## Reading a settings file -/

/-- A setting of the document: the default if the key is missing, nothing if its value does not
fit. -/
def field (es : Toml.Entries) (key : String) (default : α) (read : Toml.Value → Option α) :
    Option α :=
  match es.lookup key.toList with
  | none => some default
  | some v => read v

/-- A string. -/
def text? : Toml.Value → Option Text
  | .string t => some t
  | _ => none

/-- An integer of the unsigned 32-bit range. -/
def uint32? : Toml.Value → Option UInt32
  | .integer n => if 0 ≤ n ∧ n ≤ 4294967295 then some (UInt32.ofNat n.toNat) else none
  | _ => none

/-- An integer of the signed 32-bit range. -/
def int32? : Toml.Value → Option Int32
  | .integer n => if -2147483648 ≤ n ∧ n ≤ 2147483647 then some (Int32.ofInt n) else none
  | _ => none

/-- The settings that the entries of a document leave or replace. -/
def ofEntries? (es : Toml.Entries) : Option Settings := do
  let d : Settings := {}
  return {
    schemaPath := ← field es "schema_path" d.schemaPath text?
    outputPath := ← field es "output_path" d.outputPath text?
    inputPath := ← field es "input_path" d.inputPath fun v => (text? v).map some
    reading := {
      firstEntry := ← field es "start_entry" d.reading.firstEntry uint32?
      placeholder := ← field es "placeholder_prefix" d.reading.placeholder text? }
    policy := {
      table := ← field es "table" d.policy.table text?
      keyColumn := ← field es "key_column" d.policy.keyColumn text?
      template := ← field es "template_entry" d.policy.template uint32?
      dummySpell := ← field es "dummy_spell_id" d.policy.dummySpell uint32?
      scriptName := ← field es "script_name" d.policy.scriptName text?
      allowableClass := ← field es "allowable_class" d.policy.allowableClass int32?
      allowableRace := ← field es "allowable_race" d.policy.allowableRace fun v => (int32? v).map some
      requiredLevel := ←
        field es "required_level" d.policy.requiredLevel fun v => (int32? v).map some } }

/-- The settings of a settings file, if it is valid. -/
def parse? (file : Text) : Option Settings := (Toml.parse? file).bind ofEntries?

end Settings

end TomeSql
