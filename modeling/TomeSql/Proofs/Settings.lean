/-
  The settings that a run goes by: three layers, and each setting for itself.

  A flag counts before the settings file, and the file before the default.  Reading the file fills its
  gaps with the defaults, and the flags then replace what was read; layer by layer that is the same
  (`applyTo_eq_effective`).
-/
import TomeSql.CommandLine.Basic

namespace TomeSql.Settings

open TomeSql.CommandLine (Choices)

/-! ## Layers -/

/-- What the entries of a settings file say for a key, if they say anything. -/
def given {α : Type} (es : Toml.Entries) (key : String) (read : Toml.Value → Option α) : Option α :=
  (es.lookup key.toList).bind read

/-- What a flag says, or else the file, or else the default. -/
def layered {α : Type} (flag file : Option α) (default : α) : α := (flag.or file).getD default

/-- The settings of a command line on top of the entries of a settings file.  There is no flag for the
table, its key column and the beginning of placeholder names, and no default for an input file, a race
and a level. -/
def effective (c : Choices) (es : Toml.Entries) : Settings :=
  let d : Settings := {}
  { schemaPath := layered c.schema (given es "schema_path" text?) d.schemaPath
    outputPath := layered c.output (given es "output_path" text?) d.outputPath
    inputPath := c.input.or (given es "input_path" text?)
    reading := {
      firstEntry := layered c.start (given es "start_entry" uint32?) d.reading.firstEntry
      placeholder := layered none (given es "placeholder_prefix" text?) d.reading.placeholder }
    policy := {
      table := layered none (given es "table" text?) d.policy.table
      keyColumn := layered none (given es "key_column" text?) d.policy.keyColumn
      template := layered c.template (given es "template_entry" uint32?) d.policy.template
      dummySpell := layered c.dummySpell (given es "dummy_spell_id" uint32?) d.policy.dummySpell
      scriptName := layered c.scriptName (given es "script_name" text?) d.policy.scriptName
      allowableClass :=
        layered c.allowableClass (given es "allowable_class" int32?) d.policy.allowableClass
      allowableRace := c.allowableRace.or (given es "allowable_race" int32?)
      requiredLevel := c.requiredLevel.or (given es "required_level" int32?) } }

/-! ## One layer after the other -/

variable {α : Type} {es : Toml.Entries} {key : String} {read : Toml.Value → Option α}

/-- A setting that is read is the one that is given, or else the default. -/
theorem field_eq_some {default v : α} (h : field es key default read = some v) :
    v = (given es key read).getD default := by
  rw [field] at h
  rw [given]
  split at h
  · rename_i hnone
    cases h
    rw [hnone]
    rfl
  · rename_i value hvalue
    rw [hvalue, Option.bind_some, h]
    rfl

/-- A setting without a default is the one that is given, or none. -/
theorem field_none_eq_some {v : Option α}
    (h : field es key none (fun value => (read value).map some) = some v) : v = given es key read := by
  rw [field] at h
  rw [given]
  split at h
  · rename_i hnone
    cases h
    rw [hnone]
    rfl
  · rename_i value hvalue
    rw [hvalue, Option.bind_some]
    obtain ⟨a, ha, rfl⟩ := Option.map_eq_some_iff.mp h
    exact ha.symm

/-- The flag comes first, then the file, then the default. -/
theorem layered_eq (flag file : Option α) (default : α) :
    flag.getD (file.getD default) = layered flag file default := by
  cases flag <;> rfl

/-- Filling gaps and replacing settings gives the layered ones. -/
theorem applyTo_eq_effective {base : Settings} (h : ofEntries? es = some base) (c : Choices) :
    c.applyTo base = effective c es := by
  rw [ofEntries?] at h
  obtain ⟨_, hschemaPath, h⟩ := Option.bind_eq_some_iff.mp h
  obtain ⟨_, houtputPath, h⟩ := Option.bind_eq_some_iff.mp h
  obtain ⟨_, hinputPath, h⟩ := Option.bind_eq_some_iff.mp h
  obtain ⟨_, hfirstEntry, h⟩ := Option.bind_eq_some_iff.mp h
  obtain ⟨_, hplaceholder, h⟩ := Option.bind_eq_some_iff.mp h
  obtain ⟨_, htable, h⟩ := Option.bind_eq_some_iff.mp h
  obtain ⟨_, hkeyColumn, h⟩ := Option.bind_eq_some_iff.mp h
  obtain ⟨_, htemplate, h⟩ := Option.bind_eq_some_iff.mp h
  obtain ⟨_, hdummySpell, h⟩ := Option.bind_eq_some_iff.mp h
  obtain ⟨_, hscriptName, h⟩ := Option.bind_eq_some_iff.mp h
  obtain ⟨_, hclass, h⟩ := Option.bind_eq_some_iff.mp h
  obtain ⟨_, hrace, h⟩ := Option.bind_eq_some_iff.mp h
  obtain ⟨_, hlevel, h⟩ := Option.bind_eq_some_iff.mp h
  cases h
  simp only [Choices.applyTo, field_eq_some hschemaPath, field_eq_some houtputPath,
    field_none_eq_some hinputPath, field_eq_some hfirstEntry, field_eq_some hplaceholder,
    field_eq_some htable, field_eq_some hkeyColumn, field_eq_some htemplate,
    field_eq_some hdummySpell, field_eq_some hscriptName, field_eq_some hclass,
    field_none_eq_some hrace, field_none_eq_some hlevel, layered_eq]
  rfl

/-- Without a settings file the flags replace the defaults. -/
theorem applyTo_default (c : Choices) : c.applyTo {} = effective c [] :=
  applyTo_eq_effective rfl c

end TomeSql.Settings
