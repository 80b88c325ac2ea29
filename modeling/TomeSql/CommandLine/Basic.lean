/-
  What can be said on the command line.

  1. **Options** — settings that take a value, each given at most once.  A path must not be empty; a
     number is an integer of its range.

  2. **Flags** — the request to say more, and the requests for help and for the version.

  3. **Errors** — what is wrong with a command line, and how it is reported.  Of an argument only
     what is seen of it goes into a message, so that no argument can act on a terminal.
-/
import TomeSql.Settings
import TomeSql.Text.Visible

namespace TomeSql.CommandLine

/-! ## Options -/

/-- The options that take a value. -/
inductive Parameter where
  | config
  | input
  | output
  | schema
  | template
  | start
  | dummySpell
  | scriptName
  | allowableClass
  | allowableRace
  | requiredLevel
deriving DecidableEq

namespace Parameter

/-- All options that take a value. -/
def all : List Parameter :=
  [config, input, output, schema, template, start, dummySpell, scriptName, allowableClass,
    allowableRace, requiredLevel]

/-- The name of an option. -/
def name : Parameter → Text
  | config => "config".toList
  | input => "input".toList
  | output => "output".toList
  | schema => "schema-sql".toList
  | template => "template-entry".toList
  | start => "start-entry".toList
  | dummySpell => "dummy-spell-id".toList
  | scriptName => "script-name".toList
  | allowableClass => "allowable-class".toList
  | allowableRace => "allowable-race".toList
  | requiredLevel => "required-level".toList

/-- The option of a name. -/
def ofName? (t : Text) : Option Parameter := all.find? fun p => p.name == t

/-- An option as it is shown in messages: its name and a word for its value. -/
def shown (p : Parameter) : Text :=
  "--".toList ++ p.name ++ " <".toList ++
  (p.name.map fun c => if c = '-' then '_' else c.toUpper) ++ ">".toList

/-- The value may be an argument of its own even if it looks like a negative number. -/
def takesNegative : Parameter → Bool
  | allowableClass | allowableRace | requiredLevel => true
  | _ => false

end Parameter

/-! ## What was said -/

/-- The values and flags of a command line that asks for a script. -/
structure Choices where
  config : Option Text := none
  input : Option Text := none
  output : Option Text := none
  schema : Option Text := none
  template : Option UInt32 := none
  start : Option UInt32 := none
  dummySpell : Option UInt32 := none
  scriptName : Option Text := none
  allowableClass : Option Int32 := none
  allowableRace : Option Int32 := none
  requiredLevel : Option Int32 := none
  verbose : Bool := false
deriving DecidableEq

/-- What a command line asks for. -/
inductive Request where
  | generate (c : Choices)
  | help
  | version
deriving DecidableEq

/-- The settings with the choices in the place of what they replace. -/
def Choices.applyTo (c : Choices) (s : Settings) : Settings :=
  { schemaPath := c.schema.getD s.schemaPath
    outputPath := c.output.getD s.outputPath
    inputPath := c.input.or s.inputPath
    reading := { s.reading with firstEntry := c.start.getD s.reading.firstEntry }
    policy := { s.policy with
      template := c.template.getD s.policy.template
      dummySpell := c.dummySpell.getD s.policy.dummySpell
      scriptName := c.scriptName.getD s.policy.scriptName
      allowableClass := c.allowableClass.getD s.policy.allowableClass
      allowableRace := c.allowableRace.or s.policy.allowableRace
      requiredLevel := c.requiredLevel.or s.policy.requiredLevel } }

/-! ## Errors -/

/-- What is wrong with a number. -/
inductive NumberFault where
  | notInteger (f : Decimal.Fault)
  | outside (n lo hi : Int)
deriving DecidableEq

/-- The text of a fault. -/
def NumberFault.message : NumberFault → Text
  | .notInteger .empty => "cannot parse integer from empty string".toList
  | .notInteger .badDigit => "invalid digit found in string".toList
  | .notInteger .tooLarge => "number too large to fit in target type".toList
  | .notInteger .tooSmall => "number too small to fit in target type".toList
  | .outside n lo hi =>
    Decimal.ofInt n ++ " is not in ".toList ++ Decimal.ofInt lo ++ "..=".toList ++ Decimal.ofInt hi

/-- What is wrong with a command line. -/
inductive UsageError where
  /-- An argument that nothing asks for. -/
  | unexpected (argument : Text)
  /-- An option without the value that it needs. -/
  | valueMissing (p : Parameter)
  /-- An option or flag that is given again; `shown` is how messages show it. -/
  | repeated (shown : Text)
  /-- A value for a flag, which takes none. -/
  | valueUnneeded (value shown : Text)
  /-- A value that is not a number of the option's range. -/
  | invalid (p : Parameter) (value : Text) (fault : NumberFault)
deriving DecidableEq

/-- The text of the error. -/
def UsageError.message : UsageError → Text
  | .unexpected argument => "unexpected argument '".toList ++ Text.visible argument ++ "' found".toList
  | .valueMissing p =>
    "a value is required for '".toList ++ p.shown ++ "' but none was supplied".toList
  | .repeated shown => "the argument '".toList ++ shown ++ "' cannot be used multiple times".toList
  | .valueUnneeded value shown =>
    "unexpected value '".toList ++ Text.visible value ++ "' for '".toList ++ shown ++
      "' found; no more were expected".toList
  | .invalid p value fault =>
    "invalid value '".toList ++ Text.visible value ++ "' for '".toList ++ p.shown ++ "': ".toList ++
      fault.message

example : Parameter.dummySpell.shown = "--dummy-spell-id <DUMMY_SPELL_ID>".toList := by decide

end TomeSql.CommandLine
