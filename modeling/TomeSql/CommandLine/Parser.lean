/-
  Reading a command line.

  1. **Values** — an option's value is joined to it (`--name=value`, `-cvalue`) or is the next
     argument.  An argument that begins with a dash and has more to it is never taken as a value,
     but for a negative number where the option takes one.

  2. **Waiting** — a value that is an argument of its own is looked at only when the next option or
     flag comes, or the end.  So an argument that nothing asks for is reported before a bad value in
     front of it, and a bad value before anything that follows it.

  3. **Double dash** — after `--` nothing is an option, and since nothing else is asked for, every
     further argument is one too many.
-/
import TomeSql.CommandLine.Basic

namespace TomeSql.CommandLine

/-! ## Values -/

/-- Reads an integer between `lo` and `hi`. -/
def readNumber (p : Parameter) (lo hi : Int) (value : Text) : Except UsageError Int :=
  match Decimal.readInt64 value with
  | .error f => .error (.invalid p value (.notInteger f))
  | .ok n => if lo ≤ n ∧ n ≤ hi then .ok n else .error (.invalid p value (.outside n lo hi))

/-- Reads an unsigned 32-bit number. -/
def readUInt32 (p : Parameter) (value : Text) : Except UsageError UInt32 :=
  (readNumber p 0 4294967295 value).map fun n => UInt32.ofNat n.toNat

/-- Reads a signed 32-bit number. -/
def readInt32 (p : Parameter) (value : Text) : Except UsageError Int32 :=
  (readNumber p (-2147483648) 2147483647 value).map Int32.ofInt

/-- Reads a path, which must not be empty. -/
def readPath (p : Parameter) (value : Text) : Except UsageError Text :=
  if value.isEmpty then .error (.valueMissing p) else .ok value

namespace Choices

/-- The option was given before. -/
def has (c : Choices) : Parameter → Bool
  | .config => c.config.isSome
  | .input => c.input.isSome
  | .output => c.output.isSome
  | .schema => c.schema.isSome
  | .template => c.template.isSome
  | .start => c.start.isSome
  | .dummySpell => c.dummySpell.isSome
  | .scriptName => c.scriptName.isSome
  | .allowableClass => c.allowableClass.isSome
  | .allowableRace => c.allowableRace.isSome
  | .requiredLevel => c.requiredLevel.isSome

/-- Reads the value of an option and stores it. -/
def store (c : Choices) (p : Parameter) (value : Text) : Except UsageError Choices :=
  match p with
  | .config => (readPath p value).map fun v => { c with config := some v }
  | .input => (readPath p value).map fun v => { c with input := some v }
  | .output => (readPath p value).map fun v => { c with output := some v }
  | .schema => (readPath p value).map fun v => { c with schema := some v }
  | .template => (readUInt32 p value).map fun v => { c with template := some v }
  | .start => (readUInt32 p value).map fun v => { c with start := some v }
  | .dummySpell => (readUInt32 p value).map fun v => { c with dummySpell := some v }
  | .scriptName => .ok { c with scriptName := some value }
  | .allowableClass => (readInt32 p value).map fun v => { c with allowableClass := some v }
  | .allowableRace => (readInt32 p value).map fun v => { c with allowableRace := some v }
  | .requiredLevel => (readInt32 p value).map fun v => { c with requiredLevel := some v }

/-- Gives an option its value, which it must not have had before. -/
def give (c : Choices) (p : Parameter) (value : Text) : Except UsageError Choices :=
  if c.has p then .error (.repeated p.shown) else c.store p value

end Choices

/-! ## What is waiting -/

/-- What the arguments read so far leave open. -/
inductive Waiting where
  | nothing
  /-- An option whose value is still to come. -/
  | forValue (p : Parameter)
  /-- An option with a value that was not looked at yet. -/
  | withValue (p : Parameter) (value : Text)
deriving DecidableEq

/-- Looks at what is waiting. -/
def settle (c : Choices) : Waiting → Except UsageError Choices
  | .nothing => .ok c
  | .forValue p => .error (.valueMissing p)
  | .withValue p value => c.give p value

/-! ## Flags -/

/-- The options that take no value. -/
inductive Flag where
  | verbose
  | help
  | version
deriving DecidableEq

/-- A flag as it is written in full. -/
def Flag.shown : Flag → Text
  | .verbose => "--verbose".toList
  | .help => "--help".toList
  | .version => "--version".toList

/-- The flag of a name. -/
def Flag.ofName? (t : Text) : Option Flag :=
  [Flag.verbose, Flag.help, Flag.version].find? fun f => f.shown == "--".toList ++ t

/-- How far an argument leads: the reading goes on, or the request is settled. -/
inductive Progress where
  | next (c : Choices) (w : Waiting)
  | done (r : Request)
deriving DecidableEq

/-- Acts on a flag, after what was waiting. -/
def Flag.act (f : Flag) (c : Choices) (w : Waiting) : Except UsageError Progress := do
  let c ← settle c w
  match f with
  | .verbose =>
    if c.verbose then .error (.repeated f.shown) else .ok (.next { c with verbose := true } .nothing)
  | .help => .ok (.done .help)
  | .version => .ok (.done .version)

/-! ## Arguments -/

/-- A name and the value joined to it by an equals sign, if there is one. -/
def splitJoined (t : Text) : Text × Option Text :=
  match t.dropWhile (· != '=') with
  | [] => (t, none)
  | _ :: value => (t.takeWhile (· != '='), some value)

/-- Reads an argument that begins with two dashes; `body` is what follows them. -/
def readLong (c : Choices) (w : Waiting) (body : Text) : Except UsageError Progress :=
  match splitJoined body with
  | (name, joined) =>
    match Parameter.ofName? name, Flag.ofName? name, joined with
    | some p, _, some value => do
      let c ← settle c w
      let c ← c.give p value
      return .next c .nothing
    | some p, _, none => do
      let c ← settle c w
      return .next c (.forValue p)
    | none, some f, some value => .error (.valueUnneeded value f.shown)
    | none, some f, none => f.act c w
    | none, none, _ => .error (.unexpected ("--".toList ++ name))

/-- Reads the letters of an argument that begins with one dash. -/
def readLetters (c : Choices) (w : Waiting) : Text → Except UsageError Progress
  | [] => .ok (.next c w)
  | 'c' :: rest => do
    let c ← settle c w
    match rest with
    | [] => return .next c (.forValue .config)
    | '=' :: value => return .next (← c.give .config value) .nothing
    | value => return .next (← c.give .config value) .nothing
  | 'v' :: rest => do
    match ← Flag.verbose.act c w with
    | .next c w => readLetters c w rest
    | .done r => return .done r
  | 'h' :: _ => Flag.help.act c w
  | 'V' :: _ => Flag.version.act c w
  | l :: _ => .error (.unexpected ['-', l])

/-- The digits, point and exponent of a number, from its `i`-th character on: one point at most, not
at the beginning and not in the exponent, and an exponent that is neither at the beginning nor
empty. -/
def isNumberFrom (i : Nat) (point exponent : Bool) : Text → Bool
  | [] => true
  | c :: t =>
    if c.isDigit then isNumberFrom (i + 1) point exponent t
    else if c == '.' then i > 0 && !point && !exponent && isNumberFrom (i + 1) true exponent t
    else if c == 'e' || c == 'E' then
      i > 0 && !exponent && !t.isEmpty && isNumberFrom (i + 1) point true t
    else false

/-- An argument is the value that an option waits for, or one too many. -/
def readPlain (c : Choices) (w : Waiting) (argument : Text) : Except UsageError Progress :=
  match w with
  | .forValue p => .ok (.next c (.withValue p argument))
  | _ => .error (.unexpected argument)

/-- Reads an argument that begins with one dash and has more to it. -/
def readShort (c : Choices) (w : Waiting) (letters : Text) : Except UsageError Progress :=
  match w with
  | .forValue p =>
    if p.takesNegative && isNumberFrom 0 false false letters then readPlain c w ('-' :: letters)
    else readLetters c w letters
  | _ => readLetters c w letters

/-- Reads one argument other than the double dash. -/
def readArgument (c : Choices) (w : Waiting) (argument : Text) : Except UsageError Progress :=
  match argument with
  | '-' :: '-' :: body => readLong c w body
  | '-' :: l :: letters => readShort c w (l :: letters)
  | _ => readPlain c w argument

/-- Reads the arguments that are left. -/
def readFrom (c : Choices) (w : Waiting) : List Text → Except UsageError Request
  | [] => (settle c w).map .generate
  | ['-', '-'] :: [] => (settle c w).map .generate
  | ['-', '-'] :: argument :: _ => .error (.unexpected argument)
  | argument :: rest =>
    match readArgument c w argument with
    | .error e => .error e
    | .ok (.done r) => .ok r
    | .ok (.next c w) => readFrom c w rest

/-- What a command line asks for. -/
def parse (arguments : List Text) : Except UsageError Request := readFrom {} .nothing arguments

example : parse ["--start".toList] = .error (.unexpected "--start".toList) := by rfl
example : parse ["--start-entry".toList, "x".toList, "y".toList] = .error (.unexpected "y".toList) := by
  rfl
example : (parse ["-vc".toList, "a".toList, "--required-level".toList, "-3".toList]) =
    .ok (.generate { verbose := true, config := some "a".toList, requiredLevel := some (-3) }) := by rfl

end TomeSql.CommandLine
