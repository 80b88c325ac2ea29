/-
  Rows: one line of input, decoded.

  1. **Shapes** — the tab-separated fields of a trimmed line are read by their number: a spell; a
     spell and a name; a spell, a name and a level; or an entry, a spell, a name and a level, after
     which further fields are not looked at.  Only the last shape fixes the entry.

  2. **Blank level** — an empty level field is no level.

  3. **Comments** — a line that is blank or whose first character is `#` holds no row.
-/
import TomeSql.Text.Decimal
import TomeSql.Text.Quoted

namespace TomeSql

/-- The fields that hold an integer. -/
inductive IntegerField where
  | entry
  | spell
  | level
deriving DecidableEq

/-- The name of a field in messages. -/
def IntegerField.label : IntegerField → Text
  | .entry => "entry".toList
  | .spell => "spell_id".toList
  | .level => "required_level".toList

/-- What is wrong with a line. -/
inductive RowFault where
  /-- A field is not an integer of its range; `value` is its trimmed text. -/
  | invalidInteger (field : IntegerField) (value : Text)
  /-- The line has no fields at all. -/
  | unsupportedShape (raw : Text)
  /-- The row would take an entry, but the last one before the end of the range is used up. -/
  | entryOverflow
deriving DecidableEq

/-- A fault and the number of the line that has it, counted from one. -/
structure RowError where
  line : Nat
  fault : RowFault
deriving DecidableEq

/-- The text of the error. -/
def RowError.message (e : RowError) : Text :=
  "line ".toList ++ Decimal.ofNat e.line ++ ": ".toList ++
  match e.fault with
  | .invalidInteger field value =>
    "invalid integer for ".toList ++ field.label ++ ": ".toList ++ Text.quoted value
  | .unsupportedShape raw => "unrecognized input line: ".toList ++ Text.quoted raw
  | .entryOverflow => "auto-assigned entry id overflowed".toList

/-- A decoded line. -/
inductive Row where
  /-- A row that takes the next free entry. -/
  | automatic (spell : UInt32) (name : Text) (level : Option Int32)
  /-- A row that names its entry. -/
  | explicit (entry spell : UInt32) (name : Text) (level : Option Int32)
deriving DecidableEq

namespace Row

/-! ## Fields -/

/-- Reads an entry id. -/
def readEntry (f : Text) : Except RowFault UInt32 :=
  (Decimal.readUInt32 f).mapError fun _ => .invalidInteger .entry f

/-- Reads a spell id. -/
def readSpell (f : Text) : Except RowFault UInt32 :=
  (Decimal.readUInt32 f).mapError fun _ => .invalidInteger .spell f

/-- Reads a level; an empty field is no level. -/
def readLevel : Text → Except RowFault (Option Int32)
  | [] => .ok none
  | f => ((Decimal.readInt32 f).mapError fun _ => .invalidInteger .level f).map some

/-- The name of a tome whose row gives only its spell. -/
def defaultName (spell : UInt32) : Text := "Tome of Spell ".toList ++ Decimal.ofNat spell.toNat

/-! ## Lines -/

/-- The trimmed fields of a line. -/
def fieldsOf (line : Text) : List Text := (Text.fields '\t' line).map Text.trim

/-- Decodes a trimmed line by the number of its fields. -/
def decode (line : Text) : Except RowFault Row :=
  match fieldsOf line with
  | [] => .error (.unsupportedShape line)
  | [spell] => do
    let spell ← readSpell spell
    return .automatic spell (defaultName spell) none
  | [spell, name] => do
    let spell ← readSpell spell
    return .automatic spell name none
  | [spell, name, level] => do
    let spell ← readSpell spell
    let level ← readLevel level
    return .automatic spell name level
  | entry :: spell :: name :: level :: _ => do
    let entry ← readEntry entry
    let spell ← readSpell spell
    let level ← readLevel level
    return .explicit entry spell name level

/-- A trimmed line without a row: blank, or a comment. -/
def isComment : Text → Bool
  | [] => true
  | c :: _ => c == '#'

/-- The row of a line as it stands in the input, if it holds one. -/
def ofLine (raw : Text) : Except RowFault (Option Row) :=
  let line := Text.trim raw
  if isComment line then .ok none else (decode line).map some

example : ofLine " 116 ".toList = .ok (some (.automatic 116 "Tome of Spell 116".toList none)) := by rfl
example : ofLine "9\t7\tB\t\tx".toList = .ok (some (.explicit 9 7 "B".toList none)) := by rfl
example : ofLine "9\t7\tB\t".toList = .error (.invalidInteger .level "B".toList) := by rfl
example : ofLine "  # 116".toList = .ok none := by rfl

end Row

end TomeSql
