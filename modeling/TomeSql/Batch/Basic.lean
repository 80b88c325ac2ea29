/-
  Batches: the tomes of an input, with what was left out.

  1. **State** — a batch grows line by line.  It holds the tomes accepted so far, the names and
     spells that are taken, the tally of the rows left out, and the entry that the next row without
     one of its own gets.

  2. **Numbering** — a row without an entry takes the next one, whether or not the row is accepted
     afterwards; the last id of the range is never given out, since the counter could not step over
     it.

  3. **Verdict** — a row is a placeholder, has a level that is not positive, repeats a name, repeats
     a spell, or is accepted; the first of these that applies decides.  A row that comes as far as
     the name test takes the name, even when its spell then rules it out.

  4. **Failure** — the first line that cannot be decoded or numbered ends the whole reading.
-/
import TomeSql.Tome
import TomeSql.Batch.Row
import TomeSql.Batch.Tally
import TomeSql.Text.Line

namespace TomeSql

namespace Batch

/-- What a reading of input rows is told. -/
structure Options where
  /-- The entry of the first row without one of its own. -/
  firstEntry : UInt32 := 91000
  /-- How the names of placeholder rows begin, upper and lower case alike. -/
  placeholder : Text := "tome of zz".toList
deriving DecidableEq

/-- What becomes of a candidate. -/
inductive Verdict where
  | placeholder
  | zeroLevel
  | duplicateName
  | duplicateSpell
  | accepted
deriving DecidableEq

end Batch

/-- The state of a reading: what was accepted, what is taken, what was left out. -/
structure Batch where
  /-- The entry of the next row without one of its own. -/
  nextEntry : UInt32
  /-- The name keys that are taken. -/
  names : List Text := []
  /-- The spells that are taken. -/
  spells : List UInt32 := []
  /-- The accepted tomes in line order. -/
  tomes : List Tome := []
  /-- The rows left out. -/
  tally : Tally := {}
deriving DecidableEq

namespace Batch

/-- The batch before the first line. -/
def empty (o : Options) : Batch := { nextEntry := o.firstEntry }

/-! ## Numbering -/

/-- The tome of a row, and the batch whose counter has moved if the row took an entry. -/
def number (b : Batch) : Row → Except RowFault (Batch × Tome)
  | .explicit entry spell name level => .ok (b, ⟨entry, spell, name, level⟩)
  | .automatic spell name level =>
    if b.nextEntry = 0xFFFFFFFF then .error .entryOverflow
    else .ok ({ b with nextEntry := b.nextEntry + 1 }, ⟨b.nextEntry, spell, name, level⟩)

/-! ## The verdict -/

/-- The name begins like a placeholder's, in lower case. -/
def isPlaceholder (o : Options) (t : Tome) : Bool :=
  (Text.lowercase o.placeholder).isPrefixOf (Text.lowercase t.name)

/-- The name of a placeholder begins with the placeholder text, both in lower case. -/
theorem isPlaceholder_iff {o : Options} {t : Tome} :
    isPlaceholder o t = true ↔ Text.lowercase o.placeholder <+: Text.lowercase t.name := by
  rw [isPlaceholder, List.isPrefixOf_iff_prefix]

/-- The tome has a level of its own that is not positive. -/
def hasZeroLevel (t : Tome) : Bool :=
  match t.level with
  | some l => l ≤ 0
  | none => false

/-- What becomes of the candidate `t`. -/
def judge (o : Options) (b : Batch) (t : Tome) : Verdict :=
  if isPlaceholder o t then .placeholder
  else if hasZeroLevel t then .zeroLevel
  else if t.nameKey ∈ b.names then .duplicateName
  else if t.spell ∈ b.spells then .duplicateSpell
  else .accepted

/-- Enters a candidate and its verdict. -/
def enter (b : Batch) (t : Tome) : Verdict → Batch
  | .placeholder => { b with tally := { b.tally with placeholder := b.tally.placeholder + 1 } }
  | .zeroLevel => { b with tally := { b.tally with zeroLevel := b.tally.zeroLevel + 1 } }
  | .duplicateName => { b with tally := { b.tally with duplicateName := b.tally.duplicateName + 1 } }
  | .duplicateSpell =>
    { b with
      names := b.names ++ [t.nameKey]
      tally := { b.tally with duplicateSpell := b.tally.duplicateSpell + 1 } }
  | .accepted =>
    { b with
      names := b.names ++ [t.nameKey]
      spells := b.spells ++ [t.spell]
      tomes := b.tomes ++ [t] }

/-- Judges a candidate and enters it. -/
def add (o : Options) (b : Batch) (t : Tome) : Batch := b.enter t (judge o b t)

/-! ## Reading lines -/

/-- Reads one line. -/
def push (o : Options) (b : Batch) (raw : Text) : Except RowFault Batch := do
  match ← Row.ofLine raw with
  | none => return b
  | some row =>
    let (b, t) ← b.number row
    return b.add o t

/-- Reads the lines from the `line`-th on. -/
def pushAll (o : Options) (line : Nat) (b : Batch) : List Text → Except RowError Batch
  | [] => .ok b
  | raw :: rest =>
    match b.push o raw with
    | .error fault => .error ⟨line, fault⟩
    | .ok b => pushAll o (line + 1) b rest

/-- The batch of a list of lines. -/
def ofLines (o : Options) (lines : List Text) : Except RowError Batch := pushAll o 1 (empty o) lines

/-- The batch of an input text. -/
def ofText (o : Options) (input : Text) : Except RowError Batch := ofLines o (Text.lines input)

example : (ofText {} "143\r\n116\tX\t5\n143\tY\n".toList).map (fun b => (b.tomes, b.tally, b.nextEntry)) =
    .ok ([⟨91000, 143, "Tome of Spell 143".toList, none⟩, ⟨91001, 116, "X".toList, some 5⟩],
      { duplicateSpell := 1 }, 91003) := by rfl
example : ofText { firstEntry := 0xFFFFFFFF } "\n7".toList = .error ⟨2, .entryOverflow⟩ := by rfl

end Batch

end TomeSql
