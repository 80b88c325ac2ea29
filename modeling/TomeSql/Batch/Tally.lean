/-
  The count of the rows that a batch leaves out, by reason, and how it is reported.
-/
import TomeSql.Text.Decimal

namespace TomeSql

/-- The number of rows left out for each reason. -/
structure Tally where
  /-- The name begins like a placeholder's. -/
  placeholder : Nat := 0
  /-- The row has a level, and it is not positive. -/
  zeroLevel : Nat := 0
  /-- The name is taken. -/
  duplicateName : Nat := 0
  /-- The spell is taught by an earlier tome. -/
  duplicateSpell : Nat := 0
deriving DecidableEq

namespace Tally

/-- All rows left out. -/
def total (t : Tally) : Nat := t.placeholder + t.zeroLevel + t.duplicateName + t.duplicateSpell

/-- The report on names and spells; `placeholder` is the beginning of placeholder names as it was
configured. -/
def filterMessage (t : Tally) (placeholder : Text) : Text :=
  "Filtered input: skipped ".toList ++ Decimal.ofNat t.placeholder ++
  " '".toList ++ placeholder ++ "*' rows, skipped ".toList ++ Decimal.ofNat t.duplicateName ++
  " duplicate name rows, skipped ".toList ++ Decimal.ofNat t.duplicateSpell ++
  " duplicate spell_id rows.".toList

/-- The report on levels. -/
def levelMessage (t : Tally) : Text :=
  "Filtered input: skipped ".toList ++ Decimal.ofNat t.zeroLevel ++
  " rows with required_level=0.".toList

/-- The lines of the report; none when nothing was left out. -/
def messages (t : Tally) (placeholder : Text) : List Text :=
  (if t.placeholder > 0 ∨ t.duplicateName > 0 ∨ t.duplicateSpell > 0
    then [t.filterMessage placeholder] else []) ++
  (if t.zeroLevel > 0 then [t.levelMessage] else [])

end Tally

end TomeSql
