/-
  Tomes: the items that a batch turns into rows.

  A tome teaches one spell.  It has an entry id, a display name and, where its row gave one, a
  required level.
-/
import TomeSql.Text.Case

namespace TomeSql

/-- A tome: the item `entry` called `name`, which teaches `spell` from `level` on. -/
structure Tome where
  entry : UInt32
  spell : UInt32
  name : Text
  /-- The tome's own required level, if its row gave one. -/
  level : Option Int32
deriving DecidableEq

namespace Tome

/-- The form in which two names count as the same: trimmed and in lower case. -/
def nameKey (t : Tome) : Text := Text.lowercase (Text.trim t.name)

end Tome

end TomeSql
