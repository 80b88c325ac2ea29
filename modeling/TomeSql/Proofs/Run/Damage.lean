/-
  Damaged files: bytes that are no text, in the input or in the schema.

  1. **Lines apart (`linesApart`)** — the lines of two pieces of a file with a line feed between them, each
     piece decoded by itself.

  2. **The crux (`lines_decodeLossy_append`)** — what is broken in front of a line feed breaks off there, as
     it would at the end of the file.  So decoding falls apart at the line feed, and so do the lines of
     the text, since a line feed does not go on in a break behind it.

  3. **Main result (`lines_of_damaged`)** — decoding replaces each broken part once, and a run reads the
     lines of the pieces of a file one behind the other, whatever is broken in either.
-/
import TomeSql.Proofs.Run.Course
import TomeSql.Proofs.Text.Decomposition
import TomeSql.Proofs.Text.Lossy

namespace TomeSql

namespace Text

/-! ## Lines apart -/

/-- The lines of `as` with a line feed behind it, and those of `bs`. -/
def linesApart (as bs : List UInt8) : List Text :=
  lines (decodeLossy as ++ ['\n']) ++ lines (decodeLossy bs)

/-- A line feed is the end of a line, and none that goes on behind it. -/
theorem lines_append_newline_append (t u : Text) :
    lines (t ++ '\n' :: u) = lines (t ++ ['\n']) ++ lines u := by
  have hlast : (t ++ ['\n']).getLast? = some '\n' := List.getLast?_concat
  rw [List.append_cons]
  apply lines_append_of_break
  · exact ⟨'\n', hlast, by decide⟩
  · rintro ⟨hcr, -⟩
    rw [hlast] at hcr
    exact absurd hcr (by decide)

/-- The lines of a file fall apart at every line feed. -/
theorem lines_decodeLossy_append (as bs : List UInt8) :
    lines (decodeLossy (as ++ 0x0A :: bs)) = linesApart as bs := by
  rw [decodeLossy_append_newline, lines_append_newline_append, linesApart]

/-- Text between two line feeds is read as it stands. -/
theorem lines_decodeLossy_around (as : List UInt8) (t : Text) (bs : List UInt8) :
    lines (decodeLossy (as ++ 0x0A :: (encode t ++ 0x0A :: bs))) =
      lines (decodeLossy as ++ ['\n']) ++ (lines (t ++ ['\n']) ++ lines (decodeLossy bs)) := by
  rw [lines_decodeLossy_append, linesApart, lines_decodeLossy_append, linesApart, decodeLossy_encode]

/-- Bytes have units in exactly one way, and each broken part is replaced once. -/
theorem exists_units_decodeLossy (bs : List UInt8) :
    ∃ us, (∀ vs, HasUnits bs vs ↔ vs = us) ∧ decodeLossy bs = us.map fun u => u.getD '\ufffd' :=
  ⟨units bs, fun _ => hasUnits_iff, rfl⟩

end Text

namespace Run

open Text (linesApart)

/-! ## What a run reads -/

/-- **Broken bytes damage only their own line.**  Decoding replaces each longest broken part by one
character.  The lines of a file with a line feed in it are those of its two pieces, each decoded by itself
and the first one with the line feed behind it; between line feeds, the text is that of the bytes between
them, and text that is not broken is read as it stands.  These are the lines of the input and of the
schema that a run reads. -/
theorem lines_of_damaged (as bs : List UInt8) :
    (∀ file, ∃ us, (∀ vs, Text.HasUnits file vs ↔ vs = us) ∧
      Text.decodeLossy file = us.map fun u => u.getD '\ufffd') ∧
    Text.lines (Text.decodeLossy (as ++ 0x0A :: bs)) = linesApart as bs ∧
    (∀ file, Text.fields '\n' (Text.decodeLossy file) = (file.splitOn 0x0A).map Text.decodeLossy) ∧
    (∀ t, Text.lines (Text.decodeLossy (as ++ 0x0A :: (Text.encode t ++ 0x0A :: bs))) =
      Text.lines (Text.decodeLossy as ++ ['\n']) ++
        (Text.lines (t ++ ['\n']) ++ Text.lines (Text.decodeLossy bs))) ∧
    (∀ (s : Settings) (m m' : Machine), m.readInput s.inputPath = (.ok (as ++ 0x0A :: bs), m') →
      ∃ input, Leads (readInput s) m (.ok input, m') ∧ Text.lines input = linesApart as bs) ∧
    ∀ (packages : Packages) (v : Voice) (s : Settings) (m m' : Machine),
      packages.checkPattern s.policy.table = .ok () →
      m.read s.schemaPath = (.ok (as ++ 0x0A :: bs), m') →
      ∃ schema, Leads (readColumns v s packages) m ((ColumnList.ofSchema s.policy.table schema).mapError
        fun e => .generation (.schema e), m') ∧ Text.lines schema = linesApart as bs := by
  have hlines := Text.lines_decodeLossy_append as bs
  refine ⟨Text.exists_units_decodeLossy, hlines, Text.fields_decodeLossy,
    fun t => Text.lines_decodeLossy_around as t bs, fun s m m' hread => ?_,
    fun packages v s m m' hpattern hread => ?_⟩
  · have hinput := leads_readInput s m
    rw [hread] at hinput
    exact ⟨_, hinput, hlines⟩
  · have hcolumns : Leads (readColumns v s packages) m (columnsFound packages s m) :=
      leads_readColumns v s m
    rw [columnsFound_of_read hpattern hread] at hcolumns
    exact ⟨_, hcolumns, hlines⟩

/-- A machine with a character that breaks off at the end of a line, in the input and in a file. -/
def damagedLine : Machine :=
  { Machine.fresh.putFile ["s.sql".toList] [0x37, 0xE2, 0x82, 0x0A, 0x38] with
    stdin := [0x37, 0xE2, 0x82, 0x0A, 0x38] }

/-- The line feed behind the broken character is read, and so is the next line. -/
theorem lines_of_damaged_end :
    damagedLine.read "s.sql".toList = (.ok ([0x37, 0xE2, 0x82] ++ 0x0A :: [0x38]), damagedLine) ∧
    (∃ input, Leads (readInput {}) damagedLine (.ok input, { damagedLine with stdin := [] }) ∧
      Text.lines input = ["7\ufffd".toList, "8".toList]) ∧
    ∃ schema, Leads (readColumns ⟨false, .upTo .warn⟩ { schemaPath := "s.sql".toList }) damagedLine
        ((ColumnList.ofSchema "item_template".toList schema).mapError
          fun e => .generation (.schema e), damagedLine) ∧
      Text.lines schema = ["7\ufffd".toList, "8".toList] := by
  have hfile : damagedLine.read "s.sql".toList =
      (.ok ([0x37, 0xE2, 0x82] ++ 0x0A :: [0x38]), damagedLine) := by decide +kernel
  have hlines : linesApart [0x37, 0xE2, 0x82] [0x38] = ["7\ufffd".toList, "8".toList] := by decide
  obtain ⟨-, -, -, -, hinput, hschema⟩ := lines_of_damaged [0x37, 0xE2, 0x82] [0x38]
  rw [hlines] at hinput hschema
  exact ⟨hfile, hinput {} damagedLine { damagedLine with stdin := [] } rfl,
    hschema {} ⟨false, .upTo .warn⟩ { schemaPath := "s.sql".toList } damagedLine damagedLine rfl hfile⟩

end Run

end TomeSql
