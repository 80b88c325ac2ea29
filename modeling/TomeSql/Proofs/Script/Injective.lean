/-
  No record is lost or merged: what a script says of its tomes is known from its text.

  1. **Headings** — a heading ends at its line feed.  The entry is in front of its first colon and the
     spell behind its last blank, so that the name is what stands between them, whatever it holds
     (`heading_append_inj`).

  2. **Overrides** — which literal a clone has for each column is known from its text
     (`Sql.clone_append_inj`).  The literal for the required level tells the level, unless the key
     column is that very column and so holds the entry where there is no level.

  3. **Records** — they carry no marks of length: each is cut off at its end, and the argument goes on
     with the text behind it (`record_append_inj`, `sameRecords_of_flatMap_eq`).

  4. **Main result (`render_injective`)** — two scripts with the same text have as many tomes, and the
     tomes in the same place are told of in the same way.
-/
import TomeSql.Proofs.Batch.Invariants
import TomeSql.Proofs.Sql.Delimited
import TomeSql.Proofs.Script.Rerun

namespace TomeSql

namespace Policy

/-- The literal for the required level is the level, if the key column has another name. -/
theorem override?_requiredLevel {p : Policy} (t : Tome) (h : p.keyColumn ≠ Column.requiredLevel) :
    p.override? t Column.requiredLevel = (p.levelOf t).map fun n => .integer n.toInt := by
  have hkey : (p.keyOverride t).lookup Column.requiredLevel = none := by
    rw [keyOverride]
    split
    · rfl
    · simp [List.lookup_cons, beq_eq_false_iff_ne.mpr (Ne.symm h)]
  have hrace : (optional Column.allowableRace p.allowableRace).lookup Column.requiredLevel = none := by
    cases p.allowableRace <;> rfl
  rw [override?, overrides, namedOverrides, List.lookup_append, List.lookup_append,
    List.lookup_append, hkey, hrace]
  cases p.levelOf t <;> rfl

/-- So equal literals stand for equal levels. -/
theorem levelOf_eq_of_override?_eq {p : Policy} {t u : Tome}
    (hkey : p.keyColumn ≠ Column.requiredLevel)
    (h : p.override? t Column.requiredLevel = p.override? u Column.requiredLevel) :
    p.levelOf t = p.levelOf u := by
  rw [override?_requiredLevel t hkey, override?_requiredLevel u hkey] at h
  refine Option.map_injective ?_ h
  intro m n hmn
  exact Int32.toInt_inj.mp (Sql.Literal.integer.inj hmn)

end Policy

namespace Script

/-! ## Headings -/

/-- What the heading of a tome says. -/
def headingText (t : Tome) : Text :=
  Decimal.ofNat t.entry.toNat ++ ':' :: ' ' :: (t.name ++ " (learns spell".toList ++
    ' ' :: (Decimal.ofNat t.spell.toNat ++ [')']))

theorem heading_eq (t : Tome) : heading t = "-- ".toList ++ (headingText t ++ ['\n']) := by
  simp [heading, comment, headingText]

/-- A heading is one line, since the name is part of one. -/
theorem newline_not_mem_headingText {t : Tome} (h : '\n' ∉ t.name) : '\n' ∉ headingText t := by
  have hdigits : ∀ n, '\n' ∉ Decimal.ofNat n := Decimal.not_mem_ofNat (by decide)
  have hlearns : '\n' ∉ " (learns spell".toList := by decide
  simp only [headingText, List.mem_append, List.mem_cons, not_or]
  exact ⟨hdigits _, by decide, by decide, ⟨h, hlearns⟩, by decide, hdigits _, by decide, by simp⟩

/-- A heading tells the entry, the name and the spell. -/
theorem headingText_injective {t u : Tome} (h : headingText t = headingText u) :
    t.entry = u.entry ∧ t.name = u.name ∧ t.spell = u.spell := by
  have hcolon : ∀ n, ':' ∉ Decimal.ofNat n := Decimal.not_mem_ofNat (by decide)
  obtain ⟨hentry, hrest⟩ := Text.eq_of_append_sep (hcolon _) (hcolon _) h
  have hspell : ∀ n, ' ' ∉ Decimal.ofNat n ++ [')'] := by
    intro n
    rw [List.mem_append, not_or]
    exact ⟨Decimal.not_mem_ofNat (by decide) n, by decide⟩
  -- the name may hold blanks, but the spell does not
  obtain ⟨hname, htail⟩ := Text.eq_of_sep_append (hspell _) (hspell _) (List.cons.inj hrest).2
  exact ⟨Decimal.ofNat_toNat_injective hentry, List.append_cancel_right hname,
    Decimal.ofNat_toNat_injective (List.append_cancel_right htail)⟩

/-- It tells where it ends, too, if no name holds a line feed. -/
theorem heading_append_inj {t u : Tome} {r s : Text} (ht : '\n' ∉ t.name) (hu : '\n' ∉ u.name)
    (h : heading t ++ r = heading u ++ s) :
    t.entry = u.entry ∧ t.name = u.name ∧ t.spell = u.spell ∧ r = s := by
  simp only [heading_eq, List.append_assoc, List.singleton_append] at h
  obtain ⟨htext, hrest⟩ := Text.eq_of_append_sep (newline_not_mem_headingText ht)
    (newline_not_mem_headingText hu) (List.append_cancel_left h)
  obtain ⟨hentry, hname, hspell⟩ := headingText_injective htext
  exact ⟨hentry, hname, hspell, hrest⟩

/-! ## Records -/

/-- Two tomes are told of in the same way: their rows agree on all that tells them apart, and on the
level where the table has a column of its own for it. -/
structure SameRecord (p : Policy) (columns : ColumnList) (t u : Tome) : Prop where
  entry : t.entry = u.entry
  name : t.name = u.name
  spell : t.spell = u.spell
  level : Column.requiredLevel ∈ columns.columns → p.keyColumn ≠ Column.requiredLevel →
    p.levelOf t = p.levelOf u

variable {p : Policy} {columns : ColumnList}

/-- A record tells its tome and where it ends. -/
theorem record_append_inj {t u : Tome} {r s : Text} (ht : '\n' ∉ t.name) (hu : '\n' ∉ u.name)
    (h : record p columns t ++ r = record p columns u ++ s) : SameRecord p columns t u ∧ r = s := by
  have hrecord : ∀ v, record p columns v = heading v ++ (insertion p columns v).render ++ "\n\n".toList :=
    fun _ => rfl
  simp only [hrecord, List.append_assoc] at h
  obtain ⟨hentry, hname, hspell, hclone⟩ := heading_append_inj ht hu h
  obtain ⟨hoverrides, hrest⟩ := Sql.clone_append_inj hclone
  refine ⟨⟨hentry, hname, hspell, ?_⟩, List.append_cancel_left hrest⟩
  intro hcolumn hkey
  exact Policy.levelOf_eq_of_override?_eq hkey (hoverrides _ hcolumn)

theorem record_ne_nil (t : Tome) : record p columns t ≠ [] := by
  simp [record]

/-- Records that are written one behind the other are known from the text. -/
theorem sameRecords_of_flatMap_eq {ts us : List Tome} (hts : ∀ t ∈ ts, '\n' ∉ t.name)
    (hus : ∀ u ∈ us, '\n' ∉ u.name)
    (h : ts.flatMap (record p columns) = us.flatMap (record p columns)) :
    List.Forall₂ (SameRecord p columns) ts us := by
  -- no record is empty, so the two lists end together
  induction ts generalizing us with
  | nil =>
    cases us with
    | nil => exact List.Forall₂.nil
    | cons u us =>
      rw [List.flatMap_cons] at h
      exact absurd (List.append_eq_nil_iff.mp h.symm).1 (record_ne_nil u)
  | cons t ts ih =>
    cases us with
    | nil =>
      rw [List.flatMap_cons] at h
      exact absurd (List.append_eq_nil_iff.mp h).1 (record_ne_nil t)
    | cons u us =>
      rw [List.forall_mem_cons] at hts hus
      obtain ⟨hsame, hrest⟩ := record_append_inj hts.1 hus.1 h
      exact List.Forall₂.cons hsame (ih hts.2 hus.2 hrest)

/-! ## The list of the `delete` -/

/-- All that stands in front of the listed entries. -/
def opening (s : Script) : Text :=
  s.header ++ "\n".toList ++ "DELETE FROM ".toList ++ Sql.name s.policy.table ++ " WHERE ".toList ++
    Sql.name s.policy.keyColumn ++ " IN (".toList

/-- The entries that a `delete` lists, as they are written. -/
def listed (tomes : List Tome) : Text :=
  Sql.commaSeparated ((tomes.map (·.entry)).map fun e => Decimal.ofNat e.toNat)

/-- The entry that a record names at its top, between the mark of the comment and the colon. -/
def readEntry (block : Text) : Except Decimal.Fault UInt32 :=
  Decimal.readUInt32 ((block.drop 3).takeWhile (· != ':'))

/-- The text of a script is what stands in front of the list, the list, and the records behind it. -/
theorem render_eq_opening (s : Script) :
    s.render = s.opening ++ (listed s.tomes ++ ");\n\n".toList ++
      s.tomes.flatMap (record s.policy s.columns)) := by
  rw [render, deletion, Sql.Statement.render_delete]
  simp only [opening, listed, List.append_assoc]
  rfl

/-- The list ends at the first parenthesis. -/
theorem parenthesis_not_mem_listed (tomes : List Tome) : ')' ∉ listed tomes := by
  refine Sql.not_mem_commaSeparated (by decide) (by decide) ?_
  intro t ht
  obtain ⟨e, -, rfl⟩ := List.mem_map.mp ht
  exact Decimal.not_mem_ofNat (by decide) _

/-- The entry of a tome is read back from its record. -/
theorem readEntry_record (t : Tome) : readEntry (record p columns t) = .ok t.entry := by
  have hcolon : ':' ∉ Decimal.ofNat t.entry.toNat := Decimal.not_mem_ofNat (by decide) _
  have hrecord : (record p columns t).drop 3 = Decimal.ofNat t.entry.toNat ++ ':' ::
      (" ".toList ++ t.name ++ " (learns spell ".toList ++ Decimal.ofNat t.spell.toNat ++ ")\n".toList ++
        (insertion p columns t).render ++ "\n\n".toList) := by
    simp [record, comment]
  rw [readEntry, hrecord, Text.takeWhile_append_sep hcolon, Decimal.readUInt32_ofNat]

/-- The entries of the records are those that the `delete` lists. -/
theorem mapM_readEntry_records (tomes : List Tome) :
    (tomes.map (record p columns)).mapM readEntry = .ok (tomes.map (·.entry)) := by
  induction tomes with
  | nil => rfl
  | cons t tomes ih =>
    rw [List.map_cons, List.mapM_cons, readEntry_record, ih]
    rfl

/-! ## Main result -/

/-- Scripts with the same text, for given columns, choices and time, are for the same records. -/
theorem sameRecords_of_render_eq {time : Timestamp} {ts us : List Tome}
    (hts : ∀ t ∈ ts, '\n' ∉ t.name) (hus : ∀ u ∈ us, '\n' ∉ u.name)
    (h : render ⟨columns, ts, p, time⟩ = render ⟨columns, us, p, time⟩) :
    List.Forall₂ (SameRecord p columns) ts us := by
  rw [render_eq_opening, render_eq_opening, List.append_assoc, List.append_assoc] at h
  -- what stands in front of the list says nothing of the tomes
  have hopening : opening ⟨columns, us, p, time⟩ = opening ⟨columns, ts, p, time⟩ := rfl
  rw [hopening] at h
  obtain ⟨-, hrest⟩ := Text.eq_of_append_sep (parenthesis_not_mem_listed ts)
    (parenthesis_not_mem_listed us) (List.append_cancel_left h)
  exact sameRecords_of_flatMap_eq hts hus (List.append_cancel_left hrest)

/-- **No record is lost or merged.**  For given columns, choices and time, the text of a script tells
how many tomes it is for and, tome by tome, the entry, the name, the spell and (where the table has
a column of its own for it) the required level, if no name holds a line feed; and no name of a batch
does.  The list of the `delete` ends at the first parenthesis behind what all scripts begin with, and
the entries that are read from it are those that are read from the records. -/
theorem render_injective (columns : ColumnList) (p : Policy) (time : Timestamp) :
    (∀ ts us, (∀ t ∈ ts, '\n' ∉ t.name) → (∀ u ∈ us, '\n' ∉ u.name) →
      render ⟨columns, ts, p, time⟩ = render ⟨columns, us, p, time⟩ →
        ts.length = us.length ∧ List.Forall₂ (SameRecord p columns) ts us) ∧
    (∀ (o : Batch.Options) (input : Text) (b : Batch), Batch.ofText o input = .ok b →
      ∀ t ∈ b.tomes, '\n' ∉ t.name) ∧
    ∀ ts, render ⟨columns, ts, p, time⟩ = opening ⟨columns, [], p, time⟩ ++ (listed ts ++
        ");\n\n".toList ++ (ts.map (record p columns)).flatten) ∧
      ')' ∉ listed ts ∧
      Sql.readEntries (listed ts) = (ts.map (record p columns)).mapM readEntry ∧
      Sql.readEntries (listed ts) = .ok (ts.map (·.entry)) := by
  refine ⟨?_, fun o input b h t ht => Batch.newline_not_mem_name h ht, ?_⟩
  · intro ts us hts hus h
    have hsame := sameRecords_of_render_eq hts hus h
    exact ⟨hsame.length_eq, hsame⟩
  · intro ts
    have hentries : Sql.readEntries (listed ts) = .ok (ts.map (·.entry)) :=
      Sql.readEntries_commaSeparated _
    refine ⟨render_eq_opening ⟨columns, ts, p, time⟩, parenthesis_not_mem_listed ts, ?_, hentries⟩
    rw [hentries, mapM_readEntry_records]

/-- A name that reads like the end of a heading and like a statement is still told from its spell;
the level is not, in a table that has no column for it. -/
theorem render_injective_of_tricky_name :
    ∃ (columns : ColumnList) (ts us : List Tome), ts ≠ us ∧
      (∀ t ∈ ts, '\n' ∉ t.name) ∧ (∀ u ∈ us, '\n' ∉ u.name) ∧
      render ⟨columns, ts, {}, ⟨0, 0⟩⟩ = render ⟨columns, us, {}, ⟨0, 0⟩⟩ ∧
      List.Forall₂ (SameRecord {} columns) ts us := by
  let columns : ColumnList := ⟨"item_template".toList, ["entry".toList, "name".toList], by simp⟩
  let name : Text := "x (learns spell 7)'; DELETE FROM t; -- \\".toList
  have hrender : render ⟨columns, [⟨91000, 8, name, none⟩], {}, ⟨0, 0⟩⟩ =
      render ⟨columns, [⟨91000, 8, name, some 5⟩], {}, ⟨0, 0⟩⟩ := by rfl
  refine ⟨columns, [⟨91000, 8, name, none⟩], [⟨91000, 8, name, some 5⟩], by decide, by decide,
    by decide, hrender, ?_⟩
  exact ((render_injective columns {} ⟨0, 0⟩).1 _ _ (by decide) (by decide) hrender).2

end Script

end TomeSql
