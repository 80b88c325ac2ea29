/-
  Listings: tomes written as rows that name everything, and read again.

  1. **Rows** — a tome is written as its entry, spell, name and level.  Where it has no level the
     field is blank, and something stands behind it: a blank field at the end of the line would be
     trimmed away with the tab in front of it, which leaves three fields.

  2. **One row (`ofLine_explicitRow`)** — it is read as exactly what was written, whatever the name
     holds apart from tabs and white space at its ends.

  3. **All rows (`pushAll_explicitRows`)** — a tome that shares its spell and its name with none of
     those before it is accepted, and then is one of those before the next.  The invariant is the
     batch itself: after each row it is the one that has settled the tomes so far.

  4. **Main result (`ofText_listing`)** — tomes that could be those of a batch come back in order with
     nothing left out; those of a batch are of this kind.
-/
import TomeSql.Proofs.Batch.Invariants
import TomeSql.Proofs.Text.Numbers
import TomeSql.Proofs.Text.Pieces

namespace TomeSql

open Unicode (isWhiteSpace)

namespace Batch

/-! ## Rows -/

/-- What a row without a level has behind its name: a blank field, and something behind that one
which keeps it from the end of the line. -/
structure NoLevel where
  field : Text
  beyond : Text
  field_blank : ∀ c ∈ field, isWhiteSpace c = true
  tab_not_mem_field : '\t' ∉ field
  beyond_not_blank : ∃ c ∈ beyond, isWhiteSpace c = false
  not_isLineBreak : ∀ c ∈ field ++ beyond, Text.isLineBreak c = false

/-- What stands in a row for the level. -/
def levelText (gap : NoLevel) : Option Int32 → Text
  | some l => Decimal.ofInt l.toInt
  | none => gap.field ++ '\t' :: gap.beyond

/-- A tome as a row that names its entry. -/
def explicitRow (gap : NoLevel) (t : Tome) : Text :=
  Decimal.ofNat t.entry.toNat ++ '\t' :: (Decimal.ofNat t.spell.toNat ++ '\t' ::
    (t.name ++ '\t' :: levelText gap t.level))

/-- Tomes as rows, each on a line of its own. -/
def listing (gap : Tome → NoLevel) (tomes : List Tome) : Text :=
  tomes.flatMap fun t => explicitRow (gap t) t ++ ['\n']

/-! ## Characters of a row -/

theorem isWhiteSpace_of_mem_ofNat {c : Char} {n : Nat} (h : c ∈ Decimal.ofNat n) :
    isWhiteSpace c = false :=
  Text.isWhiteSpace_of_isDigit (Decimal.isDigit_of_mem_ofNat h)

theorem isWhiteSpace_of_mem_ofInt {c : Char} {n : Int} (h : c ∈ Decimal.ofInt n) :
    isWhiteSpace c = false := by
  rcases Decimal.isDigit_or_minus_of_mem_ofInt h with hdigit | rfl
  · exact Text.isWhiteSpace_of_isDigit hdigit
  · decide

theorem isLineBreak_of_mem_levelText {gap : NoLevel} {l : Option Int32} {c : Char}
    (h : c ∈ levelText gap l) : Text.isLineBreak c = false := by
  cases l with
  | none =>
    rcases List.mem_append.mp h with hfield | hbeyond
    · exact gap.not_isLineBreak c (List.mem_append_left _ hfield)
    · rcases List.mem_cons.mp hbeyond with rfl | hbeyond
      · decide
      · exact gap.not_isLineBreak c (List.mem_append_right _ hbeyond)
  | some l =>
    rcases Decimal.isDigit_or_minus_of_mem_ofInt h with hdigit | rfl
    · exact Text.isLineBreak_of_isDigit hdigit
    · decide

/-- A row fits on a line when the name does. -/
theorem isLineBreak_of_mem_explicitRow {gap : NoLevel} {t : Tome} {c : Char}
    (hname : ∀ d ∈ t.name, Text.isLineBreak d = false) (h : c ∈ explicitRow gap t) :
    Text.isLineBreak c = false := by
  have htab : Text.isLineBreak '\t' = false := by decide
  simp only [explicitRow, List.mem_append, List.mem_cons] at h
  obtain hentry | rfl | hspell | rfl | hc | rfl | hlevel := h
  · exact Text.isLineBreak_of_isDigit (Decimal.isDigit_of_mem_ofNat hentry)
  · exact htab
  · exact Text.isLineBreak_of_isDigit (Decimal.isDigit_of_mem_ofNat hspell)
  · exact htab
  · exact hname c hc
  · exact htab
  · exact isLineBreak_of_mem_levelText hlevel

/-! ## One row -/

/-- The field of a level as it is read: an absent level is an empty field. -/
def levelField : Option Int32 → Text
  | some l => Decimal.ofInt l.toInt
  | none => []

/-- A level is read back from the field that is written for it. -/
theorem readLevel_levelField (l : Option Int32) : Row.readLevel (levelField l) = .ok l := by
  cases l with
  | none => rfl
  | some l =>
    obtain ⟨c, rest, hct, -⟩ := Decimal.exists_ofInt_eq_cons l.toInt
    have hread := Decimal.readInt32_ofInt l
    rw [levelField]
    rw [hct] at hread ⊢
    simp [Row.readLevel, hread, Except.mapError, Except.map]

/-- What stands for the level is not blank, so that trimming a row stops there. -/
theorem exists_mem_levelText (gap : NoLevel) (l : Option Int32) :
    ∃ c ∈ levelText gap l, isWhiteSpace c = false := by
  cases l with
  | none =>
    obtain ⟨c, hc, hnot⟩ := gap.beyond_not_blank
    exact ⟨c, List.mem_append_right _ (List.mem_cons_of_mem _ hc), hnot⟩
  | some l =>
    obtain ⟨c, _, hct, -⟩ := Decimal.exists_ofInt_eq_cons l.toInt
    have hmem : c ∈ Decimal.ofInt l.toInt := hct ▸ List.mem_cons_self
    exact ⟨c, hmem, isWhiteSpace_of_mem_ofInt hmem⟩

/-- A blank field stays a field, when something behind it is not blank. -/
theorem exists_fields_blank {field beyond : Text} (hblank : ∀ c ∈ field, isWhiteSpace c = true)
    (htab : '\t' ∉ field) (hdark : ∃ c ∈ beyond, isWhiteSpace c = false) :
    ∃ rest, (Text.fields '\t' (Text.trimEnd (field ++ '\t' :: beyond))).map Text.trim = [] :: rest := by
  have hbeyond : ∃ c ∈ '\t' :: beyond, isWhiteSpace c = false := by
    obtain ⟨c, hc, hnot⟩ := hdark
    exact ⟨c, List.mem_cons_of_mem _ hc, hnot⟩
  have htrim : Text.trimEnd ('\t' :: beyond) = '\t' :: Text.trimEnd beyond :=
    Text.trimEnd_append ['\t'] hdark
  refine ⟨(Text.fields '\t' (Text.trimEnd beyond)).map Text.trim, ?_⟩
  rw [Text.trimEnd_append _ hbeyond, htrim, Text.fields_append_sep htab, List.map_cons,
    Text.trim_eq_nil_iff.mpr hblank]

/-- The first field of what stands for the level is the level's. -/
theorem exists_fields_levelText (gap : NoLevel) (l : Option Int32) :
    ∃ rest, (Text.fields '\t' (Text.trimEnd (levelText gap l))).map Text.trim =
      levelField l :: rest := by
  cases l with
  | none => exact exists_fields_blank gap.field_blank gap.tab_not_mem_field gap.beyond_not_blank
  | some l =>
    have hnot : ∀ c ∈ Decimal.ofInt l.toInt, isWhiteSpace c = false :=
      fun c hc => isWhiteSpace_of_mem_ofInt hc
    have htab : '\t' ∉ Decimal.ofInt l.toInt := Decimal.not_mem_ofInt (by decide) (by decide) _
    refine ⟨[], ?_⟩
    rw [levelText, Text.trimEnd_of_no_whiteSpace hnot, Text.fields_of_not_mem htab, List.map_singleton,
      Text.trim_of_no_whiteSpace hnot, levelField]

/-- A row that names its entry and goes on with `rest` behind its name. -/
def namedRow (entry spell : UInt32) (name rest : Text) : Text :=
  Decimal.ofNat entry.toNat ++ '\t' :: (Decimal.ofNat spell.toNat ++ '\t' :: (name ++ '\t' :: rest))

/-- Trimming a row only reaches what stands behind its name. -/
theorem trim_namedRow (entry spell : UInt32) (name : Text) {rest : Text}
    (h : ∃ c ∈ rest, isWhiteSpace c = false) :
    Text.trim (namedRow entry spell name rest) = namedRow entry spell name (Text.trimEnd rest) := by
  obtain ⟨c, digits, hct, hc⟩ := Decimal.exists_ofNat_eq_cons entry.toNat
  have htrim := Text.trim_append (t := digits ++ '\t' :: (Decimal.ofNat spell.toNat ++ '\t' ::
    (name ++ ['\t']))) (Text.isWhiteSpace_of_isDigit hc) h
  rw [namedRow, namedRow, hct]
  simpa using htrim

/-- The fields of a row with a name are the two numbers, the name and what stands behind it. -/
theorem fieldsOf_namedRow (entry spell : UInt32) {name : Text} (htrim : Text.trim name = name)
    (htab : '\t' ∉ name) (rest : Text) :
    Row.fieldsOf (namedRow entry spell name rest) =
      Decimal.ofNat entry.toNat :: Decimal.ofNat spell.toNat :: name ::
        (Text.fields '\t' rest).map Text.trim := by
  have hdigits : ∀ n, '\t' ∉ Decimal.ofNat n := Decimal.not_mem_ofNat (by decide)
  have hnumber : ∀ n, Text.trim (Decimal.ofNat n) = Decimal.ofNat n :=
    fun n => Text.trim_of_no_whiteSpace fun c hc => isWhiteSpace_of_mem_ofNat hc
  rw [namedRow, Row.fieldsOf, Text.fields_append_sep (hdigits _),
    Text.fields_append_sep (hdigits _), Text.fields_append_sep htab]
  simp only [List.map_cons, hnumber, htrim]

/-- A row begins with a digit. -/
theorem isComment_ofNat_append (n : Nat) (t : Text) :
    Row.isComment (Decimal.ofNat n ++ t) = false := by
  obtain ⟨c, _, hct, hc⟩ := Decimal.exists_ofNat_eq_cons n
  have hne : c ≠ '#' := by
    rintro rfl
    exact absurd hc (by decide)
  simp [hct, Row.isComment, hne]

/-- A row of at least four fields is read by them. -/
theorem ofLine_namedRow (entry spell : UInt32) {name rest : Text} {level : Option Int32}
    {beyond : List Text} (htrim : Text.trim name = name) (htab : '\t' ∉ name)
    (hdark : ∃ c ∈ rest, isWhiteSpace c = false)
    (hrest : (Text.fields '\t' (Text.trimEnd rest)).map Text.trim = levelField level :: beyond) :
    Row.ofLine (namedRow entry spell name rest) =
      .ok (some (.explicit entry spell name level)) := by
  rw [Row.ofLine_eq_ok_some_iff, trim_namedRow entry spell name hdark]
  refine ⟨isComment_ofNat_append _ _, ?_⟩
  rw [Row.decode, fieldsOf_namedRow entry spell htrim htab, hrest]
  simp [Row.readEntry, Row.readSpell, Decimal.readUInt32_ofNat, readLevel_levelField,
    Except.mapError, bind, Except.bind, pure, Except.pure]

/-- A row that was written is read as what it was written from. -/
theorem ofLine_explicitRow (gap : NoLevel) {t : Tome} (htrim : Text.trim t.name = t.name)
    (htab : '\t' ∉ t.name) :
    Row.ofLine (explicitRow gap t) = .ok (some (.explicit t.entry t.spell t.name t.level)) := by
  obtain ⟨beyond, hfields⟩ := exists_fields_levelText gap t.level
  exact ofLine_namedRow t.entry t.spell htrim htab (exists_mem_levelText gap t.level) hfields

/-! ## All rows -/

/-- The batch in which the tomes `tomes`, and nothing else, have been read. -/
def settled (o : Options) (tomes : List Tome) : Batch :=
  { nextEntry := o.firstEntry
    names := tomes.map Tome.nameKey
    spells := tomes.map (·.spell)
    tomes := tomes
    tally := {} }

/-- The tome is accepted after the tomes `earlier`. -/
theorem add_settled {o : Options} {earlier : List Tome} {t : Tome} (hreach : ReachesNames o t)
    (hname : t.nameKey ∉ earlier.map Tome.nameKey) (hspell : t.spell ∉ earlier.map (·.spell)) :
    (settled o earlier).add o t = settled o (earlier ++ [t]) := by
  have hjudge : judge o (settled o earlier) t = .accepted := by
    simp [judge, hreach.1, hreach.2, settled, -List.mem_map, hname, hspell]
  rw [add, hjudge]
  simp [enter, settled]

/-- What tomes must be like to be those of a batch. -/
structure Listable (o : Options) (tomes : List Tome) : Prop where
  spells_nodup : (tomes.map (·.spell)).Nodup
  names_nodup : (tomes.map fun t => Text.lowercase t.name).Nodup
  level_pos : ∀ t ∈ tomes, ∀ l, t.level = some l → 0 < l
  not_placeholder : ∀ t ∈ tomes, ¬ Text.lowercase o.placeholder <+: Text.lowercase t.name
  trim_name : ∀ t ∈ tomes, Text.trim t.name = t.name
  tab_not_mem_name : ∀ t ∈ tomes, '\t' ∉ t.name
  not_isLineBreak : ∀ t ∈ tomes, ∀ c ∈ t.name, Text.isLineBreak c = false

namespace Listable

variable {o : Options} {tomes : List Tome}

/-- Every tome of a listable list gets as far as the names. -/
theorem reachesNames (h : Listable o tomes) {t : Tome} (ht : t ∈ tomes) : ReachesNames o t := by
  constructor
  · rw [← Bool.not_eq_true, isPlaceholder_iff]
    exact h.not_placeholder t ht
  · rw [hasZeroLevel]
    cases hl : t.level with
    | none => rfl
    | some l => simpa using h.level_pos t ht l hl

/-- No name stands in it twice, whatever the case of its letters. -/
theorem nameKeys_nodup (h : Listable o tomes) : (tomes.map Tome.nameKey).Nodup := by
  have hkeys : tomes.map Tome.nameKey = tomes.map fun t => Text.lowercase t.name :=
    List.map_congr_left fun t ht => by rw [Tome.nameKey, h.trim_name t ht]
  rw [hkeys]
  exact h.names_nodup

end Listable

/-- Reading the rows of the tomes `later` goes on from the tomes `earlier`. -/
theorem pushAll_explicitRows {o : Options} (gap : Tome → NoLevel) {earlier later : List Tome}
    (h : Listable o (earlier ++ later)) (n : Nat) :
    pushAll o n (settled o earlier) (later.map fun t => explicitRow (gap t) t) =
      .ok (settled o (earlier ++ later)) := by
  induction later generalizing earlier n with
  | nil => rw [List.append_nil]; rfl
  | cons t later ih =>
    have ht : t ∈ earlier ++ t :: later := List.mem_append_right _ List.mem_cons_self
    have hname := h.nameKeys_nodup
    have hspell := h.spells_nodup
    rw [List.map_append, List.map_cons, List.nodup_middle, List.nodup_cons, List.mem_append,
      not_or] at hname hspell
    have hpush : (settled o earlier).push o (explicitRow (gap t) t) =
        .ok (settled o (earlier ++ [t])) := by
      rw [push, ofLine_explicitRow (gap t) (h.trim_name t ht) (h.tab_not_mem_name t ht),
        ← add_settled (h.reachesNames ht) hname.1.1 hspell.1.1]
      rfl
    rw [List.map_cons, pushAll, hpush]
    have hrest : earlier ++ t :: later = earlier ++ [t] ++ later := List.append_cons earlier t later
    rw [hrest] at h ⊢
    exact ih h (n + 1)

/-- The tomes of a batch can be listed, for every reading that knows placeholders by the same
beginning. -/
theorem listable_of_ofText {o o' : Options} {input : Text} {b : Batch}
    (hplaceholder : o'.placeholder = o.placeholder) (h : ofText o' input = .ok b) :
    Listable o b.tomes := by
  have hconsistent := consistent_of_ofLines h
  have hkeys : b.tomes.map Tome.nameKey = b.tomes.map fun t => Text.lowercase t.name :=
    List.map_congr_left fun t ht => by rw [Tome.nameKey, hconsistent.trim_name t ht]
  exact {
    spells_nodup := hconsistent.spells_nodup
    names_nodup := hkeys ▸ hconsistent.nameKeys_nodup
    level_pos := hconsistent.level_pos
    not_placeholder := hplaceholder ▸ hconsistent.not_placeholder
    trim_name := hconsistent.trim_name
    tab_not_mem_name := hconsistent.tab_not_mem_name
    not_isLineBreak := fun t ht c hc =>
      isLineBreak_of_mem_name h (fun _ hl => Text.not_isLineBreak_of_mem_lines hl) ht hc }

/-- The lines of a listing are its rows. -/
theorem lines_listing {o : Options} {tomes : List Tome} (gap : Tome → NoLevel)
    (h : Listable o tomes) :
    Text.lines (listing gap tomes) = tomes.map fun t => explicitRow (gap t) t :=
  Text.lines_flatMap_newline fun t ht _ hc =>
    isLineBreak_of_mem_explicitRow (h.not_isLineBreak t ht) hc

/-- **Listings are read back.**  Tomes that could be those of a batch, each on a line of its own, are
read as these tomes in order, with nothing left out and the counter where it began, however an absent
level is written.  So the tomes of a batch, written as rows, are read as the same tomes again. -/
theorem ofText_listing (o : Options) (gap : Tome → NoLevel) :
    (∀ tomes, Listable o tomes →
      Text.lines (listing gap tomes) = (tomes.map fun t => explicitRow (gap t) t) ∧
      ∀ input, Text.lines input = (tomes.map fun t => explicitRow (gap t) t) →
        ofText o input = .ok (settled o tomes)) ∧
    ∀ (o' : Options) (input : Text) (b : Batch), o'.placeholder = o.placeholder →
      ofText o' input = .ok b → ofText o (listing gap b.tomes) = .ok (settled o b.tomes) := by
  have hread : ∀ tomes input, Listable o tomes →
      Text.lines input = (tomes.map fun t => explicitRow (gap t) t) →
        ofText o input = .ok (settled o tomes) := by
    intro tomes input hlistable hlines
    rw [ofText, hlines]
    have hfirst : Listable o ([] ++ tomes) := hlistable
    exact pushAll_explicitRows gap hfirst 1
  refine ⟨fun tomes h => ⟨lines_listing gap h, fun input => hread tomes input h⟩, ?_⟩
  intro o' input b hplaceholder hb
  have hlistable := listable_of_ofText hplaceholder hb
  exact hread b.tomes _ hlistable (lines_listing gap hlistable)

/-- A tome without a name and without a level, and one with the largest level. -/
theorem ofText_listing_of_empty_name :
    ∃ gap : NoLevel,
      listing (fun _ => gap) [⟨4294967295, 7, [], none⟩, ⟨0, 8, "A  B".toList, some 2147483647⟩] =
        "4294967295\t7\t\t \tx\n0\t8\tA  B\t2147483647\n".toList ∧
      ofText {} "4294967295\t7\t\t \tx\n0\t8\tA  B\t2147483647\n".toList =
        .ok (settled {} [⟨4294967295, 7, [], none⟩, ⟨0, 8, "A  B".toList, some 2147483647⟩]) := by
  let gap : NoLevel := {
    field := [' ']
    beyond := ['x']
    field_blank := List.forall_mem_singleton.mpr (by decide)
    tab_not_mem_field := by decide
    beyond_not_blank := ⟨'x', List.mem_singleton_self _, by decide⟩
    not_isLineBreak := List.forall_mem_cons.mpr ⟨by decide, List.forall_mem_singleton.mpr (by decide)⟩ }
  have hlevel : ∀ t ∈ [Tome.mk 4294967295 7 [] none, ⟨0, 8, "A  B".toList, some 2147483647⟩],
      t.level = none ∨ t.level = some 2147483647 := by decide
  have hbreak : ∀ t ∈ [Tome.mk 4294967295 7 [] none, ⟨0, 8, "A  B".toList, some 2147483647⟩],
      t.name.all (fun c => !Text.isLineBreak c) = true := by decide
  have hlistable : Listable {} [⟨4294967295, 7, [], none⟩, ⟨0, 8, "A  B".toList, some 2147483647⟩] := {
    spells_nodup := by decide
    names_nodup := by decide
    level_pos := by
      intro t ht l hl
      obtain hnone | hsome := hlevel t ht
      · cases hnone.symm.trans hl
      · cases hsome.symm.trans hl
        decide
    not_placeholder := by decide
    trim_name := by decide
    tab_not_mem_name := by decide
    not_isLineBreak := fun t ht c hc => by simpa using List.all_eq_true.mp (hbreak t ht) c hc }
  exact ⟨gap, by decide, ((ofText_listing {} fun _ => gap).1 _ hlistable).2 _ (by decide)⟩

end Batch

end TomeSql
