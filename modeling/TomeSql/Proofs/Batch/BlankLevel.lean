/-
  Rows that name their entry and leave their level blank.

  1. **Kept** — a blank level with something behind it is read as no level (`ofLine_namedRow`).

  2. **Trimmed away** — a blank level at the end of its line is white space at the end of that line,
     and so is the tab in front of it: trimming takes both.  Three fields are left, which a row
     without an entry of its own has, so that the entry is read as the spell, the spell as the name
     and the name as the level.

  3. **Main result (`ofLine_blank_level`)** — a row with a blank level is read as it is written
     exactly when something that is not blank follows.  Otherwise it is read one field further on if
     its name is a number, and refused if it is not.

  4. **Refuted** — that such a row is always read as it is written (`not_forall_ofLine_blank_level`).
-/
import TomeSql.Proofs.Batch.Decoding
import TomeSql.Proofs.Batch.Listing

namespace TomeSql

open Unicode (isWhiteSpace)
open Decimal (Numeral)

namespace Batch

variable {entry spell : UInt32} {name rest : Text}

/-! ## Something behind the level -/

/-- A text that begins with a blank field and is not blank has more fields. -/
theorem exists_eq_field_append (hfield : ∀ c ∈ rest.takeWhile (· != '\t'), isWhiteSpace c = true)
    (hdark : ∃ c ∈ rest, isWhiteSpace c = false) :
    ∃ beyond, rest = rest.takeWhile (· != '\t') ++ '\t' :: beyond ∧
      ∃ c ∈ beyond, isWhiteSpace c = false := by
  obtain ⟨c, hc, hnot⟩ := hdark
  have hcut : rest.takeWhile (· != '\t') ++ rest.dropWhile (· != '\t') = rest :=
    List.takeWhile_append_dropWhile
  have hmem : c ∈ rest.dropWhile (· != '\t') := by
    rw [← hcut, List.mem_append] at hc
    rcases hc with hc | hc
    · rw [hfield c hc] at hnot
      cases hnot
    · exact hc
  cases hdrop : rest.dropWhile (· != '\t') with
  | nil =>
    rw [hdrop] at hmem
    cases hmem
  | cons d beyond =>
    have hd : d = '\t' := by
      have hhead := List.head?_dropWhile_not (· != '\t') rest
      rw [hdrop] at hhead
      simpa using hhead
    subst hd
    refine ⟨beyond, by rw [← hdrop, hcut], c, ?_, hnot⟩
    rw [hdrop] at hmem
    rcases List.mem_cons.mp hmem with rfl | hmem
    · exact absurd hnot (by decide)
    · exact hmem

theorem tab_not_mem_takeWhile (rest : Text) : '\t' ∉ rest.takeWhile (· != '\t') := by
  intro hmem
  have := List.mem_takeWhile_imp hmem
  simp at this

/-! ## Nothing behind the level -/

/-- Trimming takes a blank level, and all that is blank behind it, together with the tab in front. -/
theorem trim_namedRow_of_blank (hname : name ≠ []) (htrim : Text.trim name = name)
    (hblank : ∀ c ∈ rest, isWhiteSpace c = true) :
    Text.trim (namedRow entry spell name rest) =
      Decimal.ofNat entry.toNat ++ '\t' :: (Decimal.ofNat spell.toNat ++ '\t' :: name) := by
  have hsplit : namedRow entry spell name rest =
      (Decimal.ofNat entry.toNat ++ '\t' :: (Decimal.ofNat spell.toNat ++ '\t' :: name)) ++
        '\t' :: rest := by
    simp [namedRow]
  have htab : isWhiteSpace '\t' = true := by decide
  rw [hsplit, Text.trim_append_blank _ (List.forall_mem_cons.mpr ⟨htab, hblank⟩)]
  apply Text.trim_eq_self
  · obtain ⟨d, digits, hct, hd⟩ := Decimal.exists_ofNat_eq_cons entry.toNat
    intro c hc
    rw [hct, List.cons_append, List.head?_cons, Option.mem_some_iff] at hc
    rw [← hc]
    exact Text.isWhiteSpace_of_isDigit hd
  · intro c hc
    have hlast : c ∈ (Text.trim name).getLast? := by
      rw [htrim]
      cases name with
      | nil => exact absurd rfl hname
      | cons d name => simpa [List.getLast?_append, List.getLast?_cons] using hc
    exact Text.getLast?_trim c hlast

/-- What is left is read as a row without an entry of its own. -/
theorem ofLine_namedRow_of_blank (hname : name ≠ []) (htrim : Text.trim name = name)
    (htab : '\t' ∉ name) (hblank : ∀ c ∈ rest, isWhiteSpace c = true) :
    Row.ofLine (namedRow entry spell name rest) = (Row.readLevel name).map fun level =>
      some (.automatic entry (Decimal.ofNat spell.toNat) level) := by
  have hdigits : ∀ n, '\t' ∉ Decimal.ofNat n := Decimal.not_mem_ofNat (by decide)
  have hnumber : ∀ n, Text.trim (Decimal.ofNat n) = Decimal.ofNat n :=
    fun n => Text.trim_of_no_whiteSpace fun c hc => isWhiteSpace_of_mem_ofNat hc
  have hfields : Row.fieldsOf (Text.trim (namedRow entry spell name rest)) =
      [Decimal.ofNat entry.toNat, Decimal.ofNat spell.toNat, name] := by
    rw [trim_namedRow_of_blank hname htrim hblank, Row.fieldsOf, Text.fields_append_sep (hdigits _),
      Text.fields_append_sep (hdigits _), Text.fields_of_not_mem htab]
    simp only [List.map_cons, List.map_nil, hnumber, htrim]
  have hcandidate : Row.isComment (Text.trim (namedRow entry spell name rest)) = false := by
    rw [trim_namedRow_of_blank hname htrim hblank]
    exact isComment_ofNat_append _ _
  rw [Row.ofLine]
  simp only [hcandidate, Bool.false_eq_true, if_false, Row.decode, hfields]
  cases Row.readLevel name <;>
    simp [Row.readSpell, Decimal.readUInt32_ofNat, Except.mapError, Except.map, bind, Except.bind,
      pure, Except.pure]

/-! ## The result -/

/-- **Blank levels.**  A row that names its entry and leaves its level blank is read as it is written
exactly when something that is not blank follows.  Otherwise its entry is read as the spell, its spell
as the name, and its name as the level; and if the name is no level, that is the fault. -/
theorem ofLine_blank_level (hname : name ≠ []) (htrim : Text.trim name = name) (htab : '\t' ∉ name)
    (hlevel : ∀ c ∈ rest.takeWhile (· != '\t'), isWhiteSpace c = true) :
    (Row.ofLine (namedRow entry spell name rest) = .ok (some (.explicit entry spell name none)) ↔
      ∃ c ∈ rest, isWhiteSpace c = false) ∧
    ((∀ c ∈ rest, isWhiteSpace c = true) →
      (∀ level : Int32, Numeral true name level.toInt →
        Row.ofLine (namedRow entry spell name rest) =
          .ok (some (.automatic entry (Decimal.ofNat spell.toNat) (some level)))) ∧
      (¬ IntegerField.level.Accepts name →
        Row.ofLine (namedRow entry spell name rest) = .error (.invalidInteger .level name))) := by
  refine ⟨⟨fun hread => ?_, fun hdark => ?_⟩, fun hblank => ⟨fun level hnumeral => ?_, fun hno => ?_⟩⟩
  · by_contra hdark
    have hblank : ∀ c ∈ rest, isWhiteSpace c = true := by
      intro c hc
      by_contra hnot
      exact hdark ⟨c, hc, by simpa using hnot⟩
    rw [ofLine_namedRow_of_blank hname htrim htab hblank, map_eq_ok_iff] at hread
    obtain ⟨level, -, hrow⟩ := hread
    cases hrow
  · obtain ⟨beyond, hrest, hbeyond⟩ := exists_eq_field_append hlevel hdark
    obtain ⟨fields, hfields⟩ := exists_fields_blank hlevel (tab_not_mem_takeWhile rest) hbeyond
    rw [← hrest] at hfields
    exact ofLine_namedRow entry spell htrim htab hdark hfields
  · have hread : Row.readLevel name = .ok (some level) := by
      rw [← Decimal.readInt32_eq_ok_iff] at hnumeral
      rw [Row.readLevel]
      · rw [hnumeral]
        rfl
      · exact hname
    rw [ofLine_namedRow_of_blank hname htrim htab hblank, hread]
    rfl
  · obtain ⟨hyes, -⟩ | ⟨-, hread⟩ := Row.readBy_readLevel name
    · exact absurd hyes hno
    · rw [ofLine_namedRow_of_blank hname htrim htab hblank, hread]
      rfl

/-- A fifth field keeps the blank level; without one, and with a name that is a number, everything is
read one field further on. -/
theorem ofLine_blank_level_of_number :
    Row.ofLine "9\t7\t5\t \tx".toList = .ok (some (.explicit 9 7 "5".toList none)) ∧
      Row.ofLine "9\t7\t5\t ".toList = .ok (some (.automatic 9 "7".toList (some 5))) :=
  have hnumber : Numeral true "5".toList (5 : Int32).toInt := Decimal.readInt32_eq_ok_iff.mp rfl
  ⟨(@ofLine_blank_level 9 7 "5".toList " \tx".toList (by decide) (by decide) (by decide)
      (List.all_eq_true.mp rfl)).1.mpr ⟨'x', by decide, by decide⟩,
    ((@ofLine_blank_level 9 7 "5".toList " ".toList (by decide) (by decide) (by decide)
      (List.all_eq_true.mp rfl)).2 (List.all_eq_true.mp rfl)).1 5 hnumber⟩

/-- The entry 9 is read as the spell, and the name as a level that is none. -/
theorem not_forall_ofLine_blank_level :
    ¬ ∀ (entry spell : UInt32) (name level : Text), name ≠ [] → Text.trim name = name →
      '\t' ∉ name → (∀ c ∈ name, Text.isLineBreak c = false) → '\t' ∉ level →
      (∀ c ∈ level, isWhiteSpace c = true) →
      Row.ofLine (namedRow entry spell name level) =
        .ok (some (.explicit entry spell name none)) := by
  intro h
  have hread := h 9 7 ['B'] [] (by decide) (by decide) (by decide)
    (List.forall_mem_singleton.mpr rfl) (by decide) (List.forall_mem_nil _)
  have hfault : Row.ofLine (namedRow 9 7 ['B'] []) = .error (.invalidInteger .level ['B']) := rfl
  rw [hfault] at hread
  cases hread

end Batch

end TomeSql
