/-
  Rows: what decoding a line can give.

  1. **Fields** — a field is trimmed, holds no tab, and is made of characters of its line.

  2. **Names** — the name of a row is one of its fields, or the name made for a spell that came
     alone (`name_mem_fieldsOf_or_default`).  Both are trimmed and free of tabs, and free of breaks
     when the line is.

  3. **Lines** — a line as it stands in the input holds no row, or the row of its trimmed form.
-/
import TomeSql.Batch.Row
import TomeSql.Tome
import TomeSql.Proofs.Fallible
import TomeSql.Proofs.Text.Basic

namespace TomeSql

namespace Text

/-! ## Fields -/

/-- Cutting makes no characters. -/
theorem mem_of_mem_fields {sep c : Char} {t f : Text} (hf : f ∈ fields sep t) (hc : c ∈ f) : c ∈ t := by
  induction t generalizing f with
  | nil =>
    rw [fields, List.mem_singleton] at hf
    simp [hf] at hc
  | cons d t ih =>
    rw [fields] at hf
    split at hf
    · rcases List.mem_cons.mp hf with rfl | hf
      · cases hc
      · exact List.mem_cons_of_mem d (ih hf hc)
    · cases hg : fields sep t with
      | nil => exact absurd hg (fields_ne_nil sep t)
      | cons g gs =>
        rw [hg] at hf ih
        rcases List.mem_cons.mp hf with rfl | hf
        · rcases List.mem_cons.mp hc with rfl | hc
          · exact List.mem_cons_self
          · exact List.mem_cons_of_mem d (ih List.mem_cons_self hc)
        · exact List.mem_cons_of_mem d (ih (List.mem_cons_of_mem g hf) hc)

end Text

namespace Row

/-- The row has no entry of its own. -/
def isAutomatic : Row → Bool
  | .automatic .. => true
  | .explicit .. => false

/-- The tome of a row, where `next` is the entry for a row without one. -/
def tome (next : UInt32) : Row → Tome
  | .automatic spell name level => ⟨next, spell, name, level⟩
  | .explicit entry spell name level => ⟨entry, spell, name, level⟩

/-- A field has no white space at its ends. -/
theorem trim_of_mem_fieldsOf {line f : Text} (h : f ∈ fieldsOf line) : Text.trim f = f := by
  obtain ⟨g, -, rfl⟩ := List.mem_map.mp h
  exact Text.trim_trim g

theorem tab_not_mem_of_mem_fieldsOf {line f : Text} (h : f ∈ fieldsOf line) : '\t' ∉ f := by
  obtain ⟨g, hg, rfl⟩ := List.mem_map.mp h
  exact fun htab => Text.not_mem_of_mem_fields hg (Text.mem_of_mem_trim htab)

theorem mem_of_mem_fieldsOf {line f : Text} {c : Char} (h : f ∈ fieldsOf line) (hc : c ∈ f) :
    c ∈ line := by
  obtain ⟨g, hg, rfl⟩ := List.mem_map.mp h
  exact Text.mem_of_mem_fields hg (Text.mem_of_mem_trim hc)

/-! ## The name made for a spell -/

/-- The name begins with a letter and ends with a digit. -/
theorem trim_defaultName (spell : UInt32) : Text.trim (defaultName spell) = defaultName spell := by
  apply Text.trim_eq_self
  · intro c hc
    have hfirst : (defaultName spell).head? = some 'T' := rfl
    rw [hfirst, Option.mem_some_iff] at hc
    rw [← hc]
    decide
  · intro c hc
    have hne := Decimal.ofNat_ne_nil spell.toNat
    unfold defaultName at hc
    rw [Option.mem_def, List.getLast?_append_of_ne_nil _ hne] at hc
    have hmem : c ∈ Decimal.ofNat spell.toNat := List.mem_of_getLast? hc
    exact Text.isWhiteSpace_of_isDigit (Decimal.isDigit_of_mem_ofNat hmem)

/-- A character of the name is one of its fixed words or a digit. -/
theorem isLineBreak_of_mem_defaultName {spell : UInt32} {c : Char} (h : c ∈ defaultName spell) :
    Text.isLineBreak c = false := by
  rcases List.mem_append.mp h with hword | hdigit
  · have hnone : "Tome of Spell ".toList.any Text.isLineBreak = false := rfl
    exact Bool.eq_false_iff.mpr (List.any_eq_false.mp hnone c hword)
  · exact Text.isLineBreak_of_isDigit (Decimal.isDigit_of_mem_ofNat hdigit)

theorem tab_not_mem_defaultName (spell : UInt32) : '\t' ∉ defaultName spell := by
  intro h
  rcases List.mem_append.mp h with hword | hdigit
  · exact absurd hword (by decide)
  · exact absurd (Decimal.isDigit_of_mem_ofNat hdigit) (by decide)

/-! ## Names of rows -/

/-- The name of a tome is a field of its line, or made of the spell where the line has none. -/
theorem name_mem_fieldsOf_or_default {line : Text} {row : Row} (next : UInt32)
    (h : decode line = .ok row) :
    (row.tome next).name ∈ fieldsOf line ∨ ∃ spell, (row.tome next).name = defaultName spell := by
  rw [decode] at h
  split at h
  case h_1 => cases h
  case h_2 =>
    obtain ⟨spell, -, hrow⟩ := bind_eq_ok_iff.mp h
    cases hrow
    exact Or.inr ⟨spell, rfl⟩
  case h_3 name hf =>
    obtain ⟨spell, -, hrow⟩ := bind_eq_ok_iff.mp h
    cases hrow
    exact Or.inl (by simp [hf, tome])
  case h_4 name level hf =>
    obtain ⟨spell, -, h⟩ := bind_eq_ok_iff.mp h
    obtain ⟨level, -, hrow⟩ := bind_eq_ok_iff.mp h
    cases hrow
    exact Or.inl (by simp [hf, tome])
  case h_5 entry spell name level rest hf =>
    obtain ⟨entry, -, h⟩ := bind_eq_ok_iff.mp h
    obtain ⟨spell, -, h⟩ := bind_eq_ok_iff.mp h
    obtain ⟨level, -, hrow⟩ := bind_eq_ok_iff.mp h
    cases hrow
    exact Or.inl (by simp [hf, tome])

/-- The name of a row has no white space at its ends. -/
theorem trim_name_of_decode {line : Text} {row : Row} (next : UInt32) (h : decode line = .ok row) :
    Text.trim (row.tome next).name = (row.tome next).name := by
  rcases name_mem_fieldsOf_or_default next h with hmem | ⟨spell, hname⟩
  · exact trim_of_mem_fieldsOf hmem
  · rw [hname, trim_defaultName]

theorem tab_not_mem_name_of_decode {line : Text} {row : Row} (next : UInt32)
    (h : decode line = .ok row) : '\t' ∉ (row.tome next).name := by
  rcases name_mem_fieldsOf_or_default next h with hmem | ⟨spell, hname⟩
  · exact tab_not_mem_of_mem_fieldsOf hmem
  · rw [hname]
    exact tab_not_mem_defaultName spell

/-- A name holds no break, if its line holds none. -/
theorem isLineBreak_of_mem_name_of_decode {line : Text} {row : Row} {next : UInt32} {c : Char}
    (h : decode line = .ok row) (hline : ∀ d ∈ line, Text.isLineBreak d = false)
    (hc : c ∈ (row.tome next).name) : Text.isLineBreak c = false := by
  rcases name_mem_fieldsOf_or_default next h with hmem | ⟨spell, hname⟩
  · exact hline c (mem_of_mem_fieldsOf hmem hc)
  · rw [hname] at hc
    exact isLineBreak_of_mem_defaultName hc

/-! ## Lines -/

/-- A line that is not skipped fails as its decoding does. -/
theorem ofLine_eq_error_iff {raw : Text} {fault : RowFault} :
    ofLine raw = .error fault ↔
      isComment (Text.trim raw) = false ∧ decode (Text.trim raw) = .error fault := by
  by_cases hc : isComment (Text.trim raw)
  · simp [ofLine, hc]
  · cases hd : decode (Text.trim raw) <;> simp [ofLine, hc, hd, Except.map]

/-- A line without a row is one that is skipped. -/
theorem ofLine_eq_ok_none_iff {raw : Text} :
    ofLine raw = .ok none ↔ isComment (Text.trim raw) = true := by
  by_cases hc : isComment (Text.trim raw)
  · simp [ofLine, hc]
  · cases hd : decode (Text.trim raw) <;> simp [ofLine, hc, hd, Except.map]

/-- A line with a row is one that is not skipped and decodes to it. -/
theorem ofLine_eq_ok_some_iff {raw : Text} {row : Row} :
    ofLine raw = .ok (some row) ↔
      isComment (Text.trim raw) = false ∧ decode (Text.trim raw) = .ok row := by
  by_cases hc : isComment (Text.trim raw)
  · simp [ofLine, hc]
  · cases hd : decode (Text.trim raw) <;> simp [ofLine, hc, hd, Except.map]

end Row

end TomeSql
