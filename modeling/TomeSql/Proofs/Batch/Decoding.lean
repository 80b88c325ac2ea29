/-
  Decoding: which lines are rows, and what stands in the way of the others.

  1. **Shape** — a line of fewer than four fields takes the next entry, any other names its own.

  2. **Integer fields** — each shape has fields that must hold an integer of their range.  They are
     looked at in the order entry, spell, level, and a level may also be left blank.

  3. **Main result (`failsAt_decode`)** — decoding fails with the first of the integer fields that
     holds no such integer, and with nothing else.  Each shape is a chain of readings in that order,
     so that one law for a link of the chain (`FailsAt.bind`) settles all four.
-/
import TomeSql.Proofs.Batch.Rows
import TomeSql.Proofs.Text.Numerals

namespace TomeSql

open Decimal (Numeral)

/-! ## Integer fields -/

namespace IntegerField

/-- The field may hold the text: a number of the range of entries and spells, or a number of the
range of levels or nothing. -/
def Accepts : IntegerField → Text → Prop
  | .level, t => t = [] ∨ ∃ n, Numeral true t n ∧ -2147483648 ≤ n ∧ n ≤ 2147483647
  | .entry, t => ∃ n, Numeral false t n ∧ 0 ≤ n ∧ n ≤ 4294967295
  | .spell, t => ∃ n, Numeral false t n ∧ 0 ≤ n ∧ n ≤ 4294967295

/-- What the field may hold is decided by reading it. -/
instance (field : IntegerField) (t : Text) : Decidable (field.Accepts t) :=
  match field with
  | .level =>
    have : Decidable (∃ n, Numeral true t n ∧ -2147483648 ≤ n ∧ n ≤ 2147483647) :=
      decidable_of_iff _ (isOk_iff.trans Decimal.exists_readInt32_iff)
    inferInstanceAs (Decidable (t = [] ∨ _))
  | .entry => decidable_of_iff _ (isOk_iff.trans Decimal.exists_readUInt32_iff)
  | .spell => decidable_of_iff _ (isOk_iff.trans Decimal.exists_readUInt32_iff)

/-- `read` gives a value for every text that the field may hold, and the fault of the field for any
other. -/
def ReadBy {α : Type} (field : IntegerField) (read : Text → Except RowFault α) : Prop :=
  ∀ t, (field.Accepts t ∧ ∃ a, read t = .ok a) ∨
    (¬ field.Accepts t ∧ read t = .error (.invalidInteger field t))

end IntegerField

namespace Row

/-- An entry is read exactly where the field is a numeral of its range. -/
theorem readBy_readEntry : IntegerField.entry.ReadBy readEntry := by
  intro t
  rw [IntegerField.Accepts, ← Decimal.exists_readUInt32_iff, readEntry]
  cases Decimal.readUInt32 t <;> simp [Except.mapError]

/-- A spell is read exactly where the field is a numeral of its range, too. -/
theorem readBy_readSpell : IntegerField.spell.ReadBy readSpell := by
  intro t
  rw [IntegerField.Accepts, ← Decimal.exists_readUInt32_iff, readSpell]
  cases Decimal.readUInt32 t <;> simp [Except.mapError]

/-- A level is read where the field is a numeral of its range, or empty. -/
theorem readBy_readLevel : IntegerField.level.ReadBy readLevel := by
  intro t
  rw [IntegerField.Accepts, ← Decimal.exists_readInt32_iff]
  cases t with
  | nil => exact Or.inl ⟨Or.inl rfl, none, rfl⟩
  | cons c t =>
    rw [readLevel]
    · cases Decimal.readInt32 (c :: t) <;> simp [Except.mapError, Except.map]
    · simp

/-! ## Shape -/

/-- The trimmed line takes the next entry: it has fewer than four fields. -/
def TakesEntry (line : Text) : Prop := (Text.fields '\t' line).length < 4

instance (line : Text) : Decidable (TakesEntry line) := inferInstanceAs (Decidable (_ < _))

/-- The first field of the trimmed line is the entry. -/
def NamesEntry (line : Text) (entry : UInt32) : Prop :=
  ∃ t rest, fieldsOf line = t :: rest ∧ Numeral false t entry.toNat

/-- A line takes its entry from the counter if it has fewer than four fields. -/
theorem takesEntry_iff {line : Text} : TakesEntry line ↔ (fieldsOf line).length < 4 := by
  rw [TakesEntry, fieldsOf, List.length_map]

theorem fieldsOf_ne_nil (line : Text) : fieldsOf line ≠ [] := by
  rw [fieldsOf, Ne, List.map_eq_nil_iff]
  exact Text.fields_ne_nil '\t' line

/-- The integer fields of a trimmed line in the order in which they are looked at, each with the
text that it holds. -/
def integerFields (line : Text) : List (IntegerField × Text) :=
  match fieldsOf line with
  | [] => []
  | [spell] => [(.spell, spell)]
  | [spell, _] => [(.spell, spell)]
  | [spell, _, level] => [(.spell, spell), (.level, level)]
  | entry :: spell :: _ :: level :: _ => [(.entry, entry), (.spell, spell), (.level, level)]

/-- All integer fields of the trimmed line hold what they may. -/
def WellFormed (line : Text) : Prop := ∀ p ∈ integerFields line, p.1.Accepts p.2

instance (line : Text) : Decidable (WellFormed line) := inferInstanceAs (Decidable (∀ p ∈ _, _))

/-! ## The first fault -/

/-- The fields hold what they may up to one that does not, and `fault` names that one. -/
def FirstFault (fs : List (IntegerField × Text)) (fault : RowFault) : Prop :=
  ∃ before field t after, fs = before ++ (field, t) :: after ∧
    (∀ p ∈ before, p.1.Accepts p.2) ∧ ¬ field.Accepts t ∧ fault = .invalidInteger field t

theorem not_firstFault_nil {fault : RowFault} : ¬ FirstFault [] fault := by
  rintro ⟨before, field, t, after, hfs, -⟩
  simp at hfs

/-- The first fault is that of the first field, or else of the fields behind it. -/
theorem firstFault_cons_iff {field : IntegerField} {t : Text} {fs : List (IntegerField × Text)}
    {fault : RowFault} : FirstFault ((field, t) :: fs) fault ↔
      (¬ field.Accepts t ∧ fault = .invalidInteger field t) ∨
      (field.Accepts t ∧ FirstFault fs fault) := by
  constructor
  · rintro ⟨before, field', t', after, hfs, hbefore, hbad, rfl⟩
    rcases List.cons_eq_append_iff.mp hfs with ⟨rfl, hhead⟩ | ⟨before, rfl, rfl⟩
    · cases hhead
      exact Or.inl ⟨hbad, rfl⟩
    · obtain ⟨hgood, hbefore⟩ := List.forall_mem_cons.mp hbefore
      exact Or.inr ⟨hgood, before, field', t', after, rfl, hbefore, hbad, rfl⟩
  · rintro (⟨hbad, rfl⟩ | ⟨hgood, before, field', t', after, rfl, hbefore, hbad, rfl⟩)
    · exact ⟨[], field, t, fs, rfl, by simp, hbad, rfl⟩
    · exact ⟨(field, t) :: before, field', t', after, rfl,
        List.forall_mem_cons.mpr ⟨hgood, hbefore⟩, hbad, rfl⟩

/-- The step succeeds where all fields hold what they may, and fails with the first one that does
not. -/
structure FailsAt {α : Type} (fs : List (IntegerField × Text)) (x : Except RowFault α) : Prop where
  ok_iff : (∃ a, x = .ok a) ↔ ∀ p ∈ fs, p.1.Accepts p.2
  error_iff : ∀ fault, x = .error fault ↔ FirstFault fs fault

theorem FailsAt.pure {α : Type} (a : α) : FailsAt [] (.ok a) where
  ok_iff := by simp
  error_iff _ := by simp [not_firstFault_nil]

/-- One more reading in front of a chain is one more field in front of the others. -/
theorem FailsAt.bind {α β : Type} {field : IntegerField} {read : Text → Except RowFault α}
    {fs : List (IntegerField × Text)} {next : α → Except RowFault β} (hread : field.ReadBy read)
    (hnext : ∀ a, FailsAt fs (next a)) (t : Text) : FailsAt ((field, t) :: fs) (read t >>= next) := by
  obtain ⟨hgood, a, ha⟩ | ⟨hbad, herror⟩ := hread t
  · have hstep : (read t >>= next) = next a := by
      rw [ha]
      rfl
    rw [hstep]
    constructor
    · rw [(hnext a).ok_iff, List.forall_mem_cons]
      exact ⟨fun h => ⟨hgood, h⟩, fun h => h.2⟩
    · intro fault
      rw [(hnext a).error_iff, firstFault_cons_iff]
      simp [hgood]
  · have hstep : (read t >>= next) = .error (.invalidInteger field t) := by
      rw [herror]
      rfl
    rw [hstep]
    constructor
    · simp [hbad]
    · intro fault
      rw [firstFault_cons_iff]
      simp [hbad, eq_comm]

/-- **Where decoding fails.**  Decoding a trimmed line reads its integer fields in their order. -/
theorem failsAt_decode (line : Text) : FailsAt (integerFields line) (decode line) := by
  rcases hf : fieldsOf line with _ | ⟨first, _ | ⟨second, _ | ⟨third, _ | ⟨fourth, rest⟩⟩⟩⟩ <;>
    simp only [decode, integerFields, hf]
  · exact absurd hf (fieldsOf_ne_nil line)
  · exact FailsAt.bind readBy_readSpell (fun _ => .pure _) first
  · exact FailsAt.bind readBy_readSpell (fun _ => .pure _) first
  · exact FailsAt.bind readBy_readSpell
      (fun _ => FailsAt.bind readBy_readLevel (fun _ => .pure _) third) first
  · exact FailsAt.bind readBy_readEntry
      (fun _ => FailsAt.bind readBy_readSpell
        (fun _ => FailsAt.bind readBy_readLevel (fun _ => .pure _) fourth) second) first

/-! ## The row of a line -/

/-- A decoded row takes the next entry or names its own, as the number of fields has it. -/
theorem isAutomatic_or_explicit_of_decode {line : Text} {row : Row} (h : decode line = .ok row) :
    (TakesEntry line ∧ row.isAutomatic = true) ∨
    (¬ TakesEntry line ∧ row.isAutomatic = false ∧ ∀ next, NamesEntry line (row.tome next).entry) := by
  rw [takesEntry_iff]
  rw [decode] at h
  split at h
  case h_1 => cases h
  case h_2 hf =>
    obtain ⟨spell, -, hrow⟩ := bind_eq_ok_iff.mp h
    cases hrow
    exact Or.inl ⟨by simp [hf], rfl⟩
  case h_3 hf =>
    obtain ⟨spell, -, hrow⟩ := bind_eq_ok_iff.mp h
    cases hrow
    exact Or.inl ⟨by simp [hf], rfl⟩
  case h_4 hf =>
    obtain ⟨spell, -, h⟩ := bind_eq_ok_iff.mp h
    obtain ⟨level, -, hrow⟩ := bind_eq_ok_iff.mp h
    cases hrow
    exact Or.inl ⟨by simp [hf], rfl⟩
  case h_5 first _ name _ rest hf =>
    obtain ⟨entry, hentry, h⟩ := bind_eq_ok_iff.mp h
    obtain ⟨spell, -, h⟩ := bind_eq_ok_iff.mp h
    obtain ⟨level, -, hrow⟩ := bind_eq_ok_iff.mp h
    cases hrow
    rw [readEntry, mapError_eq_ok_iff, Decimal.readUInt32_eq_ok_iff] at hentry
    exact Or.inr ⟨by simp [hf], rfl, fun _ => ⟨first, _, hf, hentry⟩⟩

end Row

end TomeSql
