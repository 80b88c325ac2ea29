/-
  Failure: which readings fail, at which line, and with which fault.

  1. **Fault** — a candidate line has the fault of the first of its integer fields that holds no
     integer of its range, or, when there is no such field, the fault of a row for which the counter
     has no entry left.  Which of the two it is hangs on the line and on the entries that the rows
     before it have spent, and on nothing else of the batch (`push_eq_error_iff`).

  2. **The run** — a reading fails exactly at a line on which the batch of the lines before it fails
     (`pushAll_eq_error_iff`).

  3. **The crux (`rows_countP_isAutomatic`)** — the counter of that batch is known without a reading:
     it counts the well-formed lines of fewer than four fields.  So a faulty line is found by a look
     at the lines, and the first one ends the reading (`ofLines_eq_error_iff`).
-/
import TomeSql.Proofs.Batch.Candidates
import TomeSql.Proofs.Batch.Decoding

namespace TomeSql

namespace Batch

variable {o : Options}

/-! ## The fault of a line -/

/-- The fault of a trimmed line when the counter stands at `next`. -/
inductive HasFault (next : Nat) (line : Text) : RowFault → Prop
  | invalidInteger {fault : RowFault} (first : Row.FirstFault (Row.integerFields line) fault) :
      HasFault next line fault
  | entryOverflow (wellFormed : Row.WellFormed line) (takes : Row.TakesEntry line)
      (full : next = 4294967295) : HasFault next line .entryOverflow

/-- The number of entries that the lines spend. -/
def spent (lines : List Text) : Nat :=
  (candidateLines lines).countP fun l => Row.WellFormed l ∧ Row.TakesEntry l

/-- The line `raw` is a candidate and has the fault when it comes after the lines `earlier`. -/
def FaultyAfter (o : Options) (earlier : List Text) (raw : Text) (fault : RowFault) : Prop :=
  Row.isComment (Text.trim raw) = false ∧
    HasFault (o.firstEntry.toNat + spent earlier) (Text.trim raw) fault

/-- No line has an unsupported shape: cutting it gives at least one field. -/
theorem HasFault.ne_unsupportedShape {next : Nat} {line raw : Text} {fault : RowFault}
    (h : HasFault next line fault) : fault ≠ .unsupportedShape raw := by
  cases h with
  | invalidInteger first =>
    obtain ⟨_, _, _, _, _, _, _, rfl⟩ := first
    simp
  | entryOverflow => simp

/-! ## One line -/

/-- Numbering fails only for a row without an entry of its own, at the last number. -/
theorem number_eq_error_iff {b : Batch} {row : Row} {fault : RowFault} :
    b.number row = .error fault ↔
      row.isAutomatic = true ∧ b.nextEntry.toNat = 4294967295 ∧ fault = .entryOverflow := by
  cases row with
  | explicit entry spell name level => simp [number, Row.isAutomatic]
  | automatic spell name level =>
    have hfull : b.nextEntry = 0xFFFFFFFF ↔ b.nextEntry.toNat = 4294967295 := by
      rw [← UInt32.toNat_inj]
      rfl
    by_cases hmax : b.nextEntry.toNat = 4294967295
    · simp [number, Row.isAutomatic, hfull.mpr hmax, eq_comm]
    · simp [number, Row.isAutomatic, mt hfull.mp hmax, hmax]

/-- A line fails by itself, or as a row for which no entry is left. -/
theorem push_eq_error_iff {b : Batch} {raw : Text} {fault : RowFault} :
    b.push o raw = .error fault ↔
      Row.isComment (Text.trim raw) = false ∧
        HasFault b.nextEntry.toNat (Text.trim raw) fault := by
  have hdecode := Row.failsAt_decode (Text.trim raw)
  rw [push, bind_eq_error_iff, Row.ofLine_eq_error_iff, hdecode.error_iff]
  constructor
  · rintro (⟨hcandidate, hfirst⟩ | ⟨found, hline, hrest⟩)
    · exact ⟨hcandidate, .invalidInteger hfirst⟩
    · cases found with
      | none => cases hrest
      | some row =>
        obtain ⟨hcandidate, hrow⟩ := Row.ofLine_eq_ok_some_iff.mp hline
        obtain hnumber | ⟨_, _, hadd⟩ := bind_eq_error_iff.mp hrest
        · obtain ⟨hauto, hfull, rfl⟩ := number_eq_error_iff.mp hnumber
          have hwell : Row.WellFormed (Text.trim raw) := hdecode.ok_iff.mp ⟨row, hrow⟩
          obtain ⟨htakes, -⟩ | ⟨-, hexplicit, -⟩ := Row.isAutomatic_or_explicit_of_decode hrow
          · exact ⟨hcandidate, .entryOverflow hwell htakes hfull⟩
          · rw [hexplicit] at hauto
            cases hauto
        · cases hadd
  · rintro ⟨hcandidate, hfault⟩
    cases hfault with
    | invalidInteger first => exact Or.inl ⟨hcandidate, first⟩
    | entryOverflow wellFormed takes full =>
      obtain ⟨row, hrow⟩ := hdecode.ok_iff.mpr wellFormed
      obtain ⟨-, hauto⟩ | ⟨hnames, -⟩ := Row.isAutomatic_or_explicit_of_decode hrow
      · have hnumber : b.number row = .error .entryOverflow :=
          number_eq_error_iff.mpr ⟨hauto, full, rfl⟩
        refine Or.inr ⟨some row, Row.ofLine_eq_ok_some_iff.mpr ⟨hcandidate, hrow⟩, ?_⟩
        exact bind_eq_error_iff.mpr (Or.inl hnumber)
      · exact absurd takes hnames

/-! ## A whole reading -/

/-- A reading fails at a line on which the batch of the lines before it fails. -/
theorem pushAll_eq_error_iff {n : Nat} {b : Batch} {lines : List Text} {e : RowError} :
    pushAll o n b lines = .error e ↔ ∃ earlier raw later, lines = earlier ++ raw :: later ∧
      ∃ b' fault, pushAll o n b earlier = .ok b' ∧ b'.push o raw = .error fault ∧
        e = ⟨n + earlier.length, fault⟩ := by
  induction lines generalizing n b with
  | nil => simp [pushAll]
  | cons raw rest ih =>
    rw [exists_cut_cons_iff, pushAll]
    cases hpush : b.push o raw with
    | error fault =>
      -- a reading that goes on behind `raw` does not succeed
      simp [pushAll, hpush, eq_comm]
    | ok b₁ => simp [pushAll, hpush, ih, Nat.add_assoc, Nat.add_comm 1]

/-- The rows that take an entry are the well-formed lines of fewer than four fields. -/
theorem rows_countP_isAutomatic (lines : List Text) :
    (rows lines).countP Row.isAutomatic = spent lines := by
  rw [rows, List.filterMap_map, List.countP_filterMap, spent]
  apply List.countP_congr
  intro line _
  have hok := (Row.failsAt_decode line).ok_iff
  cases hd : Row.decode line with
  | error fault =>
    have hnot : ¬ Row.WellFormed line := by
      intro hwell
      obtain ⟨row, hrow⟩ := hok.mpr hwell
      rw [hd] at hrow
      cases hrow
    simp [hd, hnot, Except.toOption]
  | ok row =>
    have hwell : Row.WellFormed line := hok.mp ⟨row, hd⟩
    obtain ⟨htakes, hauto⟩ | ⟨hnames, hauto, -⟩ := Row.isAutomatic_or_explicit_of_decode hd
    · simp [hd, hwell, htakes, hauto, Except.toOption]
    · simp [hd, hnames, hauto, Except.toOption]

/-- The counter has gone as far as entries were taken from it. -/
theorem nextEntry_eq_spent {lines : List Text} {b : Batch} (h : ofLines o lines = .ok b) :
    b.nextEntry.toNat = o.firstEntry.toNat + spent lines := by
  rw [nextEntry_toNat h, rows_countP_isAutomatic]

/-- After lines that are read, the next one fails exactly with its fault. -/
theorem push_eq_error_iff_faultyAfter {earlier : List Text} {b : Batch}
    (h : ofLines o earlier = .ok b) {raw : Text} {fault : RowFault} :
    b.push o raw = .error fault ↔ FaultyAfter o earlier raw fault := by
  rw [push_eq_error_iff, nextEntry_eq_spent h, FaultyAfter]

/-- A reading fails exactly when one of its lines is faulty. -/
theorem exists_error_iff (lines : List Text) : (∃ e, ofLines o lines = .error e) ↔
    ∃ earlier raw later fault, lines = earlier ++ raw :: later ∧ FaultyAfter o earlier raw fault := by
  constructor
  · rintro ⟨e, he⟩
    obtain ⟨earlier, raw, later, hlines, b, fault, hearlier, hpush, -⟩ :=
      pushAll_eq_error_iff.mp he
    exact ⟨earlier, raw, later, fault, hlines,
      (push_eq_error_iff_faultyAfter hearlier).mp hpush⟩
  · rintro ⟨earlier, raw, later, fault, rfl, hfaulty⟩
    cases hearlier : ofLines o earlier with
    | error e => exact ⟨e, by rw [ofLines_append, hearlier]; rfl⟩
    | ok b =>
      have hpush := (push_eq_error_iff_faultyAfter hearlier).mpr hfaulty
      refine ⟨⟨earlier.length + 1, fault⟩, ?_⟩
      rw [ofLines_append, hearlier]
      show pushAll o (earlier.length + 1) b (raw :: later) = _
      rw [pushAll, hpush]

/-- Lines of which none is faulty are read. -/
theorem exists_ok_iff (lines : List Text) : (∃ b, ofLines o lines = .ok b) ↔
    ∀ earlier raw later fault, lines = earlier ++ raw :: later →
      ¬ FaultyAfter o earlier raw fault := by
  constructor
  · rintro ⟨b, hb⟩ earlier raw later fault hlines hfaulty
    obtain ⟨e, he⟩ := (exists_error_iff lines).mpr ⟨earlier, raw, later, fault, hlines, hfaulty⟩
    rw [hb] at he
    cases he
  · intro hnone
    cases hread : ofLines o lines with
    | ok b => exact ⟨b, rfl⟩
    | error e =>
      obtain ⟨earlier, raw, later, fault, hlines, hfaulty⟩ := (exists_error_iff lines).mp ⟨e, hread⟩
      exact absurd hfaulty (hnone earlier raw later fault hlines)

/-- The first faulty line ends the reading, whatever follows it. -/
theorem ofLines_eq_error_of_faultyAfter {earlier : List Text} {b : Batch}
    (hearlier : ofLines o earlier = .ok b) {raw : Text} {fault : RowFault}
    (hfaulty : FaultyAfter o earlier raw fault) (later : List Text) :
    ofLines o (earlier ++ raw :: later) = .error ⟨earlier.length + 1, fault⟩ := by
  rw [ofLines_append, hearlier]
  show pushAll o (earlier.length + 1) b (raw :: later) = _
  rw [pushAll, (push_eq_error_iff_faultyAfter hearlier).mpr hfaulty]

/-- Reading fails at the first line that is faulty after the lines before it. -/
theorem error_iff_first_faulty (lines : List Text) (e : RowError) :
    ofLines o lines = .error e ↔
      ∃ earlier raw later, lines = earlier ++ raw :: later ∧ e.line = earlier.length + 1 ∧
        FaultyAfter o earlier raw e.fault ∧
        ∀ before raw' after fault, earlier = before ++ raw' :: after →
          ¬ FaultyAfter o before raw' fault := by
  constructor
  · intro he
    obtain ⟨earlier, raw, later, hlines, b, fault, hearlier, hpush, rfl⟩ :=
      pushAll_eq_error_iff.mp he
    exact ⟨earlier, raw, later, hlines, Nat.add_comm 1 _,
      (push_eq_error_iff_faultyAfter hearlier).mp hpush, (exists_ok_iff earlier).mp ⟨b, hearlier⟩⟩
  · rintro ⟨earlier, raw, later, rfl, hline, hfaulty, hnone⟩
    obtain ⟨b, hearlier⟩ := (exists_ok_iff earlier).mpr hnone
    rw [ofLines_eq_error_of_faultyAfter hearlier hfaulty later, ← hline]

/-- **Where a reading fails.**  A reading fails exactly when some candidate line is faulty.  It fails
with the number and the fault of the first such line, and with nothing else.  Other lines behind that
one give the same error. -/
theorem ofLines_eq_error_iff (o : Options) (lines : List Text) :
    ((∃ e, ofLines o lines = .error e) ↔
      ∃ earlier raw later fault, lines = earlier ++ raw :: later ∧
        FaultyAfter o earlier raw fault) ∧
    (∀ e, ofLines o lines = .error e ↔
      ∃ earlier raw later, lines = earlier ++ raw :: later ∧ e.line = earlier.length + 1 ∧
        FaultyAfter o earlier raw e.fault ∧
        ∀ before raw' after fault, earlier = before ++ raw' :: after →
          ¬ FaultyAfter o before raw' fault) ∧
    ∀ e, ofLines o lines = .error e →
      (∀ later, ofLines o (lines.take e.line ++ later) = .error e) ∧
      ∀ raw, e.fault ≠ .unsupportedShape raw := by
  refine ⟨exists_error_iff lines, error_iff_first_faulty lines, ?_⟩
  intro e he
  obtain ⟨earlier, raw, later, rfl, hline, hfaulty, hnone⟩ := (error_iff_first_faulty lines e).mp he
  refine ⟨fun later' => ?_, fun raw => hfaulty.2.ne_unsupportedShape⟩
  have htake : (earlier ++ raw :: later).take e.line = earlier ++ [raw] := by
    rw [hline, List.take_length_add_append]
    rfl
  rw [htake, List.append_assoc, List.singleton_append, error_iff_first_faulty]
  exact ⟨earlier, raw, later', rfl, hline, hfaulty, hnone⟩

/-- The second line has a bad level, and no entry would be left for it: the level is what is
reported, and the lines behind it are not looked at. -/
theorem ofLines_eq_error_of_bad_level :
    ofLines { firstEntry := 4294967295 } ["9\t7\tB\t5".toList, "8\tX\tten".toList, "1".toList] =
        .error ⟨2, .invalidInteger .level "ten".toList⟩ ∧
      ∀ later, ofLines { firstEntry := 4294967295 }
          (["9\t7\tB\t5".toList, "8\tX\tten".toList] ++ later) =
        .error ⟨2, .invalidInteger .level "ten".toList⟩ := by
  have hread : ofLines { firstEntry := 4294967295 }
      ["9\t7\tB\t5".toList, "8\tX\tten".toList, "1".toList] =
        .error ⟨2, .invalidInteger .level "ten".toList⟩ := rfl
  exact ⟨hread, ((ofLines_eq_error_iff _ _).2.2 _ hread).1⟩

end Batch

end TomeSql
