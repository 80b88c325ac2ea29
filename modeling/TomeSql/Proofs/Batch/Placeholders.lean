/-
  Placeholders: which names that begin with the placeholder text are left out.

  1. **Two lower-case forms** — the filter puts the placeholder text and the name in lower case, each by
     itself, and compares the beginnings.  For a name that begins with the placeholder text as it
     stands, this asks whether the lower-case form of the name goes on from that of its beginning
     (`judge_eq_placeholder_iff`).

  2. **Main result (`ofLines_placeholder_iff`)** — it does, unless an open sigma of the placeholder text
     meets a cased letter in the name.  All rows but these are counted as placeholders, and none of
     them is accepted; a placeholder text without a capital sigma catches them all.

  3. **Refuted** — that every row whose name begins with the placeholder text is counted
     (`not_forall_verdict_placeholder`).
-/
import TomeSql.Proofs.Batch.Steps
import TomeSql.Proofs.Text.Case

namespace TomeSql

namespace Batch

variable {o : Options}

/-! ## One judgement -/

/-- The placeholder test comes first, and it looks at the name alone. -/
theorem judge_eq_placeholder_iff {b : Batch} {t : Tome} :
    judge o b t = .placeholder ↔ Text.lowercase o.placeholder <+: Text.lowercase t.name := by
  rw [← isPlaceholder_iff, judge]
  by_cases h : isPlaceholder o t = true
  · rw [if_pos h]
    exact iff_of_true rfl h
  · rw [if_neg h]
    refine iff_of_false ?_ h
    split_ifs <;> decide

/-! ## A whole reading -/

section

variable {lines : List Text} {b : Batch} {s : Step}

/-- The placeholder test of a step whose name begins with the placeholder text. -/
theorem verdict_eq_placeholder_iff (h : ofLines o lines = .ok b) (hs : s ∈ steps o lines)
    {rest : Text} (hname : s.tome.name = o.placeholder ++ rest) :
    s.verdict = .placeholder ↔
      ¬ (Text.OpenSigma [] o.placeholder ∧ Text.meetsCased rest = true) := by
  obtain ⟨before, row, -, hstep⟩ := exists_eq_stepOf h s hs
  have hverdict : s.verdict = judge o before s.tome := by
    rw [hstep]
    rfl
  rw [hverdict, judge_eq_placeholder_iff, hname, Text.lowercase_prefix_iff]

/-- A placeholder text without a capital sigma catches every name that begins with it. -/
theorem verdict_of_sigma_not_mem (h : ofLines o lines = .ok b) (hsigma : 'Σ' ∉ o.placeholder)
    (hs : s ∈ steps o lines) (hname : o.placeholder <+: s.tome.name) : s.verdict = .placeholder := by
  obtain ⟨rest, hrest⟩ := hname
  rw [verdict_eq_placeholder_iff h hs hrest.symm]
  exact fun hopen => Text.not_openSigma_of_not_mem hsigma hopen.1

end

/-- **Placeholders.**  A reading that succeeds counts the steps that are left out as placeholders, and
its tomes are those of the accepted steps.  Each step judges the tome of its line's row; if the name
of that tome begins with the placeholder text, the step is left out as a placeholder exactly when
no open sigma of the placeholder text meets a cased letter in the name. -/
theorem ofLines_placeholder_iff {lines : List Text} {b : Batch} (h : ofLines o lines = .ok b) :
    (steps o lines).map (·.line) = candidateLines lines ∧
    b.tally.placeholder = (steps o lines).countP (·.verdict = .placeholder) ∧
    b.tomes = ((steps o lines).filter (·.verdict = .accepted)).map (·.tome) ∧
    ∀ s ∈ steps o lines,
      (∃ row next, Row.decode s.line = .ok row ∧ s.tome = row.tome next) ∧
      ∀ rest, s.tome.name = o.placeholder ++ rest →
        (s.verdict = .placeholder ↔
          ¬ (Text.OpenSigma [] o.placeholder ∧ Text.meetsCased rest = true)) := by
  refine ⟨map_line_steps h, by rw [tally_eq_steps h]; rfl, tomes_eq_steps h, ?_⟩
  intro s hs
  refine ⟨?_, fun rest hname => verdict_eq_placeholder_iff h hs hname⟩
  obtain ⟨before, row, hrow, hstep⟩ := exists_eq_stepOf h s hs
  exact ⟨row, before.nextEntry, hrow, by rw [hstep]; rfl⟩

/-- The sigma that ends the placeholder text ends no word in the first name, and ends one in the
second. -/
theorem ofLines_placeholder_iff_of_sigma :
    ∃ b, ofLines { placeholder := "ΑΣ".toList } ["1\tΑΣΑ".toList, "2\tΑΣ.".toList] = .ok b ∧
      b.tomes = [⟨91000, 1, "ΑΣΑ".toList, none⟩] ∧ b.tally.placeholder = 1 ∧
      ∀ s ∈ steps { placeholder := "ΑΣ".toList } ["1\tΑΣΑ".toList, "2\tΑΣ.".toList], ∀ rest,
        s.tome.name = "ΑΣ".toList ++ rest →
          (s.verdict = .placeholder ↔ Text.meetsCased rest = false) := by
  have h := @ofLines_placeholder_iff { placeholder := "ΑΣ".toList }
    ["1\tΑΣΑ".toList, "2\tΑΣ.".toList] _ rfl
  have hopen : Text.OpenSigma [] "ΑΣ".toList := by decide +kernel
  refine ⟨_, rfl, rfl, rfl, fun s hs rest hname => ?_⟩
  rw [(h.2.2.2 s hs).2 rest hname, Bool.eq_false_iff]
  exact ⟨fun hnot hmeets => hnot ⟨hopen, hmeets⟩, fun hnot hboth => hnot hboth.2⟩

/-- The name `ΑΣΑ` begins with the placeholder text `ΑΣ`, and its row is accepted. -/
theorem not_forall_verdict_placeholder :
    ¬ ∀ (o : Options) (lines : List Text) (b : Batch), ofLines o lines = .ok b →
      ∀ s ∈ steps o lines, o.placeholder <+: s.tome.name → s.verdict = .placeholder := by
  intro h
  have hread := h { placeholder := "ΑΣ".toList } ["1\tΑΣΑ".toList] _ rfl
    ⟨"1\tΑΣΑ".toList, ⟨91000, 1, "ΑΣΑ".toList, none⟩, .accepted⟩ (by decide +kernel) (by decide)
  cases hread

end Batch

end TomeSql
