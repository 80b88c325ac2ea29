/-
  Steps: what a reading does with each of its candidate lines.

  1. **Step** — the batch of the lines before a candidate line numbers the row of that line and judges
     the tome that comes of it.  The step records the line, the tome and the verdict (`stepAt`).

  2. **The run** — a reading that succeeds makes one step for each candidate line, in order
     (`map_line_steps`).  What holds at the start and survives a step holds of the steps and the batch
     after every reading that succeeds (`steps_induction`).

  3. **The batch** — its tomes and its tally are what the steps have recorded (`tomes_eq_steps`,
     `tally_eq_steps`).
-/
import TomeSql.Proofs.Batch.Decoding
import TomeSql.Proofs.Batch.Candidates

namespace TomeSql

namespace Batch

/-- What a reading does with a candidate line. -/
structure Step where
  /-- The trimmed line. -/
  line : Text
  /-- The tome of its row, with the entry that the row names or gets. -/
  tome : Tome
  verdict : Verdict
deriving DecidableEq

/-- The step at the line `raw` after the lines `earlier`, if they are read and it holds a row. -/
def stepAt (o : Options) (earlier : List Text) (raw : Text) : Option Step := do
  let b ← (ofLines o earlier).toOption
  let row ← (Row.ofLine raw).toOption.join
  let (b, t) ← (b.number row).toOption
  return ⟨Text.trim raw, t, judge o b t⟩

/-- The steps of a reading in line order. -/
def steps (o : Options) (lines : List Text) : List Step :=
  (withEarlier lines).filterMap fun l => stepAt o l.1 l.2

variable {o : Options}

/-- One more line is at most one more step, at the end. -/
theorem steps_concat (lines : List Text) (raw : Text) :
    steps o (lines ++ [raw]) = steps o lines ++ (stepAt o lines raw).toList := by
  rw [steps, withEarlier_concat, List.filterMap_append, steps]
  cases hstep : stepAt o lines raw <;> simp [hstep]

/-! ## One line -/

/-- The step that the batch makes at the line `line` with the row `row`. -/
def stepOf (o : Options) (b : Batch) (line : Text) (row : Row) : Step :=
  ⟨line, row.tome b.nextEntry, judge o b (row.tome b.nextEntry)⟩

/-- A line without a row makes no step, and a row makes one and enters it. -/
theorem stepAt_of_push {earlier : List Text} {raw : Text} {b b' : Batch}
    (hb : ofLines o earlier = .ok b) (hpush : b.push o raw = .ok b') :
    (candidateLines [raw] = [] ∧ stepAt o earlier raw = none ∧ b' = b) ∨
    ∃ (row : Row) (next : UInt32), candidateLines [raw] = [Text.trim raw] ∧
      Row.decode (Text.trim raw) = .ok row ∧
      next.toNat = b.nextEntry.toNat + [row].countP Row.isAutomatic ∧
      stepAt o earlier raw = some (stepOf o b (Text.trim raw) row) ∧
      b' = add o { b with nextEntry := next } (row.tome b.nextEntry) := by
  rw [push] at hpush
  obtain ⟨found, hline, hpush⟩ := bind_eq_ok_iff.mp hpush
  cases found with
  | none =>
    have hcomment := Row.ofLine_eq_ok_none_iff.mp hline
    cases hpush
    refine Or.inl ⟨by simp [candidateLines, hcomment], ?_, rfl⟩
    simp [stepAt, hb, hline, Except.toOption]
  | some row =>
    obtain ⟨hcandidate, hdecode⟩ := Row.ofLine_eq_ok_some_iff.mp hline
    obtain ⟨⟨b₁, t⟩, hnumber, hpush⟩ := bind_eq_ok_iff.mp hpush
    have hstep : stepAt o earlier raw = some ⟨Text.trim raw, t, judge o b₁ t⟩ := by
      simp [stepAt, hb, hline, hnumber, Except.toOption]
    obtain ⟨rfl, next, rfl, hnext⟩ := number_eq_ok hnumber
    cases hpush
    exact Or.inr ⟨row, next, by simp [candidateLines, hcandidate], hdecode, hnext, hstep, rfl⟩

/-! ## A whole reading -/

/-- There is a step for each candidate line, in order. -/
theorem map_line_steps {lines : List Text} {b : Batch} (h : ofLines o lines = .ok b) :
    (steps o lines).map (·.line) = candidateLines lines := by
  refine ofLines_induction (P := fun lines _ =>
    (steps o lines).map (·.line) = candidateLines lines) rfl ?_ h
  intro lines raw b b' hb ih hpush
  rw [steps_concat, List.map_append, ih, candidateLines_append]
  obtain ⟨hnone, hstep, -⟩ | ⟨row, next, hone, -, -, hstep, -⟩ := stepAt_of_push hb hpush
  · simp [hnone, hstep]
  · simp [hone, hstep, stepOf]

/-- The judgement does not look at the counter. -/
theorem judge_moved (b : Batch) (next : UInt32) (t : Tome) :
    judge o { b with nextEntry := next } t = judge o b t := rfl

/-- What holds of no steps and the empty batch, and survives one more step, holds of the steps and the
batch of every reading that succeeds. -/
theorem steps_induction {P : List Step → Batch → Prop} (start : P [] (empty o))
    (step : ∀ S b line row next, P S b → Row.decode line = .ok row →
      next.toNat = b.nextEntry.toNat + [row].countP Row.isAutomatic →
      P (S ++ [stepOf o b line row]) (add o { b with nextEntry := next } (row.tome b.nextEntry)))
    {lines : List Text} {b : Batch} (h : ofLines o lines = .ok b) : P (steps o lines) b := by
  refine ofLines_induction (P := fun lines b => P (steps o lines) b) start ?_ h
  intro lines raw b b' hb ih hpush
  rw [steps_concat]
  obtain ⟨-, hstep, rfl⟩ | ⟨row, next, -, hdecode, hnext, hstep, rfl⟩ := stepAt_of_push hb hpush
  · rw [hstep, Option.toList_none, List.append_nil]
    exact ih
  · rw [hstep, Option.toList_some]
    exact step _ _ _ row next ih hdecode hnext

/-- Every step judges the tome of its line's row. -/
theorem exists_eq_stepOf {lines : List Text} {b : Batch} (h : ofLines o lines = .ok b) :
    ∀ s ∈ steps o lines, ∃ (before : Batch) (row : Row), Row.decode s.line = .ok row ∧
      s = stepOf o before s.line row := by
  refine steps_induction (P := fun S _ => ∀ s ∈ S, ∃ (before : Batch) (row : Row),
    Row.decode s.line = .ok row ∧ s = stepOf o before s.line row) (by simp) ?_ h
  intro S b line row next ih hrow _ s hs
  rcases List.mem_append.mp hs with hold | hnew
  · exact ih s hold
  · obtain rfl := List.mem_singleton.mp hnew
    exact ⟨b, row, hrow, rfl⟩

/-- The tomes of a batch are those of the accepted steps. -/
theorem tomes_eq_steps {lines : List Text} {b : Batch} (h : ofLines o lines = .ok b) :
    b.tomes = ((steps o lines).filter (·.verdict = .accepted)).map (·.tome) := by
  refine steps_induction (P := fun S b =>
    b.tomes = (S.filter (·.verdict = .accepted)).map (·.tome)) rfl ?_ h
  intro S b line row next ih _ _
  rw [tomes_add, judge_moved, List.filter_append, List.map_append, ih]
  by_cases hv : judge o b (row.tome b.nextEntry) = .accepted <;> simp [stepOf, hv]

/-- The tally of steps: how many were left out for each reason. -/
def tallyOfSteps (S : List Step) : Tally where
  placeholder := S.countP (·.verdict = .placeholder)
  zeroLevel := S.countP (·.verdict = .zeroLevel)
  duplicateName := S.countP (·.verdict = .duplicateName)
  duplicateSpell := S.countP (·.verdict = .duplicateSpell)

/-- The tally of a batch is that of its steps. -/
theorem tally_eq_steps {lines : List Text} {b : Batch} (h : ofLines o lines = .ok b) :
    b.tally = tallyOfSteps (steps o lines) := by
  refine steps_induction (P := fun S b => b.tally = tallyOfSteps S) rfl ?_ h
  intro S b line row next ih _ _
  rw [add, judge_moved]
  cases hv : judge o b (row.tome b.nextEntry) <;>
    simp [enter, tallyOfSteps, List.countP_append, stepOf, hv, ih]

end Batch

end TomeSql
