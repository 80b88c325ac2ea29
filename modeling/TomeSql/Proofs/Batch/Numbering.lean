/-
  Numbering: which entry each row gets, and how a reading hangs on the first one.

  1. **Counted (`Numbered`)** — the row of a line of fewer than four fields gets the first entry plus
     the number of such lines before it, whatever became of those.  The row of any other line has the
     entry that its first field names, and the counter does not notice it.

  2. **Order** — so the entries that the counter gives grow from line to line
     (`Numbered.pairwise_lt`), and those of the accepted rows among them do too.

  3. **The crux (`Alike`)** — no filter looks at an entry or at the counter.  Two readings of the same
     lines that differ in their first entry stay alike in all that the filters look at: they make the
     same verdicts, and their entries differ by the difference of the first ones or not at all
     (`forall₂_renumbered`).
-/
import TomeSql.Proofs.Batch.Steps
import Mathlib.Data.List.Forall2

namespace TomeSql

namespace Batch

variable {o : Options}

/-! ## Counting -/

/-- The row of the step got its entry from the counter. -/
def Step.TakesEntry (s : Step) : Prop := Row.TakesEntry s.line

instance (s : Step) : Decidable s.TakesEntry := inferInstanceAs (Decidable (Row.TakesEntry s.line))

/-- The steps have been numbered from `first` on, and `next` is the entry that comes after them. -/
structure Numbered (first : UInt32) (S : List Step) (next : UInt32) : Prop where
  automatic : ∀ earlier s later, S = earlier ++ s :: later → s.TakesEntry →
    s.tome.entry.toNat = first.toNat + earlier.countP (·.TakesEntry)
  named : ∀ s ∈ S, ¬ s.TakesEntry → Row.NamesEntry s.line s.tome.entry
  counter : next.toNat = first.toNat + S.countP (·.TakesEntry)

/-- A row without an entry of its own gets the one that is next. -/
theorem entry_tome_of_isAutomatic {row : Row} (h : row.isAutomatic = true) (next : UInt32) :
    (row.tome next).entry = next := by
  cases row with
  | automatic => rfl
  | explicit => cases h

namespace Numbered

variable {first next next' : UInt32} {S : List Step} {b : Batch} {line : Text} {row : Row}

theorem start (first : UInt32) : Numbered first [] first where
  automatic := by simp
  named := by simp
  counter := by simp

/-- One more step gets the entry at which the counter stands, or the one that its line names. -/
theorem concat (h : Numbered first S b.nextEntry) (hrow : Row.decode line = .ok row)
    (hnext : next'.toNat = b.nextEntry.toNat + [row].countP Row.isAutomatic) :
    Numbered first (S ++ [stepOf o b line row]) next' := by
  have hshape := Row.isAutomatic_or_explicit_of_decode hrow
  constructor
  case automatic =>
    intro earlier s later hcut htakes
    have hmem : (earlier, s) ∈ withEarlier (S ++ [stepOf o b line row]) :=
      mem_withEarlier_iff.mpr ⟨later, hcut⟩
    rw [withEarlier_concat, List.mem_append, List.mem_singleton] at hmem
    rcases hmem with hold | hnew
    · obtain ⟨later', hS⟩ := mem_withEarlier_iff.mp hold
      exact h.automatic earlier s later' hS htakes
    · cases hnew
      obtain ⟨-, hauto⟩ | ⟨hnames, -⟩ := hshape
      · have hentry : (stepOf o b line row).tome.entry = b.nextEntry :=
          entry_tome_of_isAutomatic hauto b.nextEntry
        rw [hentry, h.counter]
      · exact absurd htakes hnames
  case named =>
    intro s hs hnames
    rcases List.mem_append.mp hs with hold | hnew
    · exact h.named s hold hnames
    · obtain rfl := List.mem_singleton.mp hnew
      obtain ⟨htakes, -⟩ | ⟨-, -, hentry⟩ := hshape
      · exact absurd htakes hnames
      · exact hentry b.nextEntry
  case counter =>
    rw [hnext, h.counter, List.countP_append, Nat.add_assoc]
    obtain ⟨htakes, hauto⟩ | ⟨hnames, hauto, -⟩ := hshape
    · have hstep : (stepOf o b line row).TakesEntry := htakes
      simp [hstep, hauto]
    · have hstep : ¬ (stepOf o b line row).TakesEntry := hnames
      simp [hstep, hauto]

/-- The entries that the counter gives grow. -/
theorem pairwise_lt (h : Numbered first S next) :
    (S.filter (·.TakesEntry)).Pairwise fun s t => s.tome.entry < t.tome.entry := by
  have hautomatic := h.automatic
  clear h
  induction S using List.reverseRecOn with
  | nil => exact List.Pairwise.nil
  | append_singleton S t ih =>
    have hS : ∀ earlier s later, S = earlier ++ s :: later → s.TakesEntry →
        s.tome.entry.toNat = first.toNat + earlier.countP (·.TakesEntry) := by
      intro earlier s later hcut
      exact hautomatic earlier s (later ++ [t]) (by simp [hcut])
    rw [List.filter_append, List.pairwise_append]
    refine ⟨ih hS, List.Pairwise.filter _ (List.pairwise_singleton _ t), ?_⟩
    intro s hs u hu
    -- between the two stand the rows behind `s`, and `s` itself is counted before `t`
    obtain ⟨hs, hstakes⟩ := List.mem_filter.mp hs
    obtain ⟨hu, hutakes⟩ := List.mem_filter.mp hu
    obtain rfl := List.mem_singleton.mp hu
    obtain ⟨earlier, later, hcut⟩ := List.append_of_mem hs
    have hsentry := hS earlier s later hcut (of_decide_eq_true hstakes)
    have huentry := hautomatic S u [] rfl (of_decide_eq_true hutakes)
    rw [hcut, List.countP_append, List.countP_cons, if_pos hstakes] at huentry
    rw [UInt32.lt_iff_toNat_lt]
    omega

end Numbered

/-- The rows of every reading are numbered from the first entry on. -/
theorem numbered_of_ofLines {lines : List Text} {b : Batch} (h : ofLines o lines = .ok b) :
    Numbered o.firstEntry (steps o lines) b.nextEntry := by
  refine steps_induction (P := fun S b => Numbered o.firstEntry S b.nextEntry)
    (Numbered.start o.firstEntry) ?_ h
  intro S b line row next ih hrow hnext
  rw [nextEntry_add]
  exact ih.concat hrow hnext

/-- The counter, said of the lines. -/
theorem nextEntry_eq_countP {lines : List Text} {b : Batch} (h : ofLines o lines = .ok b) :
    b.nextEntry.toNat = o.firstEntry.toNat + (candidateLines lines).countP (Row.TakesEntry ·) := by
  rw [(numbered_of_ofLines h).counter, ← map_line_steps h, List.countP_map]
  rfl

/-! ## Two readings -/

/-- The tomes differ at most in their entries. -/
structure SameButEntry (t t' : Tome) : Prop where
  spell : t'.spell = t.spell
  name : t'.name = t.name
  level : t'.level = t.level

theorem SameButEntry.nameKey {t t' : Tome} (h : SameButEntry t t') : t'.nameKey = t.nameKey := by
  rw [Tome.nameKey, Tome.nameKey, h.name]

/-- The second step is the first one with its entry moved along with the first entry of the reading,
if the counter gave it. -/
structure Step.Renumbered (first first' : UInt32) (s s' : Step) : Prop where
  line : s'.line = s.line
  verdict : s'.verdict = s.verdict
  tome : SameButEntry s.tome s'.tome
  automatic : s.TakesEntry →
    (s'.tome.entry.toNat : Int) - s.tome.entry.toNat = (first'.toNat : Int) - first.toNat
  named : ¬ s.TakesEntry → s'.tome.entry = s.tome.entry

/-- The batches agree in all that the filters look at and count. -/
structure Alike (b b' : Batch) : Prop where
  names : b'.names = b.names
  spells : b'.spells = b.spells
  tally : b'.tally = b.tally

namespace Alike

variable {b b' : Batch} {t t' : Tome}

/-- The judgement looks at no entry. -/
theorem judge (h : Alike b b') (ht : SameButEntry t t') (first' : UInt32) :
    Batch.judge { o with firstEntry := first' } b' t' = Batch.judge o b t := by
  have hplaceholder : isPlaceholder { o with firstEntry := first' } t' = isPlaceholder o t := by
    rw [isPlaceholder, isPlaceholder, ht.name]
  have hzero : hasZeroLevel t' = hasZeroLevel t := by
    rw [hasZeroLevel, hasZeroLevel, ht.level]
  simp only [Batch.judge, hplaceholder, hzero, ht.nameKey, ht.spell, h.names, h.spells]

/-- Batches stay alike when each enters the same candidate, whatever its entry. -/
theorem add (h : Alike b b') (ht : SameButEntry t t') (first' : UInt32) :
    Alike (Batch.add o b t) (Batch.add { o with firstEntry := first' } b' t') := by
  rw [Batch.add, Batch.add, h.judge ht first']
  cases Batch.judge o b t <;>
    exact ⟨by simp [enter, h.names, ht.nameKey], by simp [enter, h.spells, ht.spell],
      by simp [enter, h.tally]⟩

end Alike

/-- The counter gives a row nothing but its entry. -/
theorem sameButEntry_tome (row : Row) (next next' : UInt32) :
    SameButEntry (row.tome next) (row.tome next') := by
  cases row <;> exact ⟨rfl, rfl, rfl⟩

/-- A row that names its entry has it whatever the counter says. -/
theorem entry_tome_of_not_isAutomatic {row : Row} (h : row.isAutomatic = false)
    (next next' : UInt32) : (row.tome next').entry = (row.tome next).entry := by
  cases row with
  | automatic => cases h
  | explicit => rfl

/-- Alike batches whose counters differ by the first entries make the same step with a row, up to the
entry. -/
theorem Alike.renumbered {b b' : Batch} {first' : UInt32} {line : Text} {row : Row}
    (h : Alike b b') (hrow : Row.decode line = .ok row)
    (hcounter : (b'.nextEntry.toNat : Int) - b.nextEntry.toNat =
      (first'.toNat : Int) - o.firstEntry.toNat) :
    Step.Renumbered o.firstEntry first' (stepOf o b line row)
      (stepOf { o with firstEntry := first' } b' line row) where
  line := rfl
  verdict := h.judge (sameButEntry_tome row b.nextEntry b'.nextEntry) first'
  tome := sameButEntry_tome row b.nextEntry b'.nextEntry
  automatic := by
    intro htakes
    obtain ⟨-, hauto⟩ | ⟨hnames, -⟩ := Row.isAutomatic_or_explicit_of_decode hrow
    · simpa only [stepOf, entry_tome_of_isAutomatic hauto] using hcounter
    · exact absurd htakes hnames
  named := by
    intro hnames
    obtain ⟨htakes, -⟩ | ⟨-, hexplicit, -⟩ := Row.isAutomatic_or_explicit_of_decode hrow
    · exact absurd htakes hnames
    · exact entry_tome_of_not_isAutomatic hexplicit _ _

/-- Two readings of the same lines stay alike, and make the same steps up to the entries. -/
theorem forall₂_renumbered {first' : UInt32} {lines : List Text} {b b' : Batch}
    (h : ofLines o lines = .ok b) (h' : ofLines { o with firstEntry := first' } lines = .ok b') :
    Alike b b' ∧ List.Forall₂ (Step.Renumbered o.firstEntry first') (steps o lines)
      (steps { o with firstEntry := first' } lines) := by
  refine ofLines_induction (P := fun lines b => ∀ b',
    ofLines { o with firstEntry := first' } lines = .ok b' → Alike b b' ∧
      List.Forall₂ (Step.Renumbered o.firstEntry first') (steps o lines)
        (steps { o with firstEntry := first' } lines)) ?_ ?_ h b' h'
  · intro b' hb'
    cases hb'
    exact ⟨⟨rfl, rfl, rfl⟩, List.Forall₂.nil⟩
  · intro lines raw b c hb ih hpush c' hc'
    obtain ⟨b', hb', hpush'⟩ := ofLines_concat_eq_ok hc'
    obtain ⟨halike, hsteps⟩ := ih b' hb'
    rw [steps_concat, steps_concat]
    obtain ⟨hnone, hstep, rfl⟩ | ⟨row, next, hone, hrow, -, hstep, rfl⟩ := stepAt_of_push hb hpush <;>
      obtain ⟨hnone', hstep', rfl⟩ | ⟨row', next', hone', hrow', -, hstep', rfl⟩ :=
        stepAt_of_push hb' hpush'
    · rw [hstep, hstep']
      simpa using ⟨halike, hsteps⟩
    · rw [hnone] at hone'
      cases hone'
    · rw [hone] at hnone'
      cases hnone'
    · rw [hrow] at hrow'
      cases hrow'
      -- both counters have been moved by the same rows
      have hcounter := nextEntry_toNat hb
      have hcounter' : b'.nextEntry.toNat =
          first'.toNat + (rows lines).countP Row.isAutomatic := nextEntry_toNat hb'
      have hmoves : (b'.nextEntry.toNat : Int) - b.nextEntry.toNat =
          (first'.toNat : Int) - o.firstEntry.toNat := by omega
      have hnew := halike.renumbered hrow hmoves
      have hmoved : Alike { b with nextEntry := next } { b' with nextEntry := next' } :=
        ⟨halike.names, halike.spells, halike.tally⟩
      rw [hstep, hstep', Option.toList_some, Option.toList_some]
      exact ⟨hmoved.add (sameButEntry_tome row b.nextEntry b'.nextEntry) first',
        List.rel_append hsteps (List.Forall₂.cons hnew List.Forall₂.nil)⟩

/-- **Entries are counted exactly.**  In a reading that succeeds every candidate line makes a step.
The row of a line of fewer than four fields gets the first entry plus the number of such lines before
it, accepted or not; any other row has the entry that it names.  The counter ends behind the last
entry given, inside its range, and the entries given to accepted rows grow.  A reading of the same
lines from another first entry accepts and leaves out the same lines for the same reasons, keeps the
entries that are named and moves the others by the difference of the first entries. -/
theorem ofLines_numbered {lines : List Text} {b : Batch} (h : ofLines o lines = .ok b) :
    (steps o lines).map (·.line) = candidateLines lines ∧
    b.tomes = ((steps o lines).filter (·.verdict = .accepted)).map (·.tome) ∧
    Numbered o.firstEntry (steps o lines) b.nextEntry ∧
    b.nextEntry.toNat = o.firstEntry.toNat + (candidateLines lines).countP (Row.TakesEntry ·) ∧
    o.firstEntry.toNat + (candidateLines lines).countP (Row.TakesEntry ·) ≤ 4294967295 ∧
    (((steps o lines).filter fun s => s.verdict = .accepted ∧ s.TakesEntry).map
      (·.tome.entry)).Pairwise (· < ·) ∧
    ∀ first' b', ofLines { o with firstEntry := first' } lines = .ok b' →
      b'.tally = b.tally ∧ List.Forall₂ (Step.Renumbered o.firstEntry first') (steps o lines)
        (steps { o with firstEntry := first' } lines) := by
  have hnumbered := numbered_of_ofLines h
  have hcounter := nextEntry_eq_countP h
  refine ⟨map_line_steps h, tomes_eq_steps h, hnumbered, hcounter, ?_, ?_, ?_⟩
  · have hmax := b.nextEntry.toNat_lt
    omega
  · have haccepted := hnumbered.pairwise_lt.filter (·.verdict = .accepted)
    rw [List.filter_filter] at haccepted
    rw [List.pairwise_map]
    simpa using haccepted
  · intro first' b' h'
    obtain ⟨halike, hsteps⟩ := forall₂_renumbered h h'
    exact ⟨halike.tally, hsteps⟩

/-- The second row is left out and has spent its entry, the third names one; from the first entry 7
the counter gives 7, 8 and 9. -/
theorem ofLines_numbered_of_dropped_row :
    ∃ b b', ofLines {} ["1\tBlink".toList, "1\tSlow".toList, "500\t2\tPoly\t5".toList,
        "3\tFrost".toList] = .ok b ∧
      ofLines { firstEntry := 7 } ["1\tBlink".toList, "1\tSlow".toList, "500\t2\tPoly\t5".toList,
        "3\tFrost".toList] = .ok b' ∧
      b.tomes.map (·.entry) = [91000, 500, 91002] ∧ b'.tomes.map (·.entry) = [7, 500, 9] ∧
      b.nextEntry.toNat = 91000 + (candidateLines ["1\tBlink".toList, "1\tSlow".toList,
        "500\t2\tPoly\t5".toList, "3\tFrost".toList]).countP (Row.TakesEntry ·) ∧
      b'.tally = b.tally := by
  have h := @ofLines_numbered {} ["1\tBlink".toList, "1\tSlow".toList, "500\t2\tPoly\t5".toList,
    "3\tFrost".toList] _ rfl
  exact ⟨_, _, rfl, rfl, rfl, rfl, h.2.2.2.1, (h.2.2.2.2.2.2 7 _ rfl).1⟩

end Batch

end TomeSql
