/-
  Verdicts without a state: what becomes of a candidate, read off the candidates before it.

  1. **First of its name** — a candidate that is neither a placeholder nor without a positive level
     reaches the name test, and is the first of its name when no earlier one that reached the test
     has the same name key.

  2. **Verdict** — `HasVerdict` says for each verdict which candidates get it.  The spell test looks
     at the earlier candidates that were the first of their names, whatever became of those: one
     that was left out for its spell repeats a spell that is taken already.

  3. **The crux (`Accounts.add`)** — the names and spells of a batch are those that the earlier
     candidates take by this rule, so that the judgement of the batch and the rule agree on the next
     candidate, and the batch accounts for that one too.
-/
import TomeSql.Proofs.Batch.Candidates
import Mathlib.Logic.ExistsUnique

namespace TomeSql

/-! ## Selecting with a look at the earlier members -/

/-- The members of a list that satisfy `p` together with the members before them. -/
def selectWith {α : Type} (p : List α → α → Prop) [∀ earlier a, Decidable (p earlier a)]
    (l : List α) : List α :=
  ((withEarlier l).filter fun a => p a.1 a.2).map Prod.snd

section

variable {α : Type} (p : List α → α → Prop) [∀ earlier a, Decidable (p earlier a)]

theorem selectWith_concat (l : List α) (a : α) :
    selectWith p (l ++ [a]) = selectWith p l ++ if p l a then [a] else [] := by
  rw [selectWith, withEarlier_concat, List.filter_append, List.map_append, selectWith]
  by_cases h : p l a <;> simp [h]

/-- What is selected are the members with the property in one of their places. -/
theorem mem_selectWith_iff {l : List α} {a : α} :
    a ∈ selectWith p l ↔ ∃ earlier later, l = earlier ++ a :: later ∧ p earlier a := by
  simp only [selectWith, List.mem_map, List.mem_filter, decide_eq_true_eq, Prod.exists,
    mem_withEarlier_iff]
  constructor
  · rintro ⟨earlier, a, ⟨⟨later, hl⟩, hp⟩, rfl⟩
    exact ⟨earlier, later, hl, hp⟩
  · rintro ⟨earlier, later, hl, hp⟩
    exact ⟨earlier, a, ⟨⟨later, hl⟩, hp⟩, rfl⟩

end

namespace Batch

variable (o : Options)

/-! ## The rule -/

/-- The candidate comes as far as the name test. -/
def ReachesNames (t : Tome) : Prop := isPlaceholder o t = false ∧ hasZeroLevel t = false

/-- An earlier candidate that reached the name test has the name. -/
def NameTaken (earlier : List Tome) (t : Tome) : Prop :=
  ∃ s ∈ earlier, ReachesNames o s ∧ s.nameKey = t.nameKey

/-- The candidate is the first of its name. -/
def FirstOfName (earlier : List Tome) (t : Tome) : Prop :=
  ReachesNames o t ∧ ¬ NameTaken o earlier t

instance (t : Tome) : Decidable (ReachesNames o t) := inferInstanceAs (Decidable (_ ∧ _))

instance (earlier : List Tome) (t : Tome) : Decidable (NameTaken o earlier t) :=
  inferInstanceAs (Decidable (∃ s ∈ earlier, _))

instance (earlier : List Tome) (t : Tome) : Decidable (FirstOfName o earlier t) :=
  inferInstanceAs (Decidable (_ ∧ _))

/-- An earlier candidate that was the first of its name has the spell. -/
def SpellTaken (earlier : List Tome) (t : Tome) : Prop :=
  ∃ s ∈ selectWith (FirstOfName o) earlier, s.spell = t.spell

instance (earlier : List Tome) (t : Tome) : Decidable (SpellTaken o earlier t) :=
  inferInstanceAs (Decidable (∃ s ∈ _, _))

/-- The candidate `t` gets the verdict when it comes after the candidates `earlier`. -/
def HasVerdict (earlier : List Tome) (t : Tome) : Verdict → Prop
  | .placeholder => isPlaceholder o t = true
  | .zeroLevel => isPlaceholder o t = false ∧ hasZeroLevel t = true
  | .duplicateName => ReachesNames o t ∧ NameTaken o earlier t
  | .duplicateSpell => FirstOfName o earlier t ∧ SpellTaken o earlier t
  | .accepted => FirstOfName o earlier t ∧ ¬ SpellTaken o earlier t

instance (earlier : List Tome) (t : Tome) : (v : Verdict) → Decidable (HasVerdict o earlier t v)
  | .placeholder => inferInstanceAs (Decidable (_ = _))
  | .zeroLevel => inferInstanceAs (Decidable (_ ∧ _))
  | .duplicateName => inferInstanceAs (Decidable (_ ∧ _))
  | .duplicateSpell => inferInstanceAs (Decidable (_ ∧ _))
  | .accepted => inferInstanceAs (Decidable (_ ∧ _))

/-- The candidates that get the verdict, in their order. -/
def withVerdict (v : Verdict) (cs : List Tome) : List Tome :=
  selectWith (fun earlier t => HasVerdict o earlier t v) cs

/-- The number of candidates left out for each reason. -/
def tallyOf (cs : List Tome) : Tally where
  placeholder := (withVerdict o .placeholder cs).length
  zeroLevel := (withVerdict o .zeroLevel cs).length
  duplicateName := (withVerdict o .duplicateName cs).length
  duplicateSpell := (withVerdict o .duplicateSpell cs).length

variable {o}

/-- A tome has one verdict only, since each test comes after the ones before it have passed. -/
theorem hasVerdict_unique {earlier : List Tome} {t : Tome} {v w : Verdict}
    (hv : HasVerdict o earlier t v) (hw : HasVerdict o earlier t w) : v = w := by
  -- four questions settle a candidate, and each verdict answers them in its own way
  by_cases hp : isPlaceholder o t <;> by_cases hz : hasZeroLevel t <;>
    by_cases hn : NameTaken o earlier t <;> by_cases hs : SpellTaken o earlier t <;>
    cases v <;> cases w <;> simp_all [HasVerdict, FirstOfName, ReachesNames]

/-- Every tome has a verdict, since passing all tests is one too. -/
theorem exists_hasVerdict (earlier : List Tome) (t : Tome) : ∃ v, HasVerdict o earlier t v := by
  by_cases hp : isPlaceholder o t
  · exact ⟨.placeholder, hp⟩
  by_cases hz : hasZeroLevel t
  · exact ⟨.zeroLevel, by simpa using hp, hz⟩
  have hr : ReachesNames o t := ⟨by simpa using hp, by simpa using hz⟩
  by_cases hn : NameTaken o earlier t
  · exact ⟨.duplicateName, hr, hn⟩
  by_cases hs : SpellTaken o earlier t
  · exact ⟨.duplicateSpell, ⟨hr, hn⟩, hs⟩
  · exact ⟨.accepted, ⟨hr, hn⟩, hs⟩

variable (o) in
/-- Every candidate is accepted or counted once. -/
theorem length_withVerdict_add_total (cs : List Tome) :
    (withVerdict o .accepted cs).length + (tallyOf o cs).total = cs.length := by
  induction cs using List.reverseRecOn with
  | nil => rfl
  | append_singleton cs t ih =>
    obtain ⟨v, hv⟩ := exists_hasVerdict (o := o) cs t
    have hcount : ∀ w, (withVerdict o w (cs ++ [t])).length =
        (withVerdict o w cs).length + if v = w then 1 else 0 := by
      intro w
      rw [withVerdict, selectWith_concat, List.length_append]
      by_cases hw : HasVerdict o cs t w
      · simp [withVerdict, hw, hasVerdict_unique hv hw]
      · have hne : v ≠ w := fun h => hw (h ▸ hv)
        simp [withVerdict, hw, hne]
    simp only [tallyOf, Tally.total, hcount, List.length_append, List.length_singleton] at ih ⊢
    cases v <;> simp <;> omega

/-! ## One candidate -/

/-- What the judgement of a batch says of the candidate and of what is taken. -/
theorem judge_spec (b : Batch) (t : Tome) : match judge o b t with
    | .placeholder => isPlaceholder o t = true
    | .zeroLevel => isPlaceholder o t = false ∧ hasZeroLevel t = true
    | .duplicateName => ReachesNames o t ∧ t.nameKey ∈ b.names
    | .duplicateSpell => ReachesNames o t ∧ t.nameKey ∉ b.names ∧ t.spell ∈ b.spells
    | .accepted => ReachesNames o t ∧ t.nameKey ∉ b.names ∧ t.spell ∉ b.spells := by
  by_cases hp : isPlaceholder o t
  · simp [judge, hp]
  by_cases hz : hasZeroLevel t
  · simp [judge, hp, hz]
  by_cases hn : t.nameKey ∈ b.names
  · simp [judge, hp, hz, hn, ReachesNames]
  by_cases hs : t.spell ∈ b.spells
  · simp [judge, hp, hz, hn, hs, ReachesNames]
  · simp [judge, hp, hz, hn, hs, ReachesNames]

/-- A name is taken by a row that gets as far as the names, even if its spell is a duplicate. -/
theorem mem_names_add {b : Batch} {t : Tome} {k : Text} :
    k ∈ (add o b t).names ↔ k ∈ b.names ∨ ReachesNames o t ∧ t.nameKey = k := by
  have h := judge_spec (o := o) b t
  rw [add]
  cases hj : judge o b t <;> rw [hj] at h
  case placeholder => simp_all [enter, ReachesNames]
  case zeroLevel => simp_all [enter, ReachesNames]
  case duplicateName =>
    obtain ⟨hr, hn⟩ := h
    simp only [enter, hr, true_and, iff_self_or]
    rintro rfl
    exact hn
  case duplicateSpell => simp [enter, h.1, eq_comm]
  case accepted => simp [enter, h.1, eq_comm]

/-- A spell is taken by a row that gets as far as the spells. -/
theorem mem_spells_add {b : Batch} {t : Tome} {x : UInt32} :
    x ∈ (add o b t).spells ↔
      x ∈ b.spells ∨ (ReachesNames o t ∧ t.nameKey ∉ b.names) ∧ t.spell = x := by
  have h := judge_spec (o := o) b t
  rw [add]
  cases hj : judge o b t <;> rw [hj] at h
  case placeholder => simp_all [enter, ReachesNames]
  case zeroLevel => simp_all [enter, ReachesNames]
  case duplicateName => simp_all [enter]
  case duplicateSpell =>
    -- the spell is taken already, so that this first of its name adds none
    obtain ⟨hr, hn, hs⟩ := h
    simp only [enter, hr, hn, not_false_eq_true, true_and, iff_self_or]
    rintro rfl
    exact hs
  case accepted => simp [enter, h.1, h.2.1, eq_comm]

/-! ## A whole reading -/

variable (o) in
/-- The batch is what the rule makes of the candidates. -/
structure Accounts (cs : List Tome) (b : Batch) : Prop where
  mem_names : ∀ k, k ∈ b.names ↔ ∃ s ∈ cs, ReachesNames o s ∧ s.nameKey = k
  mem_spells : ∀ x, x ∈ b.spells ↔ ∃ s ∈ selectWith (FirstOfName o) cs, s.spell = x
  tomes : b.tomes = withVerdict o .accepted cs
  tally : b.tally = tallyOf o cs

namespace Accounts

variable {cs : List Tome} {b : Batch}

theorem start : Accounts o [] (empty o) where
  mem_names := by simp [empty]
  mem_spells := by simp [empty, selectWith, withEarlier_nil]
  tomes := rfl
  tally := rfl

theorem move (h : Accounts o cs b) (next : UInt32) :
    Accounts o cs { b with nextEntry := next } :=
  ⟨h.mem_names, h.mem_spells, h.tomes, h.tally⟩

/-- The batch and the rule agree on the next candidate. -/
theorem hasVerdict_judge (h : Accounts o cs b) (t : Tome) : HasVerdict o cs t (judge o b t) := by
  have hspec := judge_spec (o := o) b t
  have hname : t.nameKey ∈ b.names ↔ NameTaken o cs t := h.mem_names t.nameKey
  have hspell : t.spell ∈ b.spells ↔ SpellTaken o cs t := h.mem_spells t.spell
  cases hj : judge o b t <;> rw [hj] at hspec <;> simp_all [HasVerdict, FirstOfName]

/-- So the verdict by the candidates before a tome is the one that the batch gives. -/
theorem hasVerdict_iff (h : Accounts o cs b) (t : Tome) (v : Verdict) :
    HasVerdict o cs t v ↔ judge o b t = v := by
  constructor
  · exact fun hv => hasVerdict_unique (h.hasVerdict_judge t) hv
  · rintro rfl
    exact h.hasVerdict_judge t

/-- One more candidate goes to the verdict that the batch gives it. -/
theorem withVerdict_concat (h : Accounts o cs b) (t : Tome) (v : Verdict) :
    withVerdict o v (cs ++ [t]) = withVerdict o v cs ++ if judge o b t = v then [t] else [] := by
  rw [withVerdict, selectWith_concat]
  simp only [h.hasVerdict_iff]
  rfl

/-- A batch that accounts for the candidates so far accounts for one more after judging it. -/
theorem add (h : Accounts o cs b) (t : Tome) : Accounts o (cs ++ [t]) (b.add o t) where
  mem_names k := by
    rw [mem_names_add, h.mem_names]
    simp [or_and_right, exists_or]
  mem_spells x := by
    have hfirst : ReachesNames o t ∧ t.nameKey ∉ b.names ↔ FirstOfName o cs t := by
      rw [h.mem_names]
      rfl
    rw [mem_spells_add, h.mem_spells, hfirst, selectWith_concat]
    by_cases hf : FirstOfName o cs t <;> simp [hf, or_and_right, exists_or]
  tomes := by rw [tomes_add, h.withVerdict_concat, h.tomes]
  tally := by
    simp only [tallyOf, h.withVerdict_concat, List.length_append, Batch.add]
    cases judge o b t <;> simp [enter, h.tally, tallyOf]

end Accounts

/-- A reading that succeeds accounts for its candidates. -/
theorem accounts_of_ofLines {lines : List Text} {b : Batch} (h : ofLines o lines = .ok b) :
    Accounts o (candidates o lines) b :=
  candidates_induction Accounts.start (fun _ _ next h => h.move next) (fun _ _ t h => h.add t) h

/-- **The filters without a state.**  After a reading that succeeds every candidate line has been
decoded, every candidate has exactly one verdict, the tomes of the batch are the accepted candidates
in line order, and the tally counts the others by their verdicts. -/
theorem ofLines_eq_withVerdict {lines : List Text} {b : Batch} (h : ofLines o lines = .ok b) :
    (candidateLines lines).map Row.decode = (rows lines).map Except.ok ∧
    (∀ earlier t later, candidates o lines = earlier ++ t :: later →
      ∃! v, HasVerdict o earlier t v) ∧
    b.tomes = withVerdict o .accepted (candidates o lines) ∧
    b.tally = tallyOf o (candidates o lines) ∧
    b.tomes.length + b.tally.total = (candidateLines lines).length := by
  have hdecode := map_decode_candidateLines h
  have haccounts := accounts_of_ofLines h
  refine ⟨hdecode, ?_, haccounts.tomes, haccounts.tally, ?_⟩
  · intro earlier t _ _
    obtain ⟨v, hv⟩ := exists_hasVerdict (o := o) earlier t
    exact ⟨v, hv, fun w hw => hasVerdict_unique hw hv⟩
  · rw [haccounts.tomes, haccounts.tally, length_withVerdict_add_total, length_candidates]
    simpa using (congrArg List.length hdecode).symm

/-- The second row loses its spell to the first one and still keeps the third from their name; the
spell of the third is free for the fourth. -/
theorem ofLines_eq_withVerdict_overlapping :
    ∃ b, ofLines {} ["1\tBlink".toList, "1\tSlow".toList, "2\tSlow".toList, "2\tPoly".toList] = .ok b ∧
      b.tomes = [⟨91000, 1, "Blink".toList, none⟩, ⟨91003, 2, "Poly".toList, none⟩] ∧
      b.tomes = withVerdict {} .accepted (candidates {}
        ["1\tBlink".toList, "1\tSlow".toList, "2\tSlow".toList, "2\tPoly".toList]) :=
  ⟨_, rfl, rfl, (ofLines_eq_withVerdict rfl).2.2.1⟩

end Batch

end TomeSql
