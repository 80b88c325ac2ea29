/-
  Batch invariants: what holds of a reading after every beginning of its lines.

  1. **Distinct** — the spells of a batch are those of its tomes, and its names include the name
     keys of its tomes in order, each once.  The second is no equality: a row left out for its spell
     has already taken its name.

  2. **Consistent** — no two tomes share a spell or a name key, none is a placeholder or has a level
     that is not positive, names are trimmed and free of tabs, and what is taken is what the
     candidates so far took.

  3. **Main result (`ofLines_take_consistent`)** — after any number of lines that are read without a
     fault the batch is consistent, and the rest of the reading goes on from that very batch.
-/
import TomeSql.Proofs.Batch.Verdicts
import Mathlib.Data.List.Nodup

namespace TomeSql

namespace Batch

/-! ## Names of candidates -/

/-- A candidate is the tome of a row that was decoded from a trimmed line. -/
theorem exists_decode_of_mem_candidates {o : Options} {lines : List Text} {t : Tome}
    (h : t ∈ candidates o lines) :
    ∃ raw ∈ lines, ∃ row next, Row.decode (Text.trim raw) = .ok row ∧ t = row.tome next := by
  simp only [candidates, candidatesOf, List.mem_map, Prod.exists, mem_withEarlier_iff] at h
  obtain ⟨earlier, row, ⟨later, hrows⟩, rfl⟩ := h
  have hrow : row ∈ rows lines := by simp [hrows]
  simp only [rows, candidateLines, List.mem_filterMap, List.mem_map, List.mem_filter] at hrow
  obtain ⟨decoded, ⟨line, ⟨⟨raw, hraw, rfl⟩, -⟩, rfl⟩, hok⟩ := hrow
  cases hd : Row.decode (Text.trim raw) with
  | error fault => simp [hd, Except.toOption] at hok
  | ok found =>
    simp only [hd, Except.toOption, Option.some.injEq] at hok
    exact ⟨raw, hraw, row, _, hok ▸ hd, rfl⟩

/-- A name has no white space at its ends, since it is a trimmed field or made of a number. -/
theorem trim_name_of_mem_candidates {o : Options} {lines : List Text} {t : Tome}
    (h : t ∈ candidates o lines) : Text.trim t.name = t.name := by
  obtain ⟨raw, -, row, next, hd, rfl⟩ := exists_decode_of_mem_candidates h
  exact Row.trim_name_of_decode next hd

/-- A name holds no tab, since the line was cut there. -/
theorem tab_not_mem_name_of_mem_candidates {o : Options} {lines : List Text} {t : Tome}
    (h : t ∈ candidates o lines) : '\t' ∉ t.name := by
  obtain ⟨raw, -, row, next, hd, rfl⟩ := exists_decode_of_mem_candidates h
  exact Row.tab_not_mem_name_of_decode next hd

/-- Lines without breaks make names without breaks. -/
theorem isLineBreak_of_mem_name_of_mem_candidates {o : Options} {lines : List Text} {t : Tome}
    {c : Char} (h : t ∈ candidates o lines)
    (hlines : ∀ l ∈ lines, ∀ d ∈ l, Text.isLineBreak d = false) (hc : c ∈ t.name) :
    Text.isLineBreak c = false := by
  obtain ⟨raw, hraw, row, next, hd, rfl⟩ := exists_decode_of_mem_candidates h
  exact Row.isLineBreak_of_mem_name_of_decode hd
    (fun d hmem => hlines raw hraw d (Text.mem_of_mem_trim hmem)) hc

/-! ## What is taken once -/

/-- No spell and no name key is taken twice. -/
structure Distinct (b : Batch) : Prop where
  spells_eq : b.spells = b.tomes.map (·.spell)
  spells_nodup : b.spells.Nodup
  names_sublist : (b.tomes.map Tome.nameKey).Sublist b.names
  names_nodup : b.names.Nodup

namespace Distinct

variable {o : Options} {b : Batch}

theorem start (o : Options) : Distinct (empty o) where
  spells_eq := rfl
  spells_nodup := List.nodup_nil
  names_sublist := List.Sublist.slnil
  names_nodup := List.nodup_nil

theorem move (h : Distinct b) (next : UInt32) : Distinct { b with nextEntry := next } :=
  ⟨h.spells_eq, h.spells_nodup, h.names_sublist, h.names_nodup⟩

/-- What is added to the spells or the names was not in them. -/
theorem add (h : Distinct b) (t : Tome) : Distinct (b.add o t) := by
  have hspec := judge_spec (o := o) b t
  have hnames : t.nameKey ∉ b.names → (b.names ++ [t.nameKey]).Nodup := by
    intro hn
    simpa using List.Nodup.concat hn h.names_nodup
  rw [Batch.add]
  cases hj : judge o b t <;> rw [hj] at hspec
  -- three verdicts only count, and what is taken stays as it was
  case placeholder => exact ⟨h.spells_eq, h.spells_nodup, h.names_sublist, h.names_nodup⟩
  case zeroLevel => exact ⟨h.spells_eq, h.spells_nodup, h.names_sublist, h.names_nodup⟩
  case duplicateName => exact ⟨h.spells_eq, h.spells_nodup, h.names_sublist, h.names_nodup⟩
  case duplicateSpell =>
    obtain ⟨-, hn, -⟩ := hspec
    have hsublist : (b.tomes.map Tome.nameKey).Sublist (b.names ++ [t.nameKey]) :=
      h.names_sublist.trans (List.sublist_append_left _ _)
    exact ⟨h.spells_eq, h.spells_nodup, hsublist, hnames hn⟩
  case accepted =>
    obtain ⟨-, hn, hs⟩ := hspec
    have hspells : (b.spells ++ [t.spell]).Nodup := by
      simpa using List.Nodup.concat hs h.spells_nodup
    refine ⟨?_, hspells, ?_, hnames hn⟩
    · simp [enter, h.spells_eq]
    · simpa [enter] using h.names_sublist.append (List.Sublist.refl [t.nameKey])

end Distinct

/-- Rows are added one by one, so it holds of every batch that is read. -/
theorem distinct_of_ofLines {o : Options} {lines : List Text} {b : Batch}
    (h : ofLines o lines = .ok b) : Distinct b :=
  candidates_induction (P := fun _ b => Distinct b) (Distinct.start o)
    (fun _ _ next h => h.move next) (fun _ _ t h => h.add t) h

/-! ## Consistent batches -/

/-- What holds of the batch after the lines `lines`. -/
structure Consistent (o : Options) (lines : List Text) (b : Batch) : Prop where
  spells_nodup : (b.tomes.map (·.spell)).Nodup
  nameKeys_nodup : (b.tomes.map Tome.nameKey).Nodup
  level_pos : ∀ t ∈ b.tomes, ∀ l, t.level = some l → 0 < l
  not_placeholder : ∀ t ∈ b.tomes, ¬ Text.lowercase o.placeholder <+: Text.lowercase t.name
  trim_name : ∀ t ∈ b.tomes, Text.trim t.name = t.name
  tab_not_mem_name : ∀ t ∈ b.tomes, '\t' ∉ t.name
  mem_spells : ∀ x, x ∈ b.spells ↔ ∃ t ∈ b.tomes, t.spell = x
  mem_names : ∀ k, k ∈ b.names ↔
    ∃ t ∈ candidates o lines, isPlaceholder o t = false ∧ hasZeroLevel t = false ∧ t.nameKey = k

/-- A row that gets as far as the names has no level or a positive one. -/
theorem level_pos_of_reachesNames {o : Options} {t : Tome} {l : Int32} (h : ReachesNames o t)
    (hl : t.level = some l) : 0 < l := by
  have hz := h.2
  rw [hasZeroLevel, hl] at hz
  exact Int32.not_le.mp (by simpa using hz)

/-- A row that gets as far as the names is no placeholder. -/
theorem not_isPrefix_of_reachesNames {o : Options} {t : Tome} (h : ReachesNames o t) :
    ¬ Text.lowercase o.placeholder <+: Text.lowercase t.name := by
  rw [← isPlaceholder_iff, h.1]
  exact Bool.false_ne_true

/-- The tomes of a batch are candidates of its lines that reached the name test. -/
theorem mem_candidates_of_mem_tomes {o : Options} {lines : List Text} {b : Batch} {t : Tome}
    (h : ofLines o lines = .ok b) (ht : t ∈ b.tomes) :
    t ∈ candidates o lines ∧ ReachesNames o t := by
  rw [(accounts_of_ofLines h).tomes, withVerdict, mem_selectWith_iff] at ht
  obtain ⟨earlier, later, hcs, ⟨hreach, -⟩, -⟩ := ht
  exact ⟨by simp [hcs], hreach⟩

/-- The names of a batch each fit on a line, when its lines do. -/
theorem isLineBreak_of_mem_name {o : Options} {lines : List Text} {b : Batch} {t : Tome} {c : Char}
    (h : ofLines o lines = .ok b) (hlines : ∀ l ∈ lines, ∀ d ∈ l, Text.isLineBreak d = false)
    (ht : t ∈ b.tomes) (hc : c ∈ t.name) : Text.isLineBreak c = false :=
  isLineBreak_of_mem_name_of_mem_candidates (mem_candidates_of_mem_tomes h ht).1 hlines hc

/-- The names of a batch that was read from a text hold no line feed, since a line holds none. -/
theorem newline_not_mem_name {o : Options} {input : Text} {b : Batch} {t : Tome}
    (h : ofText o input = .ok b) (ht : t ∈ b.tomes) : '\n' ∉ t.name := by
  intro hc
  have hbreak := isLineBreak_of_mem_name h (fun _ hl => Text.not_isLineBreak_of_mem_lines hl) ht hc
  revert hbreak
  decide

/-- Every batch that is read is consistent. -/
theorem consistent_of_ofLines {o : Options} {lines : List Text} {b : Batch}
    (h : ofLines o lines = .ok b) : Consistent o lines b := by
  have haccounts := accounts_of_ofLines h
  have hdistinct := distinct_of_ofLines h
  have hmem : ∀ t ∈ b.tomes, t ∈ candidates o lines ∧ ReachesNames o t :=
    fun t ht => mem_candidates_of_mem_tomes h ht
  exact {
    spells_nodup := hdistinct.spells_eq ▸ hdistinct.spells_nodup
    nameKeys_nodup := hdistinct.names_nodup.sublist hdistinct.names_sublist
    level_pos := fun t ht l hl => level_pos_of_reachesNames (hmem t ht).2 hl
    not_placeholder := fun t ht => not_isPrefix_of_reachesNames (hmem t ht).2
    trim_name := fun t ht => trim_name_of_mem_candidates (hmem t ht).1
    tab_not_mem_name := fun t ht => tab_not_mem_name_of_mem_candidates (hmem t ht).1
    mem_spells := fun x => by simp [hdistinct.spells_eq]
    mem_names := fun k => by simp [haccounts.mem_names, ReachesNames, and_assoc] }

/-- **Batch invariants.**  After the first `n` lines the batch is consistent, the reading of all
lines goes on from it, and its names are free of breaks when the lines are those of a text. -/
theorem ofLines_take_consistent {o : Options} {lines : List Text} {n : Nat} {b : Batch}
    (h : ofLines o (lines.take n) = .ok b) :
    Consistent o (lines.take n) b ∧
    ofLines o lines = pushAll o ((lines.take n).length + 1) b (lines.drop n) ∧
    ∀ input, lines = Text.lines input →
      ∀ t ∈ b.tomes, ∀ c ∈ t.name, Text.isLineBreak c = false := by
  refine ⟨consistent_of_ofLines h, ?_, ?_⟩
  · calc ofLines o lines
        = ofLines o (lines.take n ++ lines.drop n) := by rw [List.take_append_drop]
      _ = pushAll o ((lines.take n).length + 1) b (lines.drop n) := by rw [ofLines_append, h]; rfl
  · rintro input rfl t ht c hc
    have hlines : ∀ l ∈ (Text.lines input).take n, ∀ d ∈ l, Text.isLineBreak d = false :=
      fun l hl => Text.not_isLineBreak_of_mem_lines (List.mem_of_mem_take hl)
    exact isLineBreak_of_mem_name_of_mem_candidates (mem_candidates_of_mem_tomes h ht).1 hlines hc

/-- The second row is left out for its spell and has taken its name all the same; the last line ends
the reading, and the batch before it is consistent. -/
theorem consistent_before_bad_line :
    ∃ b, ofLines {} (["1\tBlink".toList, "1\tSlow".toList, "x".toList].take 2) = .ok b ∧
      b.tomes.length = 1 ∧ b.names = ["blink".toList, "slow".toList] ∧
      Consistent {} (["1\tBlink".toList, "1\tSlow".toList, "x".toList].take 2) b :=
  ⟨_, rfl, rfl, rfl, (ofLines_take_consistent rfl).1⟩

end Batch

end TomeSql
