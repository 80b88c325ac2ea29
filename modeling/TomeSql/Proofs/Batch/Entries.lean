/-
  Entries of a batch: where they come from, and when no two tomes share one.

  1. **Entries of candidates** — a row gets the entry it names, or the first entry plus the number of
     rows before it that named none (`entry_candidate_eq_iff`).

  2. **Order** — of two members of a list one stands before the other, or they are the same one
     (`withEarlier_trichotomy`).  So the counter gives no entry twice, and neither do the rows that
     name their entries, when what they name is pairwise different.

  3. **Main result (`entries_nodup_iff`)** — what is left is a row that names an entry and another
     one that gets it from the counter.  The counter does not know what rows name, and the entries of
     a batch are pairwise different exactly when no two accepted rows meet in this way.

  4. **Refuted** — that they never do (`not_forall_entries_nodup`).
-/
import TomeSql.Proofs.Batch.Verdicts
import Mathlib.Data.List.Nodup

namespace TomeSql

/-! ## The order of the members of a list -/

/-- Of two members that come with what stands before them, one is the other or stands before it. -/
theorem withEarlier_trichotomy {α : Type} {l : List α} {r s : List α × α} (hr : r ∈ withEarlier l)
    (hs : s ∈ withEarlier l) : r = s ∨ r.1 ++ [r.2] <+: s.1 ∨ s.1 ++ [s.2] <+: r.1 := by
  obtain ⟨later, hl⟩ := mem_withEarlier_iff.mp hr
  obtain ⟨later', hl'⟩ := mem_withEarlier_iff.mp hs
  have hprefix : r.1 ++ [r.2] <+: l := ⟨later, by simp [hl]⟩
  have hprefix' : s.1 ++ [s.2] <+: l := ⟨later', by simp [hl']⟩
  rcases Nat.lt_trichotomy r.1.length s.1.length with hlt | heq | hgt
  · refine Or.inr (Or.inl ?_)
    have hlen : (r.1 ++ [r.2]).length ≤ s.1.length := by simp; omega
    exact List.prefix_of_prefix_length_le hprefix ⟨s.2 :: later', hl'.symm⟩ hlen
  · refine Or.inl ?_
    obtain ⟨hearlier, htail⟩ := List.append_inj (hl.symm.trans hl') heq
    exact Prod.ext hearlier (List.cons.inj htail).1
  · refine Or.inr (Or.inr ?_)
    have hlen : (s.1 ++ [s.2]).length ≤ r.1.length := by simp; omega
    exact List.prefix_of_prefix_length_le hprefix' ⟨r.2 :: later, hl.symm⟩ hlen

theorem map_length_withEarlier {α : Type} (l : List α) :
    (withEarlier l).map (fun r => r.1.length) = List.range l.length := by
  induction l using List.reverseRecOn with
  | nil => rfl
  | append_singleton l a ih =>
    rw [withEarlier_concat, List.map_append, ih, List.length_append, List.length_singleton,
      List.range_succ]
    rfl

/-- A list may have a member twice, but not with the same members before it. -/
theorem nodup_withEarlier {α : Type} (l : List α) : (withEarlier l).Nodup := by
  apply List.Nodup.of_map (fun r => r.1.length)
  rw [map_length_withEarlier]
  exact List.nodup_range

namespace Row

/-- The entry that a row names. -/
def named? : Row → Option UInt32
  | .automatic .. => none
  | .explicit entry .. => some entry

/-- The row gets the entry `e` after the rows `earlier`: it names it, or the counter that began at
`first` has come to it. -/
def GetsEntry (first : UInt32) (earlier : List Row) (e : UInt32) : Row → Prop
  | .explicit entry .. => entry = e
  | .automatic .. => first.toNat + earlier.countP Row.isAutomatic = e.toNat

end Row

namespace Batch

variable {o : Options}

/-! ## Entries of candidates -/

/-- In a reading that succeeds the counter stays in its range up to the last row that moves it. -/
theorem entry_candidate_eq_iff {lines : List Text} {b : Batch} (h : ofLines o lines = .ok b)
    {earlier later : List Row} {row : Row} (hrows : rows lines = earlier ++ row :: later)
    (e : UInt32) : (candidate o earlier row).entry = e ↔ row.GetsEntry o.firstEntry earlier e := by
  cases row with
  | explicit entry spell name level => exact Iff.rfl
  | automatic spell name level =>
    -- the counter counts this row too, and no rows after it can bring it out of its range
    have hcounter := nextEntry_toNat h
    rw [hrows, List.countP_append, List.countP_cons] at hcounter
    simp only [Row.isAutomatic, if_true] at hcounter
    have hlt : o.firstEntry.toNat + earlier.countP Row.isAutomatic < UInt32.size := by
      have := b.nextEntry.toNat_lt
      rw [UInt32.size]
      omega
    show UInt32.ofNat _ = e ↔ o.firstEntry.toNat + earlier.countP Row.isAutomatic = e.toNat
    rw [← UInt32.toNat_inj, UInt32.toNat_ofNat_of_lt' hlt]

/-- The tomes of a batch are the candidates of its accepted rows. -/
theorem mem_tomes_iff {lines : List Text} {b : Batch} (h : ofLines o lines = .ok b) (t : Tome) :
    t ∈ b.tomes ↔ ∃ earlier row later, rows lines = earlier ++ row :: later ∧
      HasVerdict o (candidatesOf o earlier) (candidate o earlier row) .accepted ∧
      t = candidate o earlier row := by
  rw [(accounts_of_ofLines h).tomes, withVerdict, selectWith, candidates, withEarlier_candidatesOf]
  simp only [List.mem_map, List.mem_filter, decide_eq_true_eq, Prod.exists, mem_withEarlier_iff]
  constructor
  · rintro ⟨_, _, ⟨⟨earlier, row, ⟨later, hrows⟩, heq⟩, hv⟩, rfl⟩
    cases heq
    exact ⟨earlier, row, later, hrows, hv, rfl⟩
  · rintro ⟨earlier, row, later, hrows, hv, rfl⟩
    exact ⟨_, _, ⟨⟨earlier, row, ⟨later, hrows⟩, rfl⟩, hv⟩, rfl⟩

/-- The entries of a batch are those that its accepted rows get. -/
theorem mem_entries_iff {lines : List Text} {b : Batch} (h : ofLines o lines = .ok b) (e : UInt32) :
    e ∈ b.tomes.map (·.entry) ↔ ∃ earlier row later, rows lines = earlier ++ row :: later ∧
      HasVerdict o (candidatesOf o earlier) (candidate o earlier row) .accepted ∧
      row.GetsEntry o.firstEntry earlier e := by
  rw [List.mem_map]
  constructor
  · rintro ⟨t, ht, rfl⟩
    obtain ⟨earlier, row, later, hrows, hv, rfl⟩ := (mem_tomes_iff h t).mp ht
    exact ⟨earlier, row, later, hrows, hv, (entry_candidate_eq_iff h hrows _).mp rfl⟩
  · rintro ⟨earlier, row, later, hrows, hv, he⟩
    exact ⟨_, (mem_tomes_iff h _).mpr ⟨earlier, row, later, hrows, hv, rfl⟩,
      (entry_candidate_eq_iff h hrows e).mpr he⟩

/-! ## Accepted rows -/

variable (o) in
/-- The accepted rows among `rs` in their order, each with the rows before it. -/
def acceptedRows (rs : List Row) : List (List Row × Row) :=
  (withEarlier rs).filter fun r =>
    HasVerdict o (candidatesOf o r.1) (candidate o r.1 r.2) .accepted

theorem mem_withEarlier_of_mem_acceptedRows {rs : List Row} {r : List Row × Row}
    (h : r ∈ acceptedRows o rs) : r ∈ withEarlier rs := List.mem_of_mem_filter h

/-- No row is accepted twice in the same place. -/
theorem nodup_acceptedRows (rs : List Row) : (acceptedRows o rs).Nodup :=
  (nodup_withEarlier rs).filter _

/-- The tomes of a batch are those of the accepted rows, in their order. -/
theorem tomes_eq_map_acceptedRows {lines : List Text} {b : Batch} (h : ofLines o lines = .ok b) :
    b.tomes = (acceptedRows o (rows lines)).map fun r => candidate o r.1 r.2 := by
  rw [(accounts_of_ofLines h).tomes, withVerdict, selectWith, candidates, withEarlier_candidatesOf,
    List.filter_map, List.map_map, acceptedRows]
  rfl

/-- An accepted row gets the entry of its tome. -/
theorem entry_acceptedRow_eq_iff {lines : List Text} {b : Batch} (h : ofLines o lines = .ok b)
    {r : List Row × Row} (hr : r ∈ acceptedRows o (rows lines)) (e : UInt32) :
    (candidate o r.1 r.2).entry = e ↔ r.2.GetsEntry o.firstEntry r.1 e := by
  obtain ⟨later, hrows⟩ := mem_withEarlier_iff.mp (mem_withEarlier_of_mem_acceptedRows hr)
  exact entry_candidate_eq_iff h hrows e

/-! ## Entries that two rows share -/

/-- A row that names an entry and another one that gets it from the counter. -/
def Clash (o : Options) (r s : List Row × Row) : Prop :=
  ∃ e, r.2.named? = some e ∧ s.2.isAutomatic = true ∧ s.2.GetsEntry o.firstEntry s.1 e

/-- The counter has moved on between two rows, and named entries are named once: two rows that get
one entry can only clash. -/
theorem clash_of_getsEntry {rs : List Row} {r s : List Row × Row} {e : UInt32}
    (hnamed : (rs.filterMap Row.named?).Nodup) (hs : s ∈ withEarlier rs)
    (hbefore : r.1 ++ [r.2] <+: s.1) (hr : r.2.GetsEntry o.firstEntry r.1 e)
    (hse : s.2.GetsEntry o.firstEntry s.1 e) : Clash o r s ∨ Clash o s r := by
  obtain ⟨rearlier, rrow⟩ := r
  obtain ⟨searlier, srow⟩ := s
  obtain ⟨later, hrows⟩ := mem_withEarlier_iff.mp hs
  obtain ⟨between, rfl⟩ := hbefore
  cases rrow with
  | explicit entry spell name level =>
    cases srow with
    | automatic => exact Or.inl ⟨e, congrArg some hr, rfl, hse⟩
    | explicit entry' spell' name' level' =>
      -- the entry stands twice among those that rows name
      obtain rfl : entry = e := hr
      obtain rfl : entry' = entry := hse
      rw [hrows] at hnamed
      simp [List.filterMap_append, Row.named?, List.nodup_append] at hnamed
  | automatic spell name level =>
    cases srow with
    | explicit => exact Or.inr ⟨e, congrArg some hse, rfl, hr⟩
    | automatic spell' name' level' =>
      have hfirst : o.firstEntry.toNat + rearlier.countP Row.isAutomatic = e.toNat := hr
      have hsecond : o.firstEntry.toNat +
          (rearlier ++ [Row.automatic spell name level] ++ between).countP Row.isAutomatic =
            e.toNat := hse
      rw [List.countP_append, List.countP_append, List.countP_singleton] at hsecond
      simp only [Row.isAutomatic, if_true] at hsecond
      omega

/-- **When entries are unique.**  Where the entries that rows name are pairwise different, those of
the batch are so exactly when no accepted row names an entry that the counter gives to another
accepted row. -/
theorem entries_nodup_iff {lines : List Text} {b : Batch} (h : ofLines o lines = .ok b)
    (hnamed : ((rows lines).filterMap Row.named?).Nodup) :
    (b.tomes.map (·.entry)).Nodup ↔
      ∀ r ∈ acceptedRows o (rows lines), ∀ s ∈ acceptedRows o (rows lines), ¬ Clash o r s := by
  rw [tomes_eq_map_acceptedRows h, List.map_map, List.nodup_map_iff_inj_on (nodup_acceptedRows _)]
  constructor
  · rintro hinj r hr s hs ⟨e, hname, hauto, hget⟩
    have hre : (candidate o r.1 r.2).entry = e := by
      rw [entry_acceptedRow_eq_iff h hr]
      cases hrow : r.2 <;> simp_all [Row.named?, Row.GetsEntry]
    have hse : (candidate o s.1 s.2).entry = e := (entry_acceptedRow_eq_iff h hs e).mpr hget
    obtain rfl : r = s := hinj r hr s hs (hre.trans hse.symm)
    cases hrow : r.2 <;> simp_all [Row.named?, Row.isAutomatic]
  · intro hclash r hr s hs heq
    have hget := (entry_acceptedRow_eq_iff h hr _).mp rfl
    have hget' := (entry_acceptedRow_eq_iff h hs _).mp heq.symm
    have hrw := mem_withEarlier_of_mem_acceptedRows hr
    have hsw := mem_withEarlier_of_mem_acceptedRows hs
    obtain hsame | hbefore | hafter := withEarlier_trichotomy hrw hsw
    · exact hsame
    · exact ((clash_of_getsEntry hnamed hsw hbefore hget hget').elim (hclash r hr s hs)
        (hclash s hs r hr)).elim
    · exact ((clash_of_getsEntry hnamed hrw hafter hget' hget).elim (hclash s hs r hr)
        (hclash r hr s hs)).elim

/-- The second row spends an entry and is left out for its spell, so that the third row may name the
entry. -/
theorem entries_nodup_of_spent_entry :
    ∃ b, ofLines {} ["1\tBlink".toList, "1\tSlow".toList, "91001\t2\tPoly\t5".toList] = .ok b ∧
      b.tomes.map (·.entry) = [91000, 91001] ∧
      ∀ r ∈ acceptedRows {} (rows ["1\tBlink".toList, "1\tSlow".toList, "91001\t2\tPoly\t5".toList]),
        ∀ s ∈ acceptedRows {} (rows ["1\tBlink".toList, "1\tSlow".toList, "91001\t2\tPoly\t5".toList]),
          ¬ Clash {} r s :=
  ⟨_, rfl, rfl, (entries_nodup_iff rfl (by decide)).mp (by decide)⟩

/-- The first row names the entry that the counter has for the second one. -/
theorem not_forall_entries_nodup :
    ¬ ∀ (o : Options) (lines : List Text) (b : Batch), ofLines o lines = .ok b →
      ((rows lines).filterMap Row.named?).Nodup → (b.tomes.map (·.entry)).Nodup := by
  intro h
  obtain ⟨b, hread, hentries⟩ : ∃ b, ofLines {} ["91000\t1\tBlink\t5".toList, "2\tSlow".toList] =
      .ok b ∧ b.tomes.map (·.entry) = [91000, 91000] := ⟨_, rfl, rfl⟩
  have hnodup := h _ _ b hread (by decide)
  rw [hentries] at hnodup
  exact absurd hnodup (by decide)

end Batch

end TomeSql
