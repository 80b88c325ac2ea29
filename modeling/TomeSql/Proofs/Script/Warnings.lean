/-
  Warnings report the overrides that are lost, and nothing else.

  1. **Order (`pairwise_foldr_insertInOrder`)** — columns are put into a strictly increasing list, which
     is fixed by its members (`eq_of_pairwise_of_mem_iff`).

  2. **Crux (`Policy.Overridden.of_tome`)** — two tomes have the same columns overridden, but for the
     required level, which may be overridden for one of them only.  So the columns of any one tome and
     the level, if any tome has one, are the columns of all (`mem_missingAmong_iff`).

  3. **Main result (`warnings_name_lost_overrides`)** — hence it does not matter which tome comes first or
     in which order its columns are looked at, and the columns reported are those that are overridden
     for some tome and missing from the table.
-/
import TomeSql.Proofs.Script.Insertions
import TomeSql.Proofs.Text.ByteOrder
import Mathlib.Data.Char
import Mathlib.Data.List.Lex
import Mathlib.Data.List.Perm.Basic

namespace TomeSql

/-! ## Order -/

namespace Script

/-- What is inserted is there, and nothing else is new. -/
theorem mem_insertInOrder_iff {c t : Text} {l : List Text} :
    c ∈ insertInOrder t l ↔ c = t ∨ c ∈ l := by
  induction l with
  | nil => rw [insertInOrder, List.mem_singleton, or_iff_left (List.not_mem_nil)]
  | cons u us ih =>
    rw [insertInOrder]
    split
    · rw [List.mem_cons]
    · split
      · rename_i heq
        rw [heq, List.mem_cons, or_self_left]
      · rw [List.mem_cons, ih, List.mem_cons, or_left_comm]

/-- Inserting keeps the order, and no text comes twice. -/
theorem pairwise_insertInOrder {l : List Text} (h : l.Pairwise (· < ·)) (t : Text) :
    (insertInOrder t l).Pairwise (· < ·) := by
  induction l with
  | nil => exact List.pairwise_singleton _ _
  | cons u us ih =>
    obtain ⟨hu, hus⟩ := List.pairwise_cons.mp h
    rw [insertInOrder]
    split
    · rename_i hlt
      refine List.pairwise_cons.mpr ⟨?_, h⟩
      intro v hv
      rcases List.mem_cons.mp hv with rfl | hv
      · exact hlt
      · exact lt_trans hlt (hu v hv)
    · split
      · exact h
      · rename_i hnot hne
        have hgt : u < t := lt_of_le_of_ne (not_lt.mp hnot) (Ne.symm hne)
        refine List.pairwise_cons.mpr ⟨?_, ih hus⟩
        intro v hv
        rcases mem_insertInOrder_iff.mp hv with rfl | hv
        · exact hgt
        · exact hu v hv

/-- Sorting by insertion loses nothing and adds nothing. -/
theorem mem_foldr_insertInOrder_iff {c : Text} {l : List Text} :
    c ∈ l.foldr insertInOrder [] ↔ c ∈ l := by
  induction l with
  | nil => exact Iff.rfl
  | cons t l ih => rw [List.foldr_cons, mem_insertInOrder_iff, ih, List.mem_cons]

theorem pairwise_foldr_insertInOrder (l : List Text) :
    (l.foldr insertInOrder []).Pairwise (· < ·) := by
  induction l with
  | nil => exact List.Pairwise.nil
  | cons t l ih => exact pairwise_insertInOrder ih t

/-- A strictly increasing list is fixed by its members. -/
theorem eq_of_pairwise_of_mem_iff {l m : List Text} (hl : l.Pairwise (· < ·))
    (hm : m.Pairwise (· < ·)) (h : ∀ c, c ∈ l ↔ c ∈ m) : l = m := by
  have hperm : l.Perm m :=
    (List.perm_ext_iff_of_nodup (hl.imp ne_of_lt) (hm.imp ne_of_lt)).mpr h
  exact hperm.eq_of_pairwise (fun a b _ _ hab hba => absurd (lt_trans hab hba) (lt_irrefl a)) hl hm

end Script

/-! ## The columns of one tome and of all -/

namespace Policy

open Sql (Literal)

variable {p : Policy} {u : Tome} {c : Text} {l : Literal}

/-- What is overridden for one tome is overridden for another, but for the level. -/
theorem Overridden.of_tome (h : p.Overridden u c l) (t : Tome) :
    (∃ k, p.Overridden t c k) ∨ c = Column.requiredLevel ∧ u.level.isSome = true := by
  cases h with
  | key h => exact Or.inl (p.exists_overridden_keyColumn t)
  | named h =>
    cases h with
    | ownLevel h => exact Or.inr ⟨rfl, by rw [h, Option.isSome_some]⟩
    | commonLevel hown h =>
      cases hlevel : t.level with
      | none => exact Or.inl ⟨_, .named (.commonLevel hlevel h)⟩
      | some n => exact Or.inl ⟨_, .named (.ownLevel hlevel)⟩
    | name => exact Or.inl ⟨_, .named .name⟩
    | allowableClass => exact Or.inl ⟨_, .named .allowableClass⟩
    | allowableRace h => exact Or.inl ⟨_, .named (.allowableRace h)⟩
    | spell1 => exact Or.inl ⟨_, .named .spell1⟩
    | trigger1 => exact Or.inl ⟨_, .named .trigger1⟩
    | charges1 => exact Or.inl ⟨_, .named .charges1⟩
    | spell2 => exact Or.inl ⟨_, .named .spell2⟩
    | trigger2 => exact Or.inl ⟨_, .named .trigger2⟩
    | charges2 => exact Or.inl ⟨_, .named .charges2⟩
    | scriptName => exact Or.inl ⟨_, .named .scriptName⟩

end Policy

namespace Script

variable {s : Script} {t : Tome} {touched : List Text}

/-- The columns of the given ones that the table lacks, and the level if any tome has one. -/
def missingAmong (s : Script) (touched : List Text) : List Text :=
  let level := if s.tomes.any (·.level.isSome) then [Column.requiredLevel] else []
  ((touched ++ level).filter fun c => !s.columns.contains c).foldr insertInOrder []

/-- With a tome, the missing columns are looked for among the overrides of the first one. -/
theorem missingColumns_of_cons {first : Tome} {later : List Tome} (h : s.tomes = first :: later) :
    s.missingColumns = s.missingAmong ((s.policy.overrides first).map Prod.fst) := by
  rw [missingColumns]
  split
  · rename_i hnil
    rw [h] at hnil
    cases hnil
  · rename_i hcons
    rw [h] at hcons
    cases hcons
    rfl

/-- The missing columns are in strictly increasing order, so each is there once. -/
theorem pairwise_missingColumns (s : Script) : s.missingColumns.Pairwise (· < ·) := by
  cases h : s.tomes with
  | nil =>
    rw [missingColumns, h]
    exact List.Pairwise.nil
  | cons first later =>
    rw [missingColumns_of_cons h]
    exact pairwise_foldr_insertInOrder _

/-- The columns of one tome, in any order, are enough. -/
theorem mem_missingAmong_iff (ht : t ∈ s.tomes)
    (htouched : touched.Perm ((s.policy.overrides t).map Prod.fst)) (c : Text) :
    c ∈ s.missingAmong touched ↔
      (∃ u ∈ s.tomes, ∃ l, s.policy.Overridden u c l) ∧ c ∉ s.columns.columns := by
  have hlevel : c ∈ (if s.tomes.any (·.level.isSome) then [Column.requiredLevel] else []) ↔
      c = Column.requiredLevel ∧ ∃ u ∈ s.tomes, u.level.isSome = true := by
    rw [← List.any_eq_true]
    split <;> simp [*]
  have hmember : c ∈ touched ∨ (c = Column.requiredLevel ∧ ∃ u ∈ s.tomes, u.level.isSome = true) ↔
      ∃ u ∈ s.tomes, ∃ l, s.policy.Overridden u c l := by
    rw [htouched.mem_iff, Policy.mem_columns_overrides_iff]
    constructor
    · rintro (h | ⟨rfl, u, hu, hlevel⟩)
      · exact ⟨t, ht, h⟩
      · obtain ⟨n, hn⟩ := Option.isSome_iff_exists.mp hlevel
        exact ⟨u, hu, _, .named (.ownLevel hn)⟩
    · rintro ⟨u, hu, l, h⟩
      exact (h.of_tome t).imp_right fun ⟨hc, hlevel⟩ => ⟨hc, u, hu, hlevel⟩
  rw [missingAmong, mem_foldr_insertInOrder_iff, List.mem_filter, List.mem_append, hlevel, hmember,
    ColumnList.contains, Bool.not_eq_true', List.contains_eq_mem, decide_eq_false_iff_not]

/-- A column is missing if some tome overrides it and the table has it not. -/
theorem mem_missingColumns_iff (s : Script) (c : Text) :
    c ∈ s.missingColumns ↔
      (∃ u ∈ s.tomes, ∃ l, s.policy.Overridden u c l) ∧ c ∉ s.columns.columns := by
  cases h : s.tomes with
  | nil => simp [missingColumns, h]
  | cons first later =>
    have hfirst : first ∈ s.tomes := h ▸ List.mem_cons_self
    rw [missingColumns_of_cons h, mem_missingAmong_iff hfirst (List.Perm.refl _), h]

/-- **Warnings report exactly the overrides that are lost.**  The columns that the warnings of a script
name are in the order of their bytes, each once: those that are overridden for some tome and that the
table lacks, so that the clone of that tome has no item for them.  Without tomes there are no warnings.
It does not matter which tome is looked at, in which order its overrides come, and in which order the
tomes stand. -/
theorem warnings_name_lost_overrides (s : Script) :
    ∃ names : List Text, s.warnings = names.map (.columnMissing s.columns.table) ∧
      names.Pairwise (fun a b => Text.encode a < Text.encode b) ∧
      (∀ c, c ∈ names ↔
        (∃ t ∈ s.tomes, ∃ l, s.policy.Overridden t c l) ∧ c ∉ s.columns.columns) ∧
      (∀ c ∈ names, ∃ t ∈ s.tomes, ∃ items l, s.policy.Overridden t c l ∧
        insertion s.policy s.columns t =
          .clone s.policy.table s.policy.keyColumn s.policy.template items ∧
        ∀ i ∈ items, i.column ≠ c) ∧
      (s.tomes = [] → s.warnings = []) ∧
      (∀ t ∈ s.tomes, ∀ touched, touched.Perm ((s.policy.overrides t).map Prod.fst) →
        s.missingAmong touched = names) ∧
      ∀ tomes, tomes.Perm s.tomes → ({ s with tomes := tomes } : Script).warnings = s.warnings := by
  refine ⟨s.missingColumns, rfl, ?_, s.mem_missingColumns_iff, ?_, ?_, ?_, ?_⟩
  · exact s.pairwise_missingColumns.imp Text.encode_lt_encode
  · intro c hc
    obtain ⟨⟨t, ht, l, hl⟩, hcolumn⟩ := (s.mem_missingColumns_iff c).mp hc
    refine ⟨t, ht, itemsFor s.policy s.columns t, l, hl, insertion_eq_clone _ _ t, ?_⟩
    rintro i hi rfl
    rw [← columns_itemsFor s.policy s.columns t] at hcolumn
    exact hcolumn (List.mem_map_of_mem hi)
  · intro hnone
    rw [warnings, missingColumns, hnone]
    rfl
  · intro t ht touched htouched
    refine eq_of_pairwise_of_mem_iff (pairwise_foldr_insertInOrder _) s.pairwise_missingColumns ?_
    intro c
    rw [mem_missingAmong_iff ht htouched, mem_missingColumns_iff]
  · intro tomes hperm
    have hsame : ({ s with tomes := tomes } : Script).missingColumns = s.missingColumns := by
      refine eq_of_pairwise_of_mem_iff (pairwise_missingColumns _) s.pairwise_missingColumns ?_
      intro c
      rw [mem_missingColumns_iff, mem_missingColumns_iff]
      simp only [hperm.mem_iff]
    rw [warnings, warnings, hsame]

-- Only the later tome has a level, and the key column comes between upper and lower case.
example : missingColumns ⟨⟨"t".toList, Column.spell1 :: Column.trigger1 :: Column.charges1 ::
      Column.spell2 :: Column.trigger2 :: [Column.charges2], by simp⟩,
    [⟨1, 7, "a".toList, none⟩, ⟨2, 8, "b".toList, some 5⟩], { keyColumn := "_id".toList }, ⟨0, 0⟩⟩ =
    [Column.allowableClass, Column.requiredLevel, Column.scriptName, "_id".toList, Column.name] := by
  decide

end Script

end TomeSql
