/-
  The literals that a tome puts in place of the template's values.

  1. **Rules (`NamedOverride`, `Overridden`)** — which column gets which literal, one rule for each.  The
     level of the tome comes before that of the policy, and a named override comes before that of the
     key column.

  2. **Crux (`nodup_columns_overrides`)** — no column stands twice in the list of overrides.  So a look
     into the list gives the one literal that stands with a column, wherever it stands.

  3. **Main result (`override?_eq_some_iff`)** — what is found for a column is what the rules give it.
     A key column that is none of the eleven with a named override always gets the entry
     (`override?_keyColumn`).
-/
import TomeSql.Script.Policy
import Mathlib.Data.List.Nodup

namespace TomeSql

/-! ## Lists with one literal for each column -/

/-- In a list without a key twice, the value that is found is the one that is there. -/
theorem lookup_eq_some_iff_mem {α β : Type} [BEq α] [LawfulBEq α] {l : List (α × β)}
    (h : (l.map Prod.fst).Nodup) {a : α} {b : β} : l.lookup a = some b ↔ (a, b) ∈ l := by
  rw [List.lookup_eq_some_iff]
  constructor
  · rintro ⟨before, after, rfl, -⟩
    simp
  · intro hmem
    obtain ⟨before, after, rfl⟩ := List.append_of_mem hmem
    refine ⟨before, after, rfl, ?_⟩
    rw [List.map_append, List.map_cons, List.nodup_append] at h
    intro p hp
    rw [bne_iff_ne]
    exact (h.2.2 p.1 (List.mem_map_of_mem hp) a List.mem_cons_self).symm

/-- The eleven columns that have a named override. -/
def Column.named : List Text :=
  [name, allowableClass, allowableRace, requiredLevel, spell1, trigger1, charges1, spell2, trigger2,
    charges2, scriptName]

namespace Policy

open Sql (Literal)

/-! ## Rules -/

/-- The named overrides: the column gets the literal, whatever the key column is. -/
inductive NamedOverride (p : Policy) (t : Tome) : (column : Text) → Literal → Prop
  | name : NamedOverride p t Column.name (.text t.name)
  | allowableClass : NamedOverride p t Column.allowableClass (.integer p.allowableClass.toInt)
  | spell1 : NamedOverride p t Column.spell1 (.integer p.dummySpell.toNat)
  | trigger1 : NamedOverride p t Column.trigger1 (.integer 0)
  | charges1 : NamedOverride p t Column.charges1 (.integer (-1))
  | spell2 : NamedOverride p t Column.spell2 (.integer t.spell.toNat)
  | trigger2 : NamedOverride p t Column.trigger2 (.integer 0)
  | charges2 : NamedOverride p t Column.charges2 (.integer 0)
  | scriptName : NamedOverride p t Column.scriptName (.text p.scriptName)
  | allowableRace {n : Int32} (h : p.allowableRace = some n) :
    NamedOverride p t Column.allowableRace (.integer n.toInt)
  | ownLevel {n : Int32} (h : t.level = some n) :
    NamedOverride p t Column.requiredLevel (.integer n.toInt)
  | commonLevel {n : Int32} (hown : t.level = none) (h : p.requiredLevel = some n) :
    NamedOverride p t Column.requiredLevel (.integer n.toInt)

/-- All overrides: the key column gets the tome's entry, unless a named override is for it. -/
inductive Overridden (p : Policy) (t : Tome) : (column : Text) → Literal → Prop
  | named {column : Text} {l : Literal} (h : NamedOverride p t column l) : Overridden p t column l
  | key (h : ∀ l, ¬ NamedOverride p t p.keyColumn l) :
    Overridden p t p.keyColumn (.integer t.entry.toNat)

/-! ## The list of overrides -/

variable {p : Policy} {t : Tome} {c : Text} {l : Literal}

theorem mem_optional_iff {column : Text} {n : Option Int32} :
    (c, l) ∈ optional column n ↔ ∃ k, n = some k ∧ c = column ∧ l = .integer k.toInt := by
  cases n with
  | none => simp [optional]
  | some n => simp [optional]

/-- The list of named overrides has what the rules give, and nothing else. -/
theorem mem_namedOverrides_iff : (c, l) ∈ p.namedOverrides t ↔ NamedOverride p t c l := by
  rw [namedOverrides, List.mem_append, List.mem_append, mem_optional_iff, mem_optional_iff, levelOf]
  constructor
  · rintro ((hfixed | ⟨n, hn, rfl, rfl⟩) | ⟨n, hn, rfl, rfl⟩)
    · simp only [List.mem_cons, Prod.mk.injEq, List.not_mem_nil, or_false] at hfixed
      rcases hfixed with ⟨rfl, rfl⟩ | ⟨rfl, rfl⟩ | ⟨rfl, rfl⟩ | ⟨rfl, rfl⟩ | ⟨rfl, rfl⟩ | ⟨rfl, rfl⟩ |
        ⟨rfl, rfl⟩ | ⟨rfl, rfl⟩ | ⟨rfl, rfl⟩
      exacts [.name, .allowableClass, .spell1, .trigger1, .charges1, .spell2, .trigger2, .charges2,
        .scriptName]
    · exact .allowableRace hn
    · rcases Option.or_eq_some_iff.mp hn with hown | ⟨hown, hn⟩
      · exact .ownLevel hown
      · exact .commonLevel hown hn
  · intro h
    cases h with
    | allowableRace h => exact Or.inl (Or.inr ⟨_, h, rfl, rfl⟩)
    | ownLevel h => exact Or.inr ⟨_, by rw [h, Option.some_or], rfl, rfl⟩
    | commonLevel hown h => exact Or.inr ⟨_, by rw [hown, Option.none_or, h], rfl, rfl⟩
    | _ => exact Or.inl (Or.inl (by simp only [List.mem_cons, true_or, or_true]))

theorem mem_columns_namedOverrides_iff :
    c ∈ (p.namedOverrides t).map Prod.fst ↔ ∃ l, NamedOverride p t c l := by
  simp only [List.mem_map, Prod.exists, exists_and_right, exists_eq_right, mem_namedOverrides_iff]

/-- All overrides are the named ones and that of the key column where no named one has it. -/
theorem mem_overrides_iff : (c, l) ∈ p.overrides t ↔ Overridden p t c l := by
  rw [overrides, List.mem_append, mem_namedOverrides_iff, keyOverride]
  have hcolumn := mem_columns_namedOverrides_iff (p := p) (t := t) (c := p.keyColumn)
  constructor
  · rintro (h | h)
    · exact .named h
    · split at h
      · cases h
      · rename_i hnone
        rw [hcolumn, not_exists] at hnone
        cases List.mem_singleton.mp h
        exact .key hnone
  · intro h
    cases h with
    | named h => exact Or.inl h
    | key h =>
      rw [if_neg (fun hmem => not_exists.mpr h (hcolumn.mp hmem))]
      exact Or.inr List.mem_cons_self

/-- The columns with a named override are of the eleven. -/
theorem NamedOverride.mem_named (h : NamedOverride p t c l) : c ∈ Column.named := by
  cases h <;> simp [Column.named]

theorem columns_optional_sublist (column : Text) (n : Option Int32) :
    List.Sublist ((optional column n).map Prod.fst) [column] := by
  cases n with
  | none => exact List.nil_sublist _
  | some n => exact List.Sublist.refl _

/-- No column is named twice. -/
theorem nodup_columns_namedOverrides (p : Policy) (t : Tome) :
    ((p.namedOverrides t).map Prod.fst).Nodup := by
  have hall : (([Column.name, Column.allowableClass, Column.spell1, Column.trigger1, Column.charges1,
      Column.spell2, Column.trigger2, Column.charges2, Column.scriptName] ++ [Column.allowableRace]) ++
      [Column.requiredLevel]).Nodup := by decide
  rw [namedOverrides, List.map_append, List.map_append]
  exact hall.sublist (((List.Sublist.refl _).append (columns_optional_sublist _ _)).append
    (columns_optional_sublist _ _))

/-- No column is overridden twice, since the key column is added only where it is not named. -/
theorem nodup_columns_overrides (p : Policy) (t : Tome) : ((p.overrides t).map Prod.fst).Nodup := by
  rw [overrides, List.map_append, keyOverride]
  split
  · rw [List.map_nil, List.append_nil]
    exact nodup_columns_namedOverrides p t
  · rename_i hnot
    exact (nodup_columns_namedOverrides p t).append (List.nodup_singleton _) (by simpa using hnot)

/-- What is found for a column is what the rules give it. -/
theorem override?_eq_some_iff : p.override? t c = some l ↔ Overridden p t c l := by
  rw [override?, lookup_eq_some_iff_mem (nodup_columns_overrides p t), mem_overrides_iff]

theorem mem_columns_overrides_iff : c ∈ (p.overrides t).map Prod.fst ↔ ∃ l, Overridden p t c l := by
  simp only [List.mem_map, Prod.exists, exists_and_right, exists_eq_right, mem_overrides_iff]

/-- A column is overridden by one literal only. -/
theorem Overridden.eq {k : Literal} (hk : Overridden p t c k) (hl : Overridden p t c l) : k = l := by
  rw [← override?_eq_some_iff] at hk hl
  exact Option.some.inj (hk.symm.trans hl)

/-! ## The key column -/

/-- The key column is always overridden. -/
theorem exists_overridden_keyColumn (p : Policy) (t : Tome) : ∃ k, Overridden p t p.keyColumn k := by
  by_cases hnamed : ∃ l, NamedOverride p t p.keyColumn l
  · obtain ⟨l, hl⟩ := hnamed
    exact ⟨l, .named hl⟩
  · exact ⟨_, .key (not_exists.mp hnamed)⟩

/-- The key column gets the entry unless a named override gives it something else. -/
theorem overridden_entry_iff :
    Overridden p t p.keyColumn (.integer t.entry.toNat) ↔
      ∀ l, NamedOverride p t p.keyColumn l → l = .integer t.entry.toNat := by
  constructor
  · exact fun h l hl => (Overridden.named hl).eq h
  · intro h
    by_cases hnamed : ∃ l, NamedOverride p t p.keyColumn l
    · obtain ⟨l, hl⟩ := hnamed
      exact .named (h l hl ▸ hl)
    · exact .key (not_exists.mp hnamed)

/-- A key column without a named override gets the tome's entry. -/
theorem override?_keyColumn {p : Policy} (t : Tome) (h : p.keyColumn ∉ Column.named) :
    p.override? t p.keyColumn = some (.integer t.entry.toNat) :=
  override?_eq_some_iff.mpr (.key fun _ hnamed => h hnamed.mem_named)

end Policy

end TomeSql
