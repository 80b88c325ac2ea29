/-
  Both ends of a list: what is left without the members of one kind that stand there.

  1. **`dropEnds`** — the list from its first member that is not of the kind to its last one.  A trimmed
     text is one case, and the fields of a line without the blank ones in front and behind another.

  2. **What is left** — nothing, if the list has only members of the kind (`dropEnds_eq_nil_iff`).
     Otherwise it begins and ends with members that are not, and around it stand members that are
     (`exists_eq_append_dropEnds_append`).

  3. **More of the same (`dropEnds_append`)** — members of the kind that are put in front of the list or
     behind it are dropped with those that were there.
-/
import Mathlib.Data.List.DropRight

namespace TomeSql

variable {α β : Type} {p : α → Bool} {l : List α}

/-- The list without the members at its ends that `p` holds of. -/
def dropEnds (p : α → Bool) (l : List α) : List α := (l.dropWhile p).rdropWhile p

/-! ## What is left -/

/-- Only members with the property are dropped, from either end. -/
theorem exists_eq_append_dropEnds_append (p : α → Bool) (l : List α) :
    ∃ before after, (∀ x ∈ before, p x = true) ∧ (∀ x ∈ after, p x = true) ∧
      l = before ++ dropEnds p l ++ after := by
  refine ⟨l.takeWhile p, (l.dropWhile p).rtakeWhile p, fun x hx => List.mem_takeWhile_imp hx,
    fun x hx => List.mem_rtakeWhile_imp hx, ?_⟩
  rw [dropEnds, List.append_assoc, List.rdropWhile_append_rtakeWhile, List.takeWhile_append_dropWhile]

/-- Nothing is left exactly where all members have the property. -/
theorem dropEnds_eq_nil_iff : dropEnds p l = [] ↔ ∀ x ∈ l, p x = true := by
  constructor
  · intro hnil
    obtain ⟨before, after, hbefore, hafter, hl⟩ := exists_eq_append_dropEnds_append p l
    rw [hl, hnil, List.append_nil]
    exact List.forall_mem_append.mpr ⟨hbefore, hafter⟩
  · intro hall
    rw [dropEnds, List.dropWhile_eq_nil_iff.mpr hall]
    rfl

/-- What is left begins with the first member that is not of the kind. -/
theorem head?_dropEnds (p : α → Bool) (l : List α) :
    (dropEnds p l).head? = l.find? fun x => !p x := by
  obtain ⟨rest, hrest⟩ := List.rdropWhile_prefix p (l.dropWhile p)
  have hfind : (l.find? fun x => !p x) = (l.dropWhile p).head? := by
    rw [List.find?_eq_head?_dropWhile_not]
    simp only [Bool.not_not]
  rw [hfind]
  cases hleft : dropEnds p l with
  | cons x m =>
    rw [dropEnds] at hleft
    rw [← hrest, hleft]
    rfl
  | nil => rw [List.dropWhile_eq_nil_iff.mpr (dropEnds_eq_nil_iff.mp hleft)]

theorem not_of_mem_head?_dropEnds {x : α} (h : x ∈ (dropEnds p l).head?) : p x = false := by
  rw [head?_dropEnds] at h
  simpa using List.find?_some h

theorem not_of_mem_getLast?_dropEnds {x : α} (h : x ∈ (dropEnds p l).getLast?) : p x = false := by
  obtain ⟨hne, rfl⟩ := List.mem_getLast?_eq_getLast h
  have hnot : ¬ p ((dropEnds p l).getLast hne) := List.rdropWhile_last_not p (l.dropWhile p) hne
  simpa using hnot

/-- A list whose ends are not of the kind is left alone. -/
theorem dropEnds_eq_self (hfirst : ∀ x ∈ l.head?, p x = false) (hlast : ∀ x ∈ l.getLast?, p x = false) :
    dropEnds p l = l := by
  have hstart : l.dropWhile p = l := by
    cases l with
    | nil => rfl
    | cons x l => exact List.dropWhile_cons_of_neg (by simp [hfirst x rfl])
  rw [dropEnds, hstart, List.rdropWhile_eq_self_iff]
  intro hne
  simp [hlast _ (List.getLast?_eq_some_getLast hne)]

theorem dropEnds_map (f : β → α) (m : List β) : dropEnds p (m.map f) = (dropEnds (p ∘ f) m).map f := by
  simp only [dropEnds, List.rdropWhile, List.dropWhile_map, ← List.map_reverse]

/-! ## More of the same -/

theorem rdropWhile_append_of_pos {after : List α} (h : ∀ x ∈ after, p x = true) :
    (l ++ after).rdropWhile p = l.rdropWhile p := by
  have hreverse : ∀ x ∈ after.reverse, p x = true := fun x hx => h x (List.mem_reverse.mp hx)
  rw [List.rdropWhile, List.reverse_append, List.dropWhile_append_of_pos hreverse, ← List.rdropWhile]

/-- Members with the property that are put at the ends change nothing. -/
theorem dropEnds_append {before after : List α} (hbefore : ∀ x ∈ before, p x = true)
    (hafter : ∀ x ∈ after, p x = true) : dropEnds p (before ++ l ++ after) = dropEnds p l := by
  rw [dropEnds, List.append_assoc, List.dropWhile_append_of_pos hbefore, List.dropWhile_append]
  split
  · rename_i hl
    rw [dropEnds, List.isEmpty_iff.mp hl, List.dropWhile_eq_nil_iff.mpr hafter]
  · rw [rdropWhile_append_of_pos hafter, ← dropEnds]

end TomeSql
