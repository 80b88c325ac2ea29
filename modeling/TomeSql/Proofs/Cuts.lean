/-
  Cuts: a list taken apart at one of its members.

  1. **One more in front** — the member at which a longer list is cut is the new one, or one of those
     behind it (`exists_cut_cons_iff`, `forall_cut_cons_iff`).  What is said of all cuts can so be shown
     by recursion.

  2. **All cuts** — `withEarlier` pairs each member with the members before it; one more at the end
     leaves the pairs as they are (`withEarlier_concat`).

  3. **The first member with a property** — `CutAt` cuts a list in front of it, or behind its last member
     when there is none.  There is exactly one such cut (`cutAt_iff`).
-/

namespace TomeSql

variable {α : Type}

/-! ## One more in front -/

/-- A cut of a longer list is at its head or further on. -/
theorem exists_cut_cons_iff {a : α} {l : List α} {P : List α → α → List α → Prop} :
    (∃ before x after, a :: l = before ++ x :: after ∧ P before x after) ↔
      P [] a l ∨ ∃ before x after, l = before ++ x :: after ∧ P (a :: before) x after := by
  constructor
  · rintro ⟨before, x, after, hcut, h⟩
    rcases List.cons_eq_append_iff.mp hcut with ⟨rfl, hhead⟩ | ⟨before, rfl, rfl⟩
    · cases hhead
      exact Or.inl h
    · exact Or.inr ⟨before, x, after, rfl, h⟩
  · rintro (h | ⟨before, x, after, rfl, h⟩)
    · exact ⟨[], a, l, rfl, h⟩
    · exact ⟨a :: before, x, after, rfl, h⟩

theorem forall_cut_cons_iff {a : α} {l : List α} {P : List α → α → List α → Prop} :
    (∀ before x after, a :: l = before ++ x :: after → P before x after) ↔
      P [] a l ∧ ∀ before x after, l = before ++ x :: after → P (a :: before) x after := by
  constructor
  · intro h
    have hhead : P [] a l := h [] a l rfl
    refine ⟨hhead, fun before x after hcut => ?_⟩
    apply h (a :: before) x after
    rw [hcut]
    rfl
  · rintro ⟨hhead, htail⟩ before x after hcut
    rcases List.cons_eq_append_iff.mp hcut with ⟨rfl, hfirst⟩ | ⟨before, rfl, rfl⟩
    · cases hfirst
      exact hhead
    · exact htail before x after rfl

/-! ## All cuts -/

/-- Each member of a list with the list of the members before it. -/
def withEarlier (l : List α) : List (List α × α) := l.mapIdx fun i a => (l.take i, a)

theorem withEarlier_nil : withEarlier ([] : List α) = [] := rfl

theorem withEarlier_concat (l : List α) (a : α) :
    withEarlier (l ++ [a]) = withEarlier l ++ [(l, a)] := by
  rw [withEarlier, List.mapIdx_concat, List.take_left, withEarlier]
  congr 1
  -- the beginnings of `l` are the same when `a` stands behind it
  apply List.ext_getElem (by simp)
  intro i hi _
  rw [List.length_mapIdx] at hi
  simp [List.take_append_of_le_length (Nat.le_of_lt hi)]

/-- The pairs are exactly the ways to cut the list at one of its members. -/
theorem mem_withEarlier_iff {l earlier : List α} {a : α} :
    (earlier, a) ∈ withEarlier l ↔ ∃ later, l = earlier ++ a :: later := by
  simp only [withEarlier, List.mem_mapIdx, Prod.mk.injEq]
  constructor
  · rintro ⟨i, hi, rfl, rfl⟩
    exact ⟨l.drop (i + 1), by rw [← List.drop_eq_getElem_cons hi, List.take_append_drop]⟩
  · rintro ⟨later, rfl⟩
    exact ⟨earlier.length, by simp, by simp, by simp⟩

/-! ## The first member with a property -/

/-- The list is cut in front of the first member with the property, if it has any. -/
structure CutAt (stop : α → Prop) (l before after : List α) : Prop where
  eq_append : l = before ++ after
  not_stop : ∀ a ∈ before, ¬ stop a
  stop_head : ∀ a ∈ after.head?, stop a

/-- The cut is where a search for the property ends. -/
theorem cutAt_iff {stop : α → Prop} {go : α → Bool} (hgo : ∀ a, go a = true ↔ ¬ stop a)
    {l before after : List α} :
    CutAt stop l before after ↔ before = l.takeWhile go ∧ after = l.dropWhile go := by
  constructor
  · rintro ⟨rfl, hbefore, hafter⟩
    have hpass : ∀ a ∈ before, go a = true := fun a ha => (hgo a).mpr (hbefore a ha)
    rw [List.takeWhile_append_of_pos hpass, List.dropWhile_append_of_pos hpass]
    cases after with
    | nil => exact ⟨(List.append_nil before).symm, rfl⟩
    | cons a after =>
      have hstop : ¬ go a = true := by
        rw [hgo a]
        exact fun hnot => hnot (hafter a rfl)
      rw [List.takeWhile_cons_of_neg hstop, List.dropWhile_cons_of_neg hstop]
      exact ⟨(List.append_nil before).symm, rfl⟩
  · rintro ⟨rfl, rfl⟩
    refine ⟨List.takeWhile_append_dropWhile.symm, ?_, ?_⟩
    · intro a ha
      have hall := List.all_takeWhile (p := go) (l := l)
      exact (hgo a).mp (List.all_eq_true.mp hall a ha)
    · intro a ha
      have hnot := List.head?_dropWhile_not go l
      rw [Option.mem_def.mp ha] at hnot
      have hstop : ¬ go a = true := by simpa using hnot
      rw [hgo a] at hstop
      exact Classical.not_not.mp hstop

/-- Every list is cut, at its end if nothing stops it before. -/
theorem exists_cutAt (stop : α → Prop) (l : List α) : ∃ before after, CutAt stop l before after := by
  classical
  have hgo : ∀ a, decide (¬ stop a) = true ↔ ¬ stop a := fun a => decide_eq_true_iff
  exact ⟨_, _, (cutAt_iff hgo).mpr ⟨rfl, rfl⟩⟩

/-- It is cut in one place only, the first that stops it. -/
theorem CutAt.unique {stop : α → Prop} {l before after before' after' : List α}
    (h : CutAt stop l before after) (h' : CutAt stop l before' after') :
    before = before' ∧ after = after' := by
  classical
  have hgo : ∀ a, decide (¬ stop a) = true ↔ ¬ stop a := fun a => decide_eq_true_iff
  obtain ⟨rfl, rfl⟩ := (cutAt_iff hgo).mp h
  obtain ⟨rfl, rfl⟩ := (cutAt_iff hgo).mp h'
  exact ⟨rfl, rfl⟩

/-- Members without the property in front of a list do not move the cut. -/
theorem CutAt.append_left {stop : α → Prop} {l before after : List α} (h : CutAt stop l before after)
    {more : List α} (hmore : ∀ a ∈ more, ¬ stop a) : CutAt stop (more ++ l) (more ++ before) after := by
  obtain ⟨rfl, hbefore, hafter⟩ := h
  refine ⟨(List.append_assoc more before after).symm, ?_, hafter⟩
  exact List.forall_mem_append.mpr ⟨hmore, hbefore⟩

/-- What stands behind a list that is cut does not move the cut. -/
theorem CutAt.append_right {stop : α → Prop} {l before after : List α} (h : CutAt stop l before after)
    (hstop : ∃ a ∈ l, stop a) (more : List α) : CutAt stop (l ++ more) before (after ++ more) := by
  obtain ⟨rfl, hbefore, hafter⟩ := h
  have hne : after ≠ [] := by
    rintro rfl
    obtain ⟨a, ha, hyes⟩ := hstop
    rw [List.append_nil] at ha
    exact hbefore a ha hyes
  obtain ⟨b, after, rfl⟩ := List.exists_cons_of_ne_nil hne
  exact ⟨List.append_assoc before (b :: after) more, hbefore, hafter⟩

end TomeSql
