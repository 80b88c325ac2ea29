/-
  Sets of code points, written as sorted lists of closed ranges.

  A property of characters is a table of such ranges; `Ranges.has` looks a character up.  The
  table is in increasing order, so the search stops at the first range that starts above the
  character, and characters at the low end of the code space are decided within a few steps.
-/

namespace TomeSql.Unicode

/-- Closed ranges of code points, in increasing order and disjoint. -/
abbrev Ranges := List (Nat × Nat)

/-- `r.hasCode n`: some range of `r` holds the code point `n`. -/
def Ranges.hasCode : Ranges → Nat → Bool
  | [], _ => false
  | (lo, hi) :: rest, n => if n < lo then false else n ≤ hi || Ranges.hasCode rest n

/-- `r.has c`: the character `c` lies in one of the ranges. -/
def Ranges.has (r : Ranges) (c : Char) : Bool := r.hasCode c.toNat

/-- Ranges in increasing order, each closed range non-empty and above the one before it. -/
def Ranges.Ascending : Ranges → Prop
  | [] => True
  | (lo, hi) :: rest => lo ≤ hi ∧ (∀ r ∈ rest, hi < r.1) ∧ Ranges.Ascending rest

/-- In an ascending table the search that stops early finds exactly the members. -/
theorem Ranges.hasCode_iff {r : Ranges} (h : r.Ascending) (n : Nat) :
    r.hasCode n = true ↔ ∃ p ∈ r, p.1 ≤ n ∧ n ≤ p.2 := by
  induction r with
  | nil => simp [hasCode]
  | cons p rest ih =>
    obtain ⟨lo, hi⟩ := p
    obtain ⟨hle, habove, hrest⟩ := h
    rw [hasCode]
    split
    · rename_i hn
      simp only [Bool.false_eq_true, false_iff, not_exists, not_and]
      intro q hq hq1
      rcases List.mem_cons.mp hq with rfl | hq
      · exact absurd hq1 (by simpa using hn)
      · have := habove q hq
        omega
    · rename_i hn
      simp only [Bool.or_eq_true, decide_eq_true_eq, ih hrest, List.mem_cons, exists_eq_or_imp]
      constructor
      · rintro (h | h)
        · exact Or.inl ⟨by omega, h⟩
        · exact Or.inr h
      · rintro (h | h)
        · exact Or.inl h.2
        · exact Or.inr h

end TomeSql.Unicode
