/-
  Lower case and beginnings: when the lower-case form of a text goes on from that of its beginning.

  1. **What a sigma sees** — a capital sigma looks through the characters that case mapping ignores.
     On the right it sees the first one behind them, in its own text or in what follows that text
     (`meetsCased_append`).

  2. **Open sigma** — a capital sigma of a text is open when it would end a word there and nothing in
     the text settles that: all that stands behind it is looked through.

  3. **The crux (`lowercaseAfter_prefix_iff`)** — no other character changes with what follows.  So the
     lower-case form goes on from that of the beginning unless an open sigma meets a cased letter: it
     was `ς`, and becomes `σ`.
-/
import TomeSql.Proofs.Cuts
import TomeSql.Text.Case
import Mathlib.Data.List.TakeWhile

namespace TomeSql.Text

open Unicode (isCaseIgnorable)

variable {before t rest : Text} {c : Char}

/-! ## What a sigma sees -/

/-- Characters that case passes over do not reach a cased letter. -/
theorem meetsCased_of_all_isCaseIgnorable (h : t.all isCaseIgnorable = true) :
    meetsCased t = false := by
  rw [meetsCased, List.dropWhile_eq_nil_iff.mpr (List.all_eq_true.mp h)]

/-- Whether a cased letter comes next is settled by the text itself, unless all of it is looked
through. -/
theorem meetsCased_append (t rest : Text) :
    meetsCased (t ++ rest) =
      if t.all isCaseIgnorable then meetsCased rest else meetsCased t := by
  rw [meetsCased, List.dropWhile_append]
  cases hall : t.all isCaseIgnorable with
  | true =>
    rw [if_pos rfl, List.dropWhile_eq_nil_iff.mpr (List.all_eq_true.mp hall)]
    rfl
  | false =>
    rw [if_neg Bool.false_ne_true, meetsCased]
    cases hdrop : t.dropWhile isCaseIgnorable with
    | nil =>
      rw [List.all_eq_true.mpr (List.dropWhile_eq_nil_iff.mp hdrop)] at hall
      cases hall
    | cons d t => rfl

/-! ## Open sigmas -/

/-- Between `before` and `behind`, `c` is a capital sigma that ends a word as far as this text goes. -/
structure IsOpen (before : Text) (c : Char) (behind : Text) : Prop where
  sigma : c = 'Σ'
  cased : meetsCased before = true
  ignorable : behind.all isCaseIgnorable = true

/-- The text `t`, which `before` precedes, has an open sigma. -/
def OpenSigma (before t : Text) : Prop :=
  ∃ word c tail, t = word ++ c :: tail ∧ IsOpen (word.reverse ++ before) c tail

theorem not_openSigma_nil : ¬ OpenSigma before [] := by
  rintro ⟨word, c, tail, ht, -⟩
  simp at ht

/-- The first character is an open sigma, or one further on is. -/
theorem openSigma_cons_iff :
    OpenSigma before (c :: t) ↔ IsOpen before c t ∨ OpenSigma (c :: before) t := by
  rw [OpenSigma, exists_cut_cons_iff, OpenSigma]
  simp

instance (before : Text) (c : Char) (behind : Text) : Decidable (IsOpen before c behind) :=
  decidable_of_iff
    (c = 'Σ' ∧ meetsCased before = true ∧ behind.all isCaseIgnorable = true)
    ⟨fun h => ⟨h.1, h.2.1, h.2.2⟩, fun h => ⟨h.sigma, h.cased, h.ignorable⟩⟩

instance OpenSigma.decidable : ∀ before t, Decidable (OpenSigma before t)
  | _, [] => isFalse not_openSigma_nil
  | before, c :: t =>
    have := OpenSigma.decidable (c :: before) t
    decidable_of_iff _ openSigma_cons_iff.symm

/-- Only a sigma can be open. -/
theorem not_openSigma_of_not_mem (h : 'Σ' ∉ t) : ¬ OpenSigma before t := by
  rintro ⟨word, c, tail, rfl, hopen⟩
  simp [hopen.sigma] at h

/-! ## Lower case of a beginning -/

/-- What follows a text changes the lower-case form of a character in it only at an open sigma. -/
theorem lowerAt_append (h : ¬ (IsOpen before c t ∧ meetsCased rest = true)) :
    lowerAt before c (t ++ rest) = lowerAt before c t := by
  rw [lowerAt, lowerAt]
  by_cases hc : c = 'Σ'
  · rw [if_pos hc, if_pos hc, meetsCased_append]
    cases hall : t.all isCaseIgnorable with
    | false => rfl
    | true =>
      rw [if_pos rfl, meetsCased_of_all_isCaseIgnorable hall]
      cases hbefore : meetsCased before with
      | false => rfl
      | true =>
        have hrest : meetsCased rest = false := by
          by_contra hmeets
          exact h ⟨⟨hc, hbefore, hall⟩, by simpa using hmeets⟩
        rw [hrest]
  · rw [if_neg hc, if_neg hc]

/-- An open sigma that meets a cased letter is no end of a word any more. -/
theorem IsOpen.lowerAt (h : IsOpen before c t) (hrest : meetsCased rest = true) :
    lowerAt before c t = ['ς'] ∧ lowerAt before c (t ++ rest) = ['σ'] := by
  simp only [Text.lowerAt, if_pos h.sigma, meetsCased_append, if_pos h.ignorable,
    meetsCased_of_all_isCaseIgnorable h.ignorable, h.cased, hrest]
  exact ⟨rfl, rfl⟩

/-- The lower-case form goes on from that of a beginning, unless an open sigma of the beginning meets
a cased letter. -/
theorem lowercaseAfter_prefix_iff (before t rest : Text) :
    lowercaseAfter before t <+: lowercaseAfter before (t ++ rest) ↔
      ¬ (OpenSigma before t ∧ meetsCased rest = true) := by
  induction t generalizing before with
  | nil =>
    rw [lowercaseAfter]
    exact iff_of_true List.nil_prefix fun h => not_openSigma_nil h.1
  | cons c t ih =>
    rw [List.cons_append, lowercaseAfter, lowercaseAfter, openSigma_cons_iff]
    by_cases hopen : IsOpen before c t ∧ meetsCased rest = true
    · -- here the two part: no later character can bring them together again
      obtain ⟨hfinal, hinner⟩ := hopen.1.lowerAt hopen.2
      rw [hfinal, hinner]
      apply iff_of_false
      · intro hprefix
        obtain ⟨hsigma, -⟩ := List.cons_prefix_cons.mp hprefix
        exact absurd hsigma (by decide)
      · exact fun h => h ⟨Or.inl hopen.1, hopen.2⟩
    · rw [lowerAt_append hopen, List.prefix_append_right_inj, ih, or_and_right, not_or]
      exact (and_iff_right hopen).symm

/-- The lower case of a beginning begins that of the whole, unless an open sigma meets a letter. -/
theorem lowercase_prefix_iff (t rest : Text) :
    lowercase t <+: lowercase (t ++ rest) ↔ ¬ (OpenSigma [] t ∧ meetsCased rest = true) :=
  lowercaseAfter_prefix_iff [] t rest

example : ¬ lowercase "ΑΣ".toList <+: lowercase "ΑΣΑ".toList := by decide +kernel
example : lowercase "ΑΣ".toList <+: lowercase "ΑΣ.".toList := by decide +kernel

end TomeSql.Text
