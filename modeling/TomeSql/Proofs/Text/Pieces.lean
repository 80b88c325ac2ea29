/-
  Putting texts together: where the pieces of a text end, and how cutting finds them again.

  1. **Separators** — a piece that holds no separator ends at the first one behind it.  So the pieces
     around it are known from the whole (`eq_of_append_sep`), and cutting gives them back
     (`fields_append_sep`).

  2. **Lines** — the same for lines that are each written with a line feed behind them
     (`lines_flatMap_newline`).

  3. **White space in front** — every text is white space and then what trimming on the left leaves, and
     where a text continues with something else the white space is known (`trimStart_append`).

  4. **White space at the ends** — trimming only looks at what stands in front of the first character
     that is not white space and behind the last one (`trim_append`).
-/
import TomeSql.Proofs.Text.Basic

namespace TomeSql.Text

open Unicode (isWhiteSpace)

/-! ## Separators -/

/-- A text without the separator is one field. -/
theorem fields_of_not_mem {sep : Char} {t : Text} (h : sep ∉ t) : fields sep t = [t] := by
  induction t with
  | nil => rfl
  | cons c t ih =>
    rw [List.mem_cons, not_or] at h
    rw [fields, if_neg (Ne.symm h.1), ih h.2]

/-- A field ends at the first separator. -/
theorem fields_append_sep {sep : Char} {t : Text} (h : sep ∉ t) (rest : Text) :
    fields sep (t ++ sep :: rest) = t :: fields sep rest := by
  induction t with
  | nil => rw [List.nil_append, fields, if_pos rfl]
  | cons c t ih =>
    rw [List.mem_cons, not_or] at h
    rw [List.cons_append, fields, if_neg (Ne.symm h.1), ih h.2]

theorem takeWhile_append_sep {sep : Char} {t : Text} (h : sep ∉ t) (rest : Text) :
    (t ++ sep :: rest).takeWhile (· != sep) = t := by
  have hpiece : ∀ c ∈ t, (c != sep) = true := fun c hc => bne_iff_ne.mpr (ne_of_mem_of_not_mem hc h)
  rw [List.takeWhile_append_of_pos hpiece, List.takeWhile_cons_of_neg (by simp), List.append_nil]

theorem dropWhile_append_sep {sep : Char} {t : Text} (h : sep ∉ t) (rest : Text) :
    (t ++ sep :: rest).dropWhile (· != sep) = sep :: rest := by
  have hpiece : ∀ c ∈ t, (c != sep) = true := fun c hc => bne_iff_ne.mpr (ne_of_mem_of_not_mem hc h)
  rw [List.dropWhile_append_of_pos hpiece, List.dropWhile_cons_of_neg (by simp)]

/-- A piece without the separator is known from the text that goes on with it. -/
theorem eq_of_append_sep {sep : Char} {t u r s : Text} (ht : sep ∉ t) (hu : sep ∉ u)
    (h : t ++ sep :: r = u ++ sep :: s) : t = u ∧ r = s := by
  have hfields := congrArg (fields sep) h
  rw [fields_append_sep ht, fields_append_sep hu, List.cons.injEq] at hfields
  obtain ⟨rfl, -⟩ := hfields
  exact ⟨rfl, (List.cons.inj (List.append_cancel_left h)).2⟩

/-- The same from the right: the last separator is the one in front of a piece without any. -/
theorem eq_of_sep_append {sep : Char} {t u r s : Text} (ht : sep ∉ t) (hu : sep ∉ u)
    (h : r ++ sep :: t = s ++ sep :: u) : r = s ∧ t = u := by
  have hreverse := congrArg List.reverse h
  simp only [List.reverse_append, List.reverse_cons, List.append_assoc, List.singleton_append]
    at hreverse
  obtain ⟨hpiece, hrest⟩ := eq_of_append_sep (fun hmem => ht (List.mem_reverse.mp hmem))
    (fun hmem => hu (List.mem_reverse.mp hmem)) hreverse
  exact ⟨List.reverse_injective hrest, List.reverse_injective hpiece⟩

/-! ## Lines -/

theorem not_isLineBreak_of_any {t : Text} (h : t.any isLineBreak = false) :
    ∀ c ∈ t, isLineBreak c = false := by
  simpa using h

theorem ne_cr_of_not_isLineBreak {c : Char} (h : isLineBreak c = false) : c ≠ '\r' := by
  rintro rfl
  exact absurd h (by decide)

/-- A character that is no break belongs to the first line. -/
theorem lines_cons_of_not_break {c : Char} (hc : isLineBreak c = false) (t : Text) :
    lines (c :: t) = match lines t with
      | [] => [[c]]
      | l :: ls => (c :: l) :: ls := by
  rw [lines]
  · exact if_neg (by simp [hc])
  · exact fun _ hcr => absurd hcr (ne_cr_of_not_isLineBreak hc)

/-- A break ends an empty line, unless it is the first half of a pair. -/
theorem lines_cons_of_break {c : Char} (hc : isLineBreak c = true) {t : Text}
    (hpair : c = '\r' → t.head? ≠ some '\n') : lines (c :: t) = [] :: lines t := by
  rw [lines]
  · rw [if_pos hc]
  · rintro u rfl rfl
    exact hpair rfl rfl

/-- A pair is one break. -/
theorem lines_crlf (t : Text) : lines ('\r' :: '\n' :: t) = [] :: lines t := by rw [lines]

theorem lines_newline (t : Text) : lines ('\n' :: t) = [] :: lines t :=
  lines_cons_of_break (by decide) fun hcr => absurd hcr (by decide)

/-- A text without breaks that stands in front of another lengthens the first line of that one. -/
theorem lines_append {l : Text} (h : ∀ c ∈ l, isLineBreak c = false) {rest m : Text}
    {ms : List Text} (hrest : lines rest = m :: ms) : lines (l ++ rest) = (l ++ m) :: ms := by
  induction l with
  | nil => exact hrest
  | cons c l ih =>
    rw [List.cons_append, lines_cons_of_not_break (h c List.mem_cons_self),
      ih fun d hd => h d (List.mem_cons_of_mem c hd)]
    rfl

/-- A text without breaks is one line, unless it is empty. -/
theorem lines_of_not_break {l : Text} (h : ∀ c ∈ l, isLineBreak c = false) (hne : l ≠ []) :
    lines l = [l] := by
  obtain ⟨c, l, rfl⟩ := List.exists_cons_of_ne_nil hne
  induction l generalizing c with
  | nil => rw [lines_cons_of_not_break (h c List.mem_cons_self)]; rfl
  | cons d l ih =>
    rw [lines_cons_of_not_break (h c List.mem_cons_self),
      ih d (fun e he => h e (List.mem_cons_of_mem c he)) (List.cons_ne_nil d l)]

theorem lines_ne_nil {t : Text} (h : t ≠ []) : lines t ≠ [] := by
  fun_cases lines t
  · exact absurd rfl h
  all_goals simp

/-- The first line of a text begins with what stands in front of every break. -/
theorem exists_lines_append {l : Text} (h : ∀ c ∈ l, isLineBreak c = false) (hne : l ≠ [])
    (rest : Text) : ∃ m ms, lines (l ++ rest) = (l ++ m) :: ms := by
  cases rest with
  | nil => exact ⟨[], [], by rw [List.append_nil, lines_of_not_break h hne]⟩
  | cons c rest =>
    obtain ⟨m, ms, hrest⟩ := List.exists_cons_of_ne_nil (lines_ne_nil (List.cons_ne_nil c rest))
    exact ⟨m, ms, lines_append h hrest⟩

/-- A line ends at its line feed. -/
theorem lines_append_newline {l : Text} (h : ∀ c ∈ l, isLineBreak c = false) (rest : Text) :
    lines (l ++ '\n' :: rest) = l :: lines rest := by
  rw [lines_append h (lines_newline rest), List.append_nil]

/-- Lines that are written with a line feed behind each of them are read back. -/
theorem lines_flatMap_newline {α : Type} {line : α → Text} {l : List α}
    (h : ∀ a ∈ l, ∀ c ∈ line a, isLineBreak c = false) :
    lines (l.flatMap fun a => line a ++ ['\n']) = l.map line := by
  induction l with
  | nil => rfl
  | cons a l ih =>
    rw [List.flatMap_cons, List.append_assoc, List.singleton_append,
      lines_append_newline (h a List.mem_cons_self),
      ih fun b hb => h b (List.mem_cons_of_mem a hb), List.map_cons]

/-! ## White space in front -/

/-- Nothing but white space. -/
def Blank (t : Text) : Prop := ∀ c ∈ t, isWhiteSpace c = true

-- Given by hand: there are finitely many characters, but deciding must not go through all of them.
instance : DecidablePred Blank := fun t => List.decidableBAll (fun c => isWhiteSpace c = true) t

/-- The text does not begin with white space. -/
def BeginsDark (t : Text) : Prop := ∀ c ∈ t.head?, isWhiteSpace c = false

theorem beginsDark_cons {c : Char} (hc : isWhiteSpace c = false) (t : Text) : BeginsDark (c :: t) := by
  intro d hd
  rw [List.head?_cons, Option.mem_some_iff] at hd
  exact hd ▸ hc

theorem trimStart_of_beginsDark {t : Text} (h : BeginsDark t) : trimStart t = t := by
  cases t with
  | nil => rfl
  | cons c t => exact List.dropWhile_cons_of_neg (by simp [h c rfl])

/-- Trimming takes white space away up to the first other character. -/
theorem trimStart_append {a t : Text} (ha : Blank a) (ht : BeginsDark t) : trimStart (a ++ t) = t := by
  rw [trimStart, List.dropWhile_append_of_pos ha]
  exact trimStart_of_beginsDark ht

theorem beginsDark_trimStart (t : Text) : BeginsDark (trimStart t) := by
  intro c hc
  have hnot := List.head?_dropWhile_not isWhiteSpace t
  rw [trimStart, Option.mem_def] at hc
  simpa [hc] using hnot

/-- A text is white space and then what trimming on the left leaves. -/
theorem exists_blank_append_trimStart (t : Text) : ∃ a, Blank a ∧ t = a ++ trimStart t :=
  ⟨t.takeWhile isWhiteSpace, fun _ hc => List.mem_takeWhile_imp hc, List.takeWhile_append_dropWhile.symm⟩

/-! ## White space at the ends -/

/-- A blank in front of a text does not show in its trimmed fields. -/
theorem map_trim_fields_blank {sep : Char} (h : sep ≠ ' ') (t : Text) :
    (fields sep (' ' :: t)).map trim = (fields sep t).map trim := by
  have htrim : ∀ u, trim (' ' :: u) = trim u := by
    intro u
    have hblank : isWhiteSpace ' ' = true := by decide
    rw [trim, trimStart, List.dropWhile_cons_of_pos hblank, ← trimStart, ← trim]
  rw [fields, if_neg (Ne.symm h)]
  cases hf : fields sep t with
  | nil => exact absurd hf (fields_ne_nil sep t)
  | cons f fs => rw [List.map_cons, List.map_cons, htrim]

/-- Nothing is left of a text exactly where all of it is white space. -/
theorem trim_eq_nil_iff {t : Text} : trim t = [] ↔ Blank t := by
  rw [trim_eq_dropEnds, dropEnds_eq_nil_iff, Blank]

theorem trimEnd_of_no_whiteSpace {t : Text} (h : ∀ c ∈ t, isWhiteSpace c = false) :
    trimEnd t = t := by
  rw [trimEnd_eq_rdropWhile, List.rdropWhile_eq_self_iff]
  intro hne
  simp [h _ (List.getLast_mem hne)]

theorem trim_of_no_whiteSpace {t : Text} (h : ∀ c ∈ t, isWhiteSpace c = false) : trim t = t :=
  trim_eq_self (fun c hc => h c (List.mem_of_mem_head? hc)) fun c hc => h c (List.mem_of_getLast? hc)

/-- Trimming stops at a character that is no white space. -/
theorem trimEnd_append (t : Text) {u : Text} (hu : ∃ c ∈ u, isWhiteSpace c = false) :
    trimEnd (t ++ u) = t ++ trimEnd u := by
  have hrest : u.reverse.dropWhile isWhiteSpace ≠ [] := by
    rw [Ne, List.dropWhile_eq_nil_iff]
    intro hall
    obtain ⟨c, hc, hnot⟩ := hu
    rw [hall c (List.mem_reverse.mpr hc)] at hnot
    cases hnot
  rw [trimEnd, List.reverse_append, List.dropWhile_append, if_neg (by simpa using hrest),
    List.reverse_append, List.reverse_reverse]
  rfl

/-- A text that begins with no white space keeps its beginning when what follows is not blank. -/
theorem trim_append {c : Char} {t u : Text} (hc : isWhiteSpace c = false)
    (hu : ∃ d ∈ u, isWhiteSpace d = false) : trim (c :: t ++ u) = c :: t ++ trimEnd u := by
  have hstart : trimStart (c :: t ++ u) = c :: t ++ u := by simp [trimStart, hc]
  rw [trim, hstart, trimEnd_append _ hu]

/-- White space that stands around a text is trimmed away with its own. -/
theorem trim_blank_append_blank {u v : Text} (hu : Blank u) (hv : Blank v) (t : Text) :
    trim (u ++ t ++ v) = trim t := by
  rw [trim_eq_dropEnds, trim_eq_dropEnds]
  exact dropEnds_append hu hv

/-- White space behind a text is trimmed away with that of the text. -/
theorem trim_append_blank (t : Text) {u : Text} (hu : ∀ c ∈ u, isWhiteSpace c = true) :
    trim (t ++ u) = trim t :=
  trim_blank_append_blank (List.forall_mem_nil _) hu t

end TomeSql.Text
