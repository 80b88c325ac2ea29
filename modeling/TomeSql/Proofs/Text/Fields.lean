/-
  The fields of a line that is trimmed as a whole before it is cut.

  The separator is white space itself here, so trimming the line takes separators away, and with them
  whole fields.  What it takes are the blank fields at both ends, and then white space of the first and of
  the last field that is left; trimming each field later takes that in any case.

  1. **Joining** — cutting a text at the separator undoes joining (`fields_intercalate`).

  2. **Blank fields at the ends** — joined with the others they are white space at the ends of the line
     (`trim_intercalate_append`).

  3. **A field that is not blank** — trimming the line ends inside it.  On the right this is an induction
     over the fields, up to the last one (`map_trim_fields_trimEnd`); on the left it concerns the first
     one only (`trimStart_intercalate_cons`).

  4. **Main results** — trimming the line and then its fields leaves the trimmed fields from the first one
     that is not blank to the last one (`map_trim_fields_trim`), and the line begins as that first one
     does (`head?_trim_intercalate`).
-/
import TomeSql.Proofs.Text.Pieces

namespace TomeSql.Text

open Unicode (isWhiteSpace)

variable {sep : Char} {fs before after : List Text} {f t : Text}

/-! ## Joining -/

/-- Cutting undoes joining, if the separator stands in no piece. -/
theorem fields_intercalate (hne : fs ≠ []) (h : ∀ f ∈ fs, sep ∉ f) :
    fields sep ([sep].intercalate fs) = fs := by
  induction fs with
  | nil => exact absurd rfl hne
  | cons f fs ih =>
    obtain ⟨hf, hfs⟩ := List.forall_mem_cons.mp h
    cases fs with
    | nil => rw [List.intercalate_singleton, fields_of_not_mem hf]
    | cons g fs =>
      rw [List.intercalate_cons_cons, List.append_assoc, List.singleton_append, fields_append_sep hf,
        ih (List.cons_ne_nil g fs) hfs]

/-- Joining puts a separator in front of every field but the first. -/
theorem intercalate_cons (sep : Char) (f : Text) (fs : List Text) :
    [sep].intercalate (f :: fs) = f ++ fs.flatMap (sep :: ·) := by
  induction fs generalizing f with
  | nil => rw [List.intercalate_singleton, List.flatMap_nil, List.append_nil]
  | cons g fs ih =>
    rw [List.intercalate_cons_cons, ih g, List.flatMap_cons, List.append_assoc, List.singleton_append,
      List.cons_append]

/-- Two joins are one with a separator between them. -/
theorem intercalate_append (hbefore : before ≠ []) (hafter : after ≠ []) :
    [sep].intercalate (before ++ after) =
      [sep].intercalate before ++ [sep] ++ [sep].intercalate after := by
  obtain ⟨f, fs, rfl⟩ := List.exists_cons_of_ne_nil hbefore
  obtain ⟨g, gs, rfl⟩ := List.exists_cons_of_ne_nil hafter
  rw [List.cons_append, intercalate_cons, intercalate_cons, intercalate_cons, List.flatMap_append,
    List.flatMap_cons]
  simp

/-! ## Blank fields at the ends -/

/-- The fields from the first one that is not blank to the last one. -/
def withoutBlankEnds (fs : List Text) : List Text := dropEnds (fun f => decide (Blank f)) fs

/-- Only blank fields are dropped, from either end. -/
theorem exists_eq_append_withoutBlankEnds_append (fs : List Text) :
    ∃ before after, (∀ f ∈ before, Blank f) ∧ (∀ f ∈ after, Blank f) ∧
      fs = before ++ withoutBlankEnds fs ++ after := by
  simpa only [decide_eq_true_eq, withoutBlankEnds] using
    exists_eq_append_dropEnds_append (fun f => decide (Blank f)) fs

/-- No field is left exactly where all of them are blank. -/
theorem withoutBlankEnds_eq_nil_iff : withoutBlankEnds fs = [] ↔ ∀ f ∈ fs, Blank f := by
  rw [withoutBlankEnds, dropEnds_eq_nil_iff]
  simp only [decide_eq_true_eq]

/-- It is the same to look at the fields when they are trimmed. -/
theorem map_trim_withoutBlankEnds (fs : List Text) :
    (withoutBlankEnds fs).map trim = dropEnds List.isEmpty (fs.map trim) := by
  have hblank : (fun f => decide (Blank f)) = List.isEmpty ∘ trim := by
    funext f
    rw [Bool.eq_iff_iff, decide_eq_true_iff, Function.comp_apply, List.isEmpty_iff, trim_eq_nil_iff]
  rw [dropEnds_map, ← hblank, withoutBlankEnds]

/-- The first field that is left is not blank. -/
theorem not_blank_of_mem_head? (h : f ∈ (withoutBlankEnds fs).head?) : ¬ Blank f :=
  of_decide_eq_false (not_of_mem_head?_dropEnds (p := fun f => decide (Blank f)) h)

theorem not_blank_of_mem_getLast? (h : f ∈ (withoutBlankEnds fs).getLast?) : ¬ Blank f :=
  of_decide_eq_false (not_of_mem_getLast?_dropEnds (p := fun f => decide (Blank f)) h)

theorem not_blank_iff : ¬ Blank t ↔ ∃ c ∈ t, isWhiteSpace c = false := by
  simp [Blank]

theorem blank_append {u v : Text} (hu : Blank u) (hv : Blank v) : Blank (u ++ v) :=
  List.forall_mem_append.mpr ⟨hu, hv⟩

theorem blank_intercalate (hsep : isWhiteSpace sep = true) (h : ∀ f ∈ fs, Blank f) :
    Blank ([sep].intercalate fs) := by
  cases fs with
  | nil => exact List.forall_mem_nil _
  | cons f fs =>
    obtain ⟨hf, hfs⟩ := List.forall_mem_cons.mp h
    rw [intercalate_cons]
    refine blank_append hf fun c hc => ?_
    obtain ⟨g, hg, hc⟩ := List.mem_flatMap.mp hc
    have hpiece : Blank (sep :: g) := List.forall_mem_cons.mpr ⟨hsep, hfs g hg⟩
    exact hpiece c hc

/-- Blank fields at the ends of a line are trimmed away with the separators beside them. -/
theorem trim_intercalate_append (hsep : isWhiteSpace sep = true) (hbefore : ∀ f ∈ before, Blank f)
    (hafter : ∀ f ∈ after, Blank f) (hne : fs ≠ []) :
    trim ([sep].intercalate (before ++ fs ++ after)) = trim ([sep].intercalate fs) := by
  have hblank : Blank [sep] := List.forall_mem_singleton.mpr hsep
  -- other fields are left, so there is a separator beside the blank ones, if there are any
  have hright : trim ([sep].intercalate (fs ++ after)) = trim ([sep].intercalate fs) := by
    rcases eq_or_ne after [] with rfl | hsome
    · rw [List.append_nil]
    · rw [intercalate_append hne hsome, List.append_assoc]
      exact trim_append_blank _ (blank_append hblank (blank_intercalate hsep hafter))
  rw [List.append_assoc, ← hright]
  rcases eq_or_ne before [] with rfl | hsome
  · rw [List.nil_append]
  · rw [intercalate_append hsome (by simp [hne]),
      ← List.append_nil (_ ++ [sep].intercalate (fs ++ after))]
    exact trim_blank_append_blank (blank_append (blank_intercalate hsep hbefore) hblank)
      (List.forall_mem_nil _) _

/-! ## A field that is not blank -/

theorem trim_trimStart (t : Text) : trim (trimStart t) = trim t := by
  rw [trim, trimStart, trimStart, List.dropWhile_idempotent]
  rfl

theorem trim_trimEnd (t : Text) : trim (trimEnd t) = trim t := by
  have hcut : trimEnd t ++ t.rtakeWhile isWhiteSpace = t := List.rdropWhile_append_rtakeWhile
  calc trim (trimEnd t) = trim (trimEnd t ++ t.rtakeWhile isWhiteSpace) :=
        (trim_append_blank _ fun _ hc => List.mem_rtakeWhile_imp hc).symm
    _ = trim t := by rw [hcut]

theorem blank_trimStart_iff : Blank (trimStart t) ↔ Blank t := by
  rw [← trim_eq_nil_iff, trim_trimStart, trim_eq_nil_iff]

/-- A field that is not blank shows in the line. -/
theorem not_blank_intercalate (hf : f ∈ fs) (h : ¬ Blank f) : ¬ Blank ([sep].intercalate fs) := by
  intro hblank
  refine h fun c hc => hblank c ?_
  obtain ⟨before, after, rfl⟩ := List.append_of_mem hf
  cases before with
  | nil =>
    rw [List.nil_append, intercalate_cons]
    exact List.mem_append_left _ hc
  | cons g before =>
    rw [intercalate_append (List.cons_ne_nil g before) (List.cons_ne_nil f after), intercalate_cons sep f]
    exact List.mem_append_right _ (List.mem_append_left _ hc)

/-- Trimming on the right ends inside the last field, if that one is not blank. -/
theorem map_trim_fields_trimEnd (htab : ∀ f ∈ fs, sep ∉ f) (hlast : ∃ f ∈ fs.getLast?, ¬ Blank f) :
    (fields sep (trimEnd ([sep].intercalate fs))).map trim = fs.map trim := by
  induction fs with
  | nil =>
    obtain ⟨f, hf, -⟩ := hlast
    cases hf
  | cons f fs ih =>
    obtain ⟨hf, hfs⟩ := List.forall_mem_cons.mp htab
    cases fs with
    | nil =>
      have hend : sep ∉ trimEnd f := fun hmem => hf (mem_of_mem_trimEnd hmem)
      rw [List.intercalate_singleton, fields_of_not_mem hend, List.map_singleton, trim_trimEnd,
        List.map_singleton]
    | cons g fs =>
      rw [List.getLast?_cons_cons] at hlast
      obtain ⟨k, hk, hdark⟩ := hlast
      -- what is trimmed away stands behind the separator, since the other fields are not all blank
      have hrest : ∃ c ∈ [sep].intercalate (g :: fs), isWhiteSpace c = false :=
        not_blank_iff.mp (not_blank_intercalate (List.mem_of_getLast? hk) hdark)
      rw [List.intercalate_cons_cons, trimEnd_append _ hrest, List.append_assoc, List.singleton_append,
        fields_append_sep hf, List.map_cons, ih hfs ⟨k, hk, hdark⟩, List.map_cons (a := f)]

/-- Trimming on the left ends inside the first field, if that one is not blank. -/
theorem trimStart_intercalate_cons (h : ¬ Blank f) (fs : List Text) :
    trimStart ([sep].intercalate (f :: fs)) = [sep].intercalate (trimStart f :: fs) := by
  have hrest : trimStart f ≠ [] := fun hnil => h (List.dropWhile_eq_nil_iff.mp hnil)
  rw [intercalate_cons, trimStart, List.dropWhile_append, ← trimStart, if_neg (by simpa using hrest),
    intercalate_cons]

/-- So where the fields at the ends are not blank, all of them are left. -/
theorem map_trim_fields_trim_intercalate (htab : ∀ f ∈ fs, sep ∉ f)
    (hfirst : ∃ f ∈ fs.head?, ¬ Blank f) (hlast : ∃ f ∈ fs.getLast?, ¬ Blank f) :
    (fields sep (trim ([sep].intercalate fs))).map trim = fs.map trim := by
  obtain ⟨f, hf, hdark⟩ := hfirst
  obtain ⟨fs, rfl⟩ := List.head?_eq_some_iff.mp hf
  obtain ⟨hsep, hfs⟩ := List.forall_mem_cons.mp htab
  have htab' : ∀ g ∈ trimStart f :: fs, sep ∉ g :=
    List.forall_mem_cons.mpr ⟨fun hmem => hsep (mem_of_mem_trimStart hmem), hfs⟩
  have hlast' : ∃ g ∈ (trimStart f :: fs).getLast?, ¬ Blank g := by
    cases fs with
    | nil => exact ⟨trimStart f, rfl, fun hblank => hdark (blank_trimStart_iff.mp hblank)⟩
    | cons g fs => rwa [List.getLast?_cons_cons] at hlast ⊢
  rw [trim, trimStart_intercalate_cons hdark, map_trim_fields_trimEnd htab' hlast', List.map_cons,
    trim_trimStart, List.map_cons]

/-! ## The whole line -/

/-- **Trimming twice.**  The line is trimmed, cut, and its fields are trimmed: what is left are the
trimmed fields from the first one that is not blank to the last one. -/
theorem map_trim_fields_trim (hsep : isWhiteSpace sep = true) (htab : ∀ f ∈ fs, sep ∉ f)
    (hdark : ∃ f ∈ fs, ¬ Blank f) :
    (fields sep (trim ([sep].intercalate fs))).map trim = (withoutBlankEnds fs).map trim := by
  obtain ⟨before, after, hbefore, hafter, hcut⟩ := exists_eq_append_withoutBlankEnds_append fs
  have hne : withoutBlankEnds fs ≠ [] := by
    intro hnil
    obtain ⟨f, hf, hnot⟩ := hdark
    exact hnot (withoutBlankEnds_eq_nil_iff.mp hnil f hf)
  have hkept : ∀ f ∈ withoutBlankEnds fs, sep ∉ f := by
    intro f hf
    refine htab f ?_
    rw [hcut]
    exact List.mem_append_left _ (List.mem_append_right _ hf)
  have hfirst := List.head?_eq_some_head hne
  have hlast := List.getLast?_eq_some_getLast hne
  calc (fields sep (trim ([sep].intercalate fs))).map trim
      = (fields sep (trim ([sep].intercalate (withoutBlankEnds fs)))).map trim := by
        conv => lhs; rw [hcut]
        rw [trim_intercalate_append hsep hbefore hafter hne]
    _ = (withoutBlankEnds fs).map trim :=
        map_trim_fields_trim_intercalate hkept ⟨_, hfirst, not_blank_of_mem_head? hfirst⟩
          ⟨_, hlast, not_blank_of_mem_getLast? hlast⟩

/-- The trimmed line begins as its first field that is not blank does. -/
theorem head?_trim_intercalate (hsep : isWhiteSpace sep = true) (hbefore : ∀ f ∈ before, Blank f)
    (hdark : ¬ Blank f) (after : List Text) :
    (trim ([sep].intercalate (before ++ f :: after))).head? = (trim f).head? := by
  have hcut : before ++ f :: after = before ++ (f :: after) ++ [] := (List.append_nil _).symm
  have hfound : (f.find? fun c => !isWhiteSpace c).isSome = true := by
    simpa [Blank] using hdark
  rw [hcut, trim_intercalate_append hsep hbefore (List.forall_mem_nil _) (List.cons_ne_nil f after),
    head?_trim_eq_find?, intercalate_cons, List.find?_append, Option.or_of_isSome hfound,
    head?_trim_eq_find?]

end TomeSql.Text
