/-
  White space around the fields of a line: it does not show in what is read.

  1. **Lines by their fields (`FieldLine`)** — a line is given by its fields, and its text joins them with
     tabs.  Every text is that of exactly one such line (`existsUnique_text_eq`).

  2. **Content** — the trimmed fields from the first one that is not blank to the last one.  A row is
     decoded from them (`fieldsOf_trim_text`), and the first of them tells whether there is a row at all
     (`isComment_trim_text_iff`), so what a line is read to depends on nothing else (`ofLine_text_congr`).

  3. **Widening** — white space around any of the fields and blank fields at the ends leave the content as
     it is (`content_eq_of_widened`).

  4. **Main result (`ofLines_widened`)** — lines that are widened, each in its own way, are read to the
     same batch or fail in the same way.
-/
import Mathlib.Data.List.Forall2
import TomeSql.Batch.Basic
import TomeSql.Proofs.Batch.Decoding
import TomeSql.Proofs.Text.Fields

namespace TomeSql

open Text (Blank withoutBlankEnds)

namespace Row

/-- A trimmed line is skipped if it is empty or begins with a number sign. -/
theorem isComment_iff {t : Text} : isComment t = true ↔ ∀ c ∈ t.head?, c = '#' := by
  cases t with
  | nil => simp [isComment]
  | cons c t => simp [isComment]

/-- Decoding looks at the fields only. -/
theorem decode_congr {s t : Text} (h : fieldsOf s = fieldsOf t) : decode s = decode t := by
  rcases hf : fieldsOf t with _ | ⟨first, _ | ⟨second, _ | ⟨third, _ | ⟨fourth, rest⟩⟩⟩⟩
  · exact absurd hf (fieldsOf_ne_nil t)
  all_goals simp only [decode, h, hf]

end Row

namespace Batch

variable {o : Options}

/-! ## Lines by their fields -/

/-- A line, given by its fields. -/
structure FieldLine where
  fields : List Text
  fields_ne_nil : fields ≠ []
  tab_not_mem : ∀ f ∈ fields, '\t' ∉ f

namespace FieldLine

variable {l m : FieldLine}

/-- The fields with a tab between each two of them. -/
def text (l : FieldLine) : Text := ['\t'].intercalate l.fields

theorem fields_text (l : FieldLine) : Text.fields '\t' l.text = l.fields :=
  Text.fields_intercalate l.fields_ne_nil l.tab_not_mem

/-- Every line is given by its fields in exactly one way. -/
theorem existsUnique_text_eq (t : Text) : ∃! l : FieldLine, l.text = t := by
  refine ⟨⟨Text.fields '\t' t, Text.fields_ne_nil '\t' t, fun _ hf => Text.not_mem_of_mem_fields hf⟩,
    Text.intercalate_fields '\t' t, ?_⟩
  rintro ⟨fields, hne, htab⟩ rfl
  rw [FieldLine.mk.injEq]
  exact (fields_text ⟨fields, hne, htab⟩).symm

/-! ## Content -/

/-- The trimmed fields from the first one that is not blank to the last one. -/
def content (l : FieldLine) : List Text := (withoutBlankEnds l.fields).map Text.trim

/-- All fields are blank, or the first one that is not begins, trimmed, with `#`. -/
def Skipped (l : FieldLine) : Prop :=
  (∀ f ∈ l.fields, Blank f) ∨
  ∃ before f after, l.fields = before ++ f :: after ∧ (∀ g ∈ before, Blank g) ∧
    (Text.trim f).head? = some '#'

/-- There is no row if there is no content or its first field begins with `#`. -/
theorem isComment_trim_text_iff :
    Row.isComment (Text.trim l.text) = true ↔ ∀ f ∈ l.content.head?, f.head? = some '#' := by
  have htab : Unicode.isWhiteSpace '\t' = true := by decide
  obtain ⟨before, after, hbefore, -, hcut⟩ := Text.exists_eq_append_withoutBlankEnds_append l.fields
  rw [Row.isComment_iff, content, text]
  cases hkept : withoutBlankEnds l.fields with
  | nil =>
    have hall : ∀ f ∈ l.fields, Blank f := Text.withoutBlankEnds_eq_nil_iff.mp hkept
    rw [Text.trim_eq_nil_iff.mpr (Text.blank_intercalate htab hall)]
    simp
  | cons f kept =>
    have hdark : ¬ Blank f := Text.not_blank_of_mem_head? (by rw [hkept]; rfl)
    have hhead : (Text.trim (['\t'].intercalate l.fields)).head? = (Text.trim f).head? := by
      rw [hcut, hkept, List.append_assoc, List.cons_append]
      exact Text.head?_trim_intercalate htab hbefore hdark (kept ++ after)
    obtain ⟨c, t, htrim⟩ := List.exists_cons_of_ne_nil (mt Text.trim_eq_nil_iff.mp hdark)
    rw [hhead]
    simp [htrim]

/-- Blank fields at the ends have no part in it: the first field with something in it decides. -/
theorem skipped_iff : l.Skipped ↔ ∀ f ∈ l.content.head?, f.head? = some '#' := by
  have hhead : l.content.head? = (l.fields.find? fun f => !decide (Blank f)).map Text.trim := by
    rw [content, List.head?_map, withoutBlankEnds, head?_dropEnds]
  rw [hhead]
  constructor
  · rintro (hall | ⟨before, f, after, hcut, hbefore, hf⟩)
    · have hnone : (l.fields.find? fun f => !decide (Blank f)) = none :=
        List.find?_eq_none.mpr (by simpa using hall)
      simp [hnone]
    · have hdark : ¬ Blank f := by
        intro hblank
        rw [Text.trim_eq_nil_iff.mpr hblank] at hf
        cases hf
      have hfirst : (l.fields.find? fun f => !decide (Blank f)) = some f :=
        List.find?_eq_some_iff_append.mpr ⟨by simpa using hdark, before, after, hcut, by simpa using hbefore⟩
      simpa [hfirst] using hf
  · intro h
    cases hfind : l.fields.find? fun f => !decide (Blank f) with
    | none => exact Or.inl (by simpa using hfind)
    | some f =>
      obtain ⟨-, before, after, hcut, hbefore⟩ := List.find?_eq_some_iff_append.mp hfind
      refine Or.inr ⟨before, f, after, hcut, by simpa using hbefore, ?_⟩
      exact h (Text.trim f) (by rw [hfind]; rfl)

/-- A line is skipped in reading just where its fields say so. -/
theorem ofLine_text_eq_none_iff : Row.ofLine l.text = .ok none ↔ l.Skipped := by
  rw [Row.ofLine_eq_ok_none_iff, isComment_trim_text_iff, skipped_iff]

/-- Any other line has the row that is decoded from its trimmed text, or the fault of that. -/
theorem ofLine_text_of_not_skipped (h : ¬ l.Skipped) :
    Row.ofLine l.text = (Row.decode (Text.trim l.text)).map some := by
  have hrow : ¬ Row.isComment (Text.trim l.text) = true := by
    rwa [isComment_trim_text_iff, ← skipped_iff]
  simp only [Row.ofLine, if_neg hrow]

/-- What a row is decoded from. -/
theorem fieldsOf_trim_text (h : ¬ l.Skipped) : Row.fieldsOf (Text.trim l.text) = l.content := by
  have hdark : ∃ f ∈ l.fields, ¬ Blank f := by
    by_contra! hall
    exact h (Or.inl hall)
  exact Text.map_trim_fields_trim (by decide) l.tab_not_mem hdark

/-- What a line is read to depends on its content only. -/
theorem ofLine_text_congr (h : l.content = m.content) : Row.ofLine l.text = Row.ofLine m.text := by
  have hsame : l.Skipped ↔ m.Skipped := by rw [skipped_iff, skipped_iff, h]
  by_cases hl : l.Skipped
  · rw [ofLine_text_eq_none_iff.mpr hl, ofLine_text_eq_none_iff.mpr (hsame.mp hl)]
  · have hm : ¬ m.Skipped := mt hsame.mpr hl
    have hfields : Row.fieldsOf (Text.trim l.text) = Row.fieldsOf (Text.trim m.text) := by
      rw [fieldsOf_trim_text hl, fieldsOf_trim_text hm, h]
    rw [ofLine_text_of_not_skipped hl, ofLine_text_of_not_skipped hm, Row.decode_congr hfields]

end FieldLine

/-! ## Widening -/

/-- The field with white space around it. -/
def Padded (f g : Text) : Prop := ∃ u v, Blank u ∧ Blank v ∧ g = u ++ f ++ v

/-- The line with white space around its fields and blank fields at its ends. -/
def Widened (l m : FieldLine) : Prop :=
  ∃ before padded after, m.fields = before ++ padded ++ after ∧ (∀ f ∈ before, Blank f) ∧
    (∀ f ∈ after, Blank f) ∧ List.Forall₂ Padded l.fields padded

theorem trim_eq_of_padded {f g : Text} (h : Padded f g) : Text.trim g = Text.trim f := by
  obtain ⟨u, v, hu, hv, rfl⟩ := h
  exact Text.trim_blank_append_blank hu hv f

theorem map_trim_eq_of_padded {fs gs : List Text} (h : List.Forall₂ Padded fs gs) :
    gs.map Text.trim = fs.map Text.trim := by
  induction h with
  | nil => rfl
  | cons hfg _ ih => rw [List.map_cons, List.map_cons, trim_eq_of_padded hfg, ih]

theorem isEmpty_of_mem_map_trim {fs : List Text} (h : ∀ f ∈ fs, Blank f) :
    ∀ t ∈ fs.map Text.trim, t.isEmpty = true := by
  simpa [Text.trim_eq_nil_iff] using h

/-- Widening adds white space only, so the fields that count are the same. -/
theorem content_eq_of_widened {l m : FieldLine} (h : Widened l m) : l.content = m.content := by
  obtain ⟨before, padded, after, hfields, hbefore, hafter, hpadded⟩ := h
  rw [FieldLine.content, FieldLine.content, Text.map_trim_withoutBlankEnds,
    Text.map_trim_withoutBlankEnds, hfields, List.map_append, List.map_append,
    dropEnds_append (isEmpty_of_mem_map_trim hbefore) (isEmpty_of_mem_map_trim hafter),
    map_trim_eq_of_padded hpadded]

/-! ## Reading -/

/-- A batch takes nothing of a line but what the line is read as. -/
theorem push_congr {r s : Text} (h : Row.ofLine r = Row.ofLine s) (b : Batch) :
    b.push o r = b.push o s := by
  rw [push, push, h]

/-- Lines that are read to the same, one by one, leave the same batch or fail in the same way. -/
theorem pushAll_congr {rs ss : List Text}
    (h : List.Forall₂ (fun r s => Row.ofLine r = Row.ofLine s) rs ss) (n : Nat) (b : Batch) :
    pushAll o n b rs = pushAll o n b ss := by
  induction h generalizing n b with
  | nil => rfl
  | cons hrs _ ih =>
    rw [pushAll, pushAll, push_congr hrs]
    split
    · rfl
    · exact ih _ _

/-- **White space around fields does not matter.**  Every line is given by its fields.  It is skipped if
they are all blank or the first one that is not begins, trimmed, with `#`; otherwise it is decoded from
the trimmed fields from the first one that is not blank to the last one.  So lines with white space put
around any of their fields, and with blank fields put at their ends, are read to the same batch, with the
same tomes, tally and counter, or fail with the same error. -/
theorem ofLines_widened (o : Options) :
    (∀ t, ∃! l : FieldLine, l.text = t) ∧
    (∀ l : FieldLine, (Row.ofLine l.text = .ok none ↔ l.Skipped) ∧
      (¬ l.Skipped → Row.ofLine l.text = (Row.decode (Text.trim l.text)).map some ∧
        Row.fieldsOf (Text.trim l.text) = (withoutBlankEnds l.fields).map Text.trim)) ∧
    ∀ ls ms : List FieldLine, List.Forall₂ Widened ls ms →
      ofLines o (ms.map FieldLine.text) = ofLines o (ls.map FieldLine.text) := by
  refine ⟨FieldLine.existsUnique_text_eq, fun l => ⟨FieldLine.ofLine_text_eq_none_iff, fun h =>
    ⟨FieldLine.ofLine_text_of_not_skipped h, FieldLine.fieldsOf_trim_text h⟩⟩, fun ls ms h => ?_⟩
  have hrows : List.Forall₂ (fun r s => Row.ofLine r = Row.ofLine s) (ms.map FieldLine.text)
      (ls.map FieldLine.text) := by
    rw [List.forall₂_map_left_iff, List.forall₂_map_right_iff]
    exact h.flip.imp fun _ _ hlm => FieldLine.ofLine_text_congr (content_eq_of_widened hlm).symm
  exact pushAll_congr hrows 1 (empty o)

/-- A row without a name, with white space around its fields and blank fields at its ends, and a comment
behind a tab.  The blank field in the middle stays. -/
theorem ofLines_widened_of_blank_fields :
    Row.fieldsOf (Text.trim "\u00a0\t 143\t\u3000\t5 \t".toList) = ["143".toList, [], "5".toList] ∧
    (ofLines {} ["\u00a0\t 143\t\u3000\t5 \t".toList, "\t  # note".toList]).map Batch.tomes =
      .ok [⟨91000, 143, [], some 5⟩] := by
  let row : FieldLine := ⟨["143".toList, [], "5".toList], by decide, by decide⟩
  let comment : FieldLine := ⟨["# note".toList], by decide, by decide⟩
  let row' : FieldLine :=
    ⟨["\u00a0".toList, " 143".toList, ['\u3000'], "5 ".toList, []], by decide, by decide⟩
  let comment' : FieldLine := ⟨[[], "  # note".toList], by decide, by decide⟩
  have hrow : Widened row row' := by
    refine ⟨["\u00a0".toList], [" 143".toList, ['\u3000'], "5 ".toList], [[]], rfl, by decide, by decide, ?_⟩
    exact .cons ⟨[' '], [], by decide, by decide, rfl⟩
      (.cons ⟨['\u3000'], [], by decide, by decide, rfl⟩
        (.cons ⟨[], [' '], by decide, by decide, rfl⟩ .nil))
  have hcomment : Widened comment comment' := by
    refine ⟨[[]], ["  # note".toList], [], rfl, by decide, by decide, ?_⟩
    exact .cons ⟨"  ".toList, [], by decide, by decide, rfl⟩ .nil
  obtain ⟨-, hdecoded, hsame⟩ := ofLines_widened {}
  have hnot : ¬ row'.Skipped := fun h => absurd ((hdecoded row').1.mpr h) (by decide)
  have hread := hsame [row, comment] [row', comment'] (.cons hrow (.cons hcomment .nil))
  exact ⟨((hdecoded row').2 hnot).2, congrArg (Except.map Batch.tomes) hread⟩

end Batch

end TomeSql
