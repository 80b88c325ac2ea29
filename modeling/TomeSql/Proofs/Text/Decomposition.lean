/-
  The one way to take a text apart into lines and what ends them.

  1. **Well-ended lines (`WellEnded`)** — pairs of a line and what stands behind it.  No line holds a
     break.  Each line has a terminator, and only the last one may do without, if it is not empty.  A
     carriage return by itself has no line feed behind it, since the two would be one terminator.

  2. **One pair more (`wellEnded_cons_iff`)** — the pairs behind the first one are well-ended by
     themselves.  Everything below is an induction on the pairs by this law.

  3. **Reading (`lines_written`)** — the lines of a text that was written in this way are the lines that
     were written.

  4. **The crux (`WellEnded.eq_of_written_eq`)** — so the lines of two such writings of one text agree,
     and only their terminators are left.  Where one has a carriage return and the other has a line feed
     with it, the first one has that line feed behind its carriage return, which was ruled out.

  5. **Main result (`existsUnique_wellEnded`)** — every text is written in exactly one way, its lines are
     those of that way, and two texts one behind the other have the lines of both, unless a break would
     be made or lost between them.
-/
import TomeSql.Proofs.Cuts
import TomeSql.Proofs.Text.Terminators

namespace TomeSql.Text

/-! ## Lines and what ends them -/

/-- Lines and what ends them, one behind the other. -/
def written (ps : List (Text × Text)) : Text := ps.flatMap fun p => p.1 ++ p.2

/-- Lines, each with what stands behind it in a text. -/
structure WellEnded (ps : List (Text × Text)) : Prop where
  /-- No line holds a break. -/
  not_isLineBreak : ∀ p ∈ ps, ∀ c ∈ p.1, isLineBreak c = false
  /-- A line has a terminator, or it is the last one, and then it is not empty. -/
  terminated : ∀ before p after, ps = before ++ p :: after →
    (∃ e : Terminator, p.2 = e.text) ∨ after = [] ∧ p.2 = [] ∧ p.1 ≠ []
  /-- No line feed stands behind a carriage return that is a terminator by itself. -/
  unpaired : ∀ before p after, ps = before ++ p :: after →
    p.2 = ['\r'] → (written after).head? ≠ some '\n'

@[simp] theorem written_nil : written [] = [] := rfl

@[simp] theorem written_cons (p : Text × Text) (ps : List (Text × Text)) :
    written (p :: ps) = p.1 ++ (p.2 ++ written ps) := List.append_assoc p.1 p.2 (written ps)

theorem written_append (ps qs : List (Text × Text)) :
    written (ps ++ qs) = written ps ++ written qs := List.flatMap_append

theorem wellEnded_nil : WellEnded [] := by
  constructor
  · intro p hp
    cases hp
  · intro before p after hcut
    simp at hcut
  · intro before p after hcut
    simp at hcut

/-- A pair in front of others. -/
theorem wellEnded_cons_iff {p : Text × Text} {ps : List (Text × Text)} :
    WellEnded (p :: ps) ↔
      (∀ c ∈ p.1, isLineBreak c = false) ∧
      ((∃ e : Terminator, p.2 = e.text) ∨ ps = [] ∧ p.2 = [] ∧ p.1 ≠ []) ∧
      (p.2 = ['\r'] → (written ps).head? ≠ some '\n') ∧ WellEnded ps := by
  constructor
  · rintro ⟨hbreak, hended, halone⟩
    rw [List.forall_mem_cons] at hbreak
    rw [forall_cut_cons_iff] at hended halone
    exact ⟨hbreak.1, hended.1, halone.1, hbreak.2, hended.2, halone.2⟩
  · rintro ⟨hbreak, hended, halone, hps⟩
    constructor
    · exact List.forall_mem_cons.mpr ⟨hbreak, hps.not_isLineBreak⟩
    · exact forall_cut_cons_iff.mpr ⟨hended, hps.terminated⟩
    · exact forall_cut_cons_iff.mpr ⟨halone, hps.unpaired⟩

/-! ## Reading what was written -/

theorem Terminator.text_ne_nil (e : Terminator) : e.text ≠ [] := by
  cases e <;> exact List.cons_ne_nil _ _

/-- The lines of a text are those that were written. -/
theorem lines_written {ps : List (Text × Text)} (h : WellEnded ps) :
    lines (written ps) = ps.map Prod.fst := by
  induction ps with
  | nil => rfl
  | cons p ps ih =>
    obtain ⟨l, e⟩ := p
    obtain ⟨hbreak, hended, halone, hps⟩ := wellEnded_cons_iff.mp h
    rw [written_cons, List.map_cons]
    rcases hended with ⟨e, rfl⟩ | ⟨rfl, rfl, hne⟩
    · have hline := lines_text_append ⟨l, e, hbreak⟩ halone
      rw [EndedLine.text, List.append_assoc] at hline
      rw [hline, ih hps]
    · rw [written_nil, List.append_nil, List.append_nil, List.map_nil]
      exact lines_of_not_break hbreak hne

/-! ## Only one way -/

/-- Where two terminators begin the same text, they are the same, unless one of them is a carriage
return and the other has the line feed behind it. -/
theorem Terminator.text_append_inj {e f : Terminator} {t u : Text}
    (he : e.text = ['\r'] → t.head? ≠ some '\n') (hf : f.text = ['\r'] → u.head? ≠ some '\n')
    (h : e.text ++ t = f.text ++ u) : e.text = f.text ∧ t = u := by
  cases e with
  | single c hc =>
    cases f with
    | single d hd =>
      obtain ⟨rfl, rfl⟩ := List.cons.inj h
      exact ⟨rfl, rfl⟩
    | crlf =>
      obtain ⟨rfl, ht⟩ := List.cons.inj h
      have hlf : t = '\n' :: u := ht
      have hnot : t.head? ≠ some '\n' := he rfl
      rw [hlf] at hnot
      exact absurd rfl hnot
  | crlf =>
    cases f with
    | single d hd =>
      obtain ⟨rfl, hu⟩ := List.cons.inj h
      have hlf : '\n' :: t = u := hu
      have hnot : u.head? ≠ some '\n' := hf rfl
      rw [← hlf] at hnot
      exact absurd rfl hnot
    | crlf => exact ⟨rfl, List.append_cancel_left h⟩

/-- Two ways to write a text are the same. -/
theorem WellEnded.eq_of_written_eq {ps qs : List (Text × Text)} (hps : WellEnded ps)
    (hqs : WellEnded qs) (h : written ps = written qs) : ps = qs := by
  induction ps generalizing qs with
  | nil =>
    have hlines : qs.map Prod.fst = [] := by rw [← lines_written hqs, ← h]; rfl
    exact (List.map_eq_nil_iff.mp hlines).symm
  | cons p ps ih =>
    have hlines := congrArg lines h
    rw [lines_written hps, lines_written hqs] at hlines
    cases qs with
    | nil => cases hlines
    | cons q qs =>
      obtain ⟨l, e⟩ := p
      obtain ⟨m, f⟩ := q
      obtain ⟨rfl, -⟩ : l = m ∧ ps.map Prod.fst = qs.map Prod.fst := List.cons.inj hlines
      rw [written_cons, written_cons] at h
      have hrest : e ++ written ps = f ++ written qs := List.append_cancel_left h
      obtain ⟨-, hended, halone, hptail⟩ := wellEnded_cons_iff.mp hps
      obtain ⟨-, hended', halone', hqtail⟩ := wellEnded_cons_iff.mp hqs
      rcases hended with ⟨e, rfl⟩ | ⟨rfl, rfl, -⟩ <;> rcases hended' with ⟨f, rfl⟩ | ⟨rfl, rfl, -⟩
      · obtain ⟨hterminator, hwritten⟩ := Terminator.text_append_inj halone halone' hrest
        rw [hterminator, ih hptail hqtail hwritten]
      · exact absurd (List.append_eq_nil_iff.mp hrest).1 e.text_ne_nil
      · exact absurd (List.append_eq_nil_iff.mp hrest.symm).1 f.text_ne_nil
      · rfl

/-! ## Always a way -/

/-- A character that is no break lengthens the first line, or is a line of its own at the end. -/
theorem exists_wellEnded_cons {c : Char} (hc : isLineBreak c = false) {ps : List (Text × Text)}
    (hps : WellEnded ps) : ∃ qs, written qs = c :: written ps ∧ WellEnded qs := by
  cases ps with
  | nil =>
    refine ⟨[([c], [])], rfl, wellEnded_cons_iff.mpr ⟨?_, ?_, ?_, wellEnded_nil⟩⟩
    · exact List.forall_mem_singleton.mpr hc
    · exact Or.inr ⟨rfl, rfl, List.cons_ne_nil c []⟩
    · intro hcr
      cases hcr
  | cons p ps =>
    obtain ⟨l, e⟩ := p
    obtain ⟨hbreak, hended, halone, hps⟩ := wellEnded_cons_iff.mp hps
    refine ⟨(c :: l, e) :: ps, rfl, wellEnded_cons_iff.mpr ⟨?_, ?_, halone, hps⟩⟩
    · exact List.forall_mem_cons.mpr ⟨hc, hbreak⟩
    · rcases hended with hended | ⟨hlast, hnone, -⟩
      · exact Or.inl hended
      · exact Or.inr ⟨hlast, hnone, List.cons_ne_nil c l⟩

/-- A line with a terminator in front of others. -/
theorem WellEnded.cons {ps : List (Text × Text)} (hps : WellEnded ps) {l : Text}
    (hl : ∀ c ∈ l, isLineBreak c = false) (e : Terminator)
    (halone : e.text = ['\r'] → (written ps).head? ≠ some '\n') :
    WellEnded ((l, e.text) :: ps) :=
  wellEnded_cons_iff.mpr ⟨hl, Or.inl ⟨e, rfl⟩, halone, hps⟩

/-- Every text can be written as lines and what ends them. -/
theorem exists_wellEnded (t : Text) : ∃ ps, written ps = t ∧ WellEnded ps := by
  -- the cases of `lines`: two of them differ only in whether a line follows
  fun_induction lines t with
  | case1 => exact ⟨[], rfl, wellEnded_nil⟩
  | case2 t ih =>
    obtain ⟨ps, rfl, hps⟩ := ih
    refine ⟨([], ['\r', '\n']) :: ps, rfl, hps.cons (List.forall_mem_nil _) .crlf ?_⟩
    intro hcr
    cases hcr
  | case3 c t hpair hc ih =>
    obtain ⟨ps, rfl, hps⟩ := ih
    refine ⟨([], [c]) :: ps, rfl, hps.cons (List.forall_mem_nil _) (.single c hc) ?_⟩
    intro hcr hlf
    have hc : c = '\r' := (List.cons.inj hcr).1
    obtain ⟨u, hu⟩ := List.head?_eq_some_iff.mp hlf
    exact hpair u hc hu
  | case4 c t _ hc _ ih =>
    obtain ⟨ps, rfl, hps⟩ := ih
    exact exists_wellEnded_cons (by simpa using hc) hps
  | case5 c t _ hc _ _ _ ih =>
    obtain ⟨ps, rfl, hps⟩ := ih
    exact exists_wellEnded_cons (by simpa using hc) hps

/-! ## Texts one behind the other -/

/-- Two writings one behind the other, where the first one ends in a break that does not go on in the
second one. -/
theorem WellEnded.append {ps qs : List (Text × Text)} (hps : WellEnded ps) (hqs : WellEnded qs)
    (hend : ∀ c ∈ (written ps).getLast?, isLineBreak c = true)
    (hpair : ¬ ((written ps).getLast? = some '\r' ∧ (written qs).head? = some '\n')) :
    WellEnded (ps ++ qs) := by
  induction ps with
  | nil => exact hqs
  | cons p ps ih =>
    obtain ⟨l, e⟩ := p
    obtain ⟨hbreak, hended, halone, htail⟩ := wellEnded_cons_iff.mp hps
    rw [written_cons] at hend hpair
    rcases hended with ⟨e, rfl⟩ | ⟨rfl, rfl, hne⟩
    · cases ps with
      | nil =>
        refine hqs.cons hbreak e ?_
        intro hcr hlf
        exact hpair ⟨by simp [hcr], hlf⟩
      | cons q ps =>
        have hne : written (q :: ps) ≠ [] := by
          intro hnil
          have hlines := lines_written htail
          rw [hnil] at hlines
          cases hlines
        have hlast : (l ++ (e.text ++ written (q :: ps))).getLast? = (written (q :: ps)).getLast? := by
          rw [← List.append_assoc, List.getLast?_append_of_ne_nil _ hne]
        rw [hlast] at hend hpair
        refine (ih htail hend hpair).cons hbreak e ?_
        intro hcr
        show (written (q :: ps ++ qs)).head? ≠ some '\n'
        rw [written_append, List.head?_append_of_ne_nil _ hne]
        exact halone hcr
    · -- a last line without a terminator does not end in a break
      rw [written_nil, List.append_nil, List.append_nil] at hend
      have hlast := List.getLast?_eq_some_getLast hne
      have hyes := hend _ hlast
      have hno := hbreak _ (List.getLast_mem hne)
      rw [hno] at hyes
      cases hyes

/-- Behind a break the lines start anew, unless the break is half of a pair. -/
theorem lines_append_of_break {t u : Text} (hend : ∃ c ∈ t.getLast?, isLineBreak c = true)
    (hpair : ¬ (t.getLast? = some '\r' ∧ u.head? = some '\n')) :
    lines (t ++ u) = lines t ++ lines u := by
  obtain ⟨ps, rfl, hps⟩ := exists_wellEnded t
  obtain ⟨qs, rfl, hqs⟩ := exists_wellEnded u
  have hlast : ∀ c ∈ (written ps).getLast?, isLineBreak c = true := by
    obtain ⟨d, hd, hbreak⟩ := hend
    intro c hc
    rwa [Option.mem_unique hc hd]
  have hboth := lines_written (hps.append hqs hlast hpair)
  rw [written_append, List.map_append] at hboth
  rw [hboth, lines_written hps, lines_written hqs]

/-! ## The result -/

/-- A line of a well-ended writing has as many terminators in front of it as lines. -/
theorem WellEnded.countP_terminated {ps before after : List (Text × Text)} {p : Text × Text}
    (h : WellEnded ps) (hcut : ps = before ++ p :: after) :
    before.countP (fun q => q.2 ≠ []) = before.length := by
  rw [List.countP_eq_length]
  intro q hq
  obtain ⟨former, later, rfl⟩ := List.append_of_mem hq
  rcases h.terminated former q (later ++ p :: after) (by simp [hcut]) with ⟨e, he⟩ | ⟨hlast, -⟩
  · simpa [he] using e.text_ne_nil
  · simp at hlast

/-- **Lines are the one way to take a text apart.**  Every text is written in exactly one way as lines
and what ends them.  Its lines are those of that way, in order and with a terminator in front of each
but the first; the empty text has none.  Behind a text that ends in a break, another one goes on with its
own lines, unless the break is a carriage return that meets a line feed. -/
theorem existsUnique_wellEnded (t : Text) :
    (∃! ps, written ps = t ∧ WellEnded ps) ∧
    (∀ ps, written ps = t → WellEnded ps → lines t = ps.map Prod.fst ∧
      ∀ before p after, ps = before ++ p :: after →
        t = written before ++ p.1 ++ (p.2 ++ written after) ∧
        lines t = before.map Prod.fst ++ p.1 :: after.map Prod.fst ∧
        before.countP (fun q => q.2 ≠ []) = before.length) ∧
    (lines t = [] ↔ t = []) ∧
    ∀ u, (∃ c ∈ t.getLast?, isLineBreak c = true) →
      ¬ (t.getLast? = some '\r' ∧ u.head? = some '\n') → lines (t ++ u) = lines t ++ lines u := by
  refine ⟨?_, ?_, ?_, fun u => lines_append_of_break⟩
  · obtain ⟨ps, hwritten, hps⟩ := exists_wellEnded t
    refine ⟨ps, ⟨hwritten, hps⟩, ?_⟩
    rintro qs ⟨hqwritten, hqs⟩
    exact hqs.eq_of_written_eq hps (hqwritten.trans hwritten.symm)
  · rintro ps rfl hps
    refine ⟨lines_written hps, fun before p after hcut => ?_⟩
    refine ⟨?_, ?_, hps.countP_terminated hcut⟩
    · rw [hcut, written_append, written_cons, List.append_assoc]
    · rw [lines_written hps, hcut, List.map_append, List.map_cons]
  · constructor
    · intro hnone
      by_contra hne
      exact lines_ne_nil hne hnone
    · rintro rfl
      rfl

/-- Three lines with three kinds of terminators, and a fourth line behind them. -/
theorem existsUnique_wellEnded_of_mixed_breaks :
    lines "a\r\n\u2028b\r".toList = ["a".toList, [], "b".toList] ∧
      [("a".toList, ['\r', '\n']), ([], ['\u2028'])].countP (fun q => q.2 ≠ []) = 2 ∧
      lines ("a\r\n\u2028b\r".toList ++ "c".toList) = ["a".toList, [], "b".toList, "c".toList] := by
  have hb : WellEnded [("b".toList, ['\r'])] :=
    wellEnded_nil.cons (not_isLineBreak_of_any (by decide)) (.single '\r' (by decide)) (by decide)
  have hempty : WellEnded [([], ['\u2028']), ("b".toList, ['\r'])] :=
    hb.cons (List.forall_mem_nil _) (.single '\u2028' (by decide)) (by decide)
  have hps : WellEnded [("a".toList, ['\r', '\n']), ([], ['\u2028']), ("b".toList, ['\r'])] :=
    hempty.cons (not_isLineBreak_of_any (by decide)) .crlf (by decide)
  obtain ⟨-, hread, -, hbehind⟩ := existsUnique_wellEnded "a\r\n\u2028b\r".toList
  obtain ⟨hlines, hcuts⟩ := hread _ (by decide) hps
  obtain ⟨-, -, hcount⟩ :=
    hcuts [("a".toList, ['\r', '\n']), ([], ['\u2028'])] ("b".toList, ['\r']) [] (by decide)
  have hboth := hbehind "c".toList ⟨'\r', by decide, by decide⟩ (by decide)
  refine ⟨hlines, hcount, ?_⟩
  rw [hboth, hlines]
  decide

end TomeSql.Text
