/-
  Comments and blank lines: what they do to a reading, which is nothing but to move the lines behind them.

  1. **Inert lines (`Inert`)** — a line that is blank, or whose first character that is not white space is
     `#`.  These are exactly the lines without a row (`isComment_trim_iff`): trimming leaves that first
     character at the front.

  2. **Step and run** — such a line leaves the batch as it is, with its counter and all that is taken
     (`push_of_inert`), and so does any number of them in a row (`pushAll_of_inert`).

  3. **Insertions (`Interspersed`)** — lines with inert ones put in front of each of them and behind the
     last one, which is every way to put lines among others.

  4. **Main result (`ofLines_enlarged`)** — the longer list is read to the same batch, or fails with the
     same fault.  The batch that meets the failing line is the same one, so only the number of that line
     differs, by the lines that were put in front of it.
-/
import TomeSql.Proofs.Batch.Failure

namespace TomeSql

open Unicode (isWhiteSpace)

namespace Batch

variable {o : Options}

/-! ## Inert lines -/

/-- A line that is blank, or whose first character that is not white space is `#`. -/
def Inert (raw : Text) : Prop :=
  Text.trim raw = [] ∨ (raw.find? fun c => !isWhiteSpace c) = some '#'

instance (raw : Text) : Decidable (Inert raw) := inferInstanceAs (Decidable (_ ∨ _))

/-- The inert lines are those without a row. -/
theorem isComment_trim_iff {raw : Text} : Row.isComment (Text.trim raw) = true ↔ Inert raw := by
  rw [Inert, ← Text.head?_trim_eq_find?]
  cases Text.trim raw with
  | nil => simp [Row.isComment]
  | cons c t => simp [Row.isComment]

/-- An inert line leaves the batch as it is. -/
theorem push_of_inert {raw : Text} (h : Inert raw) (b : Batch) : b.push o raw = .ok b := by
  have hnone : Row.ofLine raw = .ok none := Row.ofLine_eq_ok_none_iff.mpr (isComment_trim_iff.mpr h)
  rw [push, hnone]
  rfl

/-- Lines that each change nothing change nothing together. -/
theorem pushAll_of_inert {gap : List Text} (h : ∀ raw ∈ gap, Inert raw) (n : Nat) (b : Batch) :
    pushAll o n b gap = .ok b := by
  induction gap generalizing n with
  | nil => rfl
  | cons raw gap ih =>
    obtain ⟨hraw, hgap⟩ := List.forall_mem_cons.mp h
    rw [pushAll, push_of_inert hraw]
    exact ih hgap (n + 1)

/-! ## Insertions -/

/-- Lines with inert ones put among them. -/
structure Interspersed where
  /-- The lines, each with those that are put in front of it. -/
  parts : List (List Text × Text)
  /-- What is put behind the last line. -/
  behind : List Text
  inert_parts : ∀ p ∈ parts, ∀ raw ∈ p.1, Inert raw
  inert_behind : ∀ raw ∈ behind, Inert raw

/-- Lines and what is put in front of each of them. -/
def spread (parts : List (List Text × Text)) : List Text := parts.flatMap fun p => p.1 ++ [p.2]

/-- The number of lines that are put in front. -/
def inserted (parts : List (List Text × Text)) : Nat := (parts.flatMap Prod.fst).length

namespace Interspersed

/-- The lines by themselves. -/
def lines (w : Interspersed) : List Text := w.parts.map Prod.snd

/-- The lines with all that is put among them. -/
def enlarged (w : Interspersed) : List Text := spread w.parts ++ w.behind

/-- The number that the `n`-th line has among all of them. -/
def renumber (w : Interspersed) (n : Nat) : Nat := n + inserted (w.parts.take n)

end Interspersed

theorem spread_append (ps qs : List (List Text × Text)) : spread (ps ++ qs) = spread ps ++ spread qs :=
  List.flatMap_append

theorem spread_cons (p : List Text × Text) (ps : List (List Text × Text)) :
    spread (p :: ps) = p.1 ++ p.2 :: spread ps := by
  rw [spread, List.flatMap_cons, List.append_assoc]
  rfl

/-- The lines are the old ones and those put between them. -/
theorem length_spread (ps : List (List Text × Text)) :
    (spread ps).length = ps.length + inserted ps := by
  induction ps with
  | nil => rfl
  | cons p ps ih =>
    rw [spread_cons, List.length_append, List.length_cons, ih, inserted, inserted, List.flatMap_cons,
      List.length_append, List.length_cons]
    omega

theorem inserted_concat (ps : List (List Text × Text)) (p : List Text × Text) :
    inserted (ps ++ [p]) = inserted ps + p.1.length := by
  simp [inserted]

/-! ## Reading -/

/-- What is put in front of lines does not show in the batch that they leave. -/
theorem pushAll_spread {ps : List (List Text × Text)} (h : ∀ p ∈ ps, ∀ raw ∈ p.1, Inert raw)
    {n m : Nat} {b b' : Batch} (hread : pushAll o n b (ps.map Prod.snd) = .ok b') :
    pushAll o m b (spread ps) = .ok b' := by
  induction ps generalizing n m b with
  | nil => exact hread
  | cons p ps ih =>
    obtain ⟨hp, hps⟩ := List.forall_mem_cons.mp h
    rw [List.map_cons, pushAll] at hread
    rw [spread_cons, pushAll_append, pushAll_of_inert hp]
    show pushAll o (m + p.1.length) b (p.2 :: spread ps) = .ok b'
    rw [pushAll]
    cases hpush : b.push o p.2 with
    | error fault =>
      rw [hpush] at hread
      cases hread
    | ok b₁ =>
      rw [hpush] at hread
      exact ih hps hread

/-- A reading that succeeds comes out the same with lines put in. -/
theorem ofLines_enlarged_of_ok {w : Interspersed} {b : Batch} (h : ofLines o w.lines = .ok b) :
    ofLines o w.enlarged = .ok b := by
  have hspread : ofLines o (spread w.parts) = .ok b := pushAll_spread w.inert_parts h
  rw [Interspersed.enlarged, ofLines_append, hspread]
  exact pushAll_of_inert w.inert_behind _ b

/-- The failing line is met with the same batch, behind the lines that are put in front of it. -/
theorem ofLines_enlarged_of_error {w : Interspersed} {e : RowError}
    (h : ofLines o w.lines = .error e) :
    ofLines o w.enlarged = .error ⟨w.renumber e.line, e.fault⟩ := by
  obtain ⟨earlier, raw, later, hlines, b, fault, hearlier, hpush, rfl⟩ := pushAll_eq_error_iff.mp h
  obtain ⟨ps, tail, hparts, rfl, htail⟩ := List.map_eq_append_iff.mp hlines
  obtain ⟨p, qs, rfl, rfl, -⟩ := List.map_eq_cons_iff.mp htail
  have hinert : ∀ q ∈ ps ++ p :: qs, ∀ raw ∈ q.1, Inert raw := hparts ▸ w.inert_parts
  obtain ⟨hps, hrest⟩ := List.forall_mem_append.mp hinert
  have hp : ∀ raw ∈ p.1, Inert raw := hrest p List.mem_cons_self
  have hcut : w.enlarged = (spread ps ++ p.1) ++ p.2 :: (spread qs ++ w.behind) := by
    rw [Interspersed.enlarged, hparts, spread_append, spread_cons]
    simp
  have hbefore : pushAll o 1 (empty o) (spread ps ++ p.1) = .ok b := by
    rw [pushAll_append, pushAll_spread hps hearlier]
    exact pushAll_of_inert hp _ b
  have hnumber : w.renumber (1 + (ps.map Prod.snd).length) = 1 + (spread ps ++ p.1).length := by
    have htake : w.parts.take (1 + ps.length) = ps ++ [p] := by
      rw [hparts, Nat.add_comm, List.take_length_add_append]
      rfl
    rw [Interspersed.renumber, List.length_map, htake, inserted_concat, List.length_append,
      length_spread]
    omega
  rw [ofLines, pushAll_eq_error_iff]
  exact ⟨spread ps ++ p.1, p.2, spread qs ++ w.behind, hcut, b, fault, hbefore, hpush, by rw [hnumber]⟩

/-- **Comments and blank lines are inert.**  Lines with any number of them put anywhere among them are
read to the same batch, with the same tomes, tally and counter.  Where the lines fail, they fail with the
same fault, and the number of the line is larger by the lines that were put in front of it. -/
theorem ofLines_enlarged (o : Options) (w : Interspersed) :
    ofLines o w.enlarged =
      (ofLines o w.lines).mapError fun e => ⟨w.renumber e.line, e.fault⟩ := by
  cases hread : ofLines o w.lines with
  | ok b => exact ofLines_enlarged_of_ok hread
  | error e => exact ofLines_enlarged_of_error hread

/-- Two rows with three lines put in front of the second one, which fails: it was the second line, and
is the fifth one now. -/
theorem ofLines_enlarged_of_comments :
    ofLines {} ["143".toList, " # a".toList, "\t".toList, "#".toList, "bad".toList, [], "7".toList] =
      .error ⟨5, .invalidInteger .spell "bad".toList⟩ := by
  let w : Interspersed := {
    parts := [([], "143".toList), ([" # a".toList, "\t".toList, "#".toList], "bad".toList),
      ([[]], "7".toList)]
    behind := []
    inert_parts := by decide
    inert_behind := by decide }
  have hread : ofLines {} w.lines = .error ⟨2, .invalidInteger .spell "bad".toList⟩ := rfl
  have hlarger := ofLines_enlarged {} w
  rw [hread] at hlarger
  exact hlarger

end Batch

end TomeSql
