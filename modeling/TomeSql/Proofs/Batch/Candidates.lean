/-
  Candidates: the tomes that the rows of an input ask for, before any of them is judged.

  1. **Rows** — the lines that are neither blank nor comments, decoded in order.

  2. **Candidates** — the candidate of a row depends on the rows before it alone.  A row without an
     entry of its own gets the first entry plus the number of such rows before it, whatever became
     of them (`nextEntry_toNat`).

  3. **The run** — a reading goes through the states after each beginning of its lines
     (`ofLines_append`).  What holds at the start, and survives both a move of the counter and one
     more candidate, holds of the candidates so far and the batch after every reading that succeeds
     (`candidates_induction`).
-/
import TomeSql.Batch.Basic
import TomeSql.Proofs.Batch.Rows
import TomeSql.Proofs.Cuts
import Mathlib.Data.List.Induction

namespace TomeSql

namespace Batch

/-! ## Rows -/

/-- The trimmed lines that are neither blank nor comments. -/
def candidateLines (lines : List Text) : List Text :=
  (lines.map Text.trim).filter fun l => !Row.isComment l

/-- The rows of an input in line order. -/
def rows (lines : List Text) : List Row :=
  ((candidateLines lines).map Row.decode).filterMap Except.toOption

/-- Whether a line is a candidate does not depend on the lines around it. -/
theorem candidateLines_append (xs ys : List Text) :
    candidateLines (xs ++ ys) = candidateLines xs ++ candidateLines ys := by
  simp [candidateLines]

theorem rows_append (xs ys : List Text) : rows (xs ++ ys) = rows xs ++ rows ys := by
  simp [rows, candidateLines_append]

/-- Where every candidate line can be decoded, the rows are what the lines decode to. -/
theorem rows_eq_of_map_decode {lines : List Text} {rs : List Row}
    (h : (candidateLines lines).map Row.decode = rs.map Except.ok) : rows lines = rs := by
  rw [rows, h, List.filterMap_map]
  exact List.filterMap_some

/-! ## Candidates -/

/-- The candidate of a row that comes after the rows `earlier`. -/
def candidate (o : Options) (earlier : List Row) (row : Row) : Tome :=
  row.tome (UInt32.ofNat (o.firstEntry.toNat + earlier.countP Row.isAutomatic))

/-- The candidates of rows in their order. -/
def candidatesOf (o : Options) (rows : List Row) : List Tome :=
  (withEarlier rows).map fun r => candidate o r.1 r.2

/-- The candidates of an input in line order. -/
def candidates (o : Options) (lines : List Text) : List Tome := candidatesOf o (rows lines)

theorem candidatesOf_concat (o : Options) (earlier : List Row) (row : Row) :
    candidatesOf o (earlier ++ [row]) = candidatesOf o earlier ++ [candidate o earlier row] := by
  rw [candidatesOf, withEarlier_concat, List.map_append, candidatesOf]
  rfl

/-- The candidates before a row's candidate are those of the rows before it. -/
theorem withEarlier_candidatesOf (o : Options) (rows : List Row) :
    withEarlier (candidatesOf o rows) =
      (withEarlier rows).map fun r => (candidatesOf o r.1, candidate o r.1 r.2) := by
  induction rows using List.reverseRecOn with
  | nil => rfl
  | append_singleton rows row ih =>
    rw [candidatesOf_concat, withEarlier_concat, withEarlier_concat, List.map_append, ih]
    rfl

theorem length_candidates (o : Options) (lines : List Text) :
    (candidates o lines).length = (rows lines).length := by
  simp [candidates, candidatesOf, withEarlier]

/-! ## One line -/

/-- All that numbering can do: an automatic row takes the next entry and moves the counter, an
explicit one leaves it where it is. -/
theorem number_eq_ok {b b' : Batch} {row : Row} {t : Tome} (h : b.number row = .ok (b', t)) :
    t = row.tome b.nextEntry ∧
    ∃ next : UInt32, b' = { b with nextEntry := next } ∧
      next.toNat = b.nextEntry.toNat + [row].countP Row.isAutomatic := by
  cases row with
  | explicit entry spell name level =>
    simp only [number, Except.ok.injEq, Prod.mk.injEq] at h
    exact ⟨h.2.symm, b.nextEntry, h.1.symm, rfl⟩
  | automatic spell name level =>
    rw [number] at h
    split at h
    · cases h
    · rename_i hne
      simp only [Except.ok.injEq, Prod.mk.injEq] at h
      refine ⟨h.2.symm, b.nextEntry + 1, h.1.symm, ?_⟩
      have hlt := b.nextEntry.toNat_lt
      have hmax : b.nextEntry.toNat ≠ 4294967295 := fun heq => hne (UInt32.toNat_inj.mp heq)
      simp only [UInt32.toNat_add, UInt32.reduceToNat, List.countP_singleton, Row.isAutomatic,
        if_true]
      omega

/-- All that a line can do: a comment changes nothing, and a row is numbered and then judged. -/
theorem push_eq_ok {o : Options} {b b' : Batch} {raw : Text} (h : b.push o raw = .ok b') :
    ((candidateLines [raw]).map Row.decode = [].map Except.ok ∧ b' = b) ∨
    ∃ (row : Row) (next : UInt32), (candidateLines [raw]).map Row.decode = [row].map Except.ok ∧
      next.toNat = b.nextEntry.toNat + [row].countP Row.isAutomatic ∧
      b' = add o { b with nextEntry := next } (row.tome b.nextEntry) := by
  rw [push] at h
  obtain ⟨found, hline, h⟩ := bind_eq_ok_iff.mp h
  cases found with
  | none =>
    have hcomment := Row.ofLine_eq_ok_none_iff.mp hline
    cases h
    exact Or.inl ⟨by simp [candidateLines, hcomment], rfl⟩
  | some row =>
    obtain ⟨hcomment, hdecode⟩ := Row.ofLine_eq_ok_some_iff.mp hline
    obtain ⟨⟨b₁, t⟩, hnumber, h⟩ := bind_eq_ok_iff.mp h
    obtain ⟨rfl, next, rfl, hnext⟩ := number_eq_ok hnumber
    cases h
    exact Or.inr ⟨row, next, by simp [candidateLines, hcomment, hdecode], hnext, rfl⟩

/-- Judging moves no counter. -/
theorem nextEntry_add (o : Options) (b : Batch) (t : Tome) : (add o b t).nextEntry = b.nextEntry := by
  rw [add]
  cases judge o b t <;> rfl

/-- Judging adds the tome when it is accepted. -/
theorem tomes_add (o : Options) (b : Batch) (t : Tome) :
    (add o b t).tomes = b.tomes ++ if judge o b t = .accepted then [t] else [] := by
  rw [add]
  cases judge o b t <;> simp [enter]

/-! ## A whole reading -/

/-- Reading goes on behind the first lines from the state that they leave, with their number. -/
theorem pushAll_append (o : Options) (n : Nat) (b : Batch) (xs ys : List Text) :
    pushAll o n b (xs ++ ys) =
      (pushAll o n b xs).bind fun b => pushAll o (n + xs.length) b ys := by
  induction xs generalizing n b with
  | nil => rfl
  | cons raw xs ih =>
    rw [List.cons_append, pushAll, pushAll]
    cases b.push o raw with
    | error fault => rfl
    | ok b =>
      simp only [ih, List.length_cons]
      rw [Nat.add_assoc, Nat.add_comm 1]

/-- A reading goes on from the batch that a beginning of its lines leaves. -/
theorem ofLines_append (o : Options) (xs ys : List Text) :
    ofLines o (xs ++ ys) = (ofLines o xs).bind fun b => pushAll o (xs.length + 1) b ys := by
  rw [ofLines, pushAll_append, Nat.add_comm]
  rfl

/-- A reading that succeeds has done so up to its last line, and then on that line. -/
theorem ofLines_concat_eq_ok {o : Options} {lines : List Text} {raw : Text} {b' : Batch}
    (h : ofLines o (lines ++ [raw]) = .ok b') :
    ∃ b, ofLines o lines = .ok b ∧ b.push o raw = .ok b' := by
  rw [ofLines_append] at h
  cases hb : ofLines o lines with
  | error e => simp [hb, Except.bind] at h
  | ok b =>
    simp only [hb, Except.bind, pushAll] at h
    cases hp : b.push o raw with
    | error fault => simp [hp] at h
    | ok b₁ => exact ⟨b, rfl, by simpa [hp] using h⟩

/-- What holds of the empty batch and survives every line holds after every reading that
succeeds. -/
theorem ofLines_induction {o : Options} {P : List Text → Batch → Prop} (start : P [] (empty o))
    (step : ∀ lines raw b b', ofLines o lines = .ok b → P lines b → b.push o raw = .ok b' →
      P (lines ++ [raw]) b')
    {lines : List Text} {b : Batch} (h : ofLines o lines = .ok b) : P lines b := by
  induction lines using List.reverseRecOn generalizing b with
  | nil =>
    obtain rfl : empty o = b := Except.ok.inj h
    exact start
  | append_singleton lines raw ih =>
    obtain ⟨b₀, hb₀, hpush⟩ := ofLines_concat_eq_ok h
    exact step lines raw b₀ b hb₀ (ih hb₀) hpush

/-- Every line that is neither blank nor a comment has been decoded. -/
theorem map_decode_candidateLines {o : Options} {lines : List Text} {b : Batch}
    (h : ofLines o lines = .ok b) :
    (candidateLines lines).map Row.decode = (rows lines).map Except.ok := by
  refine ofLines_induction (P := fun lines _ =>
    (candidateLines lines).map Row.decode = (rows lines).map Except.ok) rfl ?_ h
  intro lines raw b b' _ ih hpush
  rw [candidateLines_append, rows_append, List.map_append, List.map_append, ih]
  obtain ⟨hnone, -⟩ | ⟨row, next, hone, -, -⟩ := push_eq_ok hpush
  · rw [hnone, rows_eq_of_map_decode hnone]
  · rw [hone, rows_eq_of_map_decode hone]

/-- The counter stands at the first entry plus the number of rows that took one. -/
theorem nextEntry_toNat {o : Options} {lines : List Text} {b : Batch} (h : ofLines o lines = .ok b) :
    b.nextEntry.toNat = o.firstEntry.toNat + (rows lines).countP Row.isAutomatic := by
  refine ofLines_induction (P := fun lines b =>
    b.nextEntry.toNat = o.firstEntry.toNat + (rows lines).countP Row.isAutomatic) rfl ?_ h
  intro lines raw b b' _ ih hpush
  rw [rows_append, List.countP_append]
  obtain ⟨hnone, rfl⟩ | ⟨row, next, hone, hnext, rfl⟩ := push_eq_ok hpush
  · rw [rows_eq_of_map_decode hnone, ih]
    rfl
  · rw [rows_eq_of_map_decode hone, nextEntry_add, hnext, ih, Nat.add_assoc]

/-- What holds of no candidates and the empty batch, does not look at the counter, and survives one
more candidate holds of the candidates and the batch of every reading that succeeds. -/
theorem candidates_induction {o : Options} {P : List Tome → Batch → Prop} (start : P [] (empty o))
    (move : ∀ cs b next, P cs b → P cs { b with nextEntry := next })
    (judged : ∀ cs b t, P cs b → P (cs ++ [t]) (add o b t))
    {lines : List Text} {b : Batch} (h : ofLines o lines = .ok b) : P (candidates o lines) b := by
  refine ofLines_induction (P := fun lines b => P (candidates o lines) b) start ?_ h
  intro lines raw b b' hb ih hpush
  rw [candidates, rows_append]
  obtain ⟨hnone, rfl⟩ | ⟨row, next, hone, -, rfl⟩ := push_eq_ok hpush
  · rw [rows_eq_of_map_decode hnone, List.append_nil]
    exact ih
  · -- the state that a row meets is known from the rows before it: the counter gives its entry
    have htome : candidate o (rows lines) row = row.tome b.nextEntry := by
      rw [candidate, ← nextEntry_toNat hb, UInt32.ofNat_toNat]
    rw [rows_eq_of_map_decode hone, candidatesOf_concat, htome]
    exact judged _ _ _ (move _ _ next ih)

end Batch

end TomeSql
