/-
  Where the parts of a clone end: what stands in its text is known from the text.

  1. **Literals** — a literal is read back whatever comes behind its blank, so it is known from the text
     (`Literal.render_append_inj`).

  2. **Items** — whether a column stands by itself or with a literal is settled by the first character of
     its item (`Item.render_append_inj`), also where the column holds a backtick and no item could be
     read back.

  3. **Clones (`clone_append_inj`)** — so two clones for the same columns that are written the same,
     whatever comes behind them, have the same literals.
-/
import TomeSql.Proofs.Sql.Reader
import TomeSql.Proofs.Text.Numbers
import TomeSql.Proofs.Text.Pieces

namespace TomeSql.Sql

/-! ## Literals -/

/-- A literal tells where it ends, before a blank. -/
theorem Literal.render_append_inj {l m : Literal} {r s : Text}
    (h : l.render ++ ' ' :: r = m.render ++ ' ' :: s) : l = m ∧ r = s := by
  have hread := readLiteral_render l r
  rw [h, readLiteral_render] at hread
  cases hread
  exact ⟨rfl, rfl⟩

/-! ## Items -/

/-- An item of a known column tells its literal and where it ends. -/
theorem Item.render_append_inj {column : Text} {l m : Option Literal} {r s : Text}
    (h : Item.render ⟨column, l⟩ ++ r = Item.render ⟨column, m⟩ ++ s) : l = m ∧ r = s := by
  have hne : ∀ (l : Literal) (r s : Text), l.render ++ r ≠ name column ++ s := by
    intro l r s hls
    obtain ⟨c, t, hl, hc⟩ := l.exists_render_eq_cons
    rw [hl] at hls
    exact hc (List.cons.inj hls).1
  cases l with
  | none =>
    cases m with
    | none => exact ⟨rfl, List.append_cancel_left h⟩
    | some m =>
      simp only [Item.render, List.append_assoc] at h
      exact absurd h.symm (hne m _ _)
  | some l =>
    cases m with
    | none =>
      simp only [Item.render, List.append_assoc] at h
      exact absurd h (hne l _ _)
    | some m =>
      simp only [Item.render, List.append_assoc] at h
      obtain ⟨rfl, hrest⟩ := Literal.render_append_inj h
      exact ⟨rfl, List.append_cancel_left (List.append_cancel_left hrest)⟩

/-- The items of the same columns are the same when they are written the same. -/
theorem commaSeparated_items_append_inj {columns : List Text} {f g : Text → Option Literal}
    {r s : Text}
    (h : commaSeparated (columns.map fun c => Item.render ⟨c, f c⟩) ++ r =
      commaSeparated (columns.map fun c => Item.render ⟨c, g c⟩) ++ s) :
    (∀ c ∈ columns, f c = g c) ∧ r = s := by
  induction columns with
  | nil => exact ⟨by simp, h⟩
  | cons c columns ih =>
    cases columns with
    | nil =>
      obtain ⟨hc, hrest⟩ := Item.render_append_inj (by simpa [commaSeparated] using h)
      exact ⟨by simpa using hc, hrest⟩
    | cons d columns =>
      simp only [commaSeparated, List.map_cons, List.intercalate_cons_cons, List.append_assoc] at h ih
      obtain ⟨hc, hrest⟩ := Item.render_append_inj h
      obtain ⟨hcs, hrest⟩ := ih (List.append_cancel_left hrest)
      exact ⟨List.forall_mem_cons.mpr ⟨hc, hcs⟩, hrest⟩

/-! ## Lists of entries -/

/-- The entries of a list as it stands between the parentheses of a `delete`. -/
def readEntries (list : Text) : Except Decimal.Fault (List UInt32) :=
  if list = [] then .ok []
  else ((Text.fields ',' list).map Text.trim).mapM Decimal.readUInt32

/-- Joining by commas brings no other sign. -/
theorem not_mem_commaSeparated {c : Char} {parts : List Text} (hcomma : c ≠ ',') (hblank : c ≠ ' ')
    (h : ∀ t ∈ parts, c ∉ t) : c ∉ commaSeparated parts := by
  induction parts with
  | nil => simp [commaSeparated]
  | cons t parts ih =>
    rw [List.forall_mem_cons] at h
    cases parts with
    | nil => simpa [commaSeparated] using h.1
    | cons u parts =>
      rw [commaSeparated, List.intercalate_cons_cons, List.mem_append, List.mem_append, not_or, not_or]
      exact ⟨⟨h.1, by simp [hcomma, hblank]⟩, ih h.2⟩

/-- Cutting at the commas and trimming gives the parts back. -/
theorem map_trim_fields_commaSeparated {parts : List Text} (hne : parts ≠ [])
    (hcomma : ∀ t ∈ parts, ',' ∉ t) (htrim : ∀ t ∈ parts, Text.trim t = t) :
    (Text.fields ',' (commaSeparated parts)).map Text.trim = parts := by
  induction parts with
  | nil => exact absurd rfl hne
  | cons t parts ih =>
    rw [List.forall_mem_cons] at hcomma htrim
    cases parts with
    | nil =>
      rw [commaSeparated, List.intercalate_singleton, Text.fields_of_not_mem hcomma.1,
        List.map_singleton, htrim.1]
    | cons u parts =>
      have hrest := ih (by simp) hcomma.2 htrim.2
      have hlist : commaSeparated (t :: u :: parts) = t ++ ',' :: ' ' :: commaSeparated (u :: parts) := by
        simp [commaSeparated, List.intercalate_cons_cons]
      rw [hlist, Text.fields_append_sep hcomma.1, List.map_cons, htrim.1, Text.map_trim_fields_blank (by decide),
        hrest]

/-- The listed entries are read back. -/
theorem readEntries_commaSeparated (es : List UInt32) :
    readEntries (commaSeparated (es.map fun e => Decimal.ofNat e.toNat)) = .ok es := by
  have hparts : (es.map fun e => Decimal.ofNat e.toNat).mapM Decimal.readUInt32 = .ok es := by
    induction es with
    | nil => rfl
    | cons e es ih =>
      rw [List.map_cons, List.mapM_cons, Decimal.readUInt32_ofNat, ih]
      rfl
  cases es with
  | nil => rfl
  | cons e es =>
    have hfields : (Text.fields ',' (commaSeparated ((e :: es).map fun e => Decimal.ofNat e.toNat))).map
        Text.trim = (e :: es).map fun e => Decimal.ofNat e.toNat := by
      apply map_trim_fields_commaSeparated (by simp)
      · intro t ht
        obtain ⟨d, -, rfl⟩ := List.mem_map.mp ht
        exact Decimal.not_mem_ofNat (by decide) _
      · intro t ht
        obtain ⟨d, -, rfl⟩ := List.mem_map.mp ht
        exact Text.trim_of_no_whiteSpace fun c hc =>
          Text.isWhiteSpace_of_isDigit (Decimal.isDigit_of_mem_ofNat hc)
    have hne : commaSeparated ((e :: es).map fun e => Decimal.ofNat e.toNat) ≠ [] := by
      intro hnil
      rw [hnil] at hfields
      exact Decimal.ofNat_ne_nil _ (List.cons.inj hfields).1.symm
    rw [readEntries, if_neg hne, hfields, hparts]

/-! ## Clones -/

/-- A clone of known columns tells the literal of each one and where it ends. -/
theorem clone_append_inj {table key : Text} {template : UInt32} {columns : List Text}
    {f g : Text → Option Literal} {r s : Text}
    (h : (Statement.clone table key template (columns.map fun c => ⟨c, f c⟩)).render ++ r =
      (Statement.clone table key template (columns.map fun c => ⟨c, g c⟩)).render ++ s) :
    (∀ c ∈ columns, f c = g c) ∧ r = s := by
  simp only [render_clone_append, List.map_map, Function.comp_def] at h
  -- what stands in front of the items says nothing of the literals
  have hitems := List.append_cancel_left (List.append_cancel_left (List.append_cancel_left
    (List.append_cancel_left h)))
  obtain ⟨hliterals, hrest⟩ := commaSeparated_items_append_inj hitems
  exact ⟨hliterals, List.append_cancel_left hrest⟩

end TomeSql.Sql
