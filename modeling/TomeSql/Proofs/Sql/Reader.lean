/-
  Clones are read back from their text.

  1. **Scanners** — a scanner that takes what was written and hands on the rest can be run step by step
     (`bind_of_eq`), and repeated over parts that were written one behind the other (`upTo_flatMap`).

  2. **Tokens** — names between backticks, text literals and integers with a sign.  None of them needs to
     know what it was written from: the first character tells them apart, and each ends by itself.

  3. **Items** — a column by itself, or a literal with the column it stands for.

  4. **Main result (`readClone_render`)** — behind the fixed words in front, which hold the table, the
     reader finds the column list and the selection, and behind them the fixed words that hold the
     table again, the key column and the template.  All that is asked is that no column holds a
     backtick: literals may hold commas, quotes and parentheses.
-/
import TomeSql.Sql.Statement
import TomeSql.Proofs.Sql.Quoting
import TomeSql.Proofs.Text.Numerals

namespace TomeSql

namespace Scanner

variable {α β : Type}

/-! ## Scanners -/

theorem bind_of_eq {s : Scanner α} {t rest : Text} {a : α} (h : s t = some (a, rest))
    (f : α → Scanner β) : (s >>= f) t = f a rest := by
  show (s t).bind (fun p => f p.1 p.2) = f a rest
  rw [h, Option.bind_some]

theorem bind_of_none {s : Scanner α} {t : Text} (h : s t = none) (f : α → Scanner β) :
    (s >>= f) t = none := by
  show (s t).bind (fun p => f p.1 p.2) = none
  rw [h, Option.bind_none]

theorem map_of_eq {s : Scanner α} {t rest : Text} {a : α} (h : s t = some (a, rest)) (f : α → β) :
    (f <$> s) t = some (f a, rest) := by
  show (s t).bind (fun p => some (f p.1, p.2)) = some (f a, rest)
  rw [h, Option.bind_some]

theorem word_append (w rest : Text) : word w (w ++ rest) = some (w, rest) := by
  rw [word, Text.after?_append, Option.map_some]

theorem word_eq_none {w t : Text} (h : Text.after? w t = none) : word w t = none := by
  rw [word, h, Option.map_none]

/-- A run of characters is read up to the first one of another kind. -/
theorem run_append {p : Char → Bool} {t rest : Text} (ht : ∀ c ∈ t, p c = true)
    (hrest : ∀ c ∈ rest.head?, p c = false) : run p (t ++ rest) = some (t, rest) := by
  rw [run, List.takeWhile_append_of_pos ht, List.dropWhile_append_of_pos ht]
  cases rest with
  | nil => rw [List.takeWhile_nil, List.dropWhile_nil, List.append_nil]
  | cons c rest =>
    have hc : ¬ p c = true := by simp [hrest c rfl]
    rw [List.takeWhile_cons_of_neg hc, List.dropWhile_cons_of_neg hc, List.append_nil]

theorem upTo_of_none {s : Scanner α} {t : Text} (h : s t = none) (n : Nat) :
    upTo s n t = some ([], t) := by
  cases n with
  | zero => rfl
  | succ n =>
    show ((s t).bind _ <|> some ([], t)) = some ([], t)
    rw [h]
    rfl

theorem upTo_succ_of_some {s : Scanner α} {t rest final : Text} {a : α} {l : List α} {n : Nat}
    (ha : s t = some (a, rest)) (hl : upTo s n rest = some (l, final)) :
    upTo s (n + 1) t = some (a :: l, final) := by
  show ((s >>= fun a => upTo s n >>= fun l => pure (a :: l)) t <|> some ([], t)) = _
  rw [bind_of_eq ha, bind_of_eq hl]
  rfl

/-- Parts that are each read back from what was written are read back one behind the other. -/
theorem upTo_flatMap {s : Scanner α} {write : α → Text} {l : List α} {rest : Text}
    (h : ∀ a ∈ l, ∀ r, s (write a ++ r) = some (a, r)) (hend : s rest = none) {n : Nat}
    (hn : l.length ≤ n) : upTo s n (l.flatMap write ++ rest) = some (l, rest) := by
  induction l generalizing n with
  | nil => exact upTo_of_none hend n
  | cons a l ih =>
    rw [List.forall_mem_cons] at h
    obtain ⟨n, rfl⟩ := Nat.exists_eq_add_of_le' (Nat.le_trans (Nat.succ_le_succ (Nat.zero_le _)) hn)
    rw [List.flatMap_cons, List.append_assoc]
    exact upTo_succ_of_some (h.1 _) (ih h.2 (Nat.le_of_succ_le_succ hn))

/-- What is written one behind the other is read back one by one. -/
theorem many_flatMap {s : Scanner α} {write : α → Text} {l : List α} {rest : Text}
    (h : ∀ a ∈ l, ∀ r, s (write a ++ r) = some (a, r)) (hend : s rest = none)
    (hne : ∀ a ∈ l, write a ≠ []) : many s (l.flatMap write ++ rest) = some (l, rest) := by
  -- every part takes a character at least, so the length of the text is bound enough
  have hlength : l.length ≤ (l.flatMap write).length := by
    clear h
    induction l with
    | nil => exact Nat.le_refl 0
    | cons a l ih =>
      rw [List.forall_mem_cons] at hne
      have hpos := List.length_pos_of_ne_nil hne.1
      have hrest := ih hne.2
      rw [List.flatMap_cons, List.length_append, List.length_cons]
      omega
  refine upTo_flatMap h hend ?_
  rw [List.length_append]
  omega

end Scanner

namespace Sql

open Scanner

/-! ## Tokens -/

/-- Reads a name between backticks.  In a text that is read as a whole no further backtick comes
behind it, so that it ends where it seems to. -/
def readName : Scanner Text := do
  let _ ← expect '\x60'
  let n ← run (· != '\x60')
  let _ ← expect '\x60'
  return n

/-- Reads one digit or more. -/
def readDigits : Scanner Nat := do
  let digits ← run Char.isDigit
  require !digits.isEmpty
  return Decimal.valueOf digits

/-- Reads an integer with a minus sign or without. -/
def readInteger : Scanner Int
  | '-' :: t => ((fun n : Nat => -(n : Int)) <$> readDigits) t
  | t => (Int.ofNat <$> readDigits) t

/-- Reads a literal: a text where it begins with a quote, and else an integer. -/
def readLiteral : Scanner Literal
  | '\'' :: t => (Literal.text <$> readString) ('\'' :: t)
  | t => (Literal.integer <$> readInteger) t

/-- A name is read back from between its backticks. -/
theorem readName_name {n : Text} (h : '\x60' ∉ n) (rest : Text) :
    readName (name n ++ rest) = some (n, rest) := by
  have hname : name n ++ rest = '\x60' :: (n ++ '\x60' :: rest) := by simp [name]
  have hopen : expect '\x60' ('\x60' :: (n ++ '\x60' :: rest)) = some ('\x60', n ++ '\x60' :: rest) := rfl
  have hrun : run (· != '\x60') (n ++ '\x60' :: rest) = some (n, '\x60' :: rest) :=
    run_append (fun c hc => bne_iff_ne.mpr (ne_of_mem_of_not_mem hc h)) (by simp)
  rw [hname, readName, bind_of_eq hopen, bind_of_eq hrun]
  rfl

/-- A number is read back, if no digit follows. -/
theorem readDigits_ofNat (n : Nat) {rest : Text} (h : ∀ c ∈ rest.head?, c.isDigit = false) :
    readDigits (Decimal.ofNat n ++ rest) = some (n, rest) := by
  have hrun : run Char.isDigit (Decimal.ofNat n ++ rest) = some (Decimal.ofNat n, rest) :=
    run_append (fun c hc => Decimal.isDigit_of_mem_ofNat hc) h
  have hne : (!(Decimal.ofNat n).isEmpty) = true := by simp [Decimal.ofNat_ne_nil]
  have hvalue : Decimal.valueOf (Decimal.ofNat n) = n := Nat.ofDigitChars_ten_toDigits
  rw [readDigits, bind_of_eq hrun, hne, hvalue]
  rfl

/-- A number with a sign is read back, if no digit follows. -/
theorem readInteger_ofInt (n : Int) {rest : Text} (h : ∀ c ∈ rest.head?, c.isDigit = false) :
    readInteger (Decimal.ofInt n ++ rest) = some (n, rest) := by
  cases n with
  | ofNat n =>
    obtain ⟨c, t, hct, hc⟩ := Decimal.exists_ofNat_eq_cons n
    have hread := map_of_eq (readDigits_ofNat n h) Int.ofNat
    rw [Decimal.ofInt]
    rw [hct, List.cons_append] at hread ⊢
    rw [readInteger, hread]
    rintro t ⟨rfl, -⟩
    exact absurd hc (by decide)
  | negSucc n => exact map_of_eq (readDigits_ofNat (n + 1) h) _

/-- A literal ends at the blank behind it. -/
theorem readLiteral_render (l : Literal) (rest : Text) :
    readLiteral (l.render ++ ' ' :: rest) = some (l, ' ' :: rest) := by
  cases l with
  | integer n =>
    have hblank : ∀ c ∈ (' ' :: rest).head?, c.isDigit = false := by
      rintro c ⟨⟩
      decide
    obtain ⟨c, t, hct, hc⟩ := Decimal.exists_ofInt_eq_cons n
    have hread := map_of_eq (readInteger_ofInt n hblank) Literal.integer
    rw [Literal.render]
    rw [hct, List.cons_append] at hread ⊢
    rw [readLiteral, hread]
    rintro t ⟨rfl, -⟩
    rcases hc with hc | hc <;> exact absurd hc (by decide)
  | text t =>
    have hblank : (' ' :: rest).head? ≠ some '\'' := by simp
    exact map_of_eq (readString_quote t hblank) Literal.text

/-! ## Items -/

/-- Reads an item of a selection. -/
def readItem : Scanner Item
  | '\x60' :: t => ((fun c => ⟨c, none⟩) <$> readName) ('\x60' :: t)
  | t => (do
      let l ← readLiteral
      let _ ← word " AS ".toList
      let c ← readName
      return ⟨c, some l⟩ : Scanner Item) t

/-- The first character tells a literal from a name. -/
theorem Literal.exists_render_eq_cons (l : Literal) : ∃ c t, l.render = c :: t ∧ c ≠ '\x60' := by
  cases l with
  | text u => exact ⟨'\'', _, rfl, by decide⟩
  | integer n =>
    obtain ⟨c, t, hct, hc⟩ := Decimal.exists_ofInt_eq_cons n
    refine ⟨c, t, hct, ?_⟩
    rintro rfl
    revert hc
    decide

/-- An item is read back, column and literal. -/
theorem readItem_render {i : Item} (h : '\x60' ∉ i.column) (rest : Text) :
    readItem (i.render ++ rest) = some (i, rest) := by
  obtain ⟨column, literal⟩ := i
  cases literal with
  | none => exact map_of_eq (readName_name h rest) _
  | some l =>
    have hitem : Item.render ⟨column, some l⟩ ++ rest =
        l.render ++ (" AS ".toList ++ (name column ++ rest)) := by simp [Item.render]
    have hliteral : readLiteral (l.render ++ (" AS ".toList ++ (name column ++ rest))) =
        some (l, " AS ".toList ++ (name column ++ rest)) := readLiteral_render l _
    obtain ⟨c, t, hct, hc⟩ := l.exists_render_eq_cons
    rw [hitem]
    rw [hct, List.cons_append] at hliteral ⊢
    rw [readItem, bind_of_eq hliteral, bind_of_eq (word_append _ _), bind_of_eq (readName_name h rest)]
    · rfl
    · rintro t ⟨rfl, -⟩
      exact hc rfl

/-! ## Lists -/

/-- Reads what stands behind a comma and a blank. -/
def behindComma {α : Type} (s : Scanner α) : Scanner α := do
  let _ ← word ", ".toList
  s

/-- Reads a list with a comma and a blank between its members. -/
def readList {α : Type} (s : Scanner α) : Scanner (List α) := do
  let first ← s
  let others ← many (behindComma s)
  return first :: others

theorem commaSeparated_cons (t : Text) (parts : List Text) :
    commaSeparated (t :: parts) = t ++ parts.flatMap fun u => ", ".toList ++ u := by
  induction parts generalizing t with
  | nil => simp [commaSeparated]
  | cons u parts ih =>
    have hrest : commaSeparated (t :: u :: parts) = t ++ ", ".toList ++ commaSeparated (u :: parts) :=
      List.intercalate_cons_cons
    rw [hrest, ih, List.flatMap_cons, List.append_assoc, List.append_assoc]

/-- A list is read back, if no comma follows. -/
theorem readList_commaSeparated {α : Type} {s : Scanner α} {write : α → Text} {l : List α}
    (hne : l ≠ []) (h : ∀ a ∈ l, ∀ r, s (write a ++ r) = some (a, r)) {rest : Text}
    (hend : Text.after? ", ".toList rest = none) :
    readList s (commaSeparated (l.map write) ++ rest) = some (l, rest) := by
  obtain ⟨a, l, rfl⟩ := List.exists_cons_of_ne_nil hne
  rw [List.forall_mem_cons] at h
  have hnext : ∀ b ∈ l, ∀ r, behindComma s (", ".toList ++ write b ++ r) = some (b, r) := by
    intro b hb r
    rw [List.append_assoc, behindComma, bind_of_eq (word_append _ _), h.2 b hb]
  have hstop : behindComma s rest = none := bind_of_none (word_eq_none hend) _
  have hothers := many_flatMap hnext hstop fun _ _ => List.cons_ne_nil _ _
  rw [List.map_cons, commaSeparated_cons, List.flatMap_map, List.append_assoc, readList,
    bind_of_eq (h.1 _), bind_of_eq hothers]
  rfl

/-! ## Clones -/

/-- What stands in front of the columns of a clone. -/
def cloneOpening (table : Text) : Text := "INSERT INTO ".toList ++ name table ++ " (".toList

/-- What stands behind the selection of a clone. -/
def cloneClosing (table key : Text) (template : UInt32) : Text :=
  "\n".toList ++ "FROM ".toList ++ name table ++ "\n".toList ++ "WHERE ".toList ++ name key ++
    " = ".toList ++ Decimal.ofNat template.toNat ++ ";".toList

/-- Reads the column list and the selection of a clone on the given table. -/
def readClone (table key : Text) (template : UInt32) : Scanner (List Text × List Item) := do
  let _ ← word (cloneOpening table)
  let columns ← readList readName
  let _ ← word ")\n".toList
  let _ ← word "SELECT ".toList
  let items ← readList readItem
  let _ ← word (cloneClosing table key template)
  return (columns, items)

/-- The text of a clone, cut where its reader cuts it. -/
theorem render_clone_append (table key : Text) (template : UInt32) (items : List Item) (rest : Text) :
    (Statement.clone table key template items).render ++ rest =
      cloneOpening table ++ (commaSeparated ((items.map (·.column)).map name) ++
        (")\n".toList ++ ("SELECT ".toList ++ (commaSeparated (items.map Item.render) ++
          (cloneClosing table key template ++ rest))))) := by
  unfold cloneOpening cloneClosing
  simp only [Statement.render_clone, List.map_map, Function.comp_def, List.append_assoc]

/-- **A clone is read back**, whatever comes behind it. -/
theorem readClone_render (table key : Text) (template : UInt32) {items : List Item} (hne : items ≠ [])
    (h : ∀ i ∈ items, '\x60' ∉ i.column) (rest : Text) :
    readClone table key template ((Statement.clone table key template items).render ++ rest) =
      some ((items.map (·.column), items), rest) := by
  have hcolumns : ∀ n ∈ items.map (·.column), ∀ r, readName (name n ++ r) = some (n, r) := by
    intro n hn r
    obtain ⟨i, hi, rfl⟩ := List.mem_map.mp hn
    exact readName_name (h i hi) r
  have hitems : ∀ i ∈ items, ∀ r, readItem (i.render ++ r) = some (i, r) :=
    fun i hi r => readItem_render (h i hi) r
  have hselect : ∀ r, Text.after? ", ".toList (")\n".toList ++ r) = none := fun _ => rfl
  have hclosing : ∀ r, Text.after? ", ".toList (cloneClosing table key template ++ r) = none :=
    fun _ => rfl
  have hne' : items.map (·.column) ≠ [] := by simpa using hne
  rw [render_clone_append, readClone, bind_of_eq (word_append _ _),
    bind_of_eq (readList_commaSeparated hne' hcolumns (hselect _)), bind_of_eq (word_append _ _),
    bind_of_eq (word_append _ _), bind_of_eq (readList_commaSeparated hne hitems (hclosing _)),
    bind_of_eq (word_append _ _)]
  rfl

end Sql

end TomeSql
