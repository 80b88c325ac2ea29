/-
  Statements piece by piece: that each part of their text is read as what it was written from.

  1. **Pieces in a row** — a plain text and a comment are read in the same way whatever comes behind
     them (`Reads`); a name and a text literal are, if it is no further quote (`ReadsUpTo`).  Both go
     together with what is written behind them.

  2. **Layout** — the pieces that a literal, an item and a statement are meant to be.

  3. **Main result (`Statement.reads`)** — a statement is read as what it is meant to be, if each
     backtick in its names is doubled; and it is one statement (`Statement.isStatement_lexemes`).
-/
import TomeSql.Sql.Statement
import TomeSql.Proofs.Sql.Lexer
import TomeSql.Proofs.Text.Numbers

namespace TomeSql.Sql

/-! ## Pieces in a row -/

/-- What stands behind a name or a literal ends it. -/
def endsPiece : Text → Bool
  | [] => false
  | c :: _ => c != '\'' && c != '\x60'

/-- The text is read as these pieces, whatever comes behind it. -/
def Reads (t : Text) (ls : List Lexeme) : Prop :=
  ∀ rest, lexFrom .code (t ++ rest) = ls ++ lexFrom .code rest

/-- The text is read as these pieces, if what comes behind it ends a name or a literal. -/
def ReadsUpTo (t : Text) (ls : List Lexeme) : Prop :=
  ∀ rest, endsPiece rest = true → lexFrom .code (t ++ rest) = ls ++ lexFrom .code rest

theorem endsPiece_append {t : Text} (h : endsPiece t = true) (rest : Text) :
    endsPiece (t ++ rest) = true := by
  cases t with
  | nil => cases h
  | cons c t => exact h

section

variable {t u : Text} {ls ms : List Lexeme}

theorem Reads.upTo (h : Reads t ls) : ReadsUpTo t ls := fun rest _ => h rest

/-- Texts that are read whatever follows are read one behind the other. -/
theorem Reads.append (ht : Reads t ls) (hu : Reads u ms) : Reads (t ++ u) (ls ++ ms) := by
  intro rest
  rw [List.append_assoc, ht, hu, List.append_assoc]

theorem Reads.append_upTo (ht : Reads t ls) (hu : ReadsUpTo u ms) :
    ReadsUpTo (t ++ u) (ls ++ ms) := by
  intro rest hrest
  rw [List.append_assoc, ht, hu rest hrest, List.append_assoc]

theorem ReadsUpTo.append (ht : ReadsUpTo t ls) (hu : Reads u ms) (hend : endsPiece u = true) :
    Reads (t ++ u) (ls ++ ms) := by
  intro rest
  rw [List.append_assoc, ht _ (endsPiece_append hend rest), hu, List.append_assoc]

theorem reads_flatMap {α : Type} {l : List α} {f : α → Text} {g : α → List Lexeme}
    (h : ∀ a ∈ l, Reads (f a) (g a)) : Reads (l.flatMap f) (l.flatMap g) := by
  induction l with
  | nil => exact fun _ => rfl
  | cons a l ih =>
    rw [List.forall_mem_cons] at h
    rw [List.flatMap_cons, List.flatMap_cons]
    exact h.1.append (ih h.2)

theorem Reads.lex_eq (h : Reads t ls) : lex t = ls := by
  have hall := h []
  rw [List.append_nil] at hall
  rw [lex, hall, lexFrom, List.append_nil]

end

/-! ## Single pieces -/

/-- A text whose characters are all of SQL. -/
def codeText (t : Text) : List Lexeme := t.map .code

/-- Text without a special sign is read sign by sign. -/
theorem reads_code {t : Text} (h : t.all isPlain = true) : Reads t (codeText t) := by
  intro rest
  induction t with
  | nil => rfl
  | cons c t ih =>
    rw [List.all_cons, Bool.and_eq_true] at h
    rw [List.cons_append, lexFrom_plain h.1, ih h.2]
    rfl

theorem gap_codeText {t : Text} (h : t.all Unicode.isWhiteSpace = true) : Gap (codeText t) := by
  intro l hl
  obtain ⟨c, hc, rfl⟩ := List.mem_map.mp hl
  exact Or.inr (List.all_eq_true.mp h c hc)

theorem isPlain_of_isDigit {c : Char} (h : c.isDigit = true) : isPlain c = true := by
  simp only [isPlain, Bool.and_eq_true, bne_iff_ne]
  refine ⟨⟨?_, ?_⟩, ?_⟩ <;> rintro rfl <;> exact absurd h (by decide)

/-- A numeral is read digit by digit. -/
theorem reads_ofNat (n : Nat) : Reads (Decimal.ofNat n) (codeText (Decimal.ofNat n)) :=
  reads_code (List.all_eq_true.mpr fun _ hc => isPlain_of_isDigit (Decimal.isDigit_of_mem_ofNat hc))

/-- A single minus sign begins no comment. -/
theorem reads_ofInt (n : Int) : Reads (Decimal.ofInt n) (codeText (Decimal.ofInt n)) := by
  cases n with
  | ofNat n => exact reads_ofNat n
  | negSucc n =>
    intro rest
    obtain ⟨c, t, hct, hc⟩ := Decimal.exists_ofNat_eq_cons (n + 1)
    have hminus : (Decimal.ofNat (n + 1) ++ rest).head? ≠ some '-' := by
      rw [hct, List.cons_append, List.head?_cons]
      rintro ⟨⟩
      exact absurd hc (by decide)
    rw [Decimal.ofInt, List.cons_append, lexFrom_minus hminus, reads_ofNat]
    rfl

/-- A comment line is read as one comment, if it has no line feed of its own. -/
theorem reads_comment {t : Text} (h : '\n' ∉ t) :
    Reads ("-- ".toList ++ (t ++ ['\n'])) [.comment t] := by
  intro rest
  have hmark : "-- ".toList ++ (t ++ ['\n']) ++ rest = '-' :: '-' :: ' ' :: (t ++ '\n' :: rest) := by
    simp
  rw [hmark, lexFrom, lexFrom_comment h]
  rfl

theorem head?_ne_of_endsPiece {c : Char} {rest : Text} (h : endsPiece rest = true)
    (hc : c = '\'' ∨ c = '\x60') : rest.head? ≠ some c := by
  cases rest with
  | nil => cases h
  | cons d rest =>
    simp only [endsPiece, Bool.and_eq_true, bne_iff_ne] at h
    rintro ⟨⟩
    exact hc.elim h.1 h.2

/-- A literal is read as the text that it stands for, unless another quote follows. -/
theorem readsUpTo_quote (t : Text) : ReadsUpTo (quote t) [.string t] := by
  intro rest hrest
  rw [quote, List.cons_append, List.cons_append, List.append_assoc, List.singleton_append, lexFrom,
    lexFrom_string t [] (head?_ne_of_endsPiece hrest (Or.inl rfl))]
  rfl

/-- A name is read as it is written, unless another backtick follows. -/
theorem readsUpTo_name {t : Text} (h : IsWritten t) : ReadsUpTo (name t) [.identifier t] := by
  intro rest hrest
  rw [name, List.cons_append, List.cons_append, List.append_assoc, List.singleton_append, lexFrom,
    lexFrom_identifier h [] (head?_ne_of_endsPiece hrest (Or.inr rfl))]
  rfl

/-! ## Layout -/

/-- Puts a comma and a blank between the parts of a list. -/
def separated (parts : List (List Lexeme)) : List Lexeme := (codeText ", ".toList).intercalate parts

/-- What a literal is meant to be. -/
def Literal.lexemes : Literal → List Lexeme
  | .integer n => codeText (Decimal.ofInt n)
  | .text t => [.string t]

/-- What an item of the selection is meant to be. -/
def Item.lexemes (i : Item) : List Lexeme :=
  match i.literal with
  | some l => l.lexemes ++ codeText " AS ".toList ++ [.identifier i.column]
  | none => [.identifier i.column]

/-- What a statement is meant to be, up to its semicolon. -/
def Statement.lexemes : Statement → List Lexeme
  | .delete table key entries =>
    codeText "DELETE FROM ".toList ++ [.identifier table] ++ codeText " WHERE ".toList ++
    [.identifier key] ++ codeText " IN (".toList ++
    separated (entries.map fun e => codeText (Decimal.ofNat e.toNat)) ++ codeText ")".toList
  | .clone table key template items =>
    codeText "INSERT INTO ".toList ++ [.identifier table] ++
    codeText " (".toList ++ separated (items.map fun i => [.identifier i.column]) ++
    codeText ")\n".toList ++
    codeText "SELECT ".toList ++ separated (items.map Item.lexemes) ++ codeText "\n".toList ++
    codeText "FROM ".toList ++ [.identifier table] ++ codeText "\n".toList ++
    codeText "WHERE ".toList ++ [.identifier key] ++ codeText " = ".toList ++
    codeText (Decimal.ofNat template.toNat)

theorem Statement.lexemes_delete (table key : Text) (entries : List UInt32) :
    (delete table key entries).lexemes =
      codeText "DELETE FROM ".toList ++ [.identifier table] ++ codeText " WHERE ".toList ++
      [.identifier key] ++ codeText " IN (".toList ++
      separated (entries.map fun e => codeText (Decimal.ofNat e.toNat)) ++ codeText ")".toList := rfl

/-- The names in a statement. -/
def Statement.names : Statement → List Text
  | .delete table key _ => [table, key]
  | .clone table key _ items => table :: key :: items.map (·.column)

/-! ## Reading statements -/

/-- A literal value is read as its lexemes. -/
theorem Literal.readsUpTo (l : Literal) : ReadsUpTo l.render l.lexemes := by
  cases l with
  | integer n => exact (reads_ofInt n).upTo
  | text t => exact readsUpTo_quote t

theorem Item.readsUpTo {i : Item} (h : IsWritten i.column) : ReadsUpTo i.render i.lexemes := by
  obtain ⟨column, literal⟩ := i
  cases literal with
  | none => exact readsUpTo_name h
  | some l =>
    have has : Reads " AS ".toList (codeText " AS ".toList) := reads_code rfl
    exact (l.readsUpTo.append has rfl).append_upTo (readsUpTo_name h)

/-- A list is read as its members with commas between them. -/
theorem readsUpTo_commaSeparated {α : Type} {l : List α} {f : α → Text} {g : α → List Lexeme}
    (h : ∀ a ∈ l, ReadsUpTo (f a) (g a)) :
    ReadsUpTo (commaSeparated (l.map f)) (separated (l.map g)) := by
  induction l with
  | nil => exact fun rest _ => rfl
  | cons a l ih =>
    rw [List.forall_mem_cons] at h
    cases l with
    | nil => simpa [commaSeparated, separated] using h.1
    | cons b l =>
      have hcomma : Reads ", ".toList (codeText ", ".toList) := reads_code rfl
      have hparts := (h.1.append hcomma rfl).append_upTo (ih h.2)
      simpa [commaSeparated, separated, List.intercalate_cons_cons] using hparts

/-- A statement is read as what it is meant to be. -/
theorem Statement.reads {st : Statement} (h : ∀ n ∈ st.names, IsWritten n) :
    Reads st.render (st.lexemes ++ [.code ';']) := by
  have hcode : ∀ t : Text, t.all isPlain = true → Reads t (codeText t) := fun _ ht => reads_code ht
  have hsemicolon : Reads ";".toList [.code ';'] := hcode _ rfl
  cases st with
  | delete table key entries =>
    have htable : ReadsUpTo (name table) [.identifier table] := readsUpTo_name (h _ (by simp [names]))
    have hkey : ReadsUpTo (name key) [.identifier key] := readsUpTo_name (h _ (by simp [names]))
    have hentries : ReadsUpTo (commaSeparated (entries.map fun e => Decimal.ofNat e.toNat))
        (separated (entries.map fun e => codeText (Decimal.ofNat e.toNat))) :=
      readsUpTo_commaSeparated fun e _ => (reads_ofNat e.toNat).upTo
    have hfront := ((hcode "DELETE FROM ".toList rfl).append_upTo htable).append
      (hcode " WHERE ".toList rfl) rfl
    have hlist := ((hfront.append_upTo hkey).append (hcode " IN (".toList rfl) rfl).append_upTo hentries
    have hclose : Reads ");".toList (codeText ")".toList ++ [.code ';']) := hcode _ rfl
    have hall := hlist.append hclose rfl
    rw [← List.append_assoc _ (codeText ")".toList)] at hall
    exact hall
  | clone table key template items =>
    have htable : ReadsUpTo (name table) [.identifier table] := readsUpTo_name (h _ (by simp [names]))
    have hkey : ReadsUpTo (name key) [.identifier key] := readsUpTo_name (h _ (by simp [names]))
    have hcolumn : ∀ i ∈ items, IsWritten i.column := by
      intro i hi
      exact h _ (List.mem_cons_of_mem _ (List.mem_cons_of_mem _ (List.mem_map_of_mem hi)))
    have hcolumns : ReadsUpTo (commaSeparated (items.map fun i => name i.column))
        (separated (items.map fun i => [.identifier i.column])) :=
      readsUpTo_commaSeparated fun i hi => readsUpTo_name (hcolumn i hi)
    have hitems : ReadsUpTo (commaSeparated (items.map Item.render))
        (separated (items.map Item.lexemes)) :=
      readsUpTo_commaSeparated fun i hi => Item.readsUpTo (hcolumn i hi)
    have hfront := ((hcode "INSERT INTO ".toList rfl).append_upTo htable).append
      (hcode " (".toList rfl) rfl
    have hselect := ((hfront.append_upTo hcolumns).append (hcode ")\n".toList rfl) rfl).append
      (hcode "SELECT ".toList rfl)
    have hfrom := ((hselect.append_upTo hitems).append (hcode "\n".toList rfl) rfl).append
      (hcode "FROM ".toList rfl)
    have hwhere := ((hfrom.append_upTo htable).append (hcode "\n".toList rfl) rfl).append
      (hcode "WHERE ".toList rfl)
    have hkeyed := (hwhere.append_upTo hkey).append (hcode " = ".toList rfl) rfl
    exact (hkeyed.append (reads_ofNat template.toNat)).append hsemicolon

/-! ## One statement -/

/-- Text without a semicolon ends no statement. -/
theorem inner_codeText {t : Text} (h : ';' ∉ t) : Inner (codeText t) := by
  intro l hl
  obtain ⟨c, hc, rfl⟩ := List.mem_map.mp hl
  refine ⟨rfl, ?_⟩
  rw [Lexeme.isEnd, beq_eq_false_iff_ne]
  rintro ⟨⟩
  exact h hc

theorem inner_identifier (t : Text) : Inner [.identifier t] :=
  List.forall_mem_singleton.mpr ⟨rfl, rfl⟩

theorem inner_ofNat (n : Nat) : Inner (codeText (Decimal.ofNat n)) :=
  inner_codeText (Decimal.not_mem_ofNat (by decide) n)

theorem inner_separated {α : Type} {l : List α} {g : α → List Lexeme} (h : ∀ a ∈ l, Inner (g a)) :
    Inner (separated (l.map g)) := by
  induction l with
  | nil => exact List.forall_mem_nil _
  | cons a l ih =>
    rw [List.forall_mem_cons] at h
    cases l with
    | nil => simpa [separated] using h.1
    | cons b l =>
      have hparts := (h.1.append (inner_codeText (t := ", ".toList) (by decide))).append (ih h.2)
      simpa [separated, List.intercalate_cons_cons] using hparts

theorem Literal.inner_lexemes (l : Literal) : Inner l.lexemes := by
  cases l with
  | integer n => exact inner_codeText (Decimal.not_mem_ofInt (by decide) (by decide) n)
  | text t => exact List.forall_mem_singleton.mpr ⟨rfl, rfl⟩

theorem Item.inner_lexemes (i : Item) : Inner i.lexemes := by
  obtain ⟨column, literal⟩ := i
  cases literal with
  | none => exact inner_identifier column
  | some l =>
    exact (l.inner_lexemes.append (inner_codeText (by decide))).append (inner_identifier column)

/-- No statement ends inside another one, and no comment begins there. -/
theorem Statement.inner_lexemes (st : Statement) : Inner st.lexemes := by
  have hcode : ∀ t : Text, t.contains ';' = false → Inner (codeText t) :=
    fun t ht => inner_codeText (by simpa using ht)
  cases st with
  | delete table key entries =>
    have hfront := ((hcode "DELETE FROM ".toList rfl).append (inner_identifier table)).append
      (hcode " WHERE ".toList rfl)
    have hlist := (hfront.append (inner_identifier key)).append (hcode " IN (".toList rfl)
    exact (hlist.append (inner_separated fun e _ => inner_ofNat e.toNat)).append
      (hcode ")".toList rfl)
  | clone table key template items =>
    have hfront := ((hcode "INSERT INTO ".toList rfl).append (inner_identifier table)).append
      (hcode " (".toList rfl)
    have hcolumns : Inner (separated (items.map fun i => [.identifier i.column])) :=
      inner_separated fun i _ => inner_identifier i.column
    have hitems : Inner (separated (items.map Item.lexemes)) :=
      inner_separated fun i _ => i.inner_lexemes
    have hselect := ((hfront.append hcolumns).append (hcode ")\n".toList rfl)).append
      (hcode "SELECT ".toList rfl)
    have hfrom := ((hselect.append hitems).append (hcode "\n".toList rfl)).append
      (hcode "FROM ".toList rfl)
    have hwhere := ((hfrom.append (inner_identifier table)).append (hcode "\n".toList rfl)).append
      (hcode "WHERE ".toList rfl)
    exact ((hwhere.append (inner_identifier key)).append (hcode " = ".toList rfl)).append
      (inner_ofNat template.toNat)

/-- A statement begins with a word. -/
theorem Statement.exists_lexemes_eq_cons (st : Statement) :
    ∃ c ls, st.lexemes = .code c :: ls ∧ Unicode.isWhiteSpace c = false := by
  cases st with
  | delete table key entries => exact ⟨'D', _, rfl, by decide⟩
  | clone table key template items => exact ⟨'I', _, rfl, by decide⟩

/-- What a statement reads as is one statement. -/
theorem Statement.isStatement_lexemes (st : Statement) : IsStatement st.lexemes := by
  obtain ⟨c, ls, hst, hc⟩ := st.exists_lexemes_eq_cons
  exact {
    inner := st.inner_lexemes
    ne_nil := by simp [hst]
    not_isBlank_head := by simpa [hst, Lexeme.isBlank] using hc }

end TomeSql.Sql
