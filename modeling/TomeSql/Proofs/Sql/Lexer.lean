/-
  Scripts as MySQL reads them: characters of SQL, comments, text literals and names.

  1. **Lexer (`lex`)** — it goes through the text once, and what it is inside of decides what the next
     character means.  A comment begins with two hyphens and a blank and ends with the line.  In a
     text literal a backslash changes the meaning of the next character, and a doubled quote stands
     for one; in a name a doubled backtick does.

  2. **Pieces** — each kind of piece is read as what it was written from, if it is followed by what
     may follow it (`lexFrom_comment`, `lexFrom_string`, `lexFrom_identifier`).  The body of a text
     literal has a reader of its own (`readBody`), which tells what it leaves, and the lexer reads it
     in the same way (`lexFrom_string_of_readBody`).

  3. **Names** — what stands between backticks is a name exactly if its own backticks are doubled
     (`IsWritten`): such a text is read as one name, and no other text ever is
     (`isWritten_of_mem_lex`).

  4. **Statements (`splitStatements`)** — what stands between the semicolons of SQL, without comments
     and without the white space in front.
-/
import TomeSql.Sql.Literal
import Mathlib.Data.List.TakeWhile

namespace TomeSql.Sql

/-! ## Lexer -/

/-- A piece of a script. -/
inductive Lexeme where
  /-- A character of SQL itself. -/
  | code (c : Char)
  /-- What a comment says. -/
  | comment (t : Text)
  /-- The value of a text literal. -/
  | string (t : Text)
  /-- A name as it is written between its backticks. -/
  | identifier (t : Text)
  /-- A text literal or a name that the script ends in. -/
  | unclosed (t : Text)
deriving DecidableEq

/-- What the lexer is inside of, with what it has read of it. -/
inductive Mode where
  | code
  | comment (t : Text)
  | string (t : Text)
  | identifier (t : Text)

/-- What a character stands for behind a backslash. -/
def escapeValue (c : Char) : Text :=
  if c = '0' then ['\x00'] else if c = 'b' then ['\x08'] else if c = 'n' then ['\n']
  else if c = 'r' then ['\r'] else if c = 't' then ['\t'] else if c = 'Z' then ['\x1a']
  else if c = '%' then ['\\', '%'] else if c = '_' then ['\\', '_'] else [c]

/-- Reads a script from the middle on. -/
def lexFrom : Mode → Text → List Lexeme
  | .code, [] => []
  | .code, '-' :: '-' :: ' ' :: t => lexFrom (.comment []) t
  | .code, '\'' :: t => lexFrom (.string []) t
  | .code, '\x60' :: t => lexFrom (.identifier []) t
  | .code, c :: t => .code c :: lexFrom .code t
  | .comment u, [] => [.comment u]
  | .comment u, '\n' :: t => .comment u :: lexFrom .code t
  | .comment u, c :: t => lexFrom (.comment (u ++ [c])) t
  | .string u, [] => [.unclosed u]
  | .string u, '\\' :: c :: t => lexFrom (.string (u ++ escapeValue c)) t
  | .string u, '\'' :: '\'' :: t => lexFrom (.string (u ++ ['\''])) t
  | .string u, '\'' :: t => .string u :: lexFrom .code t
  | .string u, c :: t => lexFrom (.string (u ++ [c])) t
  | .identifier u, [] => [.unclosed u]
  | .identifier u, '\x60' :: '\x60' :: t => lexFrom (.identifier (u ++ ['\x60', '\x60'])) t
  | .identifier u, '\x60' :: t => .identifier u :: lexFrom .code t
  | .identifier u, c :: t => lexFrom (.identifier (u ++ [c])) t

/-- The pieces of a script. -/
def lex (t : Text) : List Lexeme := lexFrom .code t

example : lex "-- a;\n\x60b\x60='it\\'s;'".toList =
    [.comment "a;".toList, .identifier "b".toList, .code '=', .string "it's;".toList] := by decide

/-! ## Pieces -/

/-- A character that is one of SQL wherever it stands in SQL. -/
def isPlain (c : Char) : Bool := c != '-' && c != '\'' && c != '\x60'

theorem lexFrom_plain {c : Char} (h : isPlain c = true) (rest : Text) :
    lexFrom .code (c :: rest) = .code c :: lexFrom .code rest := by
  simp only [isPlain, Bool.and_eq_true, bne_iff_ne] at h
  rw [lexFrom] <;> simp_all

/-- A minus sign begins a comment only before another one. -/
theorem lexFrom_minus {rest : Text} (h : rest.head? ≠ some '-') :
    lexFrom .code ('-' :: rest) = .code '-' :: lexFrom .code rest := by
  rw [lexFrom]
  · rintro t - rfl
    exact h rfl
  · simp
  · simp

/-- A comment goes up to its line feed. -/
theorem lexFrom_comment {t : Text} (h : '\n' ∉ t) (u rest : Text) :
    lexFrom (.comment u) (t ++ '\n' :: rest) = .comment (u ++ t) :: lexFrom .code rest := by
  induction t generalizing u with
  | nil => rw [List.nil_append, List.append_nil, lexFrom]
  | cons c t ih =>
    rw [List.mem_cons, not_or] at h
    rw [List.cons_append, lexFrom, ih h.2, List.append_assoc, List.singleton_append]
    exact fun hc => h.1 hc.symm

/-! ## Text literals -/

/-- Puts what has been read in front of a value. -/
def prepend (u : Text) (p : Text × Text) : Text × Text := (u ++ p.1, p.2)

theorem map_prepend_eq_some_iff {u v rest : Text} {o : Option (Text × Text)} :
    o.map (prepend u) = some (v, rest) ↔ ∃ w, o = some (w, rest) ∧ u ++ w = v := by
  rw [Option.map_eq_some_iff]
  constructor
  · rintro ⟨⟨w, s⟩, hs, heq⟩
    cases heq
    exact ⟨w, hs, rfl⟩
  · rintro ⟨w, hs, rfl⟩
    exact ⟨(w, rest), hs, rfl⟩

/-- Reads a text literal from behind its first quote on: its value, and what stands behind the quote
that ends it. -/
def readBody : Text → Option (Text × Text)
  | [] => none
  | '\\' :: c :: t => (readBody t).map (prepend (escapeValue c))
  | '\'' :: '\'' :: t => (readBody t).map (prepend ['\''])
  | '\'' :: t => some ([], t)
  | c :: t => (readBody t).map (prepend [c])

/-- A character is read back from the way it is written. -/
theorem readBody_escapedChar_append (c : Char) (rest : Text) :
    readBody (escapedChar c ++ rest) = (readBody rest).map (prepend [c]) := by
  -- a backslash and a quote come with a backslash that is dropped; all else stands for itself
  by_cases hc : c = '\\' ∨ c = '\''
  · have hcode : escapedChar c = ['\\', c] ∧ escapeValue c = [c] := by
      rcases hc with rfl | rfl <;> decide
    rw [hcode.1, List.cons_append, List.singleton_append, readBody, hcode.2]
  · rw [not_or] at hc
    rw [escapedChar, if_neg hc.1, if_neg hc.2, List.singleton_append, readBody]
    · exact fun _ _ hbackslash => absurd hbackslash hc.1
    · exact fun _ hquote => absurd hquote hc.2
    · exact fun hquote => absurd hquote hc.2

/-- What has been escaped is read back, whatever comes behind it. -/
theorem readBody_escaped_append (t rest : Text) :
    readBody (t.flatMap escapedChar ++ rest) = (readBody rest).map (prepend t) := by
  induction t with
  | nil =>
    have hnothing : prepend [] = id := rfl
    rw [List.flatMap_nil, List.nil_append, hnothing, Option.map_id, id]
  | cons c t ih =>
    rw [List.flatMap_cons, List.append_assoc, readBody_escapedChar_append, ih, Option.map_map]
    rfl

/-- A quote ends a body, unless it is doubled. -/
theorem readBody_quote {rest : Text} (h : rest.head? ≠ some '\'') :
    readBody ('\'' :: rest) = some ([], rest) := by
  rw [readBody]
  rintro t rfl
  exact h rfl

/-- The lexer reads a text literal in this way. -/
theorem lexFrom_string_of_readBody {t v rest : Text} (h : readBody t = some (v, rest)) (u : Text) :
    lexFrom (.string u) t = .string (u ++ v) :: lexFrom .code rest := by
  fun_induction readBody t generalizing u v with
  | case1 => cases h
  | case2 c t ih =>
    obtain ⟨w, hw, rfl⟩ := map_prepend_eq_some_iff.mp h
    rw [lexFrom, ih hw, List.append_assoc]
  | case3 t ih =>
    obtain ⟨w, hw, rfl⟩ := map_prepend_eq_some_iff.mp h
    rw [lexFrom, ih hw, List.append_assoc]
  | case4 t hdouble =>
    cases h
    rw [lexFrom, List.append_nil]
    exact hdouble
  | case5 c t hbackslash hdouble hquote ih =>
    obtain ⟨w, hw, rfl⟩ := map_prepend_eq_some_iff.mp h
    rw [lexFrom, ih hw, List.append_assoc]
    · exact hbackslash
    · exact hdouble
    · exact hquote

/-- A literal ends at the quote behind its escaped text. -/
theorem lexFrom_string (t u : Text) {rest : Text} (h : rest.head? ≠ some '\'') :
    lexFrom (.string u) (t.flatMap escapedChar ++ '\'' :: rest) =
      .string (u ++ t) :: lexFrom .code rest := by
  apply lexFrom_string_of_readBody
  rw [readBody_escaped_append, readBody_quote h, Option.map_some, prepend, List.append_nil]

/-! ## Names -/

/-- How a character of a name is written between backticks. -/
def writtenChar (c : Char) : Text := if c = '\x60' then ['\x60', '\x60'] else [c]

/-- The text is what stands between the backticks of some name: each of its backticks is doubled. -/
def IsWritten (t : Text) : Prop := ∃ n : Text, t = n.flatMap writtenChar

/-- A name without a backtick can be written as it is. -/
theorem isWritten_of_not_mem {t : Text} (h : '\x60' ∉ t) : IsWritten t := by
  refine ⟨t, ?_⟩
  induction t with
  | nil => rfl
  | cons c t ih =>
    rw [List.mem_cons, not_or] at h
    rw [List.flatMap_cons, writtenChar, if_neg (Ne.symm h.1), ← ih h.2, List.singleton_append]

theorem IsWritten.concat {t : Text} (h : IsWritten t) (c : Char) : IsWritten (t ++ writtenChar c) := by
  obtain ⟨n, rfl⟩ := h
  exact ⟨n ++ [c], by rw [List.flatMap_append, List.flatMap_singleton]⟩

/-- A name ends at the backtick behind it. -/
theorem lexFrom_identifier {t : Text} (ht : IsWritten t) (u : Text) {rest : Text}
    (h : rest.head? ≠ some '\x60') :
    lexFrom (.identifier u) (t ++ '\x60' :: rest) = .identifier (u ++ t) :: lexFrom .code rest := by
  obtain ⟨n, rfl⟩ := ht
  induction n generalizing u with
  | nil =>
    rw [List.flatMap_nil, List.nil_append, List.append_nil, lexFrom]
    rintro s rfl
    exact h rfl
  | cons c n ih =>
    have hrest := ih (u ++ writtenChar c)
    rw [List.append_assoc] at hrest
    rw [List.flatMap_cons, List.append_assoc, ← hrest]
    -- what has been read is kept as it was written, so a doubled backtick stays one
    by_cases hc : c = '\x60'
    · rw [writtenChar, if_pos hc, List.cons_append, List.singleton_append, lexFrom]
    · rw [writtenChar, if_neg hc, List.singleton_append, lexFrom]
      · exact fun _ htick => absurd htick hc
      · exact fun htick => absurd htick hc

/-- What the lexer has read of a name could be the beginning of one. -/
def Mode.Sound : Mode → Prop
  | .identifier u => IsWritten u
  | _ => True

/-- Every name that is read is one that could have been written. -/
theorem isWritten_of_mem_lexFrom {m : Mode} {s t : Text} (hm : m.Sound)
    (h : .identifier t ∈ lexFrom m s) : IsWritten t := by
  fun_induction lexFrom m s
  -- a name begins, goes on with a doubled backtick or another character, or ends
  case case4 ih => exact ih ⟨[], rfl⟩ h
  case case15 ih => exact ih (IsWritten.concat hm '\x60') h
  case case17 c _ _ htick ih =>
    have hc : writtenChar c = [c] := if_neg htick
    exact ih (hc ▸ IsWritten.concat hm c) h
  case case16 ih =>
    rcases List.mem_cons.mp h with heq | h
    · exact Lexeme.identifier.inj heq ▸ hm
    · exact ih trivial h
  -- all else is not about names
  all_goals first
    | (rename_i ih; exact ih trivial (by simpa using h))
    | simp at h

/-- Every name that is read could have been written so. -/
theorem isWritten_of_mem_lex {s t : Text} (h : .identifier t ∈ lex s) : IsWritten t := by
  have hstart : Mode.Sound .code := trivial
  exact isWritten_of_mem_lexFrom hstart h

/-! ## Statements -/

/-- Comments are for the reader only. -/
def Lexeme.isComment : Lexeme → Bool
  | .comment _ => true
  | _ => false

/-- White space of SQL. -/
def Lexeme.isBlank : Lexeme → Bool
  | .code c => Unicode.isWhiteSpace c
  | _ => false

/-- The semicolon of SQL. -/
def Lexeme.isEnd (l : Lexeme) : Bool := l == .code ';'

/-- The statements of a script. -/
def splitStatements (ls : List Lexeme) : List (List Lexeme) :=
  (((ls.filter fun l => !l.isComment).splitOnP Lexeme.isEnd).map
    (List.dropWhile Lexeme.isBlank)).filter (· ≠ [])

/-- What may stand between two statements: comments and white space. -/
def Gap (ls : List Lexeme) : Prop := ∀ l ∈ ls, l.isComment = true ∨ l.isBlank = true

/-- No comment begins among these pieces, and no statement ends. -/
def Inner (ls : List Lexeme) : Prop := ∀ l ∈ ls, l.isComment = false ∧ l.isEnd = false

/-- What stands in front of a semicolon, if it begins with no white space. -/
structure IsStatement (st : List Lexeme) : Prop where
  inner : Inner st
  ne_nil : st ≠ []
  not_isBlank_head : ∀ l ∈ st.head?, l.isBlank = false

theorem Gap.append {ls ms : List Lexeme} (hl : Gap ls) (hm : Gap ms) : Gap (ls ++ ms) :=
  List.forall_mem_append.mpr ⟨hl, hm⟩

theorem Inner.append {ls ms : List Lexeme} (hl : Inner ls) (hm : Inner ms) : Inner (ls ++ ms) :=
  List.forall_mem_append.mpr ⟨hl, hm⟩

/-- Comments stand between statements. -/
theorem gap_comments (ts : List Text) : Gap (ts.map .comment) := by
  intro l hl
  obtain ⟨t, -, rfl⟩ := List.mem_map.mp hl
  exact Or.inl rfl

theorem Gap.isBlank_of_mem_filter {ls : List Lexeme} (h : Gap ls) :
    ∀ l ∈ ls.filter fun l => !l.isComment, l.isBlank = true := by
  intro l hl
  obtain ⟨hl, hcomment⟩ := List.mem_filter.mp hl
  exact (h l hl).resolve_left (by simpa using hcomment)

theorem isEnd_of_isBlank {l : Lexeme} (h : l.isBlank = true) : l.isEnd = false := by
  cases l with
  | code c =>
    rw [Lexeme.isEnd, beq_eq_false_iff_ne]
    rintro ⟨⟩
    revert h
    decide
  | _ => cases h

/-- Comments and white space alone hold no statement. -/
theorem splitStatements_gap {ls : List Lexeme} (h : Gap ls) : splitStatements ls = [] := by
  have hblank := h.isBlank_of_mem_filter
  rw [splitStatements, List.splitOnP_eq_singleton fun l hl => isEnd_of_isBlank (hblank l hl),
    List.map_singleton, List.dropWhile_eq_nil_iff.mpr hblank]
  rfl

/-- The first statement of a script stands in front of the first semicolon. -/
theorem splitStatements_append {above st : List Lexeme} (habove : Gap above) (hst : IsStatement st)
    (rest : List Lexeme) :
    splitStatements (above ++ (st ++ .code ';' :: rest)) = st :: splitStatements rest := by
  have hblank := habove.isBlank_of_mem_filter
  have hfilter : (st.filter fun l => !l.isComment) = st :=
    List.filter_eq_self.mpr fun l hl => by simp [(hst.inner l hl).1]
  have hend : ∀ l ∈ (above.filter fun l => !l.isComment) ++ st, l.isEnd = false := by
    intro l hl
    rcases List.mem_append.mp hl with hl | hl
    · exact isEnd_of_isBlank (hblank l hl)
    · exact (hst.inner l hl).2
  have hdrop : List.dropWhile Lexeme.isBlank ((above.filter fun l => !l.isComment) ++ st) = st := by
    rw [List.dropWhile_append_of_pos hblank]
    cases st with
    | nil => rfl
    | cons l st => exact List.dropWhile_cons_of_neg (by simp [hst.not_isBlank_head l rfl])
  have hsemicolon : (Lexeme.code ';').isComment = false := rfl
  rw [splitStatements, List.filter_append, List.filter_append, hfilter,
    List.filter_cons_of_pos (by simp [hsemicolon]), ← List.append_assoc,
    List.splitOnP_append_cons_of_forall_mem hend _ rfl, List.map_cons, hdrop,
    List.filter_cons_of_pos (by simpa using hst.ne_nil)]
  rfl

end TomeSql.Sql
