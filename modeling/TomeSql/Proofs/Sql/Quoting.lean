/-
  Text literals are read back, and nothing behind them is.

  1. **Two passes** — a text is quoted as if all its backslashes were doubled first and its quotes were
     escaped then (`quote_eq_replaced`).  The passes cannot change places, since the second one writes
     backslashes of its own.

  2. **Crux (`readBody_escaped_append`)** — reading undoes the escapes character by character, so that
     what is left to read behind them is what stands behind them.

  3. **Main result (`readString_quote_append_iff`)** — the reader of text literals takes a quoted text off
     the front, gives the text and leaves the rest, exactly when the rest begins with no quote.  If it
     does, the two quotes stand for one and the literal goes on, so that less is left.
-/
import TomeSql.Proofs.Sql.Lexer
import TomeSql.Text.Scanner

namespace TomeSql.Sql

/-! ## Two passes -/

/-- The text with `u` in place of each `c`. -/
def replaced (c : Char) (u t : Text) : Text := t.flatMap fun d => if d = c then u else [d]

/-- A text may be escaped at once, or the backslashes first and then the quotes. -/
theorem quote_eq_replaced (t : Text) :
    quote t = '\'' :: replaced '\'' "\\'".toList (replaced '\\' "\\\\".toList t) ++ ['\''] := by
  have hchar : ∀ c, escapedChar c =
      replaced '\'' "\\'".toList (if c = '\\' then "\\\\".toList else [c]) := by
    intro c
    by_cases hbackslash : c = '\\'
    · subst hbackslash
      decide
    · rw [if_neg hbackslash, escapedChar, if_neg hbackslash, replaced, List.flatMap_singleton]
      rfl
  have hbody : t.flatMap escapedChar =
      replaced '\'' "\\'".toList (replaced '\\' "\\\\".toList t) := by
    rw [funext hchar]
    exact List.flatMap_assoc.symm
  rw [quote, hbody]

-- The other way round the backslash of an escaped quote would be doubled.
example : replaced '\\' "\\\\".toList (replaced '\'' "\\'".toList ['\'']) = "\\\\'".toList := by decide

/-! ## Reading -/

/-- Reads a text literal off the front of a text. -/
def readString : Scanner Text
  | '\'' :: t => readBody t
  | _ => none

/-- Reading a literal undoes its escapes and goes on at the closing quote. -/
theorem readString_quote_append (s rest : Text) :
    readString (quote s ++ rest) = (readBody ('\'' :: rest)).map (prepend s) := by
  have hquote : quote s ++ rest = '\'' :: (s.flatMap escapedChar ++ '\'' :: rest) := by simp [quote]
  rw [hquote, readString, readBody_escaped_append]

/-- What is read back when the literal ends where it was meant to. -/
theorem readString_quote (s : Text) {rest : Text} (h : rest.head? ≠ some '\'') :
    readString (quote s ++ rest) = some (s, rest) := by
  rw [readString_quote_append, readBody_quote h, Option.map_some, prepend, List.append_nil]

/-- Reading takes at least the quote that ends the literal. -/
theorem length_lt_of_readBody {t v rest : Text} (h : readBody t = some (v, rest)) :
    rest.length < t.length := by
  fun_induction readBody t generalizing v with
  | case1 => cases h
  | case2 c t ih =>
    obtain ⟨w, hw, -⟩ := map_prepend_eq_some_iff.mp h
    have hlt := ih hw
    simp only [List.length_cons]
    omega
  | case3 t ih =>
    obtain ⟨w, hw, -⟩ := map_prepend_eq_some_iff.mp h
    have hlt := ih hw
    simp only [List.length_cons]
    omega
  | case4 t =>
    cases h
    exact Nat.lt_succ_self _
  | case5 c t _ _ _ ih =>
    obtain ⟨w, hw, -⟩ := map_prepend_eq_some_iff.mp h
    exact Nat.lt_succ_of_lt (ih hw)

/-- **A quoted text ends where it was meant to.**  From a quoted text with a rest behind it the reader
of text literals takes exactly the quoted text, gives the text and leaves the rest, if the rest does
not begin with a quote, and only then. -/
theorem readString_quote_append_iff (s rest : Text) :
    readString (quote s ++ rest) = some (s, rest) ↔ rest.head? ≠ some '\'' := by
  constructor
  · intro hread hquote
    obtain ⟨t, rfl⟩ : ∃ t, rest = '\'' :: t := List.head?_eq_some_iff.mp hquote
    -- the first quote of the rest is read together with the one that was to end the literal
    rw [readString_quote_append, readBody] at hread
    obtain ⟨w, hw, -⟩ := map_prepend_eq_some_iff.mp hread
    obtain ⟨v, hv, -⟩ := map_prepend_eq_some_iff.mp hw
    have hlt := length_lt_of_readBody hv
    rw [List.length_cons] at hlt
    omega
  · exact readString_quote s

example : readString (quote "a\\".toList ++ ",'b'".toList) = some ("a\\".toList, ",'b'".toList) := by
  decide
example : readString (quote "a".toList ++ "'b' ".toList) = some ("a'b".toList, " ".toList) := by decide

end TomeSql.Sql
