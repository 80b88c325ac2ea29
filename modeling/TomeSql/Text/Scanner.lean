/-
  Scanners: readers of the beginning of a text.

  A scanner takes what it reads off the front of the text and hands on the rest, or fails and takes
  nothing.  Alternatives are tried in order (`<|>`), each on the same text.  A repetition is bounded
  by the length of the text, which is enough for every scanner that takes at least one character.
-/
import TomeSql.Text.Basic

namespace TomeSql

/-- Reads an `α` off the front of a text. -/
abbrev Scanner := StateT Text Option

namespace Scanner

/-! ## One character -/

/-- Takes a character of a class. -/
def satisfy (p : Char → Bool) : Scanner Char
  | [] => none
  | c :: t => if p c then some (c, t) else none

/-- Takes the character `c`. -/
def expect (c : Char) : Scanner Char := satisfy (· == c)

/-- The next character, which is left in place. -/
def peek? : Scanner (Option Char) := fun t => some (t.head?, t)

/-! ## Runs of characters -/

/-- Takes the word `w`. -/
def word (w : Text) : Scanner Text := fun t => (Text.after? w t).map (w, ·)

/-- Takes the longest run of characters of a class, which may be empty. -/
def run (p : Char → Bool) : Scanner Text := fun t => some (t.takeWhile p, t.dropWhile p)

/-- Takes `n` characters of a class. -/
def exactly (n : Nat) (p : Char → Bool) : Scanner Text := fun t =>
  let taken := t.take n
  if taken.length = n ∧ taken.all p then some (taken, t.drop n) else none

/-- What a scanner takes, as it is written. -/
def written (s : Scanner α) : Scanner Text := fun t =>
  (s t).map fun (_, rest) => (t.take (t.length - rest.length), rest)

/-! ## Repetition -/

/-- At most `n` repetitions. -/
def upTo (s : Scanner α) : Nat → Scanner (List α)
  | 0 => pure []
  | n + 1 => (do let a ← s; let rest ← upTo s n; pure (a :: rest)) <|> pure []

/-- As many repetitions as there are, perhaps none. -/
def many (s : Scanner α) : Scanner (List α) := fun t => upTo s t.length t

/-- One or more, with a separator between them. -/
def separated (s : Scanner α) (sep : Char) : Scanner (List α) := do
  let first ← s
  let rest ← many (expect sep *> s)
  return first :: rest

/-- Fails unless `b` holds. -/
def require (b : Bool) : Scanner Unit := if b then pure () else failure

/-- Succeeds only at the end of the text. -/
def atEnd : Scanner Unit
  | [] => some ((), [])
  | _ :: _ => none

/-! ## Numerals -/

/-- The value of a hexadecimal digit. -/
def hexValue (c : Char) : Nat :=
  if c.isDigit then c.toNat - '0'.toNat
  else if 'a' ≤ c then c.toNat - 'a'.toNat + 10
  else c.toNat - 'A'.toNat + 10

/-- A hexadecimal digit, upper or lower case. -/
def isHexDigit (c : Char) : Bool := c.isDigit || ('a' ≤ c && c ≤ 'f') || ('A' ≤ c && c ≤ 'F')

/-- The number that digits write in a base. -/
def numeral (base : Nat) (digits : Text) : Nat := digits.foldl (fun n c => base * n + hexValue c) 0

/-- The character with a number; fails if there is none. -/
def numbered (code : Nat) : Scanner Char := do
  require code.isValidChar
  return Char.ofNat code

example : numeral 16 "fF".toList = 255 := by decide
example : numbered 0xD800 [] = none := by decide

end Scanner

end TomeSql
