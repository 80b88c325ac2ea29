/-
  The smallest parts of a pattern, and the escapes by which most of them are written.

  A part is admitted or not, by the mode, between other parts (`Atom.admitted`) or within brackets
  (`Atom.listed`).  With Unicode, the edge of a word depends on characters of any length, and no
  pattern with such an edge can be matched in one pass; so word edges need the mode without.
-/
import TomeSql.Pattern.Basic

namespace TomeSql.Pattern

open Scanner

/-! ## Atoms -/

/-- A part that has no parts. -/
inductive Atom where
  /-- A character that stands for itself. -/
  | literal (c : Char)
  /-- A character given by the number of a byte. -/
  | byte (c : Char)
  /-- Any character. -/
  | any
  /-- Digits, white space or word characters, or all others. -/
  | kind (negated : Bool)
  /-- The characters with a property. -/
  | property
  /-- The beginning or the end of the text or of a line. -/
  | edge
  /-- The beginning or the end of a word, or neither. -/
  | wordEdge
deriving DecidableEq

namespace Atom

/-- The atom may stand between other parts. -/
def admitted (m : Mode) : Atom → Bool
  | literal _ | edge => true
  | byte c => m.unicode || c.toNat < 0x80
  | kind negated => m.unicode || !negated
  | any | property => m.unicode
  | wordEdge => !m.unicode

/-- The character that the atom stands for. -/
def char? : Atom → Option Char
  | literal c | byte c => some c
  | _ => none

/-- The atom may stand within brackets. -/
def listed (m : Mode) : Atom → Bool
  | literal c | byte c => m.unicode || c.toNat < 0x80
  | kind negated => m.unicode || !negated
  | property => m.unicode
  | any | edge | wordEdge => false

end Atom

/-! ## Escapes -/

/-- Hexadecimal digits, which gaps may stand before. -/
def digits (m : Mode) : Nat → Scanner Text
  | 0 => pure []
  | n + 1 => do
    skip m
    let d ← satisfy isHexDigit
    return d :: (← digits m n)

/-- The letters that name the great properties of characters. -/
def propertyLetters : Text := "CLMNPSZclmnpsz".toList

/-- Reads what follows the backslash of an escape. -/
def escape (m : Mode) : Scanner Atom := do
  match ← satisfy fun _ => true with
  | 'x' => return .byte (← numbered (numeral 16 (← digits m 2)))
  | 'u' => return .literal (← numbered (numeral 16 (← digits m 4)))
  | 'U' => return .literal (← numbered (numeral 16 (← digits m 8)))
  | 'p' | 'P' =>
    skip m
    discard (satisfy propertyLetters.contains)
    return .property
  | 'd' | 's' | 'w' => return .kind false
  | 'D' | 'S' | 'W' => return .kind true
  | 'a' => return .literal '\x07'
  | 't' => return .literal '\t'
  | 'n' => return .literal '\n'
  | 'v' => return .literal '\x0b'
  | 'f' => return .literal '\x0c'
  | 'r' => return .literal '\r'
  | 'A' | 'z' => return .edge
  | 'b' | 'B' | '<' | '>' => return .wordEdge
  | c =>
    require (c.toNat < 0x80 && !c.isAlphanum)
    return .literal c

example : escape {} "x41b".toList = some (.byte 'A', "b".toList) := by decide +kernel
example : escape {} "q".toList = none ∧ escape {} "1".toList = none := by decide +kernel

/-- Reads an atom: an escape, a sign, or a character that stands for itself. -/
def atom (m : Mode) : Scanner Atom := do
  match ← satisfy fun _ => true with
  | '\\' => escape m
  | '.' => return .any
  | '^' | '$' => return .edge
  | c => return .literal c

end TomeSql.Pattern
