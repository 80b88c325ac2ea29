/-
  What is seen of a text that a terminal would act on.

  1. **Sequences** — an escape character opens a control sequence: two characters, a control string
     of numbers closed by a letter, or a device or title string with an end mark.  Nothing inside a
     sequence is seen, and `Sequence.next` says how far it goes.

  2. **Characters** — outside of sequences every character is seen but the control characters, and
     of those the ones that are white space (tab, line feed, form feed, carriage return) are.

  3. **White space inside** — a short sequence lets such white space through.  What follows is seen
     too, and the sequence goes on at the next control character, unless a character beyond ASCII
     has made it forgotten.

  A text without control characters is seen as it stands (`visible_eq_self`).
-/
import TomeSql.Text.Basic

namespace TomeSql.Text

/-! ## Sequences -/

/-- A place inside a control sequence. -/
inductive Sequence where
  /-- Behind the escape character. -/
  | escape
  /-- Behind the first of the characters that come before the last one. -/
  | intermediate
  /-- In a control string: numbers and marks up to a letter. -/
  | control
  /-- At the beginning of a device string. -/
  | deviceStart
  /-- Among the numbers of a device string. -/
  | deviceNumbers
  /-- Behind the numbers of a device string. -/
  | deviceMarks
  /-- In the body of a device string, or in a string that is for no one. -/
  | string
  /-- In a string for the window, such as its title. -/
  | title
deriving DecidableEq

namespace Sequence

/-- The byte of the string terminator is among the bytes of the character. -/
def holdsTerminator (c : Char) : Bool := (String.utf8EncodeChar c).contains 0x9C

/-- What a character inside a sequence leads to; `none` when the sequence is over. -/
def next (s : Sequence) (c : Char) : Option Sequence :=
  let n := c.toNat
  if n = 0x18 ∨ n = 0x1A then none
  else if n = 0x1B then some escape
  else match s with
  | escape =>
    if c = '[' then some control
    else if c = ']' then some title
    else if c = 'P' then some deviceStart
    else if c = 'X' ∨ c = '^' ∨ c = '_' then some string
    else if 0x20 ≤ n ∧ n ≤ 0x2F then some intermediate
    else if 0x30 ≤ n ∧ n ≤ 0x7E then none
    else some escape
  | intermediate => if 0x30 ≤ n ∧ n ≤ 0x7E then none else some intermediate
  | control => if 0x40 ≤ n ∧ n ≤ 0x7E then none else some control
  | deviceStart =>
    if 0x20 ≤ n ∧ n ≤ 0x2F then some deviceMarks
    else if 0x30 ≤ n ∧ n ≤ 0x3F then some deviceNumbers
    else if 0x40 ≤ n ∧ n ≤ 0x7E then some string
    else some deviceStart
  | deviceNumbers =>
    if 0x20 ≤ n ∧ n ≤ 0x2F then some deviceMarks
    else if 0x3C ≤ n ∧ n ≤ 0x7E then some string
    else some deviceNumbers
  | deviceMarks => if 0x30 ≤ n ∧ n ≤ 0x7E then some string else some deviceMarks
  | string => if holdsTerminator c then none else some string
  | title => if n = 0x07 then none else some title

/-- The sequence lets white space through. -/
def lets : Sequence → Bool
  | escape | intermediate | control => true
  | _ => false

end Sequence

/-! ## Reading -/

/-- Control characters that are white space. -/
def isBlankControl (c : Char) : Bool := c = '\t' || c = '\n' || c = '\x0c' || c = '\r'

/-- ASCII characters that are seen. -/
def isSeen (c : Char) : Bool := (0x20 ≤ c.toNat && c.toNat < 0x7F) || isBlankControl c

/-- Where the reading stands. -/
inductive Sight where
  /-- Characters are seen; a sequence may be waiting to go on. -/
  | clear (waiting : Option Sequence)
  | inside (s : Sequence)
deriving DecidableEq

/-- The sight behind a character that belongs to a sequence. -/
def Sight.after : Option Sequence → Sight
  | none => .clear none
  | some s => .inside s

/-- Whether a character is seen, and the sight behind it. -/
def look : Sight → Char → Bool × Sight
  | .clear waiting, c =>
    if isSeen c then (true, .clear waiting)
    else if 0x80 ≤ c.toNat then (true, .clear none)
    else match waiting with
      | none => (false, if c = '\x1b' then .inside .escape else .clear none)
      | some s => (false, .after (s.next c))
  | .inside s, c =>
    if isBlankControl c && s.lets then (true, .clear (some s)) else (false, .after (s.next c))

/-- What is seen of the rest of a text. -/
def visibleFrom : Sight → Text → Text
  | _, [] => []
  | s, c :: t =>
    let (seen, s) := look s c
    if seen then c :: visibleFrom s t else visibleFrom s t

/-- What is seen of a text. -/
def visible (t : Text) : Text := visibleFrom (.clear none) t

/-! ## Plain texts -/

/-- A text without control characters is seen as it stands. -/
theorem visible_eq_self {t : Text} (h : ∀ c ∈ t, isSeen c = true ∨ 0x80 ≤ c.toNat) :
    visible t = t := by
  unfold visible
  induction t with
  | nil => rfl
  | cons c t ih =>
    have hlook : look (.clear none) c = (true, .clear none) := by
      rcases h c (List.mem_cons_self ..) with hc | hc
      · simp [look, hc]
      · simp [look, hc]
    rw [visibleFrom, hlook]
    simp only [if_true]
    rw [ih fun d hd => h d (List.mem_cons_of_mem c hd)]

example : visible "a\x1b[31mb\x07\x7f".toList = "ab".toList := by decide
example : visible "\x1b]0;title\x07z".toList = "z".toList := by decide
example : visible "\x1b[3\t1\x01mé".toList = "\t1é".toList := by decide +kernel

end TomeSql.Text
