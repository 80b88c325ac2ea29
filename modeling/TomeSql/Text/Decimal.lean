/-
  Decimal integers: how they are written and which texts are read.

  1. **Writing** — the shortest digits, with `-` in front of a negative number.

  2. **Reading** — ASCII digits after an optional `+`, or `-` where the range has negative numbers;
     leading zeros are fine.  The text is read from the left and the first fault is the answer, so a
     number already too large is reported before a bad digit further right.
-/
import TomeSql.Text.Basic

namespace TomeSql.Decimal

/-! ## Writing -/

/-- The digits of a natural number. -/
def ofNat (n : Nat) : Text := Nat.toDigits 10 n

/-- The digits of an integer, with a minus sign if it is negative. -/
def ofInt : Int → Text
  | .ofNat n => ofNat n
  | .negSucc n => '-' :: ofNat (n + 1)

/-- The digits of `n`, with zeros in front up to `width`. -/
def padded (width n : Nat) : Text :=
  List.replicate (width - (ofNat n).length) '0' ++ ofNat n

/-! ## Reading -/

/-- Why a text is not an integer of the range. -/
inductive Fault where
  | empty
  | badDigit
  | tooLarge
  | tooSmall
deriving DecidableEq

/-- The value of an ASCII digit. -/
def digit? (c : Char) : Option Nat := if c.isDigit then some (c.toNat - '0'.toNat) else none

/-- Reads the remaining digits of a magnitude, `n` being the value so far; `beyond` is the fault of
passing `bound`. -/
def readDigits (bound : Nat) (beyond : Fault) : (n : Nat) → Text → Except Fault Nat
  | n, [] => .ok n
  | n, c :: t =>
    match digit? c with
    | none => .error .badDigit
    | some d => if 10 * n + d ≤ bound then readDigits bound beyond (10 * n + d) t else .error beyond

/-- Reads one digit or more. -/
def readMagnitude (bound : Nat) (beyond : Fault) : Text → Except Fault Nat
  | [] => .error .badDigit
  | t => readDigits bound beyond 0 t

/-- Reads an integer between `lo` and `hi`, where `lo` is at most and `hi` at least zero. -/
def read (lo hi : Int) : Text → Except Fault Int
  | [] => .error .empty
  | '+' :: t => (readMagnitude hi.toNat .tooLarge t).map Int.ofNat
  | '-' :: t =>
    if lo < 0 then (readMagnitude (-lo).toNat .tooSmall t).map fun n => -(n : Int)
    else .error .badDigit
  | t => (readMagnitude hi.toNat .tooLarge t).map Int.ofNat

/-- Reads an unsigned 32-bit number. -/
def readUInt32 (t : Text) : Except Fault UInt32 :=
  (read 0 4294967295 t).map fun n => UInt32.ofNat n.toNat

/-- Reads a signed 32-bit number. -/
def readInt32 (t : Text) : Except Fault Int32 :=
  (read (-2147483648) 2147483647 t).map Int32.ofInt

/-- Reads a signed 64-bit number. -/
def readInt64 (t : Text) : Except Fault Int :=
  read (-9223372036854775808) 9223372036854775807 t

example : ofInt (-7) = "-7".toList ∧ ofInt 0 = "0".toList ∧ padded 4 33 = "0033".toList := by decide
example : readInt64 "-0012".toList = .ok (-12) := by rfl
example : readUInt32 "-0".toList = .error .badDigit := by rfl
example : readUInt32 "4294967296x".toList = .error .tooLarge := by rfl

end TomeSql.Decimal
