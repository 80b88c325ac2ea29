/-
  Numbers and points in time of a TOML document.

  1. **Integers** — decimal ones with an optional sign and no zeros in front, or unsigned ones in
     base 16, 8 and 2; single underscores may stand between digits.  They fit into 64 bits.

  2. **Numbers with a fraction or an exponent** — and infinity and not-a-number by name.  A positive
     number beyond the range of a double is refused.

  3. **Points in time** — a date, a time of day, or both, with or without an offset; each part is in
     its range, and the day exists in its month.
-/
import TomeSql.Toml.Strings
import TomeSql.Toml.Value

namespace TomeSql.Toml

open Scanner

/-! ## Integers -/

/-- The digits after the first, with underscores between digits left out. -/
def moreDigits (p : Char → Bool) : Scanner Text := many (satisfy p <|> (expect '_' *> satisfy p))

/-- One digit or more. -/
def digits (p : Char → Bool) : Scanner Text := do
  let first ← satisfy p
  return first :: (← moreDigits p)

/-- A sign in front of a number. -/
def sign : Scanner (Option Char) := optional (expect '+' <|> expect '-')

/-- The digits of a whole number, without zeros in front. -/
def wholeDigits : Scanner Text :=
  (expect '0' *> pure ['0']) <|> digits Char.isDigit

/-- A decimal integer. -/
def decimalInteger : Scanner Int := do
  let s ← sign
  let n := (numeral 10 (← wholeDigits) : Int)
  return if s = some '-' then -n else n

/-- An integer in another base, after its mark. -/
def basedInteger (mark : Text) (base : Nat) (p : Char → Bool) : Scanner Int := do
  discard (word mark)
  return numeral base (← digits p)

/-- An integer of 64 bits. -/
def integer : Scanner Value := do
  let n ← basedInteger "0x".toList 16 isHexDigit <|>
    basedInteger "0o".toList 8 (fun c => '0' ≤ c && c ≤ '7') <|>
    basedInteger "0b".toList 2 (fun c => c == '0' || c == '1') <|>
    decimalInteger
  require (-9223372036854775808 ≤ n ∧ n ≤ 9223372036854775807)
  return .integer n

/-! ## Numbers with a fraction or an exponent -/

/-- The least number that rounds beyond the largest double: half a unit above it. -/
def doubleLimit : Nat := Nat.pow 2 1024 - Nat.pow 2 970

/-- `mantissa · 10 ^ exponent` is beyond the range of a double.  The number of its whole digits
decides, except where it has as many as the limit. -/
def beyondDouble (mantissa : Nat) (exponent : Int) : Bool :=
  let wholeCount := (Nat.toDigits 10 mantissa).length + exponent
  if mantissa = 0 ∨ wholeCount < 309 then false
  else if wholeCount > 309 then true
  else if exponent < 0 then mantissa ≥ doubleLimit * Nat.pow 10 exponent.natAbs
  else mantissa * Nat.pow 10 exponent.natAbs ≥ doubleLimit

/-- The digits after a decimal point. -/
def fraction : Scanner Text := expect '.' *> digits Char.isDigit

/-- An exponent. -/
def exponent : Scanner Int := do
  discard (expect 'e' <|> expect 'E')
  let s ← sign
  let n := (numeral 10 (← digits Char.isDigit) : Int)
  return if s = some '-' then -n else n

/-- A number with a fraction, an exponent, or both. -/
def scientific : Scanner Unit := do
  let s ← sign
  let whole ← wholeDigits
  let part ← optional fraction
  let exp ← optional exponent
  require (part.isSome || exp.isSome)
  let places := part.getD []
  let mantissa := numeral 10 (whole ++ places)
  require (s = some '-' || !beyondDouble mantissa (exp.getD 0 - places.length))

/-- Infinity and not-a-number. -/
def namedNumber : Scanner Unit := do
  discard sign
  discard (word "inf".toList <|> word "nan".toList)

/-- A number that is not an integer. -/
def float : Scanner Value := .float <$> written (scientific <|> namedNumber)

/-! ## Points in time -/

/-- A number of two digits between `lo` and `hi`. -/
def twoDigits (lo hi : Nat) : Scanner Nat := do
  let n := numeral 10 (← exactly 2 Char.isDigit)
  require (lo ≤ n ∧ n ≤ hi)
  return n

/-- The number of days of a month. -/
def daysInMonth (year month : Nat) : Nat :=
  if month = 2 then (if year % 4 = 0 ∧ (year % 100 ≠ 0 ∨ year % 400 = 0) then 29 else 28)
  else if month = 4 ∨ month = 6 ∨ month = 9 ∨ month = 11 then 30 else 31

/-- A date. -/
def date : Scanner Unit := do
  let year := numeral 10 (← exactly 4 Char.isDigit)
  discard (expect '-')
  let month ← twoDigits 1 12
  discard (expect '-')
  discard (twoDigits 1 (daysInMonth year month))

/-- A time of day; the second may be a leap second. -/
def timeOfDay : Scanner Unit := do
  discard (twoDigits 0 23)
  discard (expect ':')
  discard (twoDigits 0 59)
  discard (expect ':')
  discard (twoDigits 0 60)
  discard (optional (expect '.' *> someOf Char.isDigit))

/-- An offset from UTC. -/
def offset : Scanner Unit :=
  discard (expect 'Z' <|> expect 'z') <|> do
    discard (expect '+' <|> expect '-')
    discard (twoDigits 0 23)
    discard (expect ':')
    discard (twoDigits 0 59)

/-- The time of day behind a date. -/
def timePart : Scanner Unit := do
  discard (expect 'T' <|> expect 't' <|> expect ' ')
  timeOfDay
  discard (optional offset)

/-- A date, a time of day, or both. -/
def dateTime : Scanner Value :=
  .dateTime <$> written ((do date; discard (optional timePart)) <|> timeOfDay)

/-- A number or a point in time. -/
def number : Scanner Value := dateTime <|> float <|> integer

end TomeSql.Toml
