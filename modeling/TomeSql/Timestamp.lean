/-
  Points in time, written as date and time of day in UTC.

  The calendar is the Gregorian one, continued to all years.  A year of up to four digits is written
  with four, any other with its sign and at least four digits.  A nanosecond count of a full second
  or more marks a leap second, which is shown as a second of its own.
-/
import TomeSql.Text.Decimal

namespace TomeSql

/-- A point in time: whole seconds since the beginning of 1970, and nanoseconds. -/
structure Timestamp where
  seconds : Int
  nanoseconds : Nat := 0
deriving DecidableEq

/-- A day of the calendar. -/
structure Date where
  year : Int
  month : Nat
  day : Nat
deriving DecidableEq

namespace Date

/-- The day `n` days after the first of January 1970.  Years are counted from March here, so that
the leap day is the last of its year, and in spans of 400 years, which all have 146097 days. -/
def ofDays (n : Int) : Date :=
  let fromMarch := n + 719468
  let span := fromMarch / 146097
  let dayOfSpan := (fromMarch % 146097).toNat
  let yearOfSpan := (dayOfSpan - dayOfSpan / 1460 + dayOfSpan / 36524 - dayOfSpan / 146096) / 365
  let dayOfYear := dayOfSpan - (365 * yearOfSpan + yearOfSpan / 4 - yearOfSpan / 100)
  let monthFromMarch := (5 * dayOfYear + 2) / 153
  let day := dayOfYear - (153 * monthFromMarch + 2) / 5 + 1
  let year := span * 400 + yearOfSpan
  if monthFromMarch < 10 then ⟨year, monthFromMarch + 3, day⟩ else ⟨year + 1, monthFromMarch - 9, day⟩

/-- The text of a year. -/
def yearText (year : Int) : Text :=
  if year < 0 then '-' :: Decimal.padded 4 year.natAbs
  else if year ≤ 9999 then Decimal.padded 4 year.toNat
  else '+' :: Decimal.padded 4 year.toNat

/-- A date as year, month and day. -/
def render (d : Date) : Text :=
  yearText d.year ++ '-' :: Decimal.padded 2 d.month ++ '-' :: Decimal.padded 2 d.day

example : ofDays 0 = ⟨1970, 1, 1⟩ ∧ ofDays 19782 = ⟨2024, 2, 29⟩ ∧ ofDays (-1) = ⟨1969, 12, 31⟩ := by
  decide
example : ofDays (-719529) = ⟨-1, 12, 31⟩ ∧ ofDays 2932897 = ⟨10000, 1, 1⟩ := by decide

end Date

namespace Timestamp

/-- A point in time as date, time of day and the mark of UTC. -/
def render (t : Timestamp) : Text :=
  let second := (t.seconds % 86400).toNat
  (Date.ofDays (t.seconds / 86400)).render ++
  ' ' :: Decimal.padded 2 (second / 3600) ++
  ':' :: Decimal.padded 2 (second / 60 % 60) ++
  ':' :: Decimal.padded 2 (second % 60 + t.nanoseconds / 1000000000) ++ ['Z']

example : (Timestamp.mk 1709622489 0).render = "2024-03-05 07:08:09Z".toList := by decide
example : (Timestamp.mk (-1) 1500000000).render = "1969-12-31 23:59:60Z".toList := by decide

end Timestamp

end TomeSql
