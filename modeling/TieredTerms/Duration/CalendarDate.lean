/-!
# Calendar dates

The proleptic Gregorian calendar of the years 1 to 9999.  A date is a year, a month and a day; its
ordinal counts days, the first of January of the year 1 being day 1.

* `CalendarDate.ofParts?` accepts the dates that exist.
* `CalendarDate.ordinal` and `CalendarDate.ofOrdinal?` go between dates and day counts.
* `CalendarDate.ofWeekDay?` and `CalendarDate.ofYearDay?` are the other two ways to name a day.
-/

namespace TieredTerms

/-- A year, a month and a day. -/
structure CalendarDate where
  year : Nat
  month : Nat
  day : Nat
  deriving DecidableEq

namespace CalendarDate

/-- The last year of the calendar. -/
def maxYear : Nat := 9999

/-- Whether a year has a 29th of February. -/
def isLeap (year : Nat) : Bool :=
  year % 4 == 0 && (year % 100 != 0 || year % 400 == 0)

/-- The lengths of the months of a year. -/
def monthLengths (year : Nat) : List Nat :=
  [31, if isLeap year then 29 else 28, 31, 30, 31, 30, 31, 31, 30, 31, 30, 31]

/-- The days of all years before `year`. -/
def daysBeforeYear (year : Nat) : Nat :=
  let past := year - 1
  past * 365 + past / 4 - past / 100 + past / 400

/-- The date of the given parts, if it exists. -/
def ofParts? (year month day : Nat) : Option CalendarDate :=
  if 1 ≤ year ∧ year ≤ maxYear ∧ 1 ≤ month ∧ month ≤ 12 ∧ 1 ≤ day ∧
      day ≤ (monthLengths year).getD (month - 1) 0 then
    some ⟨year, month, day⟩
  else none

/-- The day count of a date. -/
def ordinal (d : CalendarDate) : Nat :=
  daysBeforeYear d.year + ((monthLengths d.year).take (d.month - 1)).foldl (· + ·) 0 + d.day

/-- The month and day of a day of the year, counted from 1, given the lengths of the months from
`month` on. -/
def monthAndDay (month : Nat) : List Nat → Nat → Nat × Nat
  | [], day => (month, day)
  | length :: lengths, day =>
    if day ≤ length then (month, day) else monthAndDay (month + 1) lengths (day - length)

/-- The year of a day count.  Years have 365.2425 days in the mean, which finds the year up to a
neighbour. -/
def yearOfOrdinal (ordinal : Nat) : Nat :=
  let guess := ordinal * 400 / 146097 + 1
  ([guess + 1, guess, guess - 1].find? fun year => daysBeforeYear year < ordinal).getD 1

/-- The date of a day count, if it lies in the calendar. -/
def ofOrdinal? (ordinal : Int) : Option CalendarDate :=
  if 1 ≤ ordinal ∧ ordinal ≤ daysBeforeYear (maxYear + 1) then
    let year := yearOfOrdinal ordinal.toNat
    let (month, day) := monthAndDay 1 (monthLengths year) (ordinal.toNat - daysBeforeYear year)
    some ⟨year, month, day⟩
  else none

/-- The weekday of a day count, from 1 for Monday to 7 for Sunday. -/
def weekday (ordinal : Nat) : Nat :=
  (ordinal + 6) % 7 + 1

/-- A day of a year, counted from 1.  A count beyond the year goes on into the next. -/
def ofYearDay? (year day : Nat) : Option CalendarDate := do
  let first ← ofParts? year 1 1
  ofOrdinal? ((first.ordinal : Int) + day - 1)

/-- A day of a week of a year.  Week 1 is the one that holds the first Thursday of the year.  The
week of the first of January is week 1 only where that day is a Thursday or before; days are
counted from the Sunday before the week. -/
def ofWeekDay? (year week day : Nat) : Option CalendarDate := do
  let first ← ofParts? year 1 1
  let start := weekday first.ordinal
  let weeks : Int := week - (if start ≤ 4 then 1 else 0)
  ofOrdinal? (first.ordinal + 7 * weeks - start + day)

end CalendarDate

end TieredTerms
