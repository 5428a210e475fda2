import TieredTerms.Duration.CalendarDate
import TieredTerms.Duration.Designators

/-!
# Reading the date form of durations

A duration may be written as a date and a time of day after `P`, as in `P0001-02-03T04:05:06`.
The date stands for years, months and days, and the time for the rest.  A zone may follow the
time; it has no meaning for a duration.

* `DateForm.ofChars?` reads a date in one of twelve forms.
* `TimeForm.ofChars?` reads a time of day in one of five forms.
* `Duration.ofDateTime?` puts both together.
-/

namespace TieredTerms

/-- A piece of a date or time form. -/
inductive FormPart where
  /-- Exactly so many digits. -/
  | digits (count : Nat)
  /-- One given character. -/
  | mark (c : Char)

/-- The numbers of a text in the given form, and what follows the form. -/
def readForm? : List FormPart → List Char → Option (List Nat × List Char)
  | [], cs => some ([], cs)
  | .mark m :: parts, c :: cs => if c = m then readForm? parts cs else none
  | .mark _ :: _, [] => none
  | .digits n :: parts, cs =>
    let digits := cs.take n
    if digits.length = n ∧ digits.all isAsciiDigit then
      (readForm? parts (cs.drop n)).map fun (numbers, rest) => (digitsValue digits :: numbers, rest)
    else none

/-- The numbers of a text that is in the given form and holds no more. -/
def wholeForm? (parts : List FormPart) (cs : List Char) : Option (List Nat) :=
  match readForm? parts cs with
  | some (numbers, []) => some numbers
  | _ => none

/-! ## Dates -/

namespace DateForm

/-- A month, where none stands for the first. -/
def monthOr (month : Nat) : Nat :=
  if month = 0 then 1 else month

/-- A form of dates with the meaning of its numbers. -/
structure Reading where
  parts : List FormPart
  date? : List Nat → Option CalendarDate

/-- The meaning of a year, a month and a day. -/
def yearMonthDay? : List Nat → Option CalendarDate
  | [year, month, day] => CalendarDate.ofParts? year (monthOr month) day
  | [year, month] => CalendarDate.ofParts? year (monthOr month) 1
  | [year] => CalendarDate.ofParts? year 1 1
  | _ => none

/-- The meaning of a year, a week and a day of the week; the first day where none is given. -/
def yearWeekDay? : List Nat → Option CalendarDate
  | [year, week, day] => CalendarDate.ofWeekDay? year week day
  | [year, week] => CalendarDate.ofWeekDay? year week 1
  | _ => none

/-- The meaning of a year and a day of the year. -/
def yearDay? : List Nat → Option CalendarDate
  | [year, day] => CalendarDate.ofYearDay? year day
  | _ => none

/-- The meaning of a century: its first day. -/
def century? : List Nat → Option CalendarDate
  | [century] => CalendarDate.ofParts? (century * 100 + 1) 1 1
  | _ => none

/-- The forms of dates, in the order in which they are tried. -/
def readings : List Reading :=
  let year := FormPart.digits 4
  let two := FormPart.digits 2
  let three := FormPart.digits 3
  let dash := FormPart.mark '-'
  let week := FormPart.mark 'W'
  let day := FormPart.digits 1
  [ ⟨[year, dash, two, dash, two], yearMonthDay?⟩,
    ⟨[year, two, two], yearMonthDay?⟩,
    ⟨[year, dash, week, two, dash, day], yearWeekDay?⟩,
    ⟨[year, week, two, day], yearWeekDay?⟩,
    ⟨[year, dash, three], yearDay?⟩,
    ⟨[year, three], yearDay?⟩,
    ⟨[year, dash, week, two], yearWeekDay?⟩,
    ⟨[year, week, two], yearWeekDay?⟩,
    ⟨[year, dash, two], yearMonthDay?⟩,
    ⟨[year, two], yearMonthDay?⟩,
    ⟨[year], yearMonthDay?⟩,
    ⟨[two], century?⟩ ]

/-- The date that a text stands for: the first form that fits gives the meaning, and it alone. -/
def ofChars? (cs : List Char) : Option CalendarDate :=
  match readings.findSome? fun r => (wholeForm? r.parts cs).map r.date? with
  | some date => date
  | none => none

end DateForm

/-! ## Times of day -/

/-- A time of day. -/
structure TimeOfDay where
  hour : Nat
  minute : Nat
  second : Nat
  micro : Nat

namespace TimeOfDay

/-- The time of day of the given parts, if it exists. -/
def ofParts? (hour minute second micro : Int) : Option TimeOfDay :=
  if 0 ≤ hour ∧ hour < 24 ∧ 0 ≤ minute ∧ minute < 60 ∧ 0 ≤ second ∧ second < 60 ∧
      0 ≤ micro ∧ micro < microsPerSecond then
    some ⟨hour.toNat, minute.toNat, second.toNat, micro.toNat⟩
  else none

/-- The microseconds of a time of day. -/
def micros (t : TimeOfDay) : Nat :=
  ((t.hour * 60 + t.minute) * 60 + t.second) * microsPerSecond + t.micro

end TimeOfDay

namespace TimeForm

/-- Whether a text is a time zone: nothing, `Z`, or a sign with hours and perhaps minutes. -/
def isZone (cs : List Char) : Bool :=
  let two := FormPart.digits 2
  match cs with
  | [] => true
  | ['Z'] => true
  | sign :: cs =>
    (sign == '+' || sign == '-') &&
      ((wholeForm? [two] cs).isSome || (wholeForm? [two, two] cs).isSome ||
        (wholeForm? [two, .mark ':', two] cs).isSome)

/-- The last number of a time: two digits and perhaps a fraction, and what follows. -/
def readLast? (cs : List Char) : Option (Decimal × List Char) := do
  let (numbers, rest) ← readForm? [.digits 2] cs
  let whole := numbers.headD 0
  match rest with
  | mark :: rest' =>
    let fraction := rest'.takeWhile isAsciiDigit
    if (mark == '.' || mark == ',') && !fraction.isEmpty then
      return (⟨false, whole * Nat.pow 10 fraction.length + digitsValue fraction,
        -(fraction.length : Int)⟩, rest'.dropWhile isAsciiDigit)
    else return (Decimal.ofInt whole, rest)
  | [] => return (Decimal.ofInt whole, [])

/-- The fraction of a number, cut to the precision of decimal arithmetic. -/
def fraction (d : Decimal) : Decimal :=
  d - Decimal.ofInt d.truncate

/-- The whole seconds and the microseconds of a number of seconds that has six places. -/
def secondParts (seconds : Decimal) : Int × Int :=
  (seconds.truncate, ((fraction seconds).timesNat microsPerSecond).truncate)

/-- The time of day of an hour, a minute and a number of seconds. -/
def ofSeconds? (hour minute : Nat) (seconds : Decimal) : Option TimeOfDay :=
  let (second, micro) := secondParts seconds.floorToMicro
  TimeOfDay.ofParts? hour minute second micro

/-- The time of day of an hour and a number of minutes. -/
def ofMinutes? (hour : Nat) (minutes : Decimal) : Option TimeOfDay :=
  let (second, micro) := secondParts ((fraction minutes).timesNat 60).floorToMicro
  TimeOfDay.ofParts? hour minutes.truncate second micro

/-- The time of day of a number of hours; microseconds are rounded to the nearest. -/
def ofHours? (hours : Decimal) : Option TimeOfDay :=
  let minutes := (fraction hours).timesNat 60
  let seconds := (fraction minutes).timesNat 60
  let micros := (fraction seconds).timesNat microsPerSecond
  TimeOfDay.ofParts? hours.truncate minutes.truncate seconds.truncate (nearestEven micros.toRat)

/-- A time in a form whose last number may have a fraction, with the meaning of its numbers. -/
def reading? (parts : List FormPart) (time? : List Nat → Decimal → Option TimeOfDay)
    (cs : List Char) : Option (Option TimeOfDay) := do
  let (numbers, rest) ← readForm? parts cs
  let (last, zone) ← readLast? rest
  guard (isZone zone)
  return time? numbers last

/-- The meaning of the numbers before the last one and of the last. -/
def time? : List Nat → Decimal → Option TimeOfDay
  | [hour, minute], seconds => ofSeconds? hour minute seconds
  | [hour], minutes => ofMinutes? hour minutes
  | [], hours => ofHours? hours
  | _, _ => none

/-- The parts before the last number, in the order in which the forms are tried. -/
def forms : List (List FormPart) :=
  let two := FormPart.digits 2
  let colon := FormPart.mark ':'
  [[two, colon, two, colon], [two, two], [two, colon], [two], []]

/-- The time of day that a text stands for: the first form that fits gives the meaning. -/
def ofChars? (cs : List Char) : Option TimeOfDay :=
  match forms.findSome? fun parts => reading? parts time? cs with
  | some time => time
  | none => none

end TimeForm

/-! ## Durations -/

/-- The duration written as a date, `T` and a time of day, after its `P`.  There is exactly one
`T`. -/
def Duration.ofDateTime? (cs : List Char) : Option Duration :=
  match cs.splitOn 'T' with
  | [dateChars, timeChars] => do
    let date ← DateForm.ofChars? dateChars
    let time ← TimeForm.ofChars? timeChars
    let clock ← Clock.ofMicros? (date.day * microsPerDay + time.micros)
    return .calendar (Decimal.ofInt date.year) (Decimal.ofInt date.month) clock
  | _ => none

end TieredTerms
