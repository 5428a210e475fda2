import TieredTerms.Number.Decimal
import TieredTerms.Duration.Clock

/-!
# Durations

A duration keeps the calendar units it was given: a clock duration counts microseconds, a calendar
duration counts years and months apart from them.

Durations of both forms are compared through one projection, `Duration.seconds`, where a year
counts as 365 days and a month as 30 days.  `Duration.milliseconds` is the projection for
equality.
-/

namespace TieredTerms

/-- A duration of clock units, or one with years and months besides. -/
inductive Duration where
  | clock (time : Clock)
  | calendar (years months : Decimal) (time : Clock)
  deriving DecidableEq, Inhabited

namespace Duration

/-- The days that a year counts as. -/
def daysPerYear : Int := 365

/-- The days that a month counts as. -/
def daysPerMonth : Int := 30

/-- The seconds of a day. -/
def secondsPerDay : Int := 86400

/-- The part in clock units. -/
def time : Duration → Clock
  | .clock time => time
  | .calendar _ _ time => time

/-- The projection onto seconds, by which durations are ordered. -/
def seconds : Duration → Binary64
  | .clock time => time.seconds
  | .calendar years months time =>
    let days := years.toBinary64 * Binary64.ofInt daysPerYear +
      months.toBinary64 * Binary64.ofInt daysPerMonth
    days * Binary64.ofInt secondsPerDay + time.seconds

/-- The projection onto whole milliseconds, by which durations are equal. -/
def milliseconds (d : Duration) : Except NotFinite Int :=
  (nearestEven ·) <$> (d.seconds * Binary64.ofInt 1000).finite?

/-- Whether the projection is below zero. -/
def isNegative (d : Duration) : Bool :=
  d.seconds.lt (Binary64.zero false)

/-- Whether the projection is zero. -/
def isZero (d : Duration) : Bool :=
  d.seconds.same (Binary64.zero false)

/-- Whether the projection of the first is below that of the second. -/
def below (a b : Duration) : Bool :=
  a.seconds.lt b.seconds

/-- The duration in the other direction, if it is in range.  Years and months are taken from
zero, so they are cut to the precision of decimal arithmetic. -/
def neg? : Duration → Option Duration
  | .clock time => .clock <$> time.neg?
  | .calendar years months time =>
    let zero := Decimal.ofInt 0
    .calendar (zero - years) (zero - months) <$> time.neg?

end Duration

end TieredTerms
