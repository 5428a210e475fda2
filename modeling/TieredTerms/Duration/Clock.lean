import TieredTerms.Number.Binary64

/-!
# Clock durations

A clock duration is a whole number of microseconds, less than a billion days in either direction.

* `Clock.ofMicros?` builds one from microseconds, `Clock.ofParts` from an amount of each unit.
* `ClockParts.total` is the rule for amounts that are doubles: the whole part of every amount is
  counted exactly, the fractions are gathered in a double, and the sum of both is rounded to the
  nearest microsecond once.
* `Clock.days`, `Clock.secondsOfDay` and `Clock.microsOfSecond` are the parts of the result, and
  `Clock.seconds` is the whole of it as a double.
-/

namespace TieredTerms

/-- The microseconds of a second. -/
def microsPerSecond : Nat := 1000000

/-- The microseconds of a day. -/
def microsPerDay : Nat := 86400 * microsPerSecond

/-- The number of days that no clock duration reaches. -/
def clockDayBound : Nat := 1000000000

/-- A whole number of microseconds within the range of clock durations. -/
structure Clock where
  micros : Int
  lower : (1 - clockDayBound : Int) * microsPerDay ≤ micros
  upper : micros < (clockDayBound : Int) * microsPerDay
  deriving DecidableEq

namespace Clock

/-- The empty duration. -/
def zero : Clock :=
  ⟨0, by decide, by decide⟩

instance : Inhabited Clock := ⟨zero⟩

/-- The clock duration of that many microseconds, if it is in range. -/
def ofMicros? (micros : Int) : Option Clock :=
  if h : (1 - clockDayBound : Int) * microsPerDay ≤ micros ∧
      micros < (clockDayBound : Int) * microsPerDay then
    some ⟨micros, h.1, h.2⟩
  else none

/-- The whole days, toward the past. -/
def days (c : Clock) : Int :=
  c.micros / microsPerDay

/-- The whole seconds of the last day. -/
def secondsOfDay (c : Clock) : Int :=
  c.micros % microsPerDay / microsPerSecond

/-- The microseconds of the last second. -/
def microsOfSecond (c : Clock) : Int :=
  c.micros % microsPerSecond

/-- The duration in seconds, rounded to a double. -/
def seconds (c : Clock) : Binary64 :=
  Binary64.ofRat (mkRat c.micros microsPerSecond)

/-- The same duration in the other direction, if it is in range. -/
def neg? (c : Clock) : Option Clock :=
  ofMicros? (-c.micros)

theorem ofMicros?_eq_some {n : Int} {c : Clock} : ofMicros? n = some c ↔ c.micros = n := by
  unfold ofMicros?
  split
  · constructor
    · rintro h
      cases h
      rfl
    · rintro rfl
      rfl
  · rename_i h
    constructor
    · intro h'
      cases h'
    · rintro rfl
      exact absurd ⟨c.lower, c.upper⟩ h

@[simp] theorem ofMicros?_micros (c : Clock) : ofMicros? c.micros = some c :=
  ofMicros?_eq_some.mpr rfl

end Clock

/-! ## Amounts of the units -/

/-- An amount of a unit: a whole number or a double. -/
inductive Amount where
  | whole (n : Int)
  | real (x : Binary64)

/-- Why amounts make no clock duration. -/
inductive ClockFault where
  | notFinite (reason : NotFinite)
  | outOfRange (days : Int)

/-- Microseconds while they are summed: the whole ones, and the double that gathers fractions. -/
structure MicroSum where
  whole : Int
  leftover : Binary64

namespace MicroSum

/-- The empty sum. -/
def zero : MicroSum :=
  ⟨0, Binary64.zero false⟩

/-- The sum with an amount of a unit of `unit` microseconds.  The fraction of a double is scaled
as a double; what remains of it below a microsecond goes into the leftover. -/
def add (sum : MicroSum) (unit : Nat) : Amount → Except NotFinite MicroSum
  | .whole n => .ok { sum with whole := sum.whole + n * unit }
  | .real x => do
    let value ← x.finite?
    let whole := Binary64.integerPart value
    let fraction := value - whole
    if fraction = 0 then
      return { sum with whole := sum.whole + whole * unit }
    let scaled := (Binary64.ofRat (unit * fraction)).toRat?.getD 0
    let micros := Binary64.integerPart scaled
    return { whole := sum.whole + whole * unit + micros
             leftover := sum.leftover + Binary64.ofRat (scaled - micros) }

/-- The sum rounded to whole microseconds, a tie going to the even one. -/
def round (sum : MicroSum) : Int :=
  nearestEven (sum.whole + sum.leftover.toRat?.getD 0)

end MicroSum

/-- An amount of each unit of the clock. -/
structure ClockParts where
  microseconds : Amount := .whole 0
  milliseconds : Amount := .whole 0
  seconds : Amount := .whole 0
  minutes : Amount := .whole 0
  hours : Amount := .whole 0
  days : Amount := .whole 0
  weeks : Amount := .whole 0

/-- The microseconds of all parts, summed from the smallest unit to the largest. -/
def ClockParts.total (p : ClockParts) : Except NotFinite Int := do
  let units : List (Nat × Amount) :=
    [(1, p.microseconds), (1000, p.milliseconds), (microsPerSecond, p.seconds),
     (60 * microsPerSecond, p.minutes), (3600 * microsPerSecond, p.hours),
     (microsPerDay, p.days), (7 * microsPerDay, p.weeks)]
  let sum ← units.foldlM (fun sum (unit, amount) => sum.add unit amount) MicroSum.zero
  return sum.round

/-- The clock duration of an amount of each unit. -/
def Clock.ofParts (p : ClockParts) : Except ClockFault Clock :=
  match p.total with
  | .error reason => .error (.notFinite reason)
  | .ok micros =>
    match Clock.ofMicros? micros with
    | some c => .ok c
    | none => .error (.outOfRange (micros / microsPerDay))

end TieredTerms
