import TieredTerms.Duration.DateTime

/-!
# Reading durations

A text is a duration in the designator form, or else `P` and a date with a time of day.
`Duration.parse?` reads both.

A sign is applied by a subtraction from zero, which fails for years and months that are too large
for decimal arithmetic; `Duration.read` tells this fault from a text that is no duration.
-/

namespace TieredTerms.Duration

/-- The duration that the characters stand for.  Where they are in the designator form, that form
decides alone; the date form is for the others. -/
def ofChars? (cs : List Char) : Option Duration :=
  match Designators.ofChars? cs with
  | some designators => designators.toDuration?
  | none =>
    match cs with
    | 'P' :: cs => ofDateTime? cs
    | _ => none

/-- The duration that a text stands for. -/
def parse? (text : String) : Option Duration :=
  ofChars? text.toList

/-- Why a text gives no duration. -/
inductive ReadFault where
  | form
  | tooLarge
  deriving DecidableEq

/-- Whether years or months are the result of a subtraction that was too large for it. -/
def isBeyondArithmetic : Duration → Bool
  | .clock _ => false
  | .calendar years months _ =>
    (years.negative && !years.isInRange) || (months.negative && !months.isInRange)

/-- Whether years or months of a text are too large to be subtracted from zero.  They are subtracted
before the clock units are. -/
def overflows (text : String) : Bool :=
  (Designators.ofChars? text.toList).any fun designators =>
    designators.negative && designators.clock?.isSome &&
      isBeyondArithmetic (.calendar (Decimal.ofInt 0 - designators.years)
        (Decimal.ofInt 0 - designators.months) Clock.zero)

/-- The duration that a text stands for, or the reason why there is none. -/
def read (text : String) : Except ReadFault Duration :=
  match parse? text with
  | none => if overflows text then .error .tooLarge else .error .form
  | some d => if d.isBeyondArithmetic then .error .tooLarge else .ok d

theorem read_eq_ok {text : String} {d : Duration} :
    read text = .ok d ↔ parse? text = some d ∧ d.isBeyondArithmetic = false := by
  unfold read
  split
  · next h => split <;> simp [h]
  · next e h =>
    rw [h, Option.some.injEq]
    split
    · next hbeyond =>
      constructor
      · nofun
      · rintro ⟨rfl, hwithin⟩
        cases hbeyond.symm.trans hwithin
    · next hwithin =>
      rw [Except.ok.injEq]
      exact ⟨fun hd => ⟨hd, by rw [← hd]; exact eq_false_of_ne_true hwithin⟩, And.left⟩

end TieredTerms.Duration
