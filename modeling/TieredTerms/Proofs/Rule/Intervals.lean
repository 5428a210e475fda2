import TieredTerms.Rule.Match
import TieredTerms.Proofs.Number.Order
import TieredTerms.Proofs.Rule.Building

/-!
# Rules as intervals

A rule holds for the targets between its bounds.  Construction checks the order of the bounds and
matching compares a target with each of them; that both go by one order is what makes every rule
hold for its own bounds and for all that lies between two targets it holds for.

* `Target.AtMost` and `Target.Below` are the order: integers as such, durations by their projection.
* `Interval.holds_iff` is membership by the order, `Interval.lower_atMost_upper` the order of the
  bounds.
* `Rule.holdsFor_interval` says what follows for the values that a rule is asked about.
-/

namespace TieredTerms

/-! ## The order of targets -/

namespace Target

variable {a b c : Target}

/-- A target is at most another of its kind. -/
def AtMost : Target → Target → Prop
  | .category m, .category n => m ≤ n
  | .duration d, .duration e => d.seconds.le e.seconds = true
  | _, _ => False

/-- A target is below another of its kind. -/
def Below : Target → Target → Prop
  | .category m, .category n => m < n
  | .duration d, .duration e => d.below e = true
  | _, _ => False

instance : (a b : Target) → Decidable (a.AtMost b)
  | .category m, .category n => inferInstanceAs (Decidable (m ≤ n))
  | .duration d, .duration e => inferInstanceAs (Decidable (d.seconds.le e.seconds = true))
  | .category _, .duration _ | .duration _, .category _ => inferInstanceAs (Decidable False)

instance : (a b : Target) → Decidable (a.Below b)
  | .category m, .category n => inferInstanceAs (Decidable (m < n))
  | .duration d, .duration e => inferInstanceAs (Decidable (d.below e = true))
  | .category _, .duration _ | .duration _, .category _ => inferInstanceAs (Decidable False)

theorem AtMost.kind_eq (h : a.AtMost b) : a.kind = b.kind := by
  cases a <;> cases b
  · rfl
  · exact h.elim
  · exact h.elim
  · rfl

theorem AtMost.trans (hab : a.AtMost b) (hbc : b.AtMost c) : a.AtMost c := by
  cases a <;> cases b <;> cases c <;> try contradiction
  · exact Int.le_trans hab hbc
  · exact Binary64.le_trans hab hbc

theorem AtMost.trans_below (hab : a.AtMost b) (hbc : b.Below c) : a.Below c := by
  cases a <;> cases b <;> cases c <;> try contradiction
  · exact Int.lt_of_le_of_lt hab hbc
  · exact Binary64.lt_of_le_of_lt hab hbc

theorem Below.trans_atMost (hab : a.Below b) (hbc : b.AtMost c) : a.Below c := by
  cases a <;> cases b <;> cases c <;> try contradiction
  · exact Int.lt_of_lt_of_le hab hbc
  · exact Binary64.lt_of_lt_of_le hab hbc

theorem AtMost.not_below (h : a.AtMost b) : ¬b.Below a := by
  cases a <;> cases b <;> try contradiction
  · exact Int.not_lt.mpr h
  · intro hbelow
    rw [Below, Duration.below, Binary64.lt_eq_false_of_le h] at hbelow
    cases hbelow

theorem Below.atMost (h : a.Below b) : a.AtMost b := by
  cases a <;> cases b <;> try contradiction
  · exact Int.le_of_lt h
  · exact Binary64.le_of_lt h

/-- The projection of a duration is a number or an infinity. -/
def HasProjection : Target → Prop
  | .category _ => True
  | .duration d => d.HasProjection

theorem AtMost.hasProjection (h : a.AtMost b) : a.HasProjection ∧ b.HasProjection := by
  cases a <;> cases b <;> try contradiction
  · exact ⟨trivial, trivial⟩
  · exact Binary64.ne_nan_of_le h

theorem atMost_refl (h : a.HasProjection) : a.AtMost a := by
  cases a with
  | category n => exact Int.le_refl n
  | duration d => exact Binary64.le_refl h

/-- Of two targets with projections, one is at most the other where the other is not below it. -/
theorem atMost_of_not_below (hkind : a.kind = b.kind) (ha : a.HasProjection) (hb : b.HasProjection)
    (h : ¬b.Below a) : a.AtMost b := by
  cases a <;> cases b <;> try contradiction
  · exact Int.not_lt.mp h
  · exact Binary64.le_of_lt_eq_false ha hb (Bool.eq_false_of_not_eq_true h)

end Target

/-! ## Membership -/

namespace Interval

/-- The lower bound as a target. -/
def lower : Interval → Target
  | .category lower .. => .category lower
  | .duration lower .. => .duration lower

/-- The upper bound as a target. -/
def upper : Interval → Target
  | .category _ upper .. => .category upper
  | .duration _ upper .. => .duration upper

@[simp] theorem kind_lower (i : Interval) : i.lower.kind = i.kind := by
  cases i <;> rfl

@[simp] theorem kind_upper (i : Interval) : i.upper.kind = i.kind := by
  cases i <;> rfl

theorem HasProjections.lower {i : Interval} (h : i.HasProjections) : i.lower.HasProjection := by
  cases i with
  | category => trivial
  | duration => exact h.1

theorem HasProjections.upper {i : Interval} (h : i.HasProjections) : i.upper.HasProjection := by
  cases i with
  | category => trivial
  | duration => exact h.2

/-- An interval holds only targets of its kind. -/
theorem kind_of_holds {i : Interval} {t : Target} (h : i.holds t = true) : t.kind = i.kind := by
  cases i <;> cases t <;> first | rfl | cases h

/-- A target is in an interval of its kind where it is not below the lower bound and, if there is an
upper one, at most that. -/
theorem holds_iff {i : Interval} {t : Target} (hkind : t.kind = i.kind) :
    i.holds t = true ↔ ¬t.Below i.lower ∧ (i.isUnbounded = true ∨ t.AtMost i.upper) := by
  cases i <;> cases t <;> try contradiction
  · simp [holds, isUnbounded, lower, upper, Target.Below, Target.AtMost]
  · simp [holds, isUnbounded, lower, upper, Target.Below, Target.AtMost]

/-- What construction checks is the order by which targets are compared. -/
theorem lower_atMost_upper {i : Interval} (h : i.HasProjections)
    (hbounded : i.isUnbounded = false) : i.lower.AtMost i.upper := by
  cases i with
  | category l u lower_pos ordered =>
    have hne : u ≠ 0 := by simpa [isUnbounded] using hbounded
    exact Int.ofNat_le.mpr (ordered.resolve_left hne)
  | duration l u lower_valid upper_valid ordered =>
    have hne : ¬u.isZero = true := by simpa [isUnbounded] using hbounded
    exact Binary64.le_of_lt_eq_false h.1 h.2 (ordered.resolve_left hne)

/-- An interval holds its lower bound. -/
theorem holds_lower {i : Interval} (h : i.HasProjections) : i.holds i.lower = true := by
  refine (holds_iff i.kind_lower).mpr ⟨(Target.atMost_refl h.lower).not_below, ?_⟩
  cases hbounded : i.isUnbounded with
  | true => exact .inl rfl
  | false => exact .inr (lower_atMost_upper h hbounded)

/-- An interval holds its upper bound, if it has one. -/
theorem holds_upper {i : Interval} (h : i.HasProjections) (hbounded : i.isUnbounded = false) :
    i.holds i.upper = true :=
  (holds_iff i.kind_upper).mpr
    ⟨(lower_atMost_upper h hbounded).not_below, .inr (Target.atMost_refl h.upper)⟩

/-- An interval holds what lies between two targets that it holds. -/
theorem holds_between {i : Interval} {a b c : Target} (hkind : a.kind = i.kind)
    (hab : a.AtMost b) (hbc : b.AtMost c) (ha : i.holds a = true) (hc : i.holds c = true) :
    i.holds b = true := by
  have hb : b.kind = i.kind := hab.kind_eq ▸ hkind
  have hlower := ((holds_iff hkind).mp ha).1
  have hupper := ((holds_iff (hbc.kind_eq ▸ hb)).mp hc).2
  refine (holds_iff hb).mpr ⟨fun hbelow => hlower (hab.trans_below hbelow), ?_⟩
  exact hupper.imp_right hbc.trans

/-- Where nothing of its kind is above the upper bound, or there is none, an interval holds all that
is at least its lower bound. -/
theorem holds_from_lower {i : Interval} {t : Target} (h : i.HasProjections)
    (hlower : i.lower.AtMost t) (hupper : i.isUnbounded = true ∨ ¬i.upper.Below t) :
    i.holds t = true := by
  have hkind : t.kind = i.kind := by rw [← hlower.kind_eq, kind_lower]
  refine (holds_iff hkind).mpr ⟨hlower.not_below, hupper.imp_right fun habove => ?_⟩
  exact Target.atMost_of_not_below (by rw [hkind, kind_upper]) hlower.hasProjection.2 h.upper habove

end Interval

/-! ## Rules -/

namespace Rule

/-- A rule answers for the target that a value stands for. -/
theorem holdsFor_of_target [StandIns] {r : Rule} {v : Value} {t : Target}
    (h : target r.kind v = .ok t) : r.holdsFor v = .ok (r.interval.holds t) := by
  rw [holdsFor, h]
  rfl

/-- What a value stands for is of the kind of the rule. -/
theorem kind_of_target [StandIns] {kind : Kind} {v : Value} {t : Target}
    (h : target kind v = .ok t) : t.kind = kind := by
  cases kind with
  | category =>
    rw [target] at h
    split at h
    · cases h
      rfl
    · obtain ⟨given, -, h⟩ := bind_eq_ok.mp h
      cases h
  | duration =>
    rw [target] at h
    split at h
    · obtain ⟨d, -, h⟩ := bind_eq_ok.mp h
      cases h
      rfl
    · cases h
      rfl
    · obtain ⟨given, -, h⟩ := bind_eq_ok.mp h
      cases h

/-- The bounds of a rule are values of its kind, which stand for themselves. -/
theorem target_lowerValue [StandIns] (r : Rule) :
    target r.kind r.lowerValue = .ok r.interval.lower := by
  rw [Rule.kind, lowerValue]
  cases r.interval <;> rfl

theorem target_upperValue [StandIns] (r : Rule) :
    target r.kind r.upperValue = .ok r.interval.upper := by
  rw [Rule.kind, upperValue]
  cases r.interval <;> rfl

/-- A text stands for the duration that is read from it. -/
theorem target_text [StandIns] {s : String} {d : Duration} (h : Duration.read s = .ok d) :
    target .duration (.text s) = .ok (.duration d) := by
  simp [target, Value.asText?, parseDuration, h]

/-- No rule is dead and every rule is an interval, whatever its bounds, if their projections are
numbers or infinities: it holds for its lower bound, for its upper bound if it has one, for what
lies between two values that it holds for and for nothing below its lower bound.  It holds for
everything from its lower bound on just where it has no upper bound or nothing is above it. -/
theorem holdsFor_interval [StandIns] (r : Rule) (h : r.interval.HasProjections) :
    r.holdsFor r.lowerValue = .ok true ∧
      (r.isUnbounded = false → r.holdsFor r.upperValue = .ok true) ∧
      (∀ u v w a b c, target r.kind u = .ok a → target r.kind v = .ok b → target r.kind w = .ok c →
        a.AtMost b → b.AtMost c → r.holdsFor u = .ok true → r.holdsFor w = .ok true →
        r.holdsFor v = .ok true) ∧
      (∀ v t, target r.kind v = .ok t → t.Below r.interval.lower → r.holdsFor v = .ok false) ∧
      ((∀ v t, target r.kind v = .ok t → r.interval.lower.AtMost t → r.holdsFor v = .ok true) ↔
        r.isUnbounded = true ∨ ¬∃ v t, target r.kind v = .ok t ∧ r.interval.upper.Below t) := by
  have hanswer {v : Value} {t : Target} (ht : target r.kind v = .ok t) (answer : Bool) :
      r.holdsFor v = .ok answer ↔ r.interval.holds t = answer := by
    rw [holdsFor_of_target ht, Except.ok.injEq]
  refine ⟨?_, ?_, ?_, ?_, ?_, ?_⟩
  · exact (hanswer r.target_lowerValue true).mpr (Interval.holds_lower h)
  · intro hbounded
    exact (hanswer r.target_upperValue true).mpr (Interval.holds_upper h hbounded)
  · intro u v w a b c hu hv hw hab hbc hfirst hlast
    rw [hanswer hu] at hfirst
    rw [hanswer hw] at hlast
    exact (hanswer hv true).mpr (Interval.holds_between (kind_of_target hu) hab hbc hfirst hlast)
  · intro v t ht hbelow
    rw [hanswer ht, Bool.eq_false_iff]
    exact fun hholds => ((Interval.holds_iff (kind_of_target ht)).mp hholds).1 hbelow
  · intro hall
    cases hbounded : r.isUnbounded with
    | true => exact .inl rfl
    | false =>
      refine .inr fun ⟨v, t, ht, habove⟩ => ?_
      have hordered := Interval.lower_atMost_upper h hbounded
      have hholds := (hanswer ht true).mp (hall v t ht (hordered.trans habove.atMost))
      have hupper := ((Interval.holds_iff (kind_of_target ht)).mp hholds).2
      exact (hupper.resolve_left (by rw [← Rule.isUnbounded, hbounded]; simp)).not_below habove
  · intro hopen v t ht hlower
    refine (hanswer ht true).mpr (Interval.holds_from_lower h hlower ?_)
    exact hopen.imp_right fun hnone habove => hnone ⟨v, t, ht, habove⟩

/-- One day. -/
def oneDay : Clock :=
  ⟨1 * microsPerDay, by decide, by decide⟩

theorem isNegative_oneDay : (Duration.clock oneDay).isNegative = false := by
  decide +kernel

/-- A day to a year gives a day. -/
def dayToYear : Rule where
  interval := .duration (.clock oneDay)
    (.calendar (Decimal.ofInt 1) (Decimal.ofInt 0) Clock.zero) isNegative_oneDay
    (by decide +kernel) (by decide +kernel)
  result := .clock oneDay
  id := none
  result_valid := isNegative_oneDay

/-- A rule from a day to a year holds for both of them and for the month between them, but not for
half a day, and not for everything from a day on. -/
theorem holdsFor_interval_dayToYear :
    dayToYear.interval.HasProjections ∧ dayToYear.isUnbounded = false ∧
      dayToYear.holdsFor dayToYear.lowerValue = .ok true ∧
      dayToYear.holdsFor dayToYear.upperValue = .ok true ∧
      dayToYear.holdsFor (.text "P1M") = .ok true ∧
      dayToYear.holdsFor (.text "PT12H") = .ok false ∧
      ∃ v t, target .duration v = .ok t ∧ dayToYear.interval.lower.AtMost t ∧
        dayToYear.holdsFor v ≠ .ok true := by
  have hprojections : dayToYear.interval.HasProjections :=
    ⟨Duration.hasProjection_clock _, Duration.hasProjection_of_side false (.inl rfl) (.inl rfl) _⟩
  have hbounded : dayToYear.isUnbounded = false := by decide +kernel
  obtain ⟨hlower, hupper, hbetween, hbelow, hall⟩ := holdsFor_interval dayToYear hprojections
  have hmonth := target_text (s := "P1M") (d := .calendar (Decimal.ofInt 0) (Decimal.ofInt 1)
    Clock.zero) (by decide +kernel)
  have hhalf := target_text (s := "PT12H") (d := .clock ⟨43200000000, by decide, by decide⟩)
    (by decide +kernel)
  have hyears := target_text (s := "P2Y") (d := .calendar (Decimal.ofInt 2) (Decimal.ofInt 0)
    Clock.zero) (by decide +kernel)
  have habove : dayToYear.interval.upper.Below
      (.duration (.calendar (Decimal.ofInt 2) (Decimal.ofInt 0) Clock.zero)) := by
    decide +kernel
  refine ⟨hprojections, hbounded, hlower, hupper hbounded, ?_, hbelow _ _ hhalf ?_, ?_⟩
  · refine hbetween _ _ _ _ _ _ dayToYear.target_lowerValue hmonth dayToYear.target_upperValue ?_ ?_
      hlower (hupper hbounded)
    · decide +kernel
    · decide +kernel
  · decide +kernel
  · by_contra hnone
    push Not at hnone
    rcases hall.mp hnone with hopen | hnothing
    · rw [hbounded] at hopen
      cases hopen
    · exact hnothing ⟨_, _, hyears, habove⟩

end Rule

end TieredTerms
