import TieredTerms.Proofs.Rule.Intervals

/-!
# Equal rules in look-ups

Rules of durations are equal where their bounds have the same whole milliseconds, but a rule is
matched by the projections of its bounds as they are.  So equal rules give the same answers where
rounding to milliseconds tells their bounds apart, and may differ for values within the same
milliseconds as a bound.

* `Interval.SameBounds` says that no comparison tells the bounds of two intervals apart,
  `Interval.IsMillis` that the bounds are whole milliseconds of moderate size.
* `Rule.Interchangeable` are rules with the same answers, `Rule.interchangeable_iff` tells when they
  are.
* `Rule.interchangeable_of_equal` is what equality says of look-ups.
-/

namespace TieredTerms

/-! ## Milliseconds -/

/-- A rounded thousandth, taken a thousand times, is less than a quarter away from the number. -/
theorem Binary64.abs_rounded_thousandth_sub_le {q : Rat} (hq : |q| < 2 ^ 51) :
    |rounded (q / 1000) * 1000 - q| ≤ 1000 / 4096 := by
  have hquotient : |q / 1000| < 2 ^ (42 : Int) := by
    rw [abs_div, div_lt_iff₀ (by norm_num)]
    norm_num at hq ⊢
    linarith
  calc |rounded (q / 1000) * 1000 - q|
      = |rounded (q / 1000) - q / 1000| * 1000 := by
        rw [show rounded (q / 1000) * 1000 - q = (rounded (q / 1000) - q / 1000) * 1000 by ring,
          abs_mul, abs_of_pos (by norm_num : (0 : Rat) < 1000)]
    _ ≤ 2 ^ ((42 : Int) - 54) * 1000 := by
        gcongr
        exact abs_rounded_sub_le hquotient (by norm_num)
    _ = 1000 / 4096 := by norm_num

namespace Duration

variable {a b c : Duration}

/-- A duration between two others of the same milliseconds has them, too. -/
theorem milliseconds_between {n : Int} (ha : a.milliseconds = .ok n) (hc : c.milliseconds = .ok n)
    (hab : a.seconds.le b.seconds = true) (hbc : b.seconds.le c.seconds = true) :
    b.milliseconds = .ok n := by
  obtain ⟨s, p, hs, hp, hlow⟩ := milliseconds_eq_ok.mp ha
  obtain ⟨u, r, hu, hr, hhigh⟩ := milliseconds_eq_ok.mp hc
  obtain ⟨t, ht, hst, htu⟩ := Binary64.toRat?_between hs hu hab hbc
  obtain ⟨hq, hpq, hqr⟩ := Binary64.toRat?_ofRat_between
    (mul_le_mul_of_nonneg_right hst (by norm_num)) (mul_le_mul_of_nonneg_right htu (by norm_num))
    hp hr
  refine milliseconds_eq_ok.mpr ⟨t, _, ht, hq, le_antisymm ?_ ?_⟩
  · exact (nearestEven_mono hqr).trans_eq hhigh
  · exact hlow.symm.trans_le (nearestEven_mono hpq)

/-- The projection is that of a whole number of milliseconds, less than `2 ^ 51` of them. -/
def IsMillis (d : Duration) : Prop :=
  ∃ n : Int, |n| < 2 ^ 51 ∧ d.seconds.toRat? = some (Binary64.rounded (n / 1000))

/-- A clock duration of whole milliseconds. -/
theorem isMillis_clock {time : Clock} {n : Int} (htime : time.micros = 1000 * n)
    (hn : |n| < 2 ^ 51) : (clock time).IsMillis := by
  refine ⟨n, hn, ?_⟩
  have hvalue : (time.micros : Rat) / 1000000 = n / 1000 := by
    rw [htime]
    push_cast
    ring
  rw [← hvalue]
  exact time.seconds_facts.1

/-- Whole milliseconds of moderate size come through both roundings. -/
theorem milliseconds_of_whole {d : Duration} {n : Int} (hn : |n| < 2 ^ 51)
    (h : d.seconds.toRat? = some (Binary64.rounded (n / 1000))) : d.milliseconds = .ok n := by
  have hbound : |(n : Rat)| < 2 ^ 51 := by exact_mod_cast hn
  have hseconds := Binary64.abs_rounded_thousandth_sub_le hbound
  generalize Binary64.rounded ((n : Rat) / 1000) = s at h hseconds
  have hproduct : |s * 1000| < 2 ^ (52 : Int) := by
    have htriangle := abs_sub_abs_le_abs_sub (s * 1000) n
    rw [show (2 : Rat) ^ (52 : Int) = 2 * 2 ^ 51 by norm_num]
    linarith
  have hround := Binary64.abs_rounded_sub_le hproduct (by norm_num)
  refine milliseconds_eq_ok.mpr
    ⟨s, _, h, Binary64.toRat?_ofRat hproduct (by norm_num), nearestEven_eq_of_abs_sub_lt ?_⟩
  calc |Binary64.rounded (s * 1000) - n|
      ≤ |Binary64.rounded (s * 1000) - s * 1000| + |s * 1000 - n| := abs_sub_le _ _ _
    _ ≤ 2 ^ ((52 : Int) - 54) + 1000 / 4096 := add_le_add hround hseconds
    _ < 1 / 2 := by norm_num

end Duration

/-! ## Bounds that no comparison tells apart -/

namespace Target

variable {a b c : Target}

/-- The number by which equality compares a bound. -/
def key : Target → Except NotFinite Int
  | .category n => .ok n
  | .duration d => d.milliseconds

/-- Each of two targets is at most the other. -/
def Same (a b : Target) : Prop :=
  a.AtMost b ∧ b.AtMost a

theorem Same.symm (h : a.Same b) : b.Same a :=
  ⟨h.2, h.1⟩

/-- Whole milliseconds tell projections apart. -/
theorem same_of_isMillis {d e : Duration} {n : Int} (hd : d.IsMillis) (he : e.IsMillis)
    (hdn : d.milliseconds = .ok n) (hen : e.milliseconds = .ok n) :
    Same (.duration d) (.duration e) := by
  obtain ⟨i, hi, hdi⟩ := hd
  obtain ⟨j, hj, hej⟩ := he
  have hin : i = n := Except.ok.inj ((Duration.milliseconds_of_whole hi hdi).symm.trans hdn)
  have hjn : j = n := Except.ok.inj ((Duration.milliseconds_of_whole hj hej).symm.trans hen)
  subst hin hjn
  exact ⟨(Binary64.le_iff hdi hej).mpr le_rfl, (Binary64.le_iff hej hdi).mpr le_rfl⟩

/-- A target that is between two of the same key has this key. -/
theorem key_between {n : Int} (ha : a.key = .ok n) (hc : c.key = .ok n) (hab : a.AtMost b)
    (hbc : b.AtMost c) : b.key = .ok n := by
  cases a <;> cases b <;> cases c <;> try contradiction
  · cases ha
    cases hc
    exact congrArg Except.ok (Int.le_antisymm hbc hab)
  · exact Duration.milliseconds_between ha hc hab hbc

/-- What has a key has a projection. -/
theorem hasProjection_of_key {n : Int} (h : a.key = .ok n) : a.HasProjection := by
  cases a with
  | category => trivial
  | duration d =>
    obtain ⟨s, -, hs, -⟩ := Duration.milliseconds_eq_ok.mp h
    intro hnan
    rw [hnan] at hs
    cases hs

end Target

namespace Interval

variable {i j : Interval}

/-- No comparison tells the bounds of two intervals apart. -/
structure SameBounds (i j : Interval) : Prop where
  lower : i.lower.Same j.lower
  upper : i.upper.Same j.upper

theorem SameBounds.symm (h : i.SameBounds j) : j.SameBounds i :=
  ⟨h.lower.symm, h.upper.symm⟩

theorem SameBounds.kind_eq (h : i.SameBounds j) : i.kind = j.kind := by
  rw [← kind_lower, ← kind_lower, h.lower.1.kind_eq]

/-- Both bounds are integers, or whole milliseconds. -/
def IsMillis : Interval → Prop
  | .category .. => True
  | .duration lower upper .. => lower.IsMillis ∧ upper.IsMillis

theorem isMillis_of_category (h : i.kind = .category) : i.IsMillis := by
  cases i with
  | category => trivial
  | duration => cases h

/-- An interval that is open above has a zero upper bound, which no comparison tells from the upper
bound of another one. -/
theorem upper_same_of_isUnbounded (hkind : i.kind = j.kind) (hi : i.isUnbounded = true)
    (hj : j.isUnbounded = true) : i.upper.Same j.upper := by
  cases i <;> cases j <;> try contradiction
  · have hi := beq_iff_eq.mp hi
    have hj := beq_iff_eq.mp hj
    subst hi hj
    exact ⟨le_rfl, le_rfl⟩
  · have hi := (Binary64.same_iff (Binary64.toRat?_zero false)).mp hi
    have hj := (Binary64.same_iff (Binary64.toRat?_zero false)).mp hj
    exact ⟨(Binary64.le_iff hi hj).mpr le_rfl, (Binary64.le_iff hj hi).mpr le_rfl⟩

theorem SameBounds.isUnbounded_imp (h : i.SameBounds j) (hi : i.isUnbounded = true) :
    j.isUnbounded = true := by
  obtain ⟨-, hle, hge⟩ := h
  cases i <;> cases j <;> try contradiction
  · have hi := beq_iff_eq.mp hi
    subst hi
    exact beq_iff_eq.mpr (Int.ofNat_eq_zero.mp (Int.le_antisymm hge (Int.natCast_nonneg _)))
  · have hi := (Binary64.same_iff (Binary64.toRat?_zero false)).mp hi
    obtain ⟨q, hq, hlow, hhigh⟩ := Binary64.toRat?_between hi hi hle hge
    rw [le_antisymm hhigh hlow] at hq
    exact (Binary64.same_iff (Binary64.toRat?_zero false)).mpr hq

theorem SameBounds.isUnbounded_eq (h : i.SameBounds j) : i.isUnbounded = j.isUnbounded :=
  Bool.eq_iff_iff.mpr ⟨h.isUnbounded_imp, h.symm.isUnbounded_imp⟩

/-- An interval holds what one with the same bounds holds. -/
theorem SameBounds.holds_imp (h : i.SameBounds j) {t : Target} (ht : i.holds t = true) :
    j.holds t = true := by
  have hkind := kind_of_holds ht
  obtain ⟨hlower, hupper⟩ := (holds_iff hkind).mp ht
  refine (holds_iff (hkind.trans h.kind_eq)).mpr ⟨fun hbelow => hlower ?_, ?_⟩
  · exact hbelow.trans_atMost h.lower.2
  · exact hupper.imp h.isUnbounded_imp fun hle => hle.trans h.upper.1

theorem SameBounds.holds_eq (h : i.SameBounds j) (t : Target) : i.holds t = j.holds t :=
  Bool.eq_iff_iff.mpr ⟨h.holds_imp, h.symm.holds_imp⟩

theorem lower_atMost_of_holds (hi : i.HasProjections) {t : Target} (ht : t.HasProjection)
    (h : i.holds t = true) : i.lower.AtMost t := by
  have hkind := kind_of_holds h
  exact Target.atMost_of_not_below (by rw [kind_lower, hkind]) hi.lower ht
    ((holds_iff hkind).mp h).1

theorem atMost_upper_of_holds (hbounded : i.isUnbounded = false) {t : Target}
    (h : i.holds t = true) : t.AtMost i.upper :=
  ((holds_iff (kind_of_holds h)).mp h).2.resolve_left (by rw [hbounded]; simp)

/-- Intervals that hold the same targets have the same bounds, if both are open above or neither
is. -/
theorem sameBounds_of_holds (hkind : i.kind = j.kind) (hi : i.HasProjections)
    (hj : j.HasProjections) (hopen : i.isUnbounded = j.isUnbounded)
    (h : ∀ t : Target, t.kind = i.kind → i.holds t = j.holds t) : i.SameBounds j := by
  have hkind' : ∀ t : Target, t.kind = j.kind → j.holds t = i.holds t :=
    fun t ht => (h t (ht.trans hkind.symm)).symm
  constructor
  · constructor
    · exact lower_atMost_of_holds hi hj.lower ((hkind' _ j.kind_lower).symm.trans (holds_lower hj))
    · exact lower_atMost_of_holds hj hi.lower ((h _ i.kind_lower).symm.trans (holds_lower hi))
  · cases hbounded : i.isUnbounded with
    | true => exact upper_same_of_isUnbounded hkind hbounded (hopen.symm.trans hbounded)
    | false =>
      have hbounded' := hopen.symm.trans hbounded
      constructor
      · exact atMost_upper_of_holds hbounded'
          ((h _ i.kind_upper).symm.trans (holds_upper hi hbounded))
      · exact atMost_upper_of_holds hbounded
          ((hkind' _ j.kind_upper).symm.trans (holds_upper hj hbounded'))

/-! ## Bounds that equality does not tell apart -/

/-- Two intervals of one kind whose bounds have the same keys. -/
structure SameKeys (i j : Interval) : Prop where
  kind : i.kind = j.kind
  lower : ∃ n, i.lower.key = .ok n ∧ j.lower.key = .ok n
  upper : ∃ n, i.upper.key = .ok n ∧ j.upper.key = .ok n

theorem SameKeys.symm (h : i.SameKeys j) : j.SameKeys i :=
  ⟨h.kind.symm, h.lower.imp fun _ hn => hn.symm, h.upper.imp fun _ hn => hn.symm⟩

theorem SameKeys.hasProjections (h : i.SameKeys j) : i.HasProjections := by
  obtain ⟨-, ⟨l, hl, -⟩, u, hu, -⟩ := h
  cases i with
  | category => trivial
  | duration => exact ⟨Target.hasProjection_of_key hl, Target.hasProjection_of_key hu⟩

/-- Integers and whole milliseconds that equality does not tell apart are the same. -/
theorem SameKeys.sameBounds (h : i.SameKeys j) (hi : i.IsMillis) (hj : j.IsMillis) :
    i.SameBounds j := by
  obtain ⟨hkind, ⟨l, hil, hjl⟩, u, hiu, hju⟩ := h
  cases i <;> cases j <;> try contradiction
  · have hlower := Except.ok.inj (hil.trans hjl.symm)
    have hupper := Except.ok.inj (hiu.trans hju.symm)
    exact ⟨⟨hlower.le, hlower.ge⟩, ⟨hupper.le, hupper.ge⟩⟩
  · exact ⟨Target.same_of_isMillis hi.1 hj.1 hil hjl, Target.same_of_isMillis hi.2 hj.2 hiu hju⟩

/-- The upper bound of an interval that is open above has no milliseconds. -/
theorem key_upper_of_isUnbounded (h : i.isUnbounded = true) : i.upper.key = .ok 0 := by
  cases i with
  | category lower upper =>
    have hzero := beq_iff_eq.mp h
    subst hzero
    rfl
  | duration lower upper =>
    have hzero := (Binary64.same_iff (Binary64.toRat?_zero false)).mp h
    exact Duration.milliseconds_of_whole (by norm_num) (by simpa using hzero)

/-- Only bounds that have no milliseconds are zero for one of the intervals and not for the
other. -/
theorem SameKeys.key_upper_eq_zero (h : i.SameKeys j) (hopen : i.isUnbounded ≠ j.isUnbounded) :
    i.upper.key = .ok 0 ∧ j.upper.key = .ok 0 := by
  obtain ⟨u, hiu, hju⟩ := h.upper
  have hu : u = 0 := by
    cases hi : i.isUnbounded with
    | true => exact Except.ok.inj (hiu.symm.trans (key_upper_of_isUnbounded hi))
    | false =>
      have hj : j.isUnbounded = true := by
        rw [hi] at hopen
        exact Bool.eq_true_of_not_eq_false hopen.symm
      exact Except.ok.inj (hju.symm.trans (key_upper_of_isUnbounded hj))
  exact ⟨hu ▸ hiu, hu ▸ hju⟩

/-- A target whose key is not that of a bound is on the same side of the bounds of both
intervals. -/
theorem SameKeys.holds_imp (h : i.SameKeys j) (hopen : i.isUnbounded = j.isUnbounded) {t : Target}
    (hlower : t.key ≠ i.lower.key) (hupper : t.key ≠ i.upper.key) (ht : i.holds t = true) :
    j.holds t = true := by
  have hkind := kind_of_holds ht
  have hkind' := hkind.trans h.kind
  obtain ⟨l, hil, hjl⟩ := h.lower
  obtain ⟨u, hiu, hju⟩ := h.upper
  obtain ⟨hfrom, hto⟩ := (holds_iff hkind).mp ht
  refine (holds_iff hkind').mpr ⟨fun hbelow => hlower ?_, ?_⟩
  · -- The target is between the lower bounds.
    have hle := Target.atMost_of_not_below (by rw [hkind, kind_lower])
      (Target.hasProjection_of_key hil) hbelow.atMost.hasProjection.1 hfrom
    exact (Target.key_between hil hjl hle hbelow.atMost).trans hil.symm
  · refine hto.imp (fun hi => hopen ▸ hi) fun hle => ?_
    by_contra habove
    -- The target is between the upper bounds.
    have hge := Target.atMost_of_not_below (by rw [hkind', kind_upper])
      (Target.hasProjection_of_key hju) hle.hasProjection.1 fun hbelow => habove hbelow.atMost
    exact hupper ((Target.key_between hju hiu hge hle).trans hiu.symm)

theorem SameKeys.holds_eq (h : i.SameKeys j) (hopen : i.isUnbounded = j.isUnbounded) {t : Target}
    (hlower : t.key ≠ i.lower.key) (hupper : t.key ≠ i.upper.key) : i.holds t = j.holds t := by
  obtain ⟨l, hil, hjl⟩ := h.lower
  obtain ⟨u, hiu, hju⟩ := h.upper
  refine Bool.eq_iff_iff.mpr ⟨h.holds_imp hopen hlower hupper, h.symm.holds_imp hopen.symm ?_ ?_⟩
  · rwa [hjl, ← hil]
  · rwa [hju, ← hiu]

theorem key_eq_ok {l u : Int} :
    i.key = .ok (l, u) ↔ i.lower.key = .ok l ∧ i.upper.key = .ok u := by
  cases i with
  | category => simp [key, lower, upper, Target.key]
  | duration lower upper =>
    rw [key, bind_eq_ok]
    simp only [bind_eq_ok, pure_eq_ok, Except.ok.injEq, Prod.mk.injEq]
    constructor
    · rintro ⟨_, hl, _, hu, rfl, rfl⟩
      exact ⟨hl, hu⟩
    · rintro ⟨hl, hu⟩
      exact ⟨l, hl, u, hu, rfl, rfl⟩

end Interval

/-! ## Equal rules -/

namespace Rule

variable {p q : Rule}

/-- Two rules that no look-up tells apart. -/
def Interchangeable [StandIns] (p q : Rule) : Prop :=
  p.isUnbounded = q.isUnbounded ∧ ∀ v, p.holdsFor v = q.holdsFor v

/-- Rules give the same answer for a value where their intervals do for what it stands for. -/
theorem holdsFor_congr [StandIns] (hkind : p.kind = q.kind) {v : Value}
    (h : ∀ t, target p.kind v = .ok t → p.interval.holds t = q.interval.holds t) :
    p.holdsFor v = q.holdsFor v := by
  rw [holdsFor, holdsFor, ← hkind]
  cases ht : target p.kind v with
  | ok t => exact congrArg Except.ok (h t ht)
  | error fault => rfl

/-- A rule fails for a value that does not stand for anything of its kind. -/
theorem holdsFor_eq_error [StandIns] {r : Rule} {v : Value} {fault : Fault} :
    r.holdsFor v = .error fault ↔ target r.kind v = .error fault := by
  rw [holdsFor]
  cases target r.kind v <;> simp

/-- Every target of a kind is what some value stands for. -/
theorem exists_target [StandIns] (t : Target) : ∃ v, target t.kind v = .ok t := by
  cases t with
  | category n => exact ⟨.int n, rfl⟩
  | duration d => exact ⟨.duration d, rfl⟩

/-- Rules with projections are interchangeable just where they have the same bounds. -/
theorem interchangeable_iff [StandIns] (hkind : p.kind = q.kind) (hp : p.interval.HasProjections)
    (hq : q.interval.HasProjections) :
    p.Interchangeable q ↔ p.interval.SameBounds q.interval := by
  constructor
  · rintro ⟨hopen, hanswers⟩
    refine Interval.sameBounds_of_holds hkind hp hq hopen fun t (ht : t.kind = p.kind) => ?_
    obtain ⟨v, hv⟩ := exists_target t
    rw [ht] at hv
    have hanswer := hanswers v
    rw [holdsFor_of_target hv, holdsFor_of_target (hkind ▸ hv)] at hanswer
    exact Except.ok.inj hanswer
  · intro hbounds
    exact ⟨hbounds.isUnbounded_eq, fun v => holdsFor_congr hkind fun t _ => hbounds.holds_eq t⟩

theorem sameKeys_of_equal (h : p.equal q = .ok true) : p.interval.SameKeys q.interval := by
  obtain ⟨first, hfirst, h⟩ := bind_eq_ok.mp h
  obtain ⟨second, hsecond, h⟩ := bind_eq_ok.mp h
  have heq : first = second := beq_iff_eq.mp (Except.ok.inj h)
  obtain ⟨⟨l, u⟩, hp, hfirst⟩ := bind_eq_ok.mp hfirst
  obtain ⟨n, -, hfirst⟩ := bind_eq_ok.mp hfirst
  obtain ⟨⟨l', u'⟩, hq, hsecond⟩ := bind_eq_ok.mp hsecond
  obtain ⟨n', -, hsecond⟩ := bind_eq_ok.mp hsecond
  cases hfirst
  cases hsecond
  obtain ⟨hkind, rfl, rfl, -⟩ := RuleKey.mk.inj heq
  rw [Interval.key_eq_ok] at hp hq
  exact ⟨hkind, ⟨l, hp.1, hq.1⟩, u, hp.2, hq.2⟩

/-- Rules that are equal are of one kind and fail for the same values.  They are interchangeable
just where no comparison tells their bounds apart, as for integers and whole milliseconds.  Apart
from that, one of them may be open above and the other one not if their upper bounds are rounded to
zero; and where this is not so, only values of the same milliseconds as a bound can make a
difference. -/
theorem interchangeable_of_equal [StandIns] (h : p.equal q = .ok true) :
    p.kind = q.kind ∧
      (∀ v fault, p.holdsFor v = .error fault ↔ q.holdsFor v = .error fault) ∧
      (p.kind = .category → p.Interchangeable q) ∧
      (p.Interchangeable q ↔ p.interval.SameBounds q.interval) ∧
      (p.interval.IsMillis → q.interval.IsMillis → p.Interchangeable q) ∧
      (p.isUnbounded ≠ q.isUnbounded →
        p.interval.upper.key = .ok 0 ∧ q.interval.upper.key = .ok 0) ∧
      (p.isUnbounded = q.isUnbounded → ∀ v t, target p.kind v = .ok t →
        t.key ≠ p.interval.lower.key → t.key ≠ p.interval.upper.key →
        p.holdsFor v = q.holdsFor v) := by
  have hkeys := sameKeys_of_equal h
  have hkind : p.kind = q.kind := hkeys.kind
  have hiff := interchangeable_iff hkind hkeys.hasProjections hkeys.symm.hasProjections
  have hmillis (hp : p.interval.IsMillis) (hq : q.interval.IsMillis) : p.Interchangeable q :=
    hiff.mpr (hkeys.sameBounds hp hq)
  refine ⟨hkind, fun v fault => ?_, fun hcategory => ?_, hiff, hmillis, hkeys.key_upper_eq_zero, ?_⟩
  · rw [holdsFor_eq_error, holdsFor_eq_error, hkind]
  · exact hmillis (Interval.isMillis_of_category hcategory)
      (Interval.isMillis_of_category (hkind.symm.trans hcategory))
  · intro hopen v t ht hlower hupper
    rw [holdsFor_of_target ht, holdsFor_of_target (hkind ▸ ht), hkeys.holds_eq hopen hlower hupper]

/-- The rule of `DP1MP2MP1D`. -/
def monthsRule : Rule where
  interval := .duration (.calendar (Decimal.ofInt 0) (Decimal.ofInt 1) Clock.zero)
    (.calendar (Decimal.ofInt 0) (Decimal.ofInt 2) Clock.zero) (by decide +kernel)
    (by decide +kernel) (by decide +kernel)
  result := .clock oneDay
  id := none
  result_valid := isNegative_oneDay

/-- The rule of `DP30DP60DP1D`. -/
def daysRule : Rule where
  interval := .duration (.clock ⟨2592000000000, by decide, by decide⟩)
    (.clock ⟨5184000000000, by decide, by decide⟩) (by decide +kernel) (by decide +kernel)
    (by decide +kernel)
  result := .clock oneDay
  id := none
  result_valid := isNegative_oneDay

/-- One and two months are as good as thirty and sixty days. -/
theorem interchangeable_monthsRule :
    parse none "DP1MP2MP1D" = .ok monthsRule ∧ parse none "DP30DP60DP1D" = .ok daysRule ∧
      monthsRule.equal daysRule = .ok true ∧ monthsRule.Interchangeable daysRule := by
  have hequal : monthsRule.equal daysRule = .ok true := by decide +kernel
  refine ⟨by decide +kernel, by decide +kernel, hequal, ?_⟩
  obtain ⟨-, -, -, -, hmillis, -⟩ := interchangeable_of_equal hequal
  refine hmillis ⟨⟨2592000000, by norm_num, by decide +kernel⟩,
    ⟨5184000000, by norm_num, by decide +kernel⟩⟩ ⟨?_, ?_⟩
  · exact Duration.isMillis_clock (n := 2592000000) rfl (by norm_num)
  · exact Duration.isMillis_clock (n := 5184000000) rfl (by norm_num)

theorem isNegative_zero : (Duration.clock Clock.zero).isNegative = false := by
  decide +kernel

/-- The rule of `DP0DPT0.0001SP1D`, a tenth of a millisecond wide. -/
def briefRule : Rule where
  interval := .duration (.clock Clock.zero) (.clock ⟨100, by decide, by decide⟩) isNegative_zero
    (by decide +kernel) (by decide +kernel)
  result := .clock oneDay
  id := none
  result_valid := isNegative_oneDay

/-- The rule of `DP0DP0DP1D`, which is open above. -/
def openRule : Rule where
  interval := .duration (.clock Clock.zero) (.clock Clock.zero) isNegative_zero isNegative_zero
    (by decide +kernel)
  result := .clock oneDay
  id := none
  result_valid := isNegative_oneDay

/-- A rule that is open above equals one that is a tenth of a millisecond wide, which does not hold
for a day. -/
theorem equal_briefRule_openRule :
    parse none "DP0DPT0.0001SP1D" = .ok briefRule ∧ parse none "DP0DP0DP1D" = .ok openRule ∧
      briefRule.equal openRule = .ok true ∧
      briefRule.isUnbounded = false ∧ openRule.isUnbounded = true ∧
      briefRule.holdsFor (.text "P1D") = .ok false ∧
      openRule.holdsFor (.text "P1D") = .ok true := by
  decide +kernel

end Rule

end TieredTerms
