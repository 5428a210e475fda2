import TieredTerms.Proofs.Rule.Faults
import TieredTerms.Proofs.Rule.Intervals
import TieredTerms.Proofs.RuleTable.LongYears

/-!
# The checks of construction

A rule is built just where five checks pass, each of which is a statement about the values given:
what they are or stand for, and how that is ordered.  Where one of them fails, the fault is about
the first such check.

* `Value.IsOrdinary` are the values that messages can show and arithmetic can handle: rules and
  tables by `Rule.IsShowable`, containers up to the depth that is shown.
* `Value.GivesKind`, `Value.GivesDuration` and `Value.GivesBound` tell what a value is or stands
  for.
* `Check.Passes` are the checks, `Check.IsFirstViolated` the one that a fault is about, and
  `Check.opening` how its message begins.
* `Rule.build_gives` is construction, from one lemma for each of its steps; `Rule.build_checks`
  spells it out.
* `Rule.build_of_unshown` is the fault where messages cannot show what is given as a kind.
-/

namespace TieredTerms

/-! ## Values of ordinary size -/

namespace Decimal

variable {d : Decimal}

/-- A magnitude of no more digits than readers take. -/
def IsShort (d : Decimal) : Prop :=
  |d.toRat| < 10 ^ (digitLimit : Int)

theorem IsModerate.isShort (h : d.IsModerate) : d.IsShort :=
  lt_of_lt_of_le h (zpow_le_zpow_right₀ (by norm_num) (by decide))

/-- Short numbers are in the range of arithmetic. -/
theorem IsShort.isInRange_abs (h : d.IsShort) : d.abs.isInRange = true := by
  cases hzero : d.isZero with
  | true =>
    have habs : d.abs.isZero = true := isZero_round hzero
    rw [isInRange, habs, Bool.true_or]
  | false =>
    refine Decimal.isInRange_abs ?_
    have hleading := leading_le_of_abs_lt h hzero
    rw [digitLimit] at hleading
    rw [largestExponent]
    omega

/-- Messages show the whole part of a short number. -/
theorem IsShort.intShown?_truncate (h : d.IsShort) :
    intShown? d.truncate = some (intText d.truncate) :=
  intShown?_of_lt (natAbs_truncate_lt h)

end Decimal

namespace Duration

variable {d : Duration}

/-- Years and months of no more digits than readers take. -/
def IsShort (d : Duration) : Prop :=
  d.years.IsShort ∧ d.months.IsShort

theorem IsModerate.isShort (h : d.IsModerate) : d.IsShort :=
  ⟨h.1.isShort, h.2.isShort⟩

theorem IsShort.isWritable (h : d.IsShort) : d.isWritable = true := by
  cases d with
  | clock time => rfl
  | calendar years months time =>
    rw [Duration.isWritable, Bool.and_eq_true]
    exact ⟨h.1.isInRange_abs, h.2.isInRange_abs⟩

theorem IsShort.isSome_shown? (h : d.IsShort) : d.shown?.isSome = true := by
  cases d with
  | clock time => rfl
  | calendar years months time =>
    obtain ⟨hyears, hmonths⟩ : years.IsShort ∧ months.IsShort := h
    simp [shown?, hyears.intShown?_truncate, hmonths.intShown?_truncate]

/-- A letter is no text of a duration. -/
theorem read_tagText (k : Kind) : Duration.read k.tagText = .error .form := by
  cases k <;> decide +kernel

/-- A duration with a projection is not negative where zero is at most the projection. -/
theorem isNegative_eq_false_iff (h : d.HasProjection) :
    d.isNegative = false ↔ (Binary64.zero false).le d.seconds = true :=
  ⟨Binary64.le_of_lt_eq_false (by simp [Binary64.zero]) h, Binary64.lt_eq_false_of_le⟩

end Duration

/-- A rule that messages can show: its bounds are whole numbers that can be written or durations,
and no years or months of it are beyond arithmetic. -/
def Rule.IsShowable (r : Rule) : Prop :=
  r.interval.hasShortNumbers = true ∧ r.isWritable = true

theorem Rule.IsShowable.unshown? {r : Rule} (h : r.IsShowable) : r.unshown? = none := by
  rw [Rule.unshown?, h.1, if_neg (by decide), if_pos h.2]

theorem RuleTable.unshown?_of_isShowable {t : RuleTable} (h : ∀ r ∈ t.rules, r.IsShowable) :
    t.unshown? = none :=
  List.findSome?_eq_none_iff.mpr fun r hr => (h r hr).unshown?

namespace Value

mutual

/-- Whole numbers that messages can show, texts without a row of digits that readers do not take,
durations of moderate size, rules and tables that messages can show, and containers of these, of
which so many stand inside each other at most.  Other values are of any size. -/
def IsOrdinaryIn (depth : Nat) : Value → Prop
  | .int n => n.natAbs < 10 ^ digitLimit
  | .text s => ∀ count, ¬HasLongRun s.toList count
  | .duration d => d.IsModerate
  | .rule r => r.IsShowable
  | .table t => ∀ r ∈ t.rules, r.IsShowable
  | .list items | .tuple items => 0 < depth ∧ AreOrdinaryIn (depth - 1) items
  | .dict fields => 0 < depth ∧ FieldsOrdinaryIn (depth - 1) fields
  | .none | .bool _ | .real _ | .kind _ => True

/-- Every item is of ordinary size. -/
def AreOrdinaryIn (depth : Nat) : List Value → Prop
  | [] => True
  | item :: items => item.IsOrdinaryIn depth ∧ AreOrdinaryIn depth items

/-- The value of every field is of ordinary size. -/
def FieldsOrdinaryIn (depth : Nat) : List (String × Value) → Prop
  | [] => True
  | (_, value) :: fields => value.IsOrdinaryIn depth ∧ FieldsOrdinaryIn depth fields

end

/-- A value of ordinary size. -/
def IsOrdinary (v : Value) : Prop :=
  v.IsOrdinaryIn depthLimit

/-- What stands inside a container is shown where another container may stand there. -/
theorem insideOf_of_pos {α : Type} {depth : Nat} (h : 0 < depth)
    (shown : Nat → Except Unshown α) : insideOf depth shown = shown (depth - 1) := by
  obtain ⟨depth, rfl⟩ := Nat.exists_eq_succ_of_ne_zero h.ne'
  rfl

section Shown

variable [StandIns]

mutual

/-- Messages show values of ordinary size. -/
theorem exists_shownIn (depth : Nat) (v : Value) (h : v.IsOrdinaryIn depth) :
    ∃ shown, v.shownIn depth = .ok shown := by
  match v with
  | .none | .bool _ | .real _ | .text _ | .kind _ =>
    rw [shownIn]
    exact ⟨_, rfl⟩
  | .int n =>
    rw [IsOrdinaryIn] at h
    rw [shownIn, intShown?_of_lt h]
    exact ⟨_, rfl⟩
  | .duration d =>
    rw [IsOrdinaryIn] at h
    obtain ⟨shown, hshown⟩ := Option.isSome_iff_exists.mp h.isShort.isSome_shown?
    rw [shownIn, hshown]
    exact ⟨_, rfl⟩
  | .rule r =>
    rw [IsOrdinaryIn] at h
    rw [shownIn, h.unshown?]
    exact ⟨_, rfl⟩
  | .table t =>
    rw [IsOrdinaryIn] at h
    rw [shownIn, RuleTable.unshown?_of_isShowable h]
    exact ⟨_, rfl⟩
  | .list items =>
    rw [IsOrdinaryIn] at h
    obtain ⟨shown, hshown⟩ := exists_shownItems (depth - 1) items h.2
    rw [shownIn, insideOf_of_pos h.1, hshown]
    exact ⟨_, rfl⟩
  | .tuple items =>
    rw [IsOrdinaryIn] at h
    obtain ⟨shown, hshown⟩ := exists_shownItems (depth - 1) items h.2
    rw [shownIn, insideOf_of_pos h.1, hshown, ok_bind]
    split <;> exact ⟨_, rfl⟩
  | .dict fields =>
    rw [IsOrdinaryIn] at h
    obtain ⟨shown, hshown⟩ := exists_shownFields (depth - 1) fields h.2
    rw [shownIn, insideOf_of_pos h.1, hshown]
    exact ⟨_, rfl⟩

theorem exists_shownItems (depth : Nat) (items : List Value) (h : AreOrdinaryIn depth items) :
    ∃ shown, shownItems depth items = .ok shown := by
  match items with
  | [] =>
    rw [shownItems]
    exact ⟨_, rfl⟩
  | item :: items =>
    rw [AreOrdinaryIn] at h
    obtain ⟨first, hfirst⟩ := exists_shownIn depth item h.1
    obtain ⟨rest, hrest⟩ := exists_shownItems depth items h.2
    rw [shownItems, hfirst, ok_bind, hrest]
    exact ⟨_, rfl⟩

theorem exists_shownFields (depth : Nat) (fields : List (String × Value))
    (h : FieldsOrdinaryIn depth fields) :
    ∃ shown, shownFields depth fields = .ok shown := by
  match fields with
  | [] =>
    rw [shownFields]
    exact ⟨_, rfl⟩
  | (name, value) :: fields =>
    rw [FieldsOrdinaryIn] at h
    obtain ⟨first, hfirst⟩ := exists_shownIn depth value h.1
    obtain ⟨rest, hrest⟩ := exists_shownFields depth fields h.2
    rw [shownFields, hfirst, ok_bind, hrest]
    exact ⟨_, rfl⟩

end

theorem IsOrdinary.givenText {v : Value} (h : v.IsOrdinary) :
    ∃ given, givenText v = .ok given := by
  obtain ⟨shown, hshown⟩ := exists_shownIn _ v h
  rw [TieredTerms.givenText, Value.shown, hshown]
  exact ⟨_, rfl⟩

end Shown

/-! ## What values give -/

/-- A value is a kind or the letter of one. -/
inductive GivesKind : Value → Kind → Prop
  | kind (k : Kind) : GivesKind (.kind k) k
  | letter (k : Kind) : GivesKind (.text k.tagText) k

/-- A value is a duration or the text of one. -/
inductive GivesDuration : Value → Duration → Prop
  | structured (d : Duration) : GivesDuration (.duration d) d
  | written {s : String} {d : Duration} (h : Duration.read s = .ok d) : GivesDuration (.text s) d

/-- A value is a bound of a rule of this kind, or the text of one. -/
inductive GivesBound : Kind → Value → Target → Prop
  | category (n : Int) : GivesBound .category (.int n) (.category n)
  | duration {v : Value} {d : Duration} (h : v.GivesDuration d) :
      GivesBound .duration v (.duration d)

variable {v : Value}

theorem GivesKind.ofTag? {text : String} {k : Kind} (h : (Value.text text).GivesKind k) :
    Kind.ofTag? text = some k := by
  cases h
  exact Kind.ofTag?_tagText k

theorem GivesKind.unique {k l : Kind} (hk : v.GivesKind k) (hl : v.GivesKind l) : k = l := by
  cases hk with
  | kind => cases hl; rfl
  | letter => exact Option.some.inj ((Kind.ofTag?_tagText k).symm.trans hl.ofTag?)

theorem GivesDuration.unique {d e : Duration} (hd : v.GivesDuration d) (he : v.GivesDuration e) :
    d = e := by
  cases hd with
  | structured => cases he; rfl
  | written hread =>
    cases he with
    | written hread' => exact Except.ok.inj (hread.symm.trans hread')

theorem GivesBound.unique {k : Kind} {t u : Target} (ht : GivesBound k v t)
    (hu : GivesBound k v u) : t = u := by
  cases ht with
  | category => cases hu; rfl
  | duration hd =>
    cases hu with
    | duration he => rw [hd.unique he]

theorem givesBound_category_iff {t : Target} :
    GivesBound .category v t ↔ ∃ n, v.asCategory? = some n ∧ t = .category n := by
  constructor
  · rintro ⟨n⟩
    exact ⟨n, rfl, rfl⟩
  · rintro ⟨n, hn, rfl⟩
    cases v <;> cases hn
    exact .category n

/-- What a value stands for as a duration: itself, or what is read of its text. -/
theorem givesDuration_iff {d : Duration} :
    v.GivesDuration d ↔ v.asDuration? = some d ∨
      v.asDuration? = Option.none ∧ ∃ s, v.asText? = some s ∧ Duration.read s = .ok d := by
  constructor
  · rintro (_ | hread)
    · exact .inl rfl
    · exact .inr ⟨rfl, _, rfl, hread⟩
  · rintro (h | ⟨-, s, hs, hread⟩)
    · cases v <;> cases h
      exact .structured d
    · cases v <;> cases hs
      · exact .written hread
      · rw [Duration.read_tagText] at hread
        cases hread

/-- A text of ordinary size is read as a duration, or is none. -/
theorem IsOrdinary.read (hv : v.IsOrdinary) {s : String} (hs : v.asText? = some s) :
    Duration.read s = .error .form ∨ ∃ d, Duration.read s = .ok d := by
  cases v <;> cases hs
  · rw [Value.IsOrdinary, Value.IsOrdinaryIn] at hv
    rcases read_cases (s := s) List.infix_rfl with hform | ⟨-, hlarge⟩ | ⟨d, hread, -⟩
    · exact .inl hform
    · exact absurd (hasModestNumbers_of_short hv) hlarge
    · exact .inr ⟨d, hread⟩
  · exact .inl (Duration.read_tagText _)

/-- What a value of ordinary size gives has a projection and can be written. -/
theorem GivesDuration.facts {d : Duration} (h : v.GivesDuration d) (hv : v.IsOrdinary) :
    d.HasProjection ∧ d.isWritable = true := by
  cases h with
  | structured =>
    rw [IsOrdinary, IsOrdinaryIn] at hv
    exact ⟨hv.hasProjection, hv.isShort.isWritable⟩
  | written hread =>
    rw [IsOrdinary, IsOrdinaryIn] at hv
    have hparse := Duration.parse?_of_read hread
    exact ⟨Duration.hasProjection_of_parse? hparse,
      (Duration.withinArithmetic_of_parse? (hasModestNumbers_of_short hv) hparse).isWritable⟩

end Value

/-! ## The checks -/

/-- A target that a lower bound can be: a positive integer, or a duration that is not negative. -/
def Target.IsLower : Target → Prop
  | .category n => 0 < n
  | .duration d => (Binary64.zero false).le d.seconds = true

/-- A target that an upper bound can be: an integer or a duration that is not negative. -/
def Target.IsUpper : Target → Prop
  | .category n => 0 ≤ n
  | .duration d => (Binary64.zero false).le d.seconds = true

/-- An upper bound that leaves the interval open above. -/
def Target.IsOpen : Target → Prop
  | .category n => n = 0
  | .duration d => d.isZero = true

/-- The four values that a rule is built of. -/
structure Arguments where
  kind : Value
  lower : Value
  upper : Value
  result : Value

/-- All four values are of ordinary size. -/
structure Arguments.IsOrdinary (a : Arguments) : Prop where
  kind : a.kind.IsOrdinary
  lower : a.lower.IsOrdinary
  upper : a.upper.IsOrdinary
  result : a.result.IsOrdinary

/-- What construction checks. -/
inductive Check where
  | kind
  | lower
  | upper
  | order
  | result
  deriving DecidableEq

namespace Check

/-- The checks that come before. -/
def earlier : Check → List Check
  | .kind => []
  | .lower => [.kind]
  | .upper => [.kind, .lower]
  | .order => [.kind, .lower, .upper]
  | .result => [.kind, .lower, .upper, .order]

/-- How a message about the check begins, for rules of this kind. -/
def opening (k : Kind) : Check → String
  | .kind => "The first argument must be one of the Kind constants"
  | .lower => "The second argument must be a valid " ++ k.word
  | .upper => "The third argument must be a valid " ++ k.word
  | .order => "The third argument must be greater than or equal to lower"
  | .result => "The fourth argument must be a valid duration"

/-- Whether the values pass the check.  All but the first and the last depend on the kind that is
given. -/
def Passes (a : Arguments) : Check → Prop
  | .kind => ∃ k, a.kind.GivesKind k
  | .lower => ∃ k t, a.kind.GivesKind k ∧ Value.GivesBound k a.lower t ∧ t.IsLower
  | .upper => ∃ k t, a.kind.GivesKind k ∧ Value.GivesBound k a.upper t ∧ t.IsUpper
  | .order => ∃ k l u, a.kind.GivesKind k ∧ Value.GivesBound k a.lower l ∧
      Value.GivesBound k a.upper u ∧ (u.IsOpen ∨ l.AtMost u)
  | .result => ∃ d, a.result.GivesDuration d ∧ (Binary64.zero false).le d.seconds = true

/-- The check fails and those before it do not. -/
structure IsFirstViolated (a : Arguments) (c : Check) : Prop where
  violated : ¬c.Passes a
  earlier : ∀ d ∈ c.earlier, d.Passes a

/-- Of two checks one comes before the other. -/
theorem eq_or_mem_earlier (c d : Check) : c = d ∨ c ∈ d.earlier ∨ d ∈ c.earlier := by
  cases c <;> cases d <;> decide

theorem IsFirstViolated.unique {a : Arguments} {c d : Check} (hc : c.IsFirstViolated a)
    (hd : d.IsFirstViolated a) : c = d := by
  rcases eq_or_mem_earlier c d with heq | hcd | hdc
  · exact heq
  · exact absurd (hd.earlier c hcd) hc.violated
  · exact absurd (hc.earlier d hdc) hd.violated

/-- The check that a message is about can be told from two of its characters. -/
private def named (text : List Char) : Check :=
  match text[5]?, text[27]? with
  | some 'i', _ => .kind
  | some 'e', _ => .lower
  | some 'h', some 'a' => .upper
  | some 'h', _ => .order
  | _, _ => .result

private theorem named_opening (c : Check) (k : Kind) (rest : String) :
    named (c.opening k ++ rest).toList = c := by
  rw [String.toList_append]
  cases c <;> cases k <;> rfl

/-- A message begins as those about one check only. -/
theorem eq_of_opening {c d : Check} {k l : Kind} {rest rest' : String}
    (h : c.opening k ++ rest = d.opening l ++ rest') : c = d := by
  rw [← named_opening c k rest, h, named_opening]

end Check

/-- A fault is one of validation and its message begins as those about the check. -/
structure Fault.Names (fault : Fault) (k : Kind) (c : Check) : Prop where
  faultClass : fault.faultClass = .validation
  opening : ∃ rest, fault.message = c.opening k ++ rest

namespace Fault

/-- What is put behind a text does not change its beginning. -/
private theorem begins_append {text front : String} (h : ∃ rest, text = front ++ rest)
    (more : String) : ∃ rest, text ++ more = front ++ rest := by
  obtain ⟨rest, rfl⟩ := h
  exact ⟨rest ++ more, String.append_assoc ..⟩

theorem names_kindArgument (k : Kind) (given : String) : (kindArgument given).Names k .kind := by
  refine ⟨rfl, begins_append (begins_append ?_ _) _⟩
  exact ⟨" ", rfl⟩

theorem names_lowerArgument (given : String) : (lowerArgument given).Names .category .lower := by
  refine ⟨rfl, begins_append ?_ _⟩
  exact ⟨" (non null, positive integer). Input was: ", rfl⟩

theorem names_upperArgument (given : String) : (upperArgument given).Names .category .upper := by
  refine ⟨rfl, begins_append (begins_append ?_ _) _⟩
  exact ⟨" ", rfl⟩

theorem names_boundsOrder (k : Kind) (lower upper : String) :
    (boundsOrder lower upper).Names k .order := by
  refine ⟨rfl, begins_append (begins_append (begins_append (begins_append ?_ _) _) _) _⟩
  exact ⟨". lower was (", rfl⟩

theorem names_durationArgument {k : Kind} {c : Check} {ordinal : String}
    (h : c.opening k = "The " ++ ordinal ++ " argument must be a valid duration") (given : String) :
    (durationArgument ordinal given).Names k c := by
  refine ⟨rfl, begins_append (begins_append ?_ _) _⟩
  refine ⟨", or an ISO 8601 duration string. ", ?_⟩
  rw [h]
  simp only [String.append_assoc]
  rfl

end Fault

/-! ## First violations -/

namespace Check

variable {a : Arguments} {k : Kind} {l u : Target}

theorem isFirstViolated_kind (h : ¬∃ k, a.kind.GivesKind k) : kind.IsFirstViolated a :=
  ⟨h, fun _ hd => absurd hd List.not_mem_nil⟩

theorem isFirstViolated_lower (hk : a.kind.GivesKind k)
    (h : ∀ t, Value.GivesBound k a.lower t → ¬t.IsLower) : lower.IsFirstViolated a := by
  refine ⟨?_, ?_⟩
  · rintro ⟨k', t, hk', ht, hlower⟩
    exact h t (hk.unique hk' ▸ ht) hlower
  · simp only [earlier, List.forall_mem_cons]
    exact ⟨⟨k, hk⟩, List.forall_mem_nil _⟩

theorem isFirstViolated_upper (hk : a.kind.GivesKind k) (hl : Value.GivesBound k a.lower l)
    (hlower : l.IsLower) (h : ∀ t, Value.GivesBound k a.upper t → ¬t.IsUpper) :
    upper.IsFirstViolated a := by
  refine ⟨?_, ?_⟩
  · rintro ⟨k', t, hk', ht, hupper⟩
    exact h t (hk.unique hk' ▸ ht) hupper
  · simp only [earlier, List.forall_mem_cons]
    exact ⟨⟨k, hk⟩, ⟨k, l, hk, hl, hlower⟩, List.forall_mem_nil _⟩

theorem isFirstViolated_order (hk : a.kind.GivesKind k) (hl : Value.GivesBound k a.lower l)
    (hlower : l.IsLower) (hu : Value.GivesBound k a.upper u) (hupper : u.IsUpper)
    (h : ¬(u.IsOpen ∨ l.AtMost u)) : order.IsFirstViolated a := by
  refine ⟨?_, ?_⟩
  · rintro ⟨k', l', u', hk', hl', hu', horder⟩
    cases hk.unique hk'
    cases hl.unique hl'
    cases hu.unique hu'
    exact h horder
  · simp only [earlier, List.forall_mem_cons]
    exact ⟨⟨k, hk⟩, ⟨k, l, hk, hl, hlower⟩, ⟨k, u, hk, hu, hupper⟩, List.forall_mem_nil _⟩

end Check

/-- The fault is about the first check that the values do not pass. -/
def Arguments.Rejected (a : Arguments) (fault : Fault) : Prop :=
  ∃ c k, c.IsFirstViolated a ∧ (c = .kind ∨ a.kind.GivesKind k) ∧ fault.Names k c

/-! ## The steps of construction -/

namespace Interval

variable {i : Interval}

theorem hasProjections_iff :
    i.HasProjections ↔ i.lower.HasProjection ∧ i.upper.HasProjection := by
  cases i with
  | category => exact ⟨fun _ => ⟨trivial, trivial⟩, fun _ => trivial⟩
  | duration => exact Iff.rfl

theorem isOpen_upper_iff : i.upper.IsOpen ↔ i.isUnbounded = true := by
  cases i with
  | category => simp [upper, Target.IsOpen, isUnbounded]
  | duration => exact Iff.rfl

theorem isLower_lower (h : i.HasProjections) : i.lower.IsLower := by
  cases i with
  | category lower upper lower_pos => exact Int.natCast_pos.mpr lower_pos
  | duration lower upper lower_valid =>
    exact (Duration.isNegative_eq_false_iff h.1).mp lower_valid

theorem isUpper_upper (h : i.HasProjections) : i.upper.IsUpper := by
  cases i with
  | category lower upper => exact Int.natCast_nonneg upper
  | duration lower upper lower_valid upper_valid =>
    exact (Duration.isNegative_eq_false_iff h.2).mp upper_valid

theorem isOpen_or_atMost (h : i.HasProjections) : i.upper.IsOpen ∨ i.lower.AtMost i.upper := by
  cases hopen : i.isUnbounded with
  | true => exact .inl (isOpen_upper_iff.mpr hopen)
  | false => exact .inr (lower_atMost_upper h hopen)

end Interval

theorem Value.GivesBound.hasProjection {k : Kind} {v : Value} {t : Target}
    (h : Value.GivesBound k v t) (hv : v.IsOrdinary) : t.HasProjection := by
  cases h with
  | category => trivial
  | duration hd => exact (hd.facts hv).1

/-- The values that an interval is of pass the checks of its bounds. -/
theorem Interval.passes_earlier {i : Interval} {a : Arguments} (ha : a.IsOrdinary)
    (hk : a.kind.GivesKind i.kind) (hl : Value.GivesBound i.kind a.lower i.lower)
    (hu : Value.GivesBound i.kind a.upper i.upper) : ∀ c ∈ Check.result.earlier, c.Passes a := by
  have h : i.HasProjections :=
    hasProjections_iff.mpr ⟨hl.hasProjection ha.lower, hu.hasProjection ha.upper⟩
  simp only [Check.earlier, List.forall_mem_cons]
  exact ⟨⟨_, hk⟩, ⟨_, _, hk, hl, isLower_lower h⟩, ⟨_, _, hk, hu, isUpper_upper h⟩,
    ⟨_, _, _, hk, hl, hu, isOpen_or_atMost h⟩, List.forall_mem_nil _⟩

namespace Rule

/-- The rule has the kind, the bounds and the result that the values give. -/
structure IsOf (r : Rule) (a : Arguments) : Prop where
  kind : a.kind.GivesKind r.kind
  lower : Value.GivesBound r.kind a.lower r.interval.lower
  upper : Value.GivesBound r.kind a.upper r.interval.upper
  result : a.result.GivesDuration r.result

/-- The values that a rule is of pass every check. -/
theorem IsOf.passes {r : Rule} {a : Arguments} (h : r.IsOf a) (ha : a.IsOrdinary) (c : Check) :
    c.Passes a := by
  cases c with
  | result =>
    have hresult := (h.result.facts ha.result).1
    exact ⟨_, h.result, (Duration.isNegative_eq_false_iff hresult).mp r.result_valid⟩
  | _ => exact Interval.passes_earlier ha h.kind h.lower h.upper _ (by decide)

theorem kindArgument_gives [StandIns] {v : Value} (hv : v.IsOrdinary) :
    Yields (fun k => v.GivesKind k) (fun fault => (¬∃ k, v.GivesKind k) ∧ ∀ k, fault.Names k .kind)
      (kindArgument v) := by
  have hfault {E : Prop} (hnone : E) (given : String) :
      E ∧ ∀ k, (Fault.kindArgument given).Names k .kind :=
    ⟨hnone, fun k => Fault.names_kindArgument k given⟩
  have hshown := hv.givenText
  unfold kindArgument
  split
  · exact .kind _
  · next text =>
    cases htag : Kind.ofTag? text with
    | some k =>
      obtain rfl := Kind.eq_tagText_of_ofTag? htag
      exact .letter k
    | none =>
      refine yields_shown hshown (hfault ?_)
      rintro ⟨k, hk⟩
      cases htag.symm.trans hk.ofTag?
  · next hkind htext =>
    refine yields_shown hshown (hfault ?_)
    rintro ⟨k, hk⟩
    cases hk with
    | kind => exact hkind k rfl
    | letter => exact htext _ rfl

theorem lowerCategory_gives [StandIns] {v : Value} (hv : v.IsOrdinary) :
    Yields (fun n => Value.GivesBound .category v (.category n.val))
      (fun fault => (∀ t, Value.GivesBound .category v t → ¬t.IsLower) ∧
        fault.Names .category .lower) (lowerCategory v) := by
  have hshown := hv.givenText
  unfold lowerCategory
  split
  · next n hn =>
    split_ifs with hpos
    · exact Value.givesBound_category_iff.mpr
        ⟨n, hn, congrArg Target.category (Int.toNat_of_nonneg (by omega))⟩
    · refine yields_shown hshown fun given =>
        ⟨fun t ht hlower => ?_, Fault.names_lowerArgument given⟩
      obtain ⟨m, hm, rfl⟩ := Value.givesBound_category_iff.mp ht
      obtain rfl := Option.some.inj (hn.symm.trans hm)
      rw [Target.IsLower] at hlower
      omega
  · next hnone =>
    refine yields_shown hshown fun given => ⟨fun t ht _ => ?_, Fault.names_lowerArgument given⟩
    obtain ⟨m, hm, -⟩ := Value.givesBound_category_iff.mp ht
    exact absurd (hnone.symm.trans hm) (by simp)

theorem upperCategory_gives [StandIns] {v : Value} (hv : v.IsOrdinary) :
    Yields (fun n : Nat => Value.GivesBound .category v (.category n))
      (fun fault => (∀ t, Value.GivesBound .category v t → ¬t.IsUpper) ∧
        fault.Names .category .upper) (upperCategory v) := by
  have hshown := hv.givenText
  unfold upperCategory
  split
  · next n hn =>
    split_ifs with hnonneg
    · exact Value.givesBound_category_iff.mpr
        ⟨n, hn, congrArg Target.category (Int.toNat_of_nonneg hnonneg)⟩
    · refine yields_shown hshown fun given =>
        ⟨fun t ht hupper => ?_, Fault.names_upperArgument given⟩
      obtain ⟨m, hm, rfl⟩ := Value.givesBound_category_iff.mp ht
      obtain rfl := Option.some.inj (hn.symm.trans hm)
      exact hnonneg hupper
  · next hnone =>
    refine yields_shown hshown fun given => ⟨fun t ht _ => ?_, Fault.names_upperArgument given⟩
    obtain ⟨m, hm, -⟩ := Value.givesBound_category_iff.mp ht
    exact absurd (hnone.symm.trans hm) (by simp)

/-- An argument gives a duration, whose sign is then looked at, or nothing. -/
theorem durationArgument_cases [StandIns] (ordinal : String) {v : Value} (hv : v.IsOrdinary) :
    ∃ given, (∃ d, v.GivesDuration d ∧ durationArgument ordinal v =
        if h : d.isNegative = false then .ok ⟨d, h⟩ else .error (.durationArgument ordinal given)) ∨
      (∀ d, ¬v.GivesDuration d) ∧
        durationArgument ordinal v = .error (.durationArgument ordinal given) := by
  obtain ⟨given, hgiven⟩ := hv.givenText
  refine ⟨given, ?_⟩
  rw [durationArgument, hgiven, ok_bind]
  cases hstructured : v.asDuration? with
  | some d => exact .inl ⟨d, Value.givesDuration_iff.mpr (.inl hstructured), rfl⟩
  | none =>
    have hnone (h : ∀ s d, v.asText? = some s → Duration.read s ≠ .ok d) (d : Duration) :
        ¬v.GivesDuration d := by
      intro hd
      rcases Value.givesDuration_iff.mp hd with hd | ⟨-, s, hs, hread⟩
      · cases hstructured.symm.trans hd
      · exact h s d hs hread
    cases htext : v.asText? with
    | none => exact .inr ⟨hnone fun s d hs => absurd (htext.symm.trans hs) (by simp), rfl⟩
    | some s =>
      rcases hv.read htext with hread | ⟨d, hread⟩
      · simp only [hread]
        refine .inr ⟨hnone fun s' d hs => ?_, rfl⟩
        simp [← Option.some.inj (htext.symm.trans hs), hread]
      · simp only [hread]
        exact .inl ⟨d, Value.givesDuration_iff.mpr (.inr ⟨hstructured, s, htext, hread⟩), rfl⟩

/-- An argument of ordinary size gives a duration that is not negative and can be written, or a
fault with its ordinal. -/
theorem durationArgument_gives [StandIns] (ordinal : String) {v : Value} (hv : v.IsOrdinary) :
    Yields (fun d => v.GivesDuration d.val ∧ (Binary64.zero false).le d.val.seconds = true ∧
        d.val.isWritable = true)
      (fun fault => (∀ d, v.GivesDuration d → ¬(Binary64.zero false).le d.seconds = true) ∧
        ∃ given, fault = .durationArgument ordinal given) (durationArgument ordinal v) := by
  obtain ⟨given, ⟨d, hd, hvalue⟩ | ⟨hnone, hvalue⟩⟩ := durationArgument_cases ordinal hv
  · obtain ⟨hprojection, hwritable⟩ := hd.facts hv
    have hsign := Duration.isNegative_eq_false_iff hprojection
    rw [hvalue]
    split_ifs with hvalid
    · exact ⟨hd, hsign.mp hvalid, hwritable⟩
    · refine ⟨fun e he hle => hvalid ?_, given, rfl⟩
      rw [he.unique hd] at hle
      exact hsign.mpr hle
  · rw [hvalue]
    exact ⟨fun d hd => absurd hd (hnone d), given, rfl⟩

variable {a : Arguments}

/-- The bounds give an interval, or a fault is about the first check of them that fails. -/
theorem intervalOf_gives [StandIns] (ha : a.IsOrdinary) {k : Kind} (hk : a.kind.GivesKind k) :
    Yields (fun i => i.kind = k ∧ Value.GivesBound k a.lower i.lower ∧
        Value.GivesBound k a.upper i.upper)
      a.Rejected (intervalOf k a.lower a.upper) := by
  cases k with
  | category =>
    refine ((lowerCategory_gives ha.lower).imp_fault ?_).bind fun l _ hl => ?_
    · rintro fault ⟨hnone, hnames⟩
      exact ⟨.lower, .category, Check.isFirstViolated_lower hk hnone, .inr hk, hnames⟩
    have hlower : Target.IsLower (.category l.val) := Int.natCast_pos.mpr l.property
    refine ((upperCategory_gives ha.upper).imp_fault ?_).bind fun u _ hu => ?_
    · rintro fault ⟨hnone, hnames⟩
      exact ⟨.upper, .category, Check.isFirstViolated_upper hk hl hlower hnone, .inr hk, hnames⟩
    split_ifs with hordered
    · exact ⟨rfl, hl, hu⟩
    · refine ⟨.order, .category, ?_, .inr hk, Fault.names_boundsOrder _ _ _⟩
      refine Check.isFirstViolated_order hk hl hlower hu (Int.natCast_nonneg u) ?_
      simpa [Target.IsOpen, Target.AtMost] using hordered
  | duration =>
    refine ((durationArgument_gives "second" ha.lower).imp_fault ?_).bind fun l _ hlowerGiven => ?_
    · rintro fault ⟨hnone, given, rfl⟩
      refine ⟨.lower, .duration, Check.isFirstViolated_lower hk ?_, .inr hk,
        Fault.names_durationArgument rfl given⟩
      exact fun t ht => by cases ht with | duration hd => exact hnone _ hd
    obtain ⟨hl, hlower, hlwritable⟩ := hlowerGiven
    refine ((durationArgument_gives "third" ha.upper).imp_fault ?_).bind fun u _ hupperGiven => ?_
    · rintro fault ⟨hnone, given, rfl⟩
      refine ⟨.upper, .duration, Check.isFirstViolated_upper hk (.duration hl) hlower ?_, .inr hk,
        Fault.names_durationArgument rfl given⟩
      exact fun t ht => by cases ht with | duration hd => exact hnone _ hd
    obtain ⟨hu, hupper, huwritable⟩ := hupperGiven
    dsimp only
    split_ifs with hordered
    · exact ⟨rfl, .duration hl, .duration hu⟩
    · rw [Duration.written, if_pos hlwritable, Duration.written, if_pos huwritable]
      refine ⟨.order, .duration, ?_, .inr hk, Fault.names_boundsOrder _ _ _⟩
      refine Check.isFirstViolated_order hk (.duration hl) hlower (.duration hu) hupper ?_
      exact fun h => hordered (h.imp_right Binary64.lt_eq_false_of_le)

/-- The values give a rule, or a fault is about the first check that they do not pass. -/
theorem build_gives [StandIns] (ha : a.IsOrdinary) (id : Option String) :
    Yields (fun r => r.IsOf a) a.Rejected (build id a.kind a.lower a.upper a.result) := by
  refine ((kindArgument_gives ha.kind).imp_fault ?_).bind fun k _ hk => ?_
  · rintro fault ⟨hnone, hnames⟩
    exact ⟨.kind, .category, Check.isFirstViolated_kind hnone, .inl rfl, hnames _⟩
  refine (intervalOf_gives ha hk).bind fun i _ hi => ?_
  obtain ⟨rfl, hl, hu⟩ := hi
  refine ((durationArgument_gives "fourth" ha.result).imp_fault ?_).bind
    fun d _ hd => ⟨hk, hl, hu, hd.1⟩
  rintro fault ⟨hnone, given, rfl⟩
  refine ⟨.result, i.kind, ⟨?_, Interval.passes_earlier ha hk hl hu⟩, .inr hk,
    Fault.names_durationArgument rfl given⟩
  rintro ⟨d, hd, hle⟩
  exact hnone d hd hle

/-- Construction succeeds just where the values pass all five checks, and what is built is the rule
of these values.  Where they do not, the fault is one of validation, and the beginning of its
message names the first check that they do not pass and no other.  A list of values is built alike,
if there are four of them; else its length is the fault. -/
theorem build_checks [StandIns] (ha : a.IsOrdinary) (id : Option String) :
    ((∃ r, build id a.kind a.lower a.upper a.result = .ok r) ↔ ∀ c : Check, c.Passes a) ∧
      (∀ r, build id a.kind a.lower a.upper a.result = .ok r → r.IsOf a) ∧
      (∀ fault, build id a.kind a.lower a.upper a.result = .error fault →
        fault.faultClass = .validation ∧
        ∀ c : Check, c.IsFirstViolated a ↔ ∃ k rest, (c = .kind ∨ a.kind.GivesKind k) ∧
          fault.message = c.opening k ++ rest) ∧
      ofArguments id [a.kind, a.lower, a.upper, a.result] =
        build id a.kind a.lower a.upper a.result ∧
      ∀ arguments, arguments.length ≠ 4 → ∃ fault, ofArguments id arguments = .error fault ∧
        fault.faultClass = .validation ∧
        fault.message = "ConditionalPeriod must be instantiated with 4 arguments. " ++
          natText arguments.length ++ " given." := by
  have hgives := build_gives ha id
  refine ⟨⟨?_, ?_⟩, ?_, ?_, rfl, ?_⟩
  · rintro ⟨r, hr⟩
    rw [hr] at hgives
    exact hgives.passes ha
  · intro hpasses
    cases hbuild : build id a.kind a.lower a.upper a.result with
    | ok r => exact ⟨r, rfl⟩
    | error fault =>
      rw [hbuild] at hgives
      obtain ⟨c, -, hfirst, -⟩ := hgives
      exact absurd (hpasses c) hfirst.violated
  · intro r hr
    rwa [hr] at hgives
  · intro fault hfault
    rw [hfault] at hgives
    obtain ⟨c, k, hfirst, hk, hnames⟩ := hgives
    refine ⟨hnames.faultClass, fun d => ⟨fun hd => ?_, ?_⟩⟩
    · obtain ⟨rest, hrest⟩ := hnames.opening
      obtain rfl := hfirst.unique hd
      exact ⟨k, rest, hk, hrest⟩
    · rintro ⟨l, rest', -, hrest'⟩
      obtain ⟨rest, hrest⟩ := hnames.opening
      rwa [← Check.eq_of_opening (hrest.symm.trans hrest')]
  · intro arguments hlength
    refine ⟨.argumentCount arguments.length, ?_, rfl, rfl⟩
    unfold ofArguments
    split
    · exact absurd rfl hlength
    · rfl

/-- Categories from three to two, and no result. -/
def threeToTwo : Arguments where
  kind := .text "C"
  lower := .int 3
  upper := .int 2
  result := .none

/-- Of bounds in the wrong order and a result that is missing, the fault is about the bounds. -/
theorem build_checks_threeToTwo :
    threeToTwo.IsOrdinary ∧ ¬Check.result.Passes threeToTwo ∧
      Check.order.IsFirstViolated threeToTwo ∧
      ∃ fault, build none (.text "C") (.int 3) (.int 2) .none = .error fault ∧
        fault.faultClass = .validation ∧
        ∃ rest, fault.message =
          "The third argument must be greater than or equal to lower" ++ rest := by
  have hsmall {n : Int} (hn : n.natAbs < 10 ^ 1) : (Value.int n).IsOrdinary := by
    rw [Value.IsOrdinary, Value.IsOrdinaryIn]
    exact hn.trans_le (Nat.pow_le_pow_right (by decide) (by decide))
  have hordinary : threeToTwo.IsOrdinary := by
    refine ⟨?_, hsmall (by decide), hsmall (by decide), trivial⟩
    exact not_hasLongRun (by decide)
  obtain ⟨-, -, hfaults, -⟩ := build_checks hordinary none
  have hbuild : build none (.text "C") (.int 3) (.int 2) .none = .error (.boundsOrder "3" "2") := by
    decide +kernel
  obtain ⟨hclass, hfirst⟩ := hfaults _ hbuild
  have horder : Check.order.IsFirstViolated threeToTwo :=
    (hfirst .order).mpr
      ⟨.category, ". lower was (3) and upper was (2)", .inr (.letter .category), rfl⟩
  obtain ⟨k, rest, -, hmessage⟩ := (hfirst .order).mp horder
  have hresult : ¬Check.result.Passes threeToTwo := by
    rintro ⟨d, hd, -⟩
    cases hd
  exact ⟨hordinary, hresult, horder, _, hbuild, hclass, rest, hmessage⟩

/-! ## Values that messages cannot show -/

/-- A list in so many others. -/
def nestedLists : Nat → Value
  | 0 => .list []
  | n + 1 => .list [nestedLists n]

theorem shownIn_nestedLists [StandIns] (depth : Nat) :
    (nestedLists depth).shownIn depth = .error .tooDeep := by
  induction depth with
  | zero =>
    rw [nestedLists, Value.shownIn]
    rfl
  | succ depth ih =>
    rw [nestedLists, Value.shownIn, Value.insideOf, Value.shownItems, ih]
    rfl

/-- A value that is no kind is the fault where messages can show it, and else the reason why they
cannot. -/
theorem build_of_unshown [StandIns] {kind : Value} {reason : Unshown}
    (h : kind.shown = .error reason) (hkind : ∀ k, kind ≠ .kind k) (htext : ∀ s, kind ≠ .text s)
    (id : Option String) (lower upper result : Value) :
    build id kind lower upper result = .error reason.fault := by
  have hgiven : givenText kind = .error reason.fault := by
    rw [givenText, h]
  have hargument : kindArgument kind = .error reason.fault := by
    unfold kindArgument
    split
    · exact absurd rfl (hkind _)
    · exact absurd rfl (htext _)
    · rw [hgiven, error_bind]
  rw [build, hargument, error_bind]

/-- The rule of the shortest power of ten of years that is beyond arithmetic. -/
def millionDigits : Rule :=
  longRule (some "0f0f") (show 400 ≤ 10 ^ 6 by decide)

/-- In the place of a kind, a rule of years beyond arithmetic is no fault of validation, and neither
is a list inside too many others. -/
theorem build_millionDigits_nestedLists :
    build none (.rule millionDigits) (.int 1) (.int 2) (.text "P1D") = .error .decimalTooLarge ∧
      Fault.decimalTooLarge.faultClass ≠ .validation ∧
      build none (nestedLists Value.depthLimit) (.int 1) (.int 2) (.text "P1D") =
        .error .shownTooDeep ∧
      Fault.shownTooDeep.faultClass ≠ .validation := by
  have hlong : (Value.rule millionDigits).shown = .error .decimalTooLarge := by
    have hshort : millionDigits.interval.hasShortNumbers = true := by decide +kernel
    have hwritable : millionDigits.isWritable = false := isWritable_longRule _ _ (by decide)
    rw [Value.shown_rule, unshown?, hshort, if_neg (by decide), hwritable]
    rfl
  have hdeep : (nestedLists Value.depthLimit).shown = .error .tooDeep :=
    shownIn_nestedLists Value.depthLimit
  have hlist : nestedLists Value.depthLimit = .list [nestedLists 979] := rfl
  refine ⟨build_of_unshown hlong nofun nofun _ _ _ _, by decide, ?_, by decide⟩
  rw [hlist] at hdeep ⊢
  exact build_of_unshown hdeep nofun nofun _ _ _ _

end Rule

end TieredTerms
