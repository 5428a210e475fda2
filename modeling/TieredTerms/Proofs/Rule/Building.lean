import TieredTerms.Rule.Build
import TieredTerms.Proofs.Duration.Projected
import TieredTerms.Proofs.Outcome

/-!
# What rules are built of

A rule is built of values that were checked.  Where the structured durations among them are of
moderate size, every projection of the rule is a number or an infinity, and what was checked is the
order of the projections.

* `Rule.Made` are the rules that can be handed in: built of such values, or cloned.
* `Rule.Made.ordered` is the order of their bounds and the sign of their result.
-/

namespace TieredTerms

/-! ## Arguments -/

/-- A structured duration among the arguments has a projection. -/
def Value.Projects (v : Value) : Prop :=
  ∀ d, v.asDuration? = some d → d.HasProjection

/-- A structured duration among the arguments is of moderate size. -/
def Value.IsModerate (v : Value) : Prop :=
  ∀ d, v.asDuration? = some d → d.IsModerate

theorem Value.IsModerate.projects {v : Value} (h : v.IsModerate) : v.Projects :=
  fun d hd => (h d hd).hasProjection

theorem Value.projects_text (s : String) : (Value.text s).Projects := by
  intro d hd
  cases hd

/-- A text that gives a duration stands for it. -/
theorem Duration.parse?_of_read {s : String} {d : Duration} (h : read s = .ok d) :
    parse? s = some d :=
  (read_eq_ok.mp h).1

/-- The duration of an argument is the value itself or stands in its text. -/
theorem durationArgument_eq_ok [StandIns] {ordinal : String} {v : Value} {d : BoundDuration}
    (h : durationArgument ordinal v = .ok d) :
    v.asDuration? = some d.val ∨ ∃ s, v.asText? = some s ∧ Duration.read s = .ok d.val := by
  rw [durationArgument] at h
  obtain ⟨given, -, h⟩ := bind_eq_ok.mp h
  have hchecked {e : Duration} (he : (if h : e.isNegative = false then
      (.ok ⟨e, h⟩ : Except Fault BoundDuration) else .error (.durationArgument ordinal given)) =
        .ok d) : e = d.val := by
    split_ifs at he
    cases he
    rfl
  cases hstructured : v.asDuration? with
  | some e =>
    simp only [hstructured] at h
    exact .inl (congrArg some (hchecked h))
  | none =>
    cases htext : v.asText? with
    | none =>
      simp only [hstructured, htext] at h
      cases h
    | some s =>
      cases hread : Duration.read s with
      | error fault =>
        simp only [hstructured, htext, hread] at h
        cases fault <;> cases h
      | ok e =>
        simp only [hstructured, htext, hread] at h
        exact .inr ⟨s, rfl, hread.trans (congrArg Except.ok (hchecked h))⟩

/-- A duration that messages can show and that is not below zero is an argument as it is. -/
theorem durationArgument_duration [StandIns] (ordinal : String) {d : Duration} {shown : String}
    (hshown : d.shown? = some shown) (h : d.isNegative = false) :
    durationArgument ordinal (.duration d) = .ok ⟨d, h⟩ := by
  have hgiven : ∃ given, givenText (.duration d) = .ok given := by
    rw [givenText, Value.shown_duration, hshown]
    exact ⟨_, rfl⟩
  obtain ⟨given, hgiven⟩ := hgiven
  rw [durationArgument, hgiven]
  simp [Value.asDuration?, h]

theorem hasProjection_of_durationArgument [StandIns] {ordinal : String} {v : Value}
    {d : BoundDuration}
    (hv : v.Projects) (h : durationArgument ordinal v = .ok d) : d.val.HasProjection := by
  rcases durationArgument_eq_ok h with hstructured | ⟨s, -, hread⟩
  · exact hv _ hstructured
  · exact Duration.hasProjection_of_parse? (Duration.parse?_of_read hread)

/-! ## Rules with projections -/

/-- The bounds are no durations, or durations with projections. -/
def Interval.HasProjections : Interval → Prop
  | .category .. => True
  | .duration lower upper .. => lower.HasProjection ∧ upper.HasProjection

namespace Rule

/-- Every duration of the rule has a projection. -/
structure HasProjections (r : Rule) : Prop where
  interval : r.interval.HasProjections
  result : r.result.HasProjection

/-- The lower bound of a category rule is the integer of its argument. -/
theorem lowerCategory_eq_ok [StandIns] {v : Value} {m : Nat} {hm : 0 < m}
    (h : lowerCategory v = .ok ⟨m, hm⟩) : v.asCategory? = some (m : Int) := by
  rw [lowerCategory] at h
  split at h
  · next n hn =>
    split_ifs at h with hpos
    · cases h
      rw [hn, Int.toNat_of_nonneg (by omega)]
    · obtain ⟨given, -, h⟩ := bind_eq_ok.mp h
      cases h
  · obtain ⟨given, -, h⟩ := bind_eq_ok.mp h
    cases h

/-- The upper bound of a category rule is the integer of its argument. -/
theorem upperCategory_eq_ok [StandIns] {v : Value} {m : Nat} (h : upperCategory v = .ok m) :
    v.asCategory? = some (m : Int) := by
  rw [upperCategory] at h
  split at h
  · next n hn =>
    split_ifs at h with hnonneg
    · cases h
      rw [hn, Int.toNat_of_nonneg hnonneg]
    · obtain ⟨given, -, h⟩ := bind_eq_ok.mp h
      cases h
  · obtain ⟨given, -, h⟩ := bind_eq_ok.mp h
    cases h

/-- The interval of category bounds has these bounds. -/
theorem intervalOf_category_eq_ok [StandIns] {lower upper : Value} {interval : Interval}
    (h : intervalOf .category lower upper = .ok interval) :
    ∃ l u lower_pos ordered, lowerCategory lower = .ok ⟨l, lower_pos⟩ ∧
      upperCategory upper = .ok u ∧ interval = .category l u lower_pos ordered := by
  rw [intervalOf] at h
  obtain ⟨⟨l, lower_pos⟩, hlower, h⟩ := bind_eq_ok.mp h
  obtain ⟨u, hupper, h⟩ := bind_eq_ok.mp h
  split_ifs at h with ordered
  cases h
  exact ⟨l, u, lower_pos, ordered, hlower, hupper, rfl⟩

/-- The interval of durations has the durations of its arguments as bounds. -/
theorem intervalOf_duration_eq_ok [StandIns] {lower upper : Value} {interval : Interval}
    (h : intervalOf .duration lower upper = .ok interval) :
    ∃ l u lower_valid upper_valid ordered,
      durationArgument "second" lower = .ok ⟨l, lower_valid⟩ ∧
      durationArgument "third" upper = .ok ⟨u, upper_valid⟩ ∧
      interval = .duration l u lower_valid upper_valid ordered := by
  rw [intervalOf] at h
  obtain ⟨⟨l, lower_valid⟩, hlower, h⟩ := bind_eq_ok.mp h
  obtain ⟨⟨u, upper_valid⟩, hupper, h⟩ := bind_eq_ok.mp h
  dsimp only at h
  split_ifs at h with ordered
  · cases h
    exact ⟨l, u, lower_valid, upper_valid, ordered, hlower, hupper, rfl⟩
  · obtain ⟨_, -, h⟩ := bind_eq_ok.mp h
    obtain ⟨_, -, h⟩ := bind_eq_ok.mp h
    cases h

/-- The interval is of the kind that it was built for. -/
theorem kind_of_intervalOf [StandIns] {kind : Kind} {lower upper : Value} {interval : Interval}
    (h : intervalOf kind lower upper = .ok interval) : interval.kind = kind := by
  cases kind with
  | category =>
    obtain ⟨l, u, lower_pos, ordered, -, -, rfl⟩ := intervalOf_category_eq_ok h
    rfl
  | duration =>
    obtain ⟨l, u, lower_valid, upper_valid, ordered, -, -, rfl⟩ := intervalOf_duration_eq_ok h
    rfl

private theorem hasProjections_intervalOf [StandIns] {kind : Kind} {lower upper : Value}
    (hlower : lower.Projects) (hupper : upper.Projects) {interval : Interval}
    (h : intervalOf kind lower upper = .ok interval) : interval.HasProjections := by
  cases kind with
  | category =>
    obtain ⟨l, u, lower_pos, ordered, -, -, rfl⟩ := intervalOf_category_eq_ok h
    trivial
  | duration =>
    obtain ⟨l, u, lower_valid, upper_valid, ordered, hlowerArgument, hupperArgument, rfl⟩ :=
      intervalOf_duration_eq_ok h
    exact ⟨hasProjection_of_durationArgument hlower hlowerArgument,
      hasProjection_of_durationArgument hupper hupperArgument⟩

/-- A rule that is built has the interval and the result of its arguments. -/
theorem build_eq_ok [StandIns] {id : Option String} {kind lower upper result : Value} {r : Rule}
    (h : build id kind lower upper result = .ok r) :
    ∃ k, kindArgument kind = .ok k ∧ intervalOf k lower upper = .ok r.interval ∧
      durationArgument "fourth" result = .ok ⟨r.result, r.result_valid⟩ ∧ r.id = id := by
  rw [build] at h
  obtain ⟨k, hkind, h⟩ := bind_eq_ok.mp h
  obtain ⟨interval, hinterval, h⟩ := bind_eq_ok.mp h
  obtain ⟨⟨d, hd⟩, hresult, h⟩ := bind_eq_ok.mp h
  cases h
  exact ⟨k, hkind, hinterval, hresult, rfl⟩

theorem hasProjections_build [StandIns] {id : Option String} {kind lower upper result : Value}
    {r : Rule} (hlower : lower.Projects) (hupper : upper.Projects) (hresult : result.Projects)
    (h : build id kind lower upper result = .ok r) : r.HasProjections := by
  obtain ⟨k, -, hinterval, hargument, -⟩ := build_eq_ok h
  exact ⟨hasProjections_intervalOf hlower hupper hinterval,
    hasProjection_of_durationArgument hresult hargument⟩

/-- A rule built anew has projections where the first one has. -/
theorem HasProjections.clone [StandIns] {id : Option String} {r s : Rule} (hr : r.HasProjections)
    (h : r.clone id = .ok s) : s.HasProjections := by
  have hinterval := hr.interval
  refine hasProjections_build ?_ ?_ ?_ h
  · intro d hd
    rw [lowerValue] at hd
    cases hbounds : r.interval <;> rw [hbounds] at hd hinterval <;> cases hd
    exact hinterval.1
  · intro d hd
    rw [upperValue] at hd
    cases hbounds : r.interval <;> rw [hbounds] at hd hinterval <;> cases hd
    exact hinterval.2
  · intro d hd
    cases hd
    exact hr.result

/-- A rule of a compact form has projections, since it is built of texts and numbers. -/
theorem hasProjections_parse [StandIns] {id : Option String} {text : String} {r : Rule}
    (h : parse id text = .ok r) : r.HasProjections := by
  obtain ⟨tokens, -, hbuilt⟩ := bind_eq_ok.mp h
  have htoken (token : Token) : token.toValue.Projects := by
    cases token with
    | number n =>
      intro d hd
      cases hd
    | text s => exact Value.projects_text s
  exact hasProjections_build (htoken _) (htoken _) (Value.projects_text _) hbuilt

/-! ## Rules that can be handed in -/

/-- The rules that the constructors give: built of four values whose structured durations are of
moderate size, read from a compact form, or built anew from such a rule. -/
inductive Made [StandIns] : Rule → Prop
  | built {id : Option String} {kind lower upper result : Value} {r : Rule}
      (hlower : lower.IsModerate) (hupper : upper.IsModerate) (hresult : result.IsModerate)
      (h : build id kind lower upper result = .ok r) : Made r
  | parsed {id : Option String} {text : String} {r : Rule} (h : parse id text = .ok r) : Made r
  | cloned {id : Option String} {r s : Rule} (hr : Made r) (h : r.clone id = .ok s) : Made s

theorem Made.hasProjections [StandIns] {r : Rule} (h : r.Made) : r.HasProjections := by
  induction h with
  | built hlower hupper hresult h =>
    exact hasProjections_build hlower.projects hupper.projects hresult.projects h
  | parsed h => exact hasProjections_parse h
  | cloned _ h ih => exact ih.clone h

end Rule

/-- The order of the bounds: whole numbers from one on, or durations of which none is below
zero; an upper bound is zero or at least the lower one. -/
def Interval.IsOrdered : Interval → Prop
  | .category lower upper .. => 1 ≤ lower ∧ (upper = 0 ∨ lower ≤ upper)
  | .duration lower upper .. =>
    (Binary64.zero false).le lower.seconds = true ∧
      (upper.isZero = true ∨ lower.seconds.le upper.seconds = true)

namespace Rule

/-- The order of the bounds, and a result that is not below zero. -/
structure IsOrdered (r : Rule) : Prop where
  interval : r.interval.IsOrdered
  result : (Binary64.zero false).le r.result.seconds = true

/-- What construction checked is an order where the projections are numbers or infinities. -/
theorem HasProjections.isOrdered {r : Rule} (h : r.HasProjections) : r.IsOrdered := by
  have hinterval := h.interval
  constructor
  · cases hbounds : r.interval with
    | category lower upper lower_pos ordered => exact ⟨lower_pos, ordered⟩
    | duration lower upper lower_valid upper_valid ordered =>
      rw [hbounds] at hinterval
      refine ⟨Binary64.le_of_lt_eq_false (by simp [Binary64.zero]) hinterval.1 lower_valid, ?_⟩
      exact ordered.imp_right (Binary64.le_of_lt_eq_false hinterval.1 hinterval.2)
  · exact Binary64.le_of_lt_eq_false (by simp [Binary64.zero]) h.result r.result_valid

end Rule

end TieredTerms
