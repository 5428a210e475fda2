import TieredTerms.Proofs.Rule.Characters
import TieredTerms.Proofs.Screen.LoneUnits
import TieredTerms.Rule.Build

/-!
# Messages without lone units

A message about a fault shows what is wrong, in words around texts of its own.  Values are shown
between quotes or in digits, so that only a compact form that cannot be cut, which is shown as it
is, brings lone units into a message.

* `Fault.shownTexts` are the texts that a message shows, `Fault.isEncodable_message` tells that a
  message without lone units in them has none.
* `Duration.isEncodable_shown` is about durations as messages show them, `givenText_of_shown` about
  values with their types.
* `Json.isEncodable_reason` is about texts that are no JSON.
-/

namespace TieredTerms

theorem RuleChars.isEncodable [StandIns] {cs : List Char} (h : RuleChars cs) : IsEncodable cs :=
  h.unaltered.isEncodable

theorem isEncodable_natText [StandIns] (n : Nat) : IsEncodable (natText n).toList := by
  rw [natText, String.toList_ofList]
  exact (RuleChars.toDigits n).isEncodable

theorem isEncodable_intText [StandIns] (n : Int) : IsEncodable (intText n).toList :=
  (ruleChars_intText n).isEncodable

/-! ## Faults -/

namespace Fault

/-- The texts that the message about a fault shows. -/
def shownTexts : Fault → List String
  | .durationText text | .kindArgument text | .lowerArgument text | .upperArgument text
  | .boundMissing _ text | .resultMissing text | .tokensOf text | .categoryMatch text
  | .durationMatch text | .ruleComparison text | .tableComparison text | .stored text
  | .tableText text | .tableItems text | .tableItem text _ | .tableJson text | .lookupValue text
  | .indexType text | .placeType text => [text]
  | .durationArgument ordinal given => [ordinal, given]
  | .boundsOrder lower upper => [lower, upper]
  | .kindMismatch expected given => [expected.label, given.label]
  | .json fault => [fault.reason]
  | .tooDeep container => [container.word]
  | _ => []

theorem isEncodable_digitLimitText [StandIns] {detail : String} (h : IsEncodable detail.toList) :
    IsEncodable (digitLimitText detail).toList := by
  unfold digitLimitText
  rw [IsEncodable.toList_append, IsEncodable.toList_append]
  refine ⟨⟨?_, h⟩, ?_⟩
  all_goals
    apply IsEncodable.toList_ofList
    exact .of_all_isLow (by decide +kernel)

/-- The words of a message have no lone units. -/
theorem isEncodable_message [StandIns] {fault : Fault} (h : HasNoLoneUnits fault.shownTexts) :
    IsEncodable fault.message.toList := by
  cases fault
  all_goals
    simp only [shownTexts, HasNoLoneUnits.cons_iff, HasNoLoneUnits.nil, and_true] at h
    unfold message
    try simp only [Json.Malformed.message, IsEncodable.toList_append, isEncodable_natText, h,
      and_true, true_and]
  -- The words of these depend on more than the texts.
  case numberTooLong => exact isEncodable_digitLimitText (.of_all_isLow (by decide))
  case tooManyDigits =>
    refine isEncodable_digitLimitText ?_
    simp only [IsEncodable.toList_append, isEncodable_natText]
    exact ⟨⟨.of_all_isLow (by decide +kernel), trivial⟩, .of_all_isLow (by decide +kernel)⟩
  case notFinite reason => cases reason <;> exact .of_all_isLow (by decide +kernel)
  case decimalText reason => cases reason <;> exact .of_all_isLow (by decide +kernel)
  case daysOutOfRange days =>
    split_ifs
    · simp only [IsEncodable.toList_append, isEncodable_intText]
      exact ⟨⟨.of_all_isLow (by decide +kernel), trivial⟩, .of_all_isLow (by decide +kernel)⟩
    · exact .of_all_isLow (by decide +kernel)
  all_goals
    repeat' apply And.intro
  all_goals
    apply IsEncodable.toList_ofList
    exact .of_all_isLow (by decide +kernel)

end Fault

/-! ## Values -/

theorem isEncodable_intShown [StandIns] {n : Int} {shown : String} (h : intShown? n = some shown) :
    IsEncodable shown.toList := by
  unfold intShown? at h
  split_ifs at h
  cases h
  exact isEncodable_intText n

theorem Clock.isEncodable_shown [StandIns] (c : Clock) : IsEncodable c.shown.toList := by
  have hnames : ∀ part ∈ [("days", c.days), ("seconds", c.secondsOfDay),
      ("microseconds", c.microsOfSecond)], IsEncodable part.1.toList := by
    simp only [List.forall_mem_cons]
    exact ⟨.of_all_isLow (by decide), .of_all_isLow (by decide), .of_all_isLow (by decide), by simp⟩
  have hpart : ∀ part ∈ [("days", c.days), ("seconds", c.secondsOfDay),
      ("microseconds", c.microsOfSecond)],
      IsEncodable (part.1 ++ "=" ++ intText part.2).toList := by
    intro part hmem
    rw [IsEncodable.toList_append, IsEncodable.toList_append]
    exact ⟨⟨hnames part hmem, .of_all_isLow (by decide)⟩, isEncodable_intText _⟩
  unfold shown
  dsimp only
  rw [IsEncodable.toList_append, IsEncodable.toList_append]
  refine ⟨⟨.of_all_isLow (by decide), ?_⟩, .of_all_isLow (by decide)⟩
  split_ifs
  · exact .of_all_isLow (by decide)
  · refine .intercalate (.of_all_isLow (by decide)) (List.forall_mem_map.mpr fun part hmem => ?_)
    exact hpart part (List.mem_of_mem_filter hmem)

theorem Duration.isEncodable_shown [StandIns] {d : Duration} {shown : String}
    (h : d.shown? = some shown) : IsEncodable shown.toList := by
  cases d with
  | clock time =>
    cases h
    exact time.isEncodable_shown
  | calendar years months time =>
    unfold shown? at h
    simp only [Option.bind_eq_bind, Option.bind_eq_some_iff] at h
    obtain ⟨yearsShown, hyears, monthsShown, hmonths, h⟩ := h
    cases h
    have hparts : ∀ part ∈ [intText time.days, intText time.secondsOfDay,
        intText time.microsOfSecond, "years=" ++ yearsShown, "months=" ++ monthsShown],
        IsEncodable part.toList := by
      simp only [List.forall_mem_cons, IsEncodable.toList_append]
      exact ⟨isEncodable_intText _, isEncodable_intText _, isEncodable_intText _,
        ⟨.of_all_isLow (by decide), isEncodable_intShown hyears⟩,
        ⟨.of_all_isLow (by decide), isEncodable_intShown hmonths⟩,
        by simp⟩
    rw [IsEncodable.toList_append, IsEncodable.toList_append]
    exact ⟨⟨.of_all_isLow (by decide), .intercalate (.of_all_isLow (by decide)) hparts⟩,
      .of_all_isLow (by decide)⟩

theorem Duration.isEncodable_format [StandIns] (d : Duration) : IsEncodable d.format.toList :=
  d.ruleChars_format.isEncodable

theorem Value.isEncodable_typeName [StandIns] (v : Value) : IsEncodable v.typeName.toList := by
  fun_cases Value.typeName v <;> exact .of_all_isLow (by decide)

/-- A value is shown with its type. -/
theorem givenText_of_shown [StandIns] {v : Value} {shown : String} (h : v.shown = .ok shown)
    (hshown : IsEncodable shown.toList) :
    ∃ given, givenText v = .ok given ∧ IsEncodable given.toList := by
  rw [givenText, h]
  refine ⟨_, rfl, ?_⟩
  simp only [IsEncodable.toList_append]
  exact ⟨⟨⟨.of_all_isLow (by decide), v.isEncodable_typeName⟩, .of_all_isLow (by decide)⟩, hshown⟩

/-! ## JSON -/

/-- What is told of a text that is no JSON are the words for a reason and a place. -/
theorem Json.isEncodable_reason [StandIns] {text : String} {fault : Json.Malformed}
    (h : Json.parse text = .error (.malformed fault)) : IsEncodable fault.reason.toList := by
  have hreason (reason : Reason) : IsEncodable reason.text.toList := by
    cases reason <;> exact .of_all_isLow (by decide +kernel)
  unfold parse at h
  dsimp only at h
  split at h
  · cases h
  · next reason left _ =>
    cases h
    exact hreason reason
  · cases h
  · cases h

end TieredTerms
