import TieredTerms.Inquiry
import TieredTerms.Proofs.RuleTable.FirstMatch
import TieredTerms.Proofs.RuleTable.Ids
import TieredTerms.Proofs.RuleTable.LongYears

/-!
# Look-ups from text

A look-up that is asked for in texts: one for the table and one for the value.  The answer is about
the first rule that covers the integer, and tells of it what the listing of all rules tells.

* `StandsFor` are the texts of integers, `Rule.Covers` is membership as written in the rule.
* `Inquiry.answer_find` and `Inquiry.answer_show` are the two answers about a table that is loaded.
* `Inquiry.find_and_show` puts them together.
-/

namespace TieredTerms

/-! ## Texts of integers -/

/-- A row of digits of any script, no longer than readers take. -/
structure IsNumeral (digits : List Char) : Prop where
  nonempty : digits ≠ []
  short : digits.length ≤ digitLimit
  digits : digits.all isDigit = true

/-- A text stands for an integer: apart from blanks at its ends it is a numeral with or without a
sign. -/
inductive StandsFor (text : String) : Int → Prop where
  | unsigned {digits : List Char} (h : IsNumeral digits)
      (htext : stripChars text.toList = digits) : StandsFor text (digitsValue digits)
  | plus {digits : List Char} (h : IsNumeral digits)
      (htext : stripChars text.toList = '+' :: digits) : StandsFor text (digitsValue digits)
  | minus {digits : List Char} (h : IsNumeral digits)
      (htext : stripChars text.toList = '-' :: digits) : StandsFor text (-digitsValue digits)

private theorem ofDigits?_of_isNumeral (negative : Bool) {digits : List Char}
    (h : IsNumeral digits) :
    IntegerText.ofChars?.ofDigits? negative digits = some ⟨negative, digits⟩ := by
  rw [IntegerText.ofChars?.ofDigits?, h.digits]
  simp [h.nonempty]

/-- The text of an integer is looked up as the integer. -/
theorem parseLookup_of_standsFor {text : String} {n : Int} (h : StandsFor text n) :
    parseLookup text = .ok (.int n) := by
  rw [parseLookup, strip, String.toList_ofList]
  cases h with
  | unsigned h htext =>
    rw [htext, ofChars?_of_digits h.nonempty h.digits]
    simp [not_lt.mpr h.short, IntegerText.value]
  | plus h htext =>
    rw [htext, IntegerText.ofChars?, ofDigits?_of_isNumeral false h]
    simp [not_lt.mpr h.short, IntegerText.value]
  | minus h htext =>
    rw [htext, IntegerText.ofChars?, ofDigits?_of_isNumeral true h]
    simp [not_lt.mpr h.short, IntegerText.value]

/-- A text without blanks that is no integer is looked up as it is. -/
theorem parseLookup_text {text : String} (hblank : text.toList.any isBlank = false)
    (hinteger : IntegerText.ofChars? text.toList = none) : parseLookup text = .ok (.text text) := by
  have hstrip : strip text = text := by
    have hnone : ∀ c ∈ text.toList, isBlank c = false := by simpa using hblank
    rw [strip, stripChars_of_not_blank hnone, String.ofList_toList]
  rw [parseLookup, hstrip, hinteger]

/-- A text that is an integer of more digits than readers take. -/
def IsOverlong (text : String) : Prop :=
  ∃ written, IntegerText.ofChars? (stripChars text.toList) = some written ∧
    digitLimit < written.digits.length

/-- A text is looked up unless it is an integer of too many digits. -/
theorem parseLookup_cases (text : String) :
    (¬IsOverlong text ∧ ∃ value, parseLookup text = .ok value) ∨
      IsOverlong text ∧ ∃ count, digitLimit < count ∧
        parseLookup text = .error (.tooManyDigits count) := by
  rw [parseLookup, strip, String.toList_ofList, IsOverlong]
  cases hread : IntegerText.ofChars? (stripChars text.toList) with
  | none => exact .inl ⟨by simp, _, rfl⟩
  | some written =>
    by_cases hlong : digitLimit < written.digits.length
    · exact .inr ⟨⟨written, rfl, hlong⟩, _, hlong, by simp [hlong]⟩
    · exact .inl ⟨by simp [hlong], .int written.value, by simp [hlong]⟩

/-! ## Rules that cover an integer -/

/-- A category rule covers the integers from its lower bound up to its upper bound, and all from
its lower bound up where the upper bound is zero. -/
def Rule.Covers (r : Rule) (n : Int) : Prop :=
  ∃ lower upper lower_pos ordered, r.interval = .category lower upper lower_pos ordered ∧
    (lower : Int) ≤ n ∧ (upper = 0 ∨ n ≤ upper)

/-- A category rule holds for the integers that it covers. -/
theorem Rule.holdsFor_int [StandIns] {r : Rule} (h : r.kind = .category) (n : Int) :
    (r.holdsFor (.int n) = .ok true ↔ r.Covers n) ∧
      (r.holdsFor (.int n) = .ok false ↔ ¬r.Covers n) := by
  have hholds : r.interval.holds (.category n) = true ↔ r.Covers n := by
    rw [Rule.kind] at h
    rw [Rule.Covers]
    cases hr : r.interval with
    | category lower upper lower_pos ordered => simp [Interval.holds, lower_pos, ordered]
    | duration lower upper lower_valid upper_valid ordered =>
      rw [hr] at h
      cases h
  have hfor : r.holdsFor (.int n) = .ok (r.interval.holds (.category n)) :=
    Rule.holdsFor_of_kind (w := .category n) h
  rw [hfor, ← hholds, Except.ok.injEq, Except.ok.injEq, Bool.not_eq_true]
  exact ⟨Iff.rfl, Iff.rfl⟩

namespace RuleTable

/-- The first rule of the table that covers an integer, with its index. -/
structure IsFirstCovering (t : RuleTable) (n : Int) (i : Nat) (r : Rule) : Prop where
  stored : t.rules[i]? = some r
  covers : r.Covers n
  first : ∀ j < i, ∀ s, t.rules[j]? = some s → ¬s.Covers n

/-- An integer is looked up in a table of categories as the first rule that covers it. -/
theorem find_int [StandIns] {t : RuleTable} (hkind : t.kind? = some .category) (n : Int) :
    ((∀ r ∈ t.rules, ¬r.Covers n) ∧ t.find (.int n) = .ok none) ∨
      ∃ i r, t.IsFirstCovering n i r ∧ t.find (.int n) = .ok (some ⟨i, r⟩) := by
  have hrules {r : Rule} (hr : r ∈ t.rules) : r.kind = .category := by
    rw [kind?_of_mem hr, Option.some.injEq] at hkind
    exact hkind
  obtain ⟨found, hfind, hsome, hnone⟩ := find_of_kind (.category n) hkind
  cases found with
  | none =>
    refine .inl ⟨fun r hr => ?_, hfind⟩
    exact (Rule.holdsFor_int (hrules hr) n).2.mp (hnone.mp rfl r hr)
  | some f =>
    obtain ⟨hstored, hholds, hfirst⟩ := hsome f rfl
    refine .inr ⟨f.index, f.rule, ⟨hstored, ?_, ?_⟩, hfind⟩
    · exact (Rule.holdsFor_int (hrules (List.mem_of_getElem? hstored)) n).1.mp hholds
    · intro j hj s hs
      exact (Rule.holdsFor_int (hrules (List.mem_of_getElem? hs)) n).2.mp (hfirst j hj s hs)

end RuleTable

/-! ## What answers tell of a rule -/

/-- The fields without the id of a rule. -/
def Fields.withoutId (fields : Fields) : Fields :=
  fields.filter fun field => field.1 != "id"

/-- Rules that differ in ids only are told of in the same way, apart from the ids. -/
theorem Rule.withoutId_describe {r s : Rule} (h : r.withoutId = s.withoutId) (index : Datum) :
    Fields.withoutId (r.describe index) = Fields.withoutId (s.describe index) := by
  have herase (r : Rule) :
      Fields.withoutId (r.describe index) = Fields.withoutId (r.withoutId.describe index) := by
    simp [Fields.withoutId, describe, withoutId, compact, compactChars, kind, isUnbounded]
  rw [herase r, herase s, h]

namespace RuleTable

/-- A listing of the rules of a table: one entry for each, in order, with its index.  The ids are
those of another reading. -/
structure ListedBy (t : RuleTable) (periods : List Datum) : Prop where
  count : periods.length = t.size
  entry : ∀ (i : Nat) (r : Rule), t.rules[i]? = some r →
    ∃ fields : Fields, periods[i]? = some (Datum.object fields) ∧
      Fields.withoutId fields = Fields.withoutId (r.describe (.int i))

/-- Tables that differ in ids only list the same rules. -/
theorem listedBy_described {t u : RuleTable} (h : t.withoutIds = u.withoutIds) :
    t.ListedBy (Inquiry.described u) := by
  have hrules : t.rules.map Rule.withoutId = u.rules.map Rule.withoutId := congrArg rules h
  constructor
  · rw [Inquiry.described, List.length_map, List.length_zipIdx, size]
    simpa using (congrArg List.length hrules).symm
  · intro i r hr
    have hmapped : (u.rules.map Rule.withoutId)[i]? = some r.withoutId := by
      rw [← hrules, List.getElem?_map, hr]
      rfl
    rw [List.getElem?_map, Option.map_eq_some_iff] at hmapped
    obtain ⟨s, hs, hrs⟩ := hmapped
    refine ⟨s.describe (.int i), ?_, Rule.withoutId_describe hrs _⟩
    rw [Inquiry.described, List.getElem?_map, List.getElem?_zipIdx, hs]
    simp

end RuleTable

/-! ## Answers -/

namespace Inquiry

variable {ids ids' : IdSource} {configured : String} {q : Inquiry} {t : RuleTable}

/-- The table of an inquiry is the same apart from its ids, whatever these are. -/
theorem withoutIds_load [StandIns] (q : Inquiry) (ids ids' : IdSource) (configured : String) :
    RuleTable.withoutIds <$> q.load ids configured =
      RuleTable.withoutIds <$> q.load ids' configured := by
  rw [load, load]
  cases q.source configured with
  | error fault => rfl
  | ok source =>
    obtain ⟨text, json⟩ := source
    cases json with
    | true => exact RuleTable.withoutIds_parseJson ids ids' text
    | false => exact RuleTable.withoutIds_parse ids ids' text

/-- A table that is loaded is loaded with any other ids. -/
theorem load_withoutIds [StandIns] (ids' : IdSource) (h : q.load ids configured = .ok t) :
    ∃ u, q.load ids' configured = .ok u ∧ u.withoutIds = t.withoutIds := by
  have hload := withoutIds_load q ids' ids configured
  rw [h, ok_map] at hload
  exact map_eq_ok.mp hload

/-- The value of a look-up is what its text is read as. -/
theorem lookup_find (q : Inquiry) (text : String) :
    { q with question := .find text }.lookup = parseLookup text := rfl

/-- The table of an inquiry does not depend on the question. -/
theorem load_question [StandIns] (q : Inquiry) (question : Question) (ids : IdSource)
    (configured : String) : { q with question }.load ids configured = q.load ids configured := rfl

/-- A look-up of an integer is answered with the first rule that covers it, if the rule can be
written, and without a match where no rule covers it. -/
theorem answer_find [StandIns] (hload : q.load ids configured = .ok t) {text : String} {n : Int}
    (htext : StandsFor text n) (hkind : t.kind? = some .category) :
    ((∀ r ∈ t.rules, ¬r.Covers n) ∧
      { q with question := .find text }.answer ids configured =
        .ok (.success "find" [("value", .text text), ("matched", .bool false)]
          ["No period matches " ++ text])) ∨
    ∃ i r, t.IsFirstCovering n i r ∧
      { q with question := .find text }.answer ids configured =
        if r.isWritable then
          .ok (.success "find"
            (("value", .text text) :: ("matched", .bool true) :: r.describe (.int i)) [])
        else .error .decimalTooLarge := by
  have hanswer : { q with question := .find text }.answer ids configured =
      { q with question := .find text }.report
        (answerAbout { q with question := .find text } (.int n) t) := by
    rw [answer, lookup_find, parseLookup_of_standsFor htext, ok_bind, load_question, hload, ok_bind]
  rcases t.find_int hkind n with ⟨hnone, hfind⟩ | ⟨i, r, hfirst, hfind⟩
  · refine .inl ⟨hnone, ?_⟩
    rw [hanswer, answerAbout]
    simp only [hfind, ok_bind]
    rfl
  · refine .inr ⟨i, r, hfirst, ?_⟩
    rw [hanswer, answerAbout]
    simp only [hfind, ok_bind, ifWritable, Option.all_some]
    split_ifs <;> rfl

/-- What a look-up of any text found is a rule of the table, and the answer tells of it. -/
theorem answer_find_matched [StandIns] (hload : q.load ids configured = .ok t) {text : String}
    {a : Answer} (h : { q with question := .find text }.answer ids configured = .ok a)
    (hmatched : Fields.get? a.data "matched" = some (.bool true)) :
    ∃ (i : Nat) (r : Rule), t.rules[i]? = some r ∧
      a.data = ("value", .text text) :: ("matched", .bool true) :: r.describe (.int i) := by
  obtain ⟨value, -, hreport⟩ := bind_eq_ok.mp h
  rw [load_question, hload, ok_bind, answerAbout] at hreport
  cases hfind : t.find value with
  | error fault =>
    -- A fault that is reported has no data.
    simp only [hfind, error_bind, report] at hreport
    split_ifs at hreport
    cases hreport
    cases hmatched
  | ok found =>
    simp only [hfind, ok_bind, ifWritable] at hreport
    split_ifs at hreport
    · cases hreport
      cases found with
      | none => simp [findAnswer, Answer.success, Fields.get?] at hmatched
      | some f => exact ⟨f.index, f.rule, t.stored_of_find hfind, rfl⟩
    · cases hreport

/-- The listing of all rules, if all can be written. -/
theorem answer_show [StandIns] (hload : q.load ids configured = .ok t) (ids' : IdSource) :
    ∃ periods, t.ListedBy periods ∧
      { q with question := .show }.answer ids' configured =
        if t.isWritable then
          .ok (.success "show" [("count", .int t.size), ("periods", .array periods)] [])
        else .error .decimalTooLarge := by
  obtain ⟨u, hu, hids⟩ := load_withoutIds ids' hload
  have hsize : u.size = t.size := by
    rw [← u.size_withoutIds, hids, t.size_withoutIds]
  have hwritable : u.isWritable = t.isWritable := by
    rw [← u.isWritable_withoutIds, hids, t.isWritable_withoutIds]
  refine ⟨described u, t.listedBy_described hids.symm, ?_⟩
  rw [answer, lookup, ok_bind, load_question, hu, ok_bind, answerAbout]
  simp only [ifWritable, hwritable, showAnswer, hsize]
  split_ifs <;> rfl

/-- Look-ups and the listing of a table that is loaded from text.  The look-up of an integer in a
table of categories is answered with the first rule that covers it, or without a match and with one
warning where no rule covers it; the listing has every rule once, in order.  Both succeed where the
rules that they show can be written, and only there.  What a look-up of any text tells of the rule
that it found is what the listing tells at the same index, apart from the id. -/
theorem find_and_show [StandIns] (ids ids' : IdSource) (configured : String) (q : Inquiry)
    (t : RuleTable) (hload : q.load ids configured = .ok t) :
    (∀ text n, StandsFor text n → t.kind? = some .category →
      ((∀ r ∈ t.rules, ¬r.Covers n) ∧
        { q with question := .find text }.answer ids configured =
          .ok (.success "find" [("value", .text text), ("matched", .bool false)]
            ["No period matches " ++ text])) ∨
      ∃ i r, t.IsFirstCovering n i r ∧
        { q with question := .find text }.answer ids configured =
          if r.isWritable then
            .ok (.success "find"
              (("value", .text text) :: ("matched", .bool true) :: r.describe (.int i)) [])
          else .error .decimalTooLarge) ∧
    ∃ periods, t.ListedBy periods ∧
      { q with question := .show }.answer ids' configured =
        (if t.isWritable then
          .ok (.success "show" [("count", .int t.size), ("periods", .array periods)] [])
        else .error .decimalTooLarge) ∧
      ∀ text a, { q with question := .find text }.answer ids configured = .ok a →
        Fields.get? a.data "matched" = some (.bool true) →
        ∃ (i : Nat) (found entry : Fields),
          a.data = ("value", .text text) :: ("matched", .bool true) :: found ∧
          Fields.get? found "index" = some (.int i) ∧
          periods[i]? = some (Datum.object entry) ∧
          Fields.withoutId found = Fields.withoutId entry := by
  refine ⟨fun text n htext hkind => answer_find hload htext hkind, ?_⟩
  obtain ⟨periods, hlisted, hshow⟩ := answer_show hload ids'
  refine ⟨periods, hlisted, hshow, ?_⟩
  intro text a ha hmatched
  obtain ⟨i, r, hstored, hdata⟩ := answer_find_matched hload ha hmatched
  obtain ⟨entry, hentry, hsame⟩ := hlisted.entry i r hstored
  exact ⟨i, r.describe (.int i), entry, hdata, rfl, hentry, hsame.symm⟩

/-- Two rules: twenty days for eleven to fifteen, thirty days for twenty-one and more. -/
def tiers : RuleTable where
  rules :=
    [{ interval := .category 11 15 (by decide) (by decide)
       result := .clock ⟨20 * microsPerDay, by decide, by decide⟩
       id := some (ruleIdOf 0)
       result_valid := by decide +kernel },
     { interval := .category 21 0 (by decide) (by decide)
       result := .clock ⟨30 * microsPerDay, by decide, by decide⟩
       id := some (ruleIdOf 1)
       result_valid := by decide +kernel }]
  uniform := by simp [Rule.kind, Interval.kind]

/-- The listing of the two rules, which come as a text. -/
def tiersListing : Inquiry :=
  { question := .show, rules := some "C11-15P20D,C21-0P30D", fromJson := false }

theorem find_and_show_tiers :
    tiersListing.load ruleIdOf "" = .ok tiers ∧ StandsFor " +26 " 26 ∧
      tiers.kind? = some .category ∧
      (((∀ r ∈ tiers.rules, ¬r.Covers 26) ∧
        { tiersListing with question := .find " +26 " }.answer ruleIdOf "" =
          .ok (.success "find" [("value", .text " +26 "), ("matched", .bool false)]
            ["No period matches " ++ " +26 "])) ∨
      ∃ i r, tiers.IsFirstCovering 26 i r ∧
        { tiersListing with question := .find " +26 " }.answer ruleIdOf "" =
          if r.isWritable then
            .ok (.success "find"
              (("value", .text " +26 ") :: ("matched", .bool true) :: r.describe (.int i)) [])
          else .error .decimalTooLarge) ∧
      ∃ a, { tiersListing with question := .find " +26 " }.answer ruleIdOf "" = .ok a ∧
        Fields.get? a.data "matched" = some (.bool true) ∧
        ∃ periods, tiers.ListedBy periods ∧ ∃ (i : Nat) (found entry : Fields),
          a.data = ("value", .text " +26 ") :: ("matched", .bool true) :: found ∧
          Fields.get? found "index" = some (.int i) ∧
          periods[i]? = some (Datum.object entry) ∧
          Fields.withoutId found = Fields.withoutId entry := by
  have hload : tiersListing.load ruleIdOf "" = .ok tiers := by decide +kernel
  have htext : StandsFor " +26 " 26 :=
    have hdigits : IsNumeral ['2', '6'] := ⟨by decide, by decide, by decide⟩
    .plus hdigits (by decide +kernel)
  obtain ⟨hfind, periods, hlisted, -, hsame⟩ :=
    find_and_show ruleIdOf ruleIdOf "" tiersListing tiers hload
  have hanswer : ∃ a, { tiersListing with question := .find " +26 " }.answer ruleIdOf "" = .ok a ∧
      Fields.get? a.data "matched" = some (.bool true) := by
    rw [answer, load_question, hload]
    exact ⟨_, rfl, rfl⟩
  obtain ⟨a, ha, hmatched⟩ := hanswer
  exact ⟨hload, htext, rfl, hfind _ 26 htext rfl, a, ha, hmatched, periods, hlisted,
    hsame _ a ha hmatched⟩

/-- The look-up of eight in a table whose only rule gives so many years. -/
def longLookup (count : Nat) : Inquiry :=
  { question := .find "8", rules := some (longForm count), fromJson := false }

private theorem standsFor_eight : StandsFor "8" 8 := by
  have hdigits : IsNumeral ['8'] := ⟨by decide, by decide, by decide⟩
  exact .unsigned hdigits (by decide +kernel)

private theorem answer_longLookup [StandIns] {count : Nat}
    (hcount : Decimal.largestExponent < count) :
    ∃ t, (longLookup count).load ruleIdOf "" = .ok t ∧ t.kind? = some .category ∧
      (∃ r ∈ t.rules, r.Covers 8) ∧
      (longLookup count).answer ruleIdOf "" = .error .decimalTooLarge := by
  have hlong : 400 ≤ count := by
    rw [Decimal.largestExponent] at hcount
    omega
  let r := longRule (some (ruleIdOf 0)) hlong
  have hload : (longLookup count).load ruleIdOf "" = .ok (.singleton r) :=
    RuleTable.parse_longForm ruleIdOf hlong
  have hcovers : r.Covers 8 := ⟨7, 9, by decide, by decide, rfl, by decide, by decide⟩
  refine ⟨.singleton r, hload, rfl, ⟨r, List.mem_singleton_self r, hcovers⟩, ?_⟩
  rcases answer_find hload standsFor_eight rfl with ⟨hnone, -⟩ | ⟨i, s, hfirst, hanswer⟩
  · exact absurd hcovers (hnone r (List.mem_singleton_self r))
  · have hs : s = r := List.mem_singleton.mp (List.mem_of_getElem? hfirst.stored)
    rw [hs, isWritable_longRule _ hlong hcount] at hanswer
    exact hanswer

/-- A look-up of an integer that a rule covers does not always succeed: the result of the rule may
be too large to be written. -/
theorem find_longYears :
    StandsFor "8" 8 ∧ ∃ t, (longLookup 1000000).load ruleIdOf "" = .ok t ∧
      t.kind? = some .category ∧ (∃ r ∈ t.rules, r.Covers 8) ∧
      ¬∃ a, (longLookup 1000000).answer ruleIdOf "" = .ok a := by
  obtain ⟨t, hload, hkind, hcovers, hanswer⟩ := answer_longLookup
    (show Decimal.largestExponent < (1000000 : Nat) by decide)
  refine ⟨standsFor_eight, t, hload, hkind, hcovers, ?_⟩
  rw [hanswer]
  rintro ⟨a, ha⟩
  cases ha

end Inquiry

end TieredTerms
