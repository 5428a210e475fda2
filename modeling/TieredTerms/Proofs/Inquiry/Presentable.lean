import TieredTerms.Proofs.Duration.Spelling
import TieredTerms.Proofs.Inquiry.Canonical
import TieredTerms.Proofs.Report.Successes
import TieredTerms.Proofs.RuleTable.FirstMatch

/-!
# Answers that can be shown

A value that is looked up with success is a number or a duration between blanks, and so holds
nothing that a stream would alter.  The rules have ids of the source.  So every successful answer
can be shown in every mode, and its report reaches a stream unaltered.

* `Inquiry.unaltered_of_lookup` is about the value.
* `Inquiry.isPresentable_of_answer` is about the answers.
-/

namespace TieredTerms

/-! ## Characters of values -/

theorem isUnaltered_of_isBlank [StandIns] {c : Char} (h : isBlank c = true) :
    isUnaltered c = true := by
  refine isUnaltered_of_lt ?_ ?_
  · rintro rfl
    exact absurd h (by decide)
  · simp only [isBlank, Bool.or_eq_true, Bool.and_eq_true, decide_eq_true_eq, beq_iff_eq] at h
    unfold privatePlanes
    omega

theorem Unaltered.of_stripChars [StandIns] {cs : List Char} (h : Unaltered (stripChars cs)) :
    Unaltered cs := by
  intro c hc
  cases hblank : isBlank c with
  | true => exact isUnaltered_of_isBlank hblank
  | false => exact h c (RuleTable.mem_stripChars hblank hc)

namespace Inquiry

variable {ids : IdSource} {configured : String} {q : Inquiry}

private theorem exists_of_parseDuration [StandIns] {v : Value} {text : String} {d : Duration}
    (h : parseDuration v text = .ok d) : ∃ d, Duration.parse? text = some d := by
  unfold parseDuration at h
  cases hread : Duration.read text with
  | ok e => exact ⟨e, (Duration.read_eq_ok.mp hread).1⟩
  | error fault =>
    rw [hread] at h
    cases fault <;> cases h

/-- A value that is looked up with success holds nothing that a stream would alter. -/
theorem unaltered_of_lookup [StandIns] {text : String} {value : Value} {t : RuleTable}
    {found : Option RuleTable.Found} (hlookup : parseLookup text = .ok value)
    (hfind : t.find value = .ok found) : Unaltered text.toList := by
  refine Unaltered.of_stripChars ?_
  rw [parseLookup, strip, String.toList_ofList] at hlookup
  cases hread : IntegerText.ofChars? (stripChars text.toList) with
  | some written => exact Unaltered.of_ofChars? hread
  | none =>
    rw [hread] at hlookup
    cases hlookup
    obtain ⟨w, hlookupValue, -⟩ := bind_eq_ok.mp hfind
    obtain ⟨d, hd, -⟩ := bind_eq_ok.mp hlookupValue
    obtain ⟨d, hparse⟩ := exists_of_parseDuration hd
    have hspelling := Duration.isSpelling_of_parse? hparse
    rw [String.toList_ofList] at hspelling
    exact fun c hc => isUnaltered_of_isSpelling (hspelling c hc)

theorem eq_of_ifWritable {writable : Bool} {a b : Answer}
    (h : ifWritable writable a = .ok b) : a = b := by
  rw [ifWritable] at h
  split_ifs at h
  exact Except.ok.inj h

/-- Every successful answer can be shown in every mode. -/
theorem isPresentable_of_answer [StandIns] (hids : ∀ n, isRuleId (ids n) = true)
    (hformat : ∀ format, q.question = .convert format → Unaltered format.toList) {a : Answer}
    (h : q.answer ids configured = .ok a) (hok : a.ok = true) : a.IsPresentable := by
  obtain ⟨value, hlookup, hreport⟩ := bind_eq_ok.mp h
  obtain ⟨t, hload, habout⟩ := bind_eq_ok.mp (report_eq_ok hreport hok)
  have hrule : ∀ r ∈ t.rules, ∀ s, r.id = some s → isRuleId s = true := by
    intro r hr s hs
    obtain ⟨n, hn⟩ := (load_readBy hload).id hr
    rw [hn, Option.some.injEq] at hs
    exact hs ▸ hids n
  rw [answerAbout] at habout
  cases hquestion : q.question with
  | find text =>
    rw [hquestion] at habout
    obtain ⟨found, hfind, habout⟩ := bind_eq_ok.mp habout
    rw [lookup, hquestion] at hlookup
    rw [← eq_of_ifWritable habout]
    refine isPresentable_findAnswer (unaltered_of_lookup hlookup hfind) ?_
    rintro f rfl
    exact hrule f.rule (List.mem_of_getElem? (t.stored_of_find hfind))
  | check =>
    rw [hquestion] at habout
    rw [← eq_of_ifWritable habout]
    exact isPresentable_checkAnswer q t
  | convert format =>
    rw [hquestion] at habout
    rw [← eq_of_ifWritable habout]
    exact isPresentable_convertAnswer (hformat format hquestion) t
  | «show» =>
    rw [hquestion] at habout
    rw [← eq_of_ifWritable habout]
    exact isPresentable_showAnswer hrule

end Inquiry

end TieredTerms
