import TieredTerms.Inquiry
import TieredTerms.Proofs.RuleTable.Readable

/-!
# Checking what a check reports

A check reports the compact form of the table as its canonical form.  That form is a well-formed
table itself, in canonical form, exactly where the compact forms of all rules are read.

* `Inquiry.load_readBy`: the rules of an inquiry come from texts.
* `Inquiry.check_canonical` is the check of a canonical form.
-/

namespace TieredTerms.Inquiry

variable {ids ids' : IdSource} {configured configured' : String} {q : Inquiry} {t : RuleTable}

/-- The rules of an inquiry come from texts, and have ids of the source. -/
theorem load_readBy [StandIns] (h : q.load ids configured = .ok t) : t.ReadBy ids := by
  obtain ⟨⟨text, json⟩, -, h⟩ := bind_eq_ok.mp h
  cases json with
  | true => exact RuleTable.readBy_parseJson h
  | false => exact RuleTable.readBy_parse h

/-- A successful answer is no report of a fault. -/
theorem report_eq_ok {outcome : Except Fault Answer} {a : Answer}
    (h : q.report outcome = .ok a) (hok : a.ok = true) : outcome = .ok a := by
  cases outcome with
  | ok b => exact h
  | error fault =>
    rw [report] at h
    split_ifs at h
    cases h
    cases hok

/-- The check of a table in compact form. -/
def checkOf (rules : String) : Inquiry :=
  { question := .check, rules := some rules, fromJson := false }

/-- What a check tells of a table that is well formed. -/
theorem answer_check [StandIns] (hq : q.question = .check) {a : Answer}
    (h : q.answer ids configured = .ok a) (hok : a.ok = true) :
    ∃ t, q.load ids configured = .ok t ∧ t.isWritable = true ∧ a = q.checkAnswer t := by
  obtain ⟨value, -, hreport⟩ := bind_eq_ok.mp h
  obtain ⟨t, hload, habout⟩ := bind_eq_ok.mp (report_eq_ok hreport hok)
  simp only [answerAbout, hq, ifWritable] at habout
  split_ifs at habout with hwritable
  cases habout
  exact ⟨t, hload, hwritable, rfl⟩

theorem load_checkOf [StandIns] (ids : IdSource) (configured rules : String) :
    (checkOf rules).load ids configured = RuleTable.parse ids rules := rfl

/-- The check of a text whose table can be written. -/
theorem answer_checkOf [StandIns] {rules : String} (h : RuleTable.parse ids rules = .ok t)
    (hwritable : t.isWritable = true) :
    (checkOf rules).answer ids configured = .ok ((checkOf rules).checkAnswer t) := by
  rw [answer, load_checkOf, h]
  simp [checkOf, lookup, answerAbout, ifWritable, hwritable, report]

/-- A successful check reports the kind, the size and the compact form of the table.  The check of
this form succeeds exactly where the compact forms of all rules are read; it then reports the same
and gives no warning.  Plain tables are of that sort. -/
theorem check_canonical [StandIns] (ids ids' : IdSource) (configured configured' : String)
    (q : Inquiry) (hq : q.question = .check) (a : Answer) (h : q.answer ids configured = .ok a)
    (hok : a.ok = true) :
    ∃ t canonical, q.load ids configured = .ok t ∧
      a.data = [("kind", (t.kind?.map fun kind => .text kind.word).getD .null),
        ("count", .int t.size), ("canonical", .text canonical)] ∧
      ((∃ b, (checkOf canonical).answer ids' configured' = .ok b ∧ b.ok = true) ↔ t.IsReadable) ∧
      (t.IsReadable →
        (checkOf canonical).answer ids' configured' = .ok (.success "check" a.data [])) ∧
      (t.IsPlain → t.IsReadable) := by
  obtain ⟨t, hload, -, rfl⟩ := answer_check hq h hok
  have htexts := (load_readBy hload).ofTexts
  have hagain (hreadable : t.IsReadable) : (checkOf t.compact).answer ids' configured' =
      .ok (.success "check" (q.checkAnswer t).data []) := by
    obtain ⟨u, hparse, hwritable, hcompact, hkind, hsize⟩ := htexts.parse_compact hreadable ids'
    rw [answer_checkOf hparse hwritable]
    simp [checkAnswer, checkOf, hcompact, hkind, hsize, Answer.success]
  refine ⟨t, t.compact, hload, rfl, ⟨?_, fun hreadable => ⟨_, hagain hreadable, rfl⟩⟩, hagain,
    fun hplain r hr => (hplain r hr).isReadable⟩
  rintro ⟨b, hb, hbok⟩
  obtain ⟨u, hu, -⟩ := answer_check rfl hb hbok
  exact (htexts.parse_compact_iff ids').mp ⟨u, hu⟩

/-- Six to eight of a category give a week. -/
def week : RuleTable :=
  .singleton
    { interval := .category 6 8 (by decide) (by decide)
      result := .clock ⟨7 * microsPerDay, by decide, by decide⟩
      id := some (ruleIdOf 0)
      result_valid := by decide +kernel }

theorem check_canonical_week :
    (checkOf " C06-08P1W").question = .check ∧
      (checkOf " C06-08P1W").load ruleIdOf "" = .ok week ∧ week.IsPlain ∧
      ∃ a, (checkOf " C06-08P1W").answer ruleIdOf "" = .ok a ∧ a.ok = true ∧
        a.warnings = ["Rule table is not in canonical form"] ∧
        Fields.get? a.data "canonical" = some (.text "C6-8P7D") ∧
        (checkOf "C6-8P7D").answer ruleIdOf "" = .ok (.success "check" a.data []) := by
  have hparse : RuleTable.parse ruleIdOf " C06-08P1W" = .ok week := by decide +kernel
  have hload : (checkOf " C06-08P1W").load ruleIdOf "" = .ok week := by
    rw [load_checkOf, hparse]
  have hplain : week.IsPlain := by
    intro r hr
    rw [week, RuleTable.singleton, List.mem_singleton] at hr
    subst hr
    exact ⟨⟨by decide +kernel, by decide +kernel⟩,
      ⟨Decimal.isPlain_zero, Decimal.isPlain_zero, by decide⟩⟩
  have hanswer : (checkOf " C06-08P1W").answer ruleIdOf "" = _ :=
    answer_checkOf hparse hplain.isWritable
  have hcompact : week.compact = "C6-8P7D" := by decide +kernel
  have hdiffers : (week.compact != " C06-08P1W") = true := by decide +kernel
  obtain ⟨t, canonical, ht, hdata, -, hagain, hreadable⟩ :=
    check_canonical ruleIdOf ruleIdOf "" "" (checkOf " C06-08P1W") rfl _ hanswer rfl
  rw [hload, Except.ok.injEq] at ht
  subst ht
  have hcanonical : canonical = "C6-8P7D" := by
    rw [← hcompact]
    simpa [checkAnswer, Answer.success] using hdata.symm
  rw [hcanonical] at hagain
  refine ⟨rfl, hload, hplain, _, hanswer, rfl, ?_, ?_, hagain (hreadable hplain)⟩
  · simp [checkAnswer, checkOf, Answer.success, hdiffers]
  · simp [checkAnswer, Answer.success, Fields.get?, hcompact]

/-- Six to eight of a category give a small fraction of a year. -/
def tinyYears : RuleTable :=
  .singleton
    { interval := .category 6 8 (by decide) (by decide)
      result := .calendar ⟨false, 1, -7⟩ (Decimal.ofInt 0) Clock.zero
      id := some (ruleIdOf 0)
      result_valid := by decide +kernel }

/-- The canonical form that a check reports is not always a well-formed table: a small fraction of a
year is written with an exponent, which no reader takes. -/
theorem check_tinyYears :
    (∃ a, (checkOf "C6-8P0.0000001Y").answer ruleIdOf "" = .ok a ∧ a.ok = true ∧
      Fields.get? a.data "canonical" = some (.text "C6-8P1E-7Y")) ∧
    ¬∃ b, (checkOf "C6-8P1E-7Y").answer ruleIdOf "" = .ok b ∧ b.ok = true := by
  have hparse : RuleTable.parse ruleIdOf "C6-8P0.0000001Y" = .ok tinyYears := by decide +kernel
  have hwritable : tinyYears.isWritable = true := by decide +kernel
  have hcompact : tinyYears.compact = "C6-8P1E-7Y" := by decide +kernel
  refine ⟨⟨_, answer_checkOf hparse hwritable, rfl, ?_⟩, ?_⟩
  · simp [checkAnswer, Answer.success, Fields.get?, hcompact]
  · rintro ⟨b, hb, hok⟩
    obtain ⟨t, hload, -⟩ := answer_check rfl hb hok
    rw [load_checkOf] at hload
    exact RuleTable.not_mem_of_parse hload (by decide)

end TieredTerms.Inquiry
