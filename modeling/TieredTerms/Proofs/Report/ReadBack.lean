import TieredTerms.Proofs.Inquiry.Boundary
import TieredTerms.Proofs.Inquiry.Presentable
import TieredTerms.Proofs.Json.Indented

/-!
# Reading reports in JSON

A report in JSON is one document, which is read back as the answer: its texts, its numbers, its
rules and their order are those of the answer.  Every success has such a report.  So has a failure,
unless it shows a text with lone units, which only an escape in a table in JSON brings in.

* `ExactFields` are fields with an exact text, `Answer.isExact_toDatum` tells that an answer of such
  fields has one, `Inquiry.isExact_answer` that every answer has.
* `Inquiry.HasEncodableTexts` are the inquiries without lone units,
  `Inquiry.FaultOf.isEncodable_message` is about their faults.
* `Inquiry.json_reads_back` is the statement about reports, `Inquiry.json_of_loneUnit` an answer
  without one.
-/

namespace TieredTerms

/-! ## Exact texts -/

/-- Fields with distinct names and exact values. -/
structure ExactFields (depth : Nat) (fields : Fields) : Prop where
  nodup : (Fields.names fields).Nodup
  exact : ∀ field ∈ fields, field.2.IsExact depth

theorem Datum.IsExact.nat {depth n : Nat} (h : n < 10 ^ digitLimit) :
    (Datum.int n).IsExact depth := by
  refine .int ?_
  rw [Int.natAbs_natCast]
  exact (Nat.length_toDigits_le_iff (by decide) (by decide)).mpr h

theorem Rule.names_describe (r : Rule) (index : Datum) :
    Fields.names (r.describe index) =
      ["index", "id", "kind", "lower", "upper", "unbounded", "result", "period"] := by
  unfold describe
  cases r.interval <;> rfl

/-- A rule of a text is described exactly. -/
theorem Rule.exactFields_describe [StandIns] {r : Rule} (hr : r.OfText) {index : Nat}
    (hindex : index < 10 ^ digitLimit) (depth : Nat) :
    ExactFields depth (r.describe (.int index)) := by
  refine ⟨by rw [r.names_describe]; decide, ?_⟩
  have hbounds := hr.bounds.1
  have hid : ((r.id.map Datum.text).getD .null).IsExact depth := by
    cases r.id with
    | none => exact .null
    | some id => exact .text id
  unfold describe
  cases hinterval : r.interval with
  | category lower upper lower_pos ordered =>
    rw [hinterval] at hbounds
    simp only [List.forall_mem_cons]
    exact ⟨.nat hindex, hid, .text _, .nat hbounds.1, .nat hbounds.2, .bool _, .text _, .text _,
      by simp⟩
  | duration lower upper lower_valid upper_valid ordered =>
    simp only [List.forall_mem_cons]
    exact ⟨.nat hindex, hid, .text _, .text _, .text _, .bool _, .text _, .text _, by simp⟩

/-- An answer has an exact text if its data and the detail of its failure have one. -/
theorem Answer.isExact_toDatum {a : Answer} {depth : Nat} (hdata : ExactFields (depth + 2) a.data)
    (herror : ∀ failure ∈ a.error, ExactFields (depth + 1) failure.detail) :
    a.toDatum.IsExact (depth + 4) := by
  have hfailure : ((a.error.map failureDatum).getD .null).IsExact (depth + 3) := by
    cases hfailed : a.error with
    | none => exact .null
    | some failure =>
      obtain ⟨hnodup, hdetail⟩ := herror failure hfailed
      refine .object (by simp [Fields.names]) ?_
      simp only [List.forall_mem_cons]
      exact ⟨.text _, .text _, .object hnodup hdetail, by simp⟩
  have hwarnings : (Datum.array (a.warnings.map .text)).IsExact (depth + 3) :=
    .array (List.forall_mem_map.mpr fun warning _ => .text warning)
  refine .object (by simp [Fields.names]) ?_
  simp only [List.forall_mem_cons]
  exact ⟨.bool _, .text _, .object hdata.nodup hdata.exact, hwarnings, hfailure, by simp⟩

/-- The texts of a failure. -/
theorem Answer.texts_failure (op : String) (fault : Fault) (detail : Fields) :
    (failure op fault detail).toDatum.texts =
      ["ok", "op", op, "data", "warnings", "error"] ++
        ["code", fault.faultClass.code, "message", fault.message, "detail"] ++
        Datum.fieldTexts detail := by
  simp [failure, failed, toDatum, failureDatum, Datum.texts, Datum.fieldTexts, Datum.itemTexts]

namespace Inquiry

variable {ids : IdSource} {configured : String} {q : Inquiry} {t : RuleTable}

theorem exactFields_findAnswer [StandIns] (value : String) {found : Option RuleTable.Found}
    (hfound : ∀ f ∈ found, f.rule.OfText ∧ f.index < 10 ^ digitLimit) (depth : Nat) :
    ExactFields depth (findAnswer value found).data := by
  cases found with
  | none =>
    refine ⟨by simp [Fields.names, findAnswer, Answer.success], ?_⟩
    simp only [findAnswer, Answer.success, List.forall_mem_cons]
    exact ⟨.text _, .bool _, by simp⟩
  | some f =>
    obtain ⟨hrule, hindex⟩ := hfound f rfl
    have hnames : Fields.names (findAnswer value (some f)).data =
        "value" :: "matched" :: Fields.names (f.rule.describe (.int f.index)) := rfl
    refine ⟨?_, ?_⟩
    · rw [hnames, f.rule.names_describe]
      decide
    · simp only [findAnswer, Answer.success, List.cons_append, List.nil_append,
        List.forall_mem_cons]
      exact ⟨.text _, .bool _, (Rule.exactFields_describe hrule hindex depth).exact⟩

theorem exactFields_checkAnswer (q : Inquiry) (hsize : t.size < 10 ^ digitLimit) (depth : Nat) :
    ExactFields depth (q.checkAnswer t).data := by
  have hkind : ((t.kind?.map fun kind => Datum.text kind.word).getD .null).IsExact depth := by
    cases t.kind? with
    | none => exact .null
    | some kind => exact .text _
  refine ⟨by simp [Fields.names, checkAnswer, Answer.success], ?_⟩
  simp only [checkAnswer, Answer.success, List.forall_mem_cons]
  exact ⟨hkind, .nat hsize, .text _, by simp⟩

theorem exactFields_convertAnswer [StandIns] (format : String) (t : RuleTable) (depth : Nat) :
    ExactFields depth (convertAnswer format t).data := by
  refine ⟨by simp [Fields.names, convertAnswer, Answer.success], ?_⟩
  simp only [convertAnswer, Answer.success, List.forall_mem_cons]
  exact ⟨.text _, .text _, by simp⟩

theorem exactFields_showAnswer [StandIns] (ht : t.OfTexts) (hsize : t.size < 10 ^ digitLimit)
    (depth : Nat) : ExactFields (depth + 2) (showAnswer t).data := by
  have hdescribed : ∀ d ∈ described t, d.IsExact (depth + 1) := by
    refine List.forall_mem_map.mpr fun entry hentry => ?_
    have hrule : entry.1 ∈ t.rules := List.fst_mem_of_mem_zipIdx hentry
    have hindex : entry.2 < t.size := List.snd_lt_of_mem_zipIdx hentry
    obtain ⟨hnodup, hexact⟩ :=
      Rule.exactFields_describe (ht entry.1 hrule) (hindex.trans hsize) depth
    exact .object hnodup hexact
  refine ⟨by simp [Fields.names, showAnswer, Answer.success], ?_⟩
  simp only [showAnswer, Answer.success, List.forall_mem_cons]
  exact ⟨.nat hsize, .array hdescribed, by simp⟩

/-- An answer is a success about a table, or tells of a fault of the texts. -/
theorem answer_cases [StandIns] {a : Answer} (h : q.answer ids configured = .ok a) :
    (∃ value t, q.load ids configured = .ok t ∧ q.answerAbout value t = .ok a ∧ a.ok = true ∧
      a.error = none) ∨
    ∃ fault, q.FaultOf ids configured fault ∧
      a = .failure q.question.op fault q.question.detail := by
  obtain ⟨value, hlookup, hreport⟩ := bind_eq_ok.mp h
  have hyields := yields_about ids configured hlookup
  cases houtcome : q.load ids configured >>= q.answerAbout value with
  | ok b =>
    rw [houtcome] at hreport hyields
    cases hreport
    obtain ⟨t, hload, habout⟩ := bind_eq_ok.mp houtcome
    exact .inl ⟨value, t, hload, habout, hyields.2⟩
  | error fault =>
    rw [houtcome] at hreport hyields
    rw [report] at hreport
    split_ifs at hreport
    cases hreport
    exact .inr ⟨fault, hyields, rfl⟩

/-- The data of a success have an exact text. -/
theorem exactFields_answerAbout [StandIns] {value : Value} (hload : q.load ids configured = .ok t)
    (hsize : t.size < 10 ^ digitLimit) {a : Answer} (h : q.answerAbout value t = .ok a)
    (depth : Nat) : ExactFields (depth + 2) a.data := by
  have htexts : t.OfTexts := (load_readBy hload).ofTexts
  rw [answerAbout] at h
  cases hquestion : q.question with
  | find text =>
    rw [hquestion] at h
    obtain ⟨found, hfind, hwritten⟩ := bind_eq_ok.mp h
    rw [← eq_of_ifWritable hwritten]
    refine exactFields_findAnswer text ?_ _
    rintro f rfl
    have hstored := t.stored_of_find hfind
    obtain ⟨hlt, -⟩ := List.getElem?_eq_some_iff.mp hstored
    exact ⟨htexts f.rule (List.mem_of_getElem? hstored), hlt.trans hsize⟩
  | check =>
    rw [hquestion] at h
    rw [← eq_of_ifWritable h]
    exact exactFields_checkAnswer q hsize _
  | convert format =>
    rw [hquestion] at h
    rw [← eq_of_ifWritable h]
    exact exactFields_convertAnswer format t _
  | «show» =>
    rw [hquestion] at h
    rw [← eq_of_ifWritable h]
    exact exactFields_showAnswer htexts hsize _

/-- What is told of a question has an exact text. -/
theorem exactFields_detail (question : Question) (depth : Nat) :
    ExactFields depth question.detail := by
  cases question with
  | find value =>
    refine ⟨by simp [Fields.names, Question.detail], ?_⟩
    simp only [Question.detail, List.forall_mem_singleton]
    exact .text value
  | check | convert | «show» => exact ⟨.nil, by simp [Question.detail]⟩

/-- What an inquiry answers has an exact text. -/
theorem isExact_answer [StandIns]
    (hsize : ∀ t, q.load ids configured = .ok t → t.size < 10 ^ digitLimit)
    {a : Answer} (h : q.answer ids configured = .ok a) (depth : Nat) :
    a.toDatum.IsExact (depth + 4) := by
  rcases answer_cases h with ⟨value, t, hload, habout, -, herror⟩ | ⟨fault, -, rfl⟩
  · refine Answer.isExact_toDatum (exactFields_answerAbout hload (hsize t hload) habout _) ?_
    rw [herror]
    exact nofun
  · refine Answer.isExact_toDatum ⟨.nil, by simp [Answer.failure, Answer.failed]⟩ ?_
    rintro failure ⟨⟩
    exact exactFields_detail q.question _

/-! ## Lone units -/

/-- No text of the inquiry has lone units. -/
def HasEncodableTexts [StandIns] (configured : String) (q : Inquiry) : Prop :=
  ∀ text, q.Reads configured text → IsEncodable text.toList

/-- Lone units of a message are lone units of a text of the inquiry. -/
theorem FaultOf.isEncodable_message [StandIns] {fault : Fault} (h : q.FaultOf ids configured fault)
    (htexts : q.HasEncodableTexts configured) : IsEncodable fault.message.toList := by
  refine Fault.isEncodable_message ?_
  cases h with
  | noRules h => exact .nil
  | json h hreason => exact .singleton hreason
  | tooDeep h container => exact .singleton (by cases container <;> exact .of_all_isLow (by decide))
  | reads h hfault =>
    cases hfault with
    | misfit hclass hshown => exact hshown (htexts _ h)
    | longRun hlong => exact .nil
    | manyDigits hlarge => exact .nil
  | unshown h => exact .nil

/-- An answer about a failure of an inquiry without lone units has none. -/
theorem hasNoLoneUnits_failure [StandIns] {fault : Fault} (hfault : q.FaultOf ids configured fault)
    (htexts : q.HasEncodableTexts configured) :
    HasNoLoneUnits (Answer.failure q.question.op fault q.question.detail).toDatum.texts := by
  have hop : IsEncodable q.question.op.toList := by
    cases q.question <;> rw [Question.op] <;> exact .of_all_isLow (by decide)
  have hcode : IsEncodable fault.faultClass.code.toList := by
    cases fault.faultClass <;> exact .of_all_isLow (by decide)
  have hdetail : HasNoLoneUnits (Datum.fieldTexts q.question.detail) := by
    cases hquestion : q.question with
    | find value => exact .pair (.of_all_isLow (by decide)) (htexts value (.value hquestion))
    | check | convert | «show» => exact .nil
  have htold : HasNoLoneUnits
      ["code", fault.faultClass.code, "message", fault.message, "detail"] := by
    simp only [HasNoLoneUnits.cons_iff]
    exact ⟨.of_all_isLow (by decide), hcode, .of_all_isLow (by decide),
      hfault.isEncodable_message htexts, .of_all_isLow (by decide), .nil⟩
  have hnames : HasNoLoneUnits ["ok", "op", q.question.op, "data", "warnings", "error"] := by
    simp only [HasNoLoneUnits.cons_iff]
    exact ⟨.of_all_isLow (by decide), .of_all_isLow (by decide), hop, .of_all_isLow (by decide),
      .of_all_isLow (by decide), .of_all_isLow (by decide), .nil⟩
  rw [Answer.texts_failure]
  simp only [HasNoLoneUnits.append_iff]
  exact ⟨⟨hnames, htold⟩, hdetail⟩

/-! ## Reports -/

/-- A report in JSON is one document, which is the answer: whether the inquiry succeeded, what was
asked, the data, the warnings and the failure, in this order, with every text and number as it is.
There is such a report unless a text of the answer has lone units.  So there is one of every
success, and of a failure where no text of the inquiry has lone units. -/
theorem json_reads_back [StandIns] {ids : IdSource} (hids : ∀ n, isRuleId (ids n) = true)
    (configured : String)
    {q : Inquiry} (hformat : ∀ format, q.question = .convert format → Unaltered format.toList)
    (hsize : ∀ t, q.load ids configured = .ok t → t.size < 10 ^ digitLimit) {a : Answer}
    (h : q.answer ids configured = .ok a) (verbose : Bool) :
    (∀ report, Report.format ⟨true, verbose⟩ a = .ok report →
      Json.parse report = .ok (.object
        [("ok", .bool a.ok), ("op", .text a.op), ("data", .object a.data),
         ("warnings", .array (a.warnings.map .text)),
         ("error", (a.error.map Answer.failureDatum).getD .null)])) ∧
    ((∃ report, Report.format ⟨true, verbose⟩ a = .ok report) ↔ HasNoLoneUnits a.toDatum.texts) ∧
    (a.ok = true → ∃ report, Report.format ⟨true, verbose⟩ a = .ok report) ∧
    (q.HasEncodableTexts configured → ∃ report, Report.format ⟨true, verbose⟩ a = .ok report) := by
  have hexact : a.toDatum.IsExact Json.depthLimit := isExact_answer hsize h 976
  have hreport {report : String} : Report.format ⟨true, verbose⟩ a = .ok report ↔
      HasNoLoneUnits a.toDatum.texts ∧ report = Json.indentedText a.toDatum := Report.json_eq_ok
  have hexists : (∃ report, Report.format ⟨true, verbose⟩ a = .ok report) ↔
      HasNoLoneUnits a.toDatum.texts := by
    simp only [hreport, exists_and_left, exists_eq, and_true]
  have hsuccess (hok : a.ok = true) : ∃ report, Report.format ⟨true, verbose⟩ a = .ok report := by
    obtain ⟨report, hformatted, -⟩ :=
      (isPresentable_of_answer hids hformat h hok).report ⟨true, verbose⟩
    exact ⟨report, hformatted⟩
  refine ⟨fun report hformatted => ?_, hexists, hsuccess, fun htexts => ?_⟩
  · obtain ⟨-, rfl⟩ := hreport.mp hformatted
    exact Json.parse_indentedText hexact
  · rcases answer_cases h with ⟨value, t, -, -, hok, -⟩ | ⟨fault, hfault, rfl⟩
    · exact hsuccess hok
    · exact hexists.mpr (hasNoLoneUnits_failure hfault htexts)

/-- A value with a quote, a letter that is no ASCII and a backslash. -/
def quoteValue : String := "\"é\\"

theorem hasEncodableTexts_tiersLookup [StandIns] {text : String} (h : IsEncodable text.toList) :
    (tiersLookup text).HasEncodableTexts "" := by
  intro read hread
  rcases reads_tiersLookup hread with rfl | rfl
  · exact h
  · exact .of_all_isLow (by decide +kernel)

/-- A failure about a value with marks of its own is read back. -/
theorem json_reads_back_quote :
    ∃ a report, (tiersLookup quoteValue).answer ruleIdOf "" = .ok a ∧ a.ok = false ∧
      Report.format ⟨true, false⟩ a = .ok report ∧
      Json.parse report = .ok (.object
        [("ok", .bool false), ("op", .text "find"), ("data", .object []), ("warnings", .array []),
         ("error", .object
           [("code", .text "VALIDATION_ERROR"),
            ("message", .text "Invalid ISO 8601 duration: '\"é\\\\'"),
            ("detail", .object [("value", .text quoteValue)])])]) := by
  have hlookup : (tiersLookup quoteValue).lookup = .ok (.text quoteValue) := by
    rw [tiersLookup, lookup_find]
    exact parseLookup_text (by decide +kernel) (by decide +kernel)
  have hread : Duration.read quoteValue = .error .form := by decide +kernel
  have hfind : tiers.find (.text quoteValue) = .error (.durationText (quoted quoteValue)) := by
    rw [RuleTable.find, RuleTable.lookupValue]
    simp only [Value.asText?, parseDuration, hread, error_bind]
    rfl
  have hanswer : (tiersLookup quoteValue).answer ruleIdOf "" =
      .ok (.failure "find" (.durationText (quoted quoteValue)) [("value", .text quoteValue)]) := by
    rw [answer, hlookup, ok_bind, load_tiersLookup, ok_bind]
    simp only [answerAbout, tiersLookup, hfind, error_bind, report]
    rfl
  have hsize : ∀ t, (tiersLookup quoteValue).load ruleIdOf "" = .ok t →
      t.size < 10 ^ digitLimit := by
    intro t ht
    rw [load_tiersLookup, Except.ok.injEq] at ht
    subst ht
    exact lt_of_lt_of_le (by decide : 2 < 10 ^ 1) (Nat.pow_le_pow_right (by decide) (by decide))
  obtain ⟨hreads, -, -, hencodable⟩ := json_reads_back isRuleId_ruleIdOf ""
    (fun format hquestion => by cases hquestion) hsize hanswer false
  obtain ⟨report, hformat⟩ :=
    hencodable (hasEncodableTexts_tiersLookup (.of_all_isLow (by decide +kernel)))
  have hquoted : quoted quoteValue = "'\"é\\\\'" := by decide +kernel
  have hparse := hreads report hformat
  rw [hquoted] at hparse
  exact ⟨_, report, hanswer, rfl, hformat, hparse⟩

/-- The check of a JSON array with an escape for half of a pair of units. -/
def loneUnitCheck : Inquiry :=
  { question := .check, rules := some "[\"\\ud800\"]", fromJson := true }

/-- The failure shows the lone unit as it is, and has no report. -/
theorem json_of_loneUnit :
    ∃ a, loneUnitCheck.answer ruleIdOf "" = .ok a ∧ a.ok = false ∧
      ¬∃ report, Report.format ⟨true, false⟩ a = .ok report := by
  obtain ⟨a, ha, hlone⟩ := exists_ok_of_any
    (x := loneUnitCheck.answer ruleIdOf "")
    (p := fun a => !a.ok && !(Report.format ⟨true, false⟩ a).toOption.isSome) (by decide +kernel)
  rw [Bool.and_eq_true, Bool.not_eq_true', Bool.not_eq_true'] at hlone
  refine ⟨a, ha, hlone.1, ?_⟩
  rintro ⟨report, hformat⟩
  rw [hformat] at hlone
  cases hlone.2

end Inquiry

end TieredTerms
