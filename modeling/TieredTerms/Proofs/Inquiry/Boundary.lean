import TieredTerms.Proofs.Inquiry.Lookup
import TieredTerms.Proofs.Json.LongNumbers
import TieredTerms.Proofs.RuleTable.Faults

/-!
# Where faults stop

An inquiry answers most of what is wrong with its texts.  What it does not answer are rows of digits
that readers do not take, containers inside too many others, and a duration that messages cannot
show; with years or months of a million digits, also numbers beyond arithmetic.

* `Inquiry.Reads` are the texts of an inquiry, `Inquiry.FaultOf` the faults that these can cause.
* `Inquiry.yields_load` and `Inquiry.yields_about` are the two steps of an answer.
* `Inquiry.Reports` is what an answer tells of a fault.
* `Inquiry.answer_boundary` puts these together, and `Inquiry.tiersLookup` are look-ups with and
  without an answer.
-/

namespace TieredTerms.Inquiry

variable {ids : IdSource} {configured : String} {q : Inquiry}

/-! ## What an inquiry reads -/

/-- The texts of an inquiry: the value of a look-up, the text of the table, and the texts of the
array that the table is in JSON. -/
inductive Reads [StandIns] (configured : String) (q : Inquiry) : String → Prop
  | value {text : String} (h : q.question = .find text) : Reads configured q text
  | table {text : String} {json : Bool} (h : q.source configured = .ok (text, json)) :
      Reads configured q text
  | item {text s : String} {data : List Datum} {d : Datum}
      (h : q.source configured = .ok (text, true)) (hdata : Json.parse text = .ok (.array data))
      (hd : d ∈ data) (hs : Value.ofDatum d = .text s) : Reads configured q s

/-- No text of the inquiry has a row of digits that readers do not take. -/
def HasShortRuns [StandIns] (configured : String) (q : Inquiry) : Prop :=
  ∀ text, q.Reads configured text → ∀ count, ¬HasLongRun text.toList count

/-- In every text of the inquiry, years and months have less than a million digits. -/
def HasModestTexts [StandIns] (configured : String) (q : Inquiry) : Prop :=
  ∀ text, q.Reads configured text → HasModestNumbers text.toList

theorem HasShortRuns.hasModestTexts [StandIns] (h : q.HasShortRuns configured) :
    q.HasModestTexts configured :=
  fun text htext => hasModestNumbers_of_short (h text htext)

/-- No table is given and none configured. -/
def LacksRules (configured : String) (q : Inquiry) : Prop :=
  q.rules = none ∧ configured = ""

/-- The table is given as JSON, and its text is none. -/
def HasMalformedJson [StandIns] (q : Inquiry) : Prop :=
  ∃ text fault, q.rules = some text ∧ q.fromJson = true ∧
    Json.parse text = .error (.malformed fault)

/-- The table is given as JSON with a container inside too many others. -/
def NestsTooDeep [StandIns] (q : Inquiry) : Prop :=
  ∃ text container, q.rules = some text ∧ q.fromJson = true ∧
    Json.parse text = .error (.tooDeep container)

/-- A duration that messages cannot show is looked up in a table of categories. -/
def LooksUpUnshown [StandIns] (ids : IdSource) (configured : String) (q : Inquiry) : Prop :=
  ∃ value d t, q.lookup = .ok value ∧ Denotes value (.duration d) ∧ d.shown? = none ∧
    q.load ids configured = .ok t ∧ t.kind? = some .category

/-- The faults that the texts of an inquiry can cause. -/
inductive FaultOf [StandIns] (ids : IdSource) (configured : String) (q : Inquiry) : Fault → Prop
  | noRules (h : q.LacksRules configured) : FaultOf ids configured q .noRules
  | json (h : q.HasMalformedJson) {fault : Json.Malformed}
      (hreason : IsEncodable fault.reason.toList) : FaultOf ids configured q (.json fault)
  | tooDeep (h : q.NestsTooDeep) (container : Json.Container) :
      FaultOf ids configured q (.tooDeep container)
  | reads {text : String} {fault : Fault} (h : q.Reads configured text)
      (hfault : fault.CausedBy text.toList) : FaultOf ids configured q fault
  | unshown (h : q.LooksUpUnshown ids configured) : FaultOf ids configured q .numberTooLong

/-- What cannot be written has years or months of too many digits. -/
private theorem FaultOf.notWritable [StandIns] (h : ¬q.HasModestTexts configured) :
    q.FaultOf ids configured .decimalTooLarge := by
  unfold HasModestTexts at h
  push Not at h
  obtain ⟨text, htext, hlarge⟩ := h
  exact .reads htext (.manyDigits hlarge)

/-! ## The steps of an answer -/

/-- The value of a look-up stands in its text. -/
theorem standsIn_of_lookup {text : String} (hquestion : q.question = .find text) {value : Value}
    (h : q.lookup = .ok value) : value.StandsIn text.toList := by
  rw [lookup, hquestion] at h
  have hstrip := infix_stripChars text.toList
  unfold parseLookup at h
  dsimp only at h
  split at h
  · next written hwritten =>
    split_ifs at h with hlong
    cases h
    exact .int (natAbs_value_lt (not_lt.mp hlong))
  · cases h
    refine .text ?_
    rwa [strip, String.toList_ofList]

/-- A look-up is refused for a row of digits in its text. -/
theorem faultOf_lookup [StandIns] {fault : Fault} (h : q.lookup = .error fault) :
    q.FaultOf ids configured fault ∧ fault.faultClass.isReported = false := by
  rw [lookup] at h
  split at h
  · next text hquestion =>
    have hstrip := infix_stripChars text.toList
    unfold parseLookup at h
    dsimp only at h
    split at h
    · next written hwritten =>
      split_ifs at h with hlong
      cases h
      rw [strip, String.toList_ofList] at hwritten
      refine ⟨.reads (.value hquestion) (.longRun ?_), rfl⟩
      exact (hasLongRun_of_ofChars? hwritten hlong).mono hstrip
    · cases h
  · cases h

/-- The source of a table is the text that is given or the one that is configured. -/
theorem source_eq_ok {text : String} {json : Bool} (h : q.source configured = .ok (text, json)) :
    (q.rules = some text ∧ json = q.fromJson) ∨
      q.rules = none ∧ configured = text ∧ configured ≠ "" ∧ json = false := by
  unfold source at h
  split at h
  · next rules hrules =>
    cases h
    exact .inl ⟨hrules, rfl⟩
  · next hrules =>
    split_ifs at h with hconfigured
    cases h
    exact .inr ⟨hrules, rfl, hconfigured, rfl⟩

/-- The table is loaded, with rules that can be written where its texts are modest, or there is a
fault of its texts. -/
theorem yields_load [StandIns] (ids : IdSource) (configured : String) (q : Inquiry) :
    Yields (fun t => ∀ r ∈ t.rules, q.HasModestTexts configured → r.isWritable = true)
      (q.FaultOf ids configured) (q.load ids configured) := by
  unfold load
  cases hsource : q.source configured with
  | error fault =>
    unfold source at hsource
    split at hsource
    · cases hsource
    · next hrules =>
      split_ifs at hsource with hconfigured
      cases hsource
      exact .noRules ⟨hrules, hconfigured⟩
  | ok source =>
    obtain ⟨text, json⟩ := source
    have hform {form : String} (hform : q.Reads configured form) (id : Option String) :
        Yields (fun r => q.HasModestTexts configured → r.isWritable = true)
          (q.FaultOf ids configured) (Rule.parse id form) :=
      (Rule.yields_parse id form).imp (fun _ _ hwritable hmodest => hwritable (hmodest form hform))
        fun _ hfault => .reads hform hfault
    cases json with
    | false =>
      refine (RuleTable.yields_parse ids text).imp ?_ fun _ hfault => .reads (.table hsource) hfault
      exact fun t _ hrules r hr hmodest => hrules r hr (hmodest text (.table hsource))
    | true =>
      have hgiven : q.rules = some text ∧ q.fromJson = true := by
        rcases source_eq_ok hsource with ⟨hrules, hjson⟩ | ⟨-, -, -, hjson⟩
        · exact ⟨hrules, hjson.symm⟩
        · cases hjson
      refine RuleTable.yields_parseJson ids text ?_ ?_ ?_ ?_ ?_
      · intro fault hfault
        cases fault with
        | malformed fault =>
          exact .json ⟨text, fault, hgiven.1, hgiven.2, hfault⟩ (Json.isEncodable_reason hfault)
        | tooManyDigits count =>
          exact .reads (.table hsource) (.longRun (Json.hasLongRun_of_parse hfault))
        | tooDeep container =>
          exact .tooDeep ⟨text, container, hgiven.1, hgiven.2, hfault⟩ container
      · exact fun expected given => .reads (.table hsource) (Fault.causedBy_kindMismatch _ _)
      · exact fun v position => .reads (.table hsource)
          (.misfit (.inr (.inr rfl)) fun _ => .singleton v.isEncodable_typeName)
      · exact fun v => .reads (.table hsource)
          (.misfit (.inr (.inr rfl)) fun _ => .singleton v.isEncodable_typeName)
      · exact fun data hdata d hd s hs id => hform (.item hsource hdata hd hs) id

/-- The answer about a table tells of success, or there is a fault of the look-up. -/
theorem yields_answerAbout [StandIns] {value : Value} {t : RuleTable}
    (hlookup : q.lookup = .ok value) (hload : q.load ids configured = .ok t)
    (ht : ∀ r ∈ t.rules, q.HasModestTexts configured → r.isWritable = true) :
    Yields (fun a => a.op = q.question.op ∧ a.ok = true ∧ a.error = none)
      (q.FaultOf ids configured) (q.answerAbout value t) := by
  have hif {a : Answer} {writable : Bool} (ha : a.op = q.question.op ∧ a.ok = true ∧ a.error = none)
      (hwritable : q.HasModestTexts configured → writable = true) :
      Yields (fun a => a.op = q.question.op ∧ a.ok = true ∧ a.error = none)
        (q.FaultOf ids configured) (ifWritable writable a) := by
    cases writable with
    | true => exact ha
    | false => exact FaultOf.notWritable fun hmodest => Bool.false_ne_true (hwritable hmodest)
  have hall (hmodest : q.HasModestTexts configured) : t.isWritable = true :=
    List.all_eq_true.mpr fun r hr => ht r hr hmodest
  cases hquestion : q.question with
  | find text =>
    simp only [answerAbout, hquestion] at hif ⊢
    have hfind : Yields (fun found => ∀ f, found = some f → f.rule ∈ t.rules)
        (q.FaultOf ids configured) (t.find value) := by
      refine (t.yields_find (standsIn_of_lookup hquestion hlookup)).imp (fun _ _ h => h) ?_
      rintro fault (hcaused | ⟨rfl, d, hdenotes, hshown, hkind⟩)
      · exact .reads (.value hquestion) hcaused
      · exact .unshown ⟨value, d, t, hlookup, hdenotes, hshown, hload, hkind⟩
    refine hfind.bind fun found _ hfound => ?_
    cases found with
    | none => exact hif ⟨rfl, rfl, rfl⟩ fun _ => rfl
    | some f => exact hif ⟨rfl, rfl, rfl⟩ (ht f.rule (hfound f rfl))
  | check =>
    simp only [answerAbout, hquestion] at hif ⊢
    exact hif ⟨rfl, rfl, rfl⟩ hall
  | convert format =>
    simp only [answerAbout, hquestion] at hif ⊢
    exact hif ⟨rfl, rfl, rfl⟩ hall
  | «show» =>
    simp only [answerAbout, hquestion] at hif ⊢
    exact hif ⟨rfl, rfl, rfl⟩ hall

/-- The answer to an inquiry whose value is read tells of success, or there is a fault of its
texts. -/
theorem yields_about [StandIns] (ids : IdSource) (configured : String) {value : Value}
    (hlookup : q.lookup = .ok value) :
    Yields (fun a => a.op = q.question.op ∧ a.ok = true ∧ a.error = none)
      (q.FaultOf ids configured) (q.load ids configured >>= q.answerAbout value) :=
  (yields_load ids configured q).bind fun _ hload ht => yields_answerAbout hlookup hload ht

/-! ## What is reported -/

theorem load_of_lacksRules [StandIns] (h : q.LacksRules configured) :
    q.load ids configured = .error .noRules := by
  simp [load, source, h.1, h.2]

theorem load_of_malformedJson [StandIns] (ids : IdSource) (configured : String)
    (h : q.HasMalformedJson) : ∃ fault, q.load ids configured = .error (.json fault) := by
  obtain ⟨text, fault, hrules, hjson, hparse⟩ := h
  refine ⟨fault, ?_⟩
  have hsource : q.source configured = .ok (text, true) := by
    rw [source, hrules, hjson]
  rw [load, hsource]
  simp only [ok_bind, if_true, RuleTable.parseJson, hparse]
  rfl

/-- What a failed answer tells of a fault: nothing but the fault, with a code for its class. -/
structure Reports [StandIns] (configured : String) (q : Inquiry) (fault : Fault) (a : Answer) :
    Prop where
  data : a.data = []
  warnings : a.warnings = []
  error : a.error = some ⟨fault.faultClass.code, fault.message, q.question.detail⟩
  noRules : fault.faultClass.code = "NO_RULES" ↔ q.LacksRules configured
  json : fault.faultClass.code = "JSON_ERROR" ↔ q.HasMalformedJson
  others : ¬q.LacksRules configured → ¬q.HasMalformedJson →
    (fault.faultClass = .format ∧ fault.faultClass.code = "FORMAT_ERROR") ∨
    (fault.faultClass = .validation ∧ fault.faultClass.code = "VALIDATION_ERROR") ∨
    (fault.faultClass = .type ∧ fault.faultClass.code = "TYPE_ERROR")

/-- A fault of the texts that is reported tells which of the texts it is about. -/
theorem FaultOf.classes [StandIns] {fault : Fault} (h : q.FaultOf ids configured fault)
    (hreported : fault.faultClass.isReported = true) :
    (fault.faultClass = .noRules ∧ q.LacksRules configured) ∨
    (fault.faultClass = .json ∧ q.HasMalformedJson) ∨
    fault.faultClass = .format ∨ fault.faultClass = .validation ∨ fault.faultClass = .type := by
  cases h with
  | noRules h => exact .inl ⟨rfl, h⟩
  | json h => exact .inr (.inl ⟨rfl, h⟩)
  | tooDeep h container => cases hreported
  | reads h hfault =>
    cases hfault with
    | misfit h hshown => tauto
    | longRun h => cases hreported
    | manyDigits h => cases hreported
  | unshown h => cases hreported

/-- A reported fault is told with the code of its class. -/
theorem reports_failure [StandIns] {value : Value} (hlookup : q.lookup = .ok value) {fault : Fault}
    (h : (q.load ids configured >>= q.answerAbout value) = .error fault)
    (hreported : fault.faultClass.isReported = true) :
    q.Reports configured fault (.failure q.question.op fault q.question.detail) := by
  have hfault : q.FaultOf ids configured fault := by
    have hyields := yields_about ids configured hlookup
    rw [h] at hyields
    exact hyields
  have hlacks (hlacks : q.LacksRules configured) : fault = .noRules := by
    rw [load_of_lacksRules hlacks] at h
    exact (Except.error.inj h).symm
  have hmalformed (hmalformed : q.HasMalformedJson) : fault.faultClass = .json := by
    obtain ⟨malformed, hload⟩ := load_of_malformedJson ids configured hmalformed
    rw [hload] at h
    rw [← Except.error.inj h]
    rfl
  have hclasses := hfault.classes hreported
  refine ⟨rfl, rfl, rfl, ?_, ?_, fun hgiven hwellFormed => ?_⟩
  · rw [FaultClass.code_eq_noRules]
    refine ⟨fun hclass => ?_, fun h => by rw [hlacks h]; rfl⟩
    rw [hclass] at hclasses
    simpa using hclasses
  · rw [FaultClass.code_eq_json]
    refine ⟨fun hclass => ?_, hmalformed⟩
    rw [hclass] at hclasses
    simpa using hclasses
  · rcases hclasses with ⟨-, h⟩ | ⟨-, h⟩ | hclass | hclass | hclass
    · exact absurd h hgiven
    · exact absurd h hwellFormed
    · exact .inl ⟨hclass, by rw [hclass]; rfl⟩
    · exact .inr (.inl ⟨hclass, by rw [hclass]; rfl⟩)
    · exact .inr (.inr ⟨hclass, by rw [hclass]; rfl⟩)

/-! ## What is not reported -/

/-- A fault that is not reported comes from a row of digits, from the nesting, or from a duration
that messages cannot show, where years and months are modest. -/
theorem FaultOf.unreported [StandIns] {fault : Fault} (h : q.FaultOf ids configured fault)
    (hmodest : q.HasModestTexts configured) (hreported : fault.faultClass.isReported = false) :
    (∃ text count, q.Reads configured text ∧ HasLongRun text.toList count ∧
      fault = .tooManyDigits count) ∨
    (q.LooksUpUnshown ids configured ∧ fault = .numberTooLong) ∨
    (q.NestsTooDeep ∧ ∃ container, fault = .tooDeep container) := by
  cases h with
  | noRules h => cases hreported
  | json h => cases hreported
  | tooDeep h container => exact .inr (.inr ⟨h, container, rfl⟩)
  | @reads text _ h hfault =>
    cases hfault with
    | misfit h hshown =>
      rcases h with h | h | h
      all_goals
        rw [h] at hreported
        cases hreported
    | @longRun count hlong => exact .inl ⟨text, count, h, hlong, rfl⟩
    | manyDigits hlarge => exact absurd (hmodest text h) hlarge
  | unshown h => exact .inr (.inl ⟨h, rfl⟩)

/-- What an inquiry fails with is a fault of its texts that is not reported. -/
theorem faultOf_answer [StandIns] {fault : Fault} (h : q.answer ids configured = .error fault) :
    q.FaultOf ids configured fault ∧ fault.faultClass.isReported = false := by
  rw [answer] at h
  cases hlookup : q.lookup with
  | error lookupFault =>
    rw [hlookup, error_bind, Except.error.injEq] at h
    rw [← h]
    exact faultOf_lookup hlookup
  | ok value =>
    have hyields := yields_about ids configured hlookup
    rw [hlookup, ok_bind] at h
    generalize (q.load ids configured >>= q.answerAbout value) = outcome at h hyields
    cases outcome with
    | ok a => cases h
    | error cause =>
      rw [report] at h
      split_ifs at h with hreported
      cases h
      exact ⟨hyields, by simpa using hreported⟩

/-- A duration that messages cannot show is not answered. -/
theorem answer_of_looksUpUnshown [StandIns] (h : q.LooksUpUnshown ids configured) :
    q.answer ids configured = .error .numberTooLong := by
  obtain ⟨value, d, t, hlookup, hdenotes, hshown, hload, hkind⟩ := h
  have hfind : t.find value = .error .numberTooLong := by
    rw [RuleTable.find_of_other_kind hdenotes hkind (show Kind.category ≠ .duration by decide),
      (Rule.faultClass_mismatch (.duration d)).2 ((Target.shown?_value _).trans hshown)]
  have hquestion : ∃ text, q.question = .find text := by
    rw [lookup] at hlookup
    split at hlookup
    · exact ⟨_, by assumption⟩
    · -- Other questions look nothing up.
      cases hlookup
      cases hdenotes with
      | text hs hd => cases hs
  obtain ⟨text, hquestion⟩ := hquestion
  rw [answer, hlookup, ok_bind, hload, ok_bind]
  simp only [answerAbout, hquestion, hfind, error_bind]
  rfl

/-- What an inquiry answers, and what it does not.  An answer is named for the question and has no
fault, or it tells of one and of nothing else: that there are no rules, where none are given and
none configured; that a text is no JSON, where JSON is asked for and the text is none; and else a
fault of the form, of the values or of their types.  With years and months of less than a million
digits, there is no answer only for a row of digits that readers do not take, for a duration that
messages cannot show, and for containers inside too many others.  Without such rows and containers,
there is no answer only where such a duration is looked up in a table of categories. -/
theorem answer_boundary [StandIns] (ids : IdSource) (configured : String) (q : Inquiry) :
    (∀ a, q.answer ids configured = .ok a →
      a.op = q.question.op ∧ (a.ok = true ↔ a.error = none) ∧
      (a.ok = false → ∃ value fault, q.lookup = .ok value ∧
        (q.load ids configured >>= q.answerAbout value) = .error fault ∧
        q.Reports configured fault a)) ∧
    (q.HasModestTexts configured → ∀ fault, q.answer ids configured = .error fault →
      (∃ text count, q.Reads configured text ∧ HasLongRun text.toList count ∧
        fault = .tooManyDigits count) ∨
      (q.LooksUpUnshown ids configured ∧ fault = .numberTooLong) ∨
      (q.NestsTooDeep ∧ ∃ container, fault = .tooDeep container)) ∧
    (q.HasShortRuns configured → ¬q.NestsTooDeep →
      ((∃ a, q.answer ids configured = .ok a) ↔ ¬q.LooksUpUnshown ids configured)) := by
  refine ⟨fun a ha => ?_, fun hmodest fault hfault => ?_, fun hshort hdeep =>
    ⟨?_, fun hshown => ?_⟩⟩
  · obtain ⟨value, hlookup, hreport⟩ := bind_eq_ok.mp ha
    have hyields := yields_about ids configured hlookup
    cases houtcome : q.load ids configured >>= q.answerAbout value with
    | ok b =>
      rw [houtcome] at hyields hreport
      cases hreport
      obtain ⟨hop, hok, herror⟩ := hyields
      exact ⟨hop, by simp [hok, herror], fun hfailed => by rw [hok] at hfailed; cases hfailed⟩
    | error fault =>
      rw [houtcome, report] at hreport
      split_ifs at hreport with hreported
      cases hreport
      exact ⟨rfl, by simp [Answer.failure, Answer.failed], fun _ =>
        ⟨value, fault, hlookup, houtcome, reports_failure hlookup houtcome hreported⟩⟩
  · obtain ⟨hof, hreported⟩ := faultOf_answer hfault
    exact hof.unreported hmodest hreported
  · rintro ⟨a, ha⟩ hunshown
    rw [answer_of_looksUpUnshown hunshown] at ha
    cases ha
  · cases hanswer : q.answer ids configured with
    | ok a => exact ⟨a, rfl⟩
    | error fault =>
      obtain ⟨hof, hreported⟩ := faultOf_answer hanswer
      rcases hof.unreported hshort.hasModestTexts hreported with
        ⟨text, count, htext, hlong, -⟩ | ⟨hunshown, -⟩ | ⟨hnested, -⟩
      · exact absurd hlong (hshort text htext count)
      · exact absurd hunshown hshown
      · exact absurd hnested hdeep

/-! ## Look-ups in two rules -/

/-- The look-up of a text in two rules of categories. -/
def tiersLookup (text : String) : Inquiry :=
  { tiersListing with question := .find text }

theorem load_tiersLookup (text : String) :
    (tiersLookup text).load ruleIdOf "" = .ok tiers := by
  have hload : tiersListing.load ruleIdOf "" = .ok tiers := by decide +kernel
  rw [tiersLookup, load_question, hload]

theorem reads_tiersLookup [StandIns] {text read : String} (h : (tiersLookup text).Reads "" read) :
    read = text ∨ read = "C11-15P20D,C21-0P30D" := by
  have hsource : (tiersLookup text).source "" = .ok ("C11-15P20D,C21-0P30D", false) := rfl
  cases h with
  | value hquestion =>
    cases hquestion
    exact .inl rfl
  | table htable =>
    rw [hsource] at htable
    cases htable
    exact .inr rfl
  | item hjson =>
    rw [hsource] at hjson
    cases hjson

theorem hasShortRuns_tiersLookup [StandIns] {text : String}
    (h : text.toList.countP isDigit ≤ digitLimit) : (tiersLookup text).HasShortRuns "" := by
  intro read hread count
  rcases reads_tiersLookup hread with rfl | rfl
  · exact not_hasLongRun h count
  · exact not_hasLongRun (by decide +kernel) count

theorem not_nestsTooDeep_tiersLookup [StandIns] (text : String) :
    ¬(tiersLookup text).NestsTooDeep := by
  rintro ⟨rules, container, -, hjson, -⟩
  cases hjson

/-- Eight days. -/
def eightDays : Duration :=
  .clock ⟨8 * microsPerDay, by decide, by decide⟩

theorem answer_boundary_mismatch :
    (tiersLookup "P8D").HasShortRuns "" ∧ ¬(tiersLookup "P8D").NestsTooDeep ∧
      ¬(tiersLookup "P8D").LooksUpUnshown ruleIdOf "" ∧
      ∃ a fault, (tiersLookup "P8D").answer ruleIdOf "" = .ok a ∧ a.op = "find" ∧ a.ok = false ∧
        (tiersLookup "P8D").Reports "" fault a := by
  have hshort : (tiersLookup "P8D").HasShortRuns "" := hasShortRuns_tiersLookup (by decide +kernel)
  have hdeep := not_nestsTooDeep_tiersLookup "P8D"
  have hlookup : (tiersLookup "P8D").lookup = .ok (.text "P8D") := by
    rw [tiersLookup, lookup_find]
    exact parseLookup_text (by decide +kernel) (by decide +kernel)
  have hdenotes : Denotes (.text "P8D") (.duration eightDays) :=
    .text rfl (by decide +kernel : Duration.read "P8D" = .ok eightDays)
  have hfind : tiers.find (.text "P8D") = .error (Rule.mismatch (.duration eightDays)) :=
    RuleTable.find_of_other_kind hdenotes rfl (show Kind.category ≠ .duration by decide)
  have hclass : (Rule.mismatch (.duration eightDays)).faultClass = .type :=
    (Rule.faultClass_mismatch (.duration eightDays)).1.mpr (by decide +kernel)
  have hanswer : (tiersLookup "P8D").answer ruleIdOf "" =
      .ok (.failure "find" (Rule.mismatch (.duration eightDays)) [("value", .text "P8D")]) := by
    rw [answer, hlookup, ok_bind, load_tiersLookup, ok_bind]
    simp only [answerAbout, tiersLookup, hfind, error_bind, report, hclass]
    rfl
  obtain ⟨hanswers, -, hboundary⟩ := answer_boundary ruleIdOf "" (tiersLookup "P8D")
  obtain ⟨hop, -, hreports⟩ := hanswers _ hanswer
  obtain ⟨value, fault, -, -, hreport⟩ := hreports rfl
  exact ⟨hshort, hdeep, (hboundary hshort hdeep).mp ⟨_, hanswer⟩, _, fault, hanswer, hop, rfl,
    hreport⟩

/-- The text of a duration of so many nines of years below zero. -/
def nineYears (count : Nat) : String :=
  String.ofList ('-' :: 'P' :: (nineDigits count ++ ['Y']))

theorem countP_nineYears (count : Nat) : (nineYears count).toList.countP isDigit = count := by
  have hnines : (nineDigits count).countP isDigit = count := by
    rw [nineDigits, List.countP_replicate]
    rfl
  have hminus : isDigit '-' = false := by decide
  have hmark : isDigit 'P' = false := by decide
  have hyears : isDigit 'Y' = false := by decide
  simp [nineYears, hnines, hminus, hmark, hyears]

theorem parseLookup_nineYears (count : Nat) :
    parseLookup (nineYears count) = .ok (.text (nineYears count)) := by
  apply parseLookup_text
  · rw [List.any_eq_false]
    intro c hc
    simp only [nineYears, nineDigits, String.toList_ofList, List.mem_cons, List.mem_append,
      List.mem_replicate, List.not_mem_nil, or_false] at hc
    rcases hc with rfl | rfl | ⟨-, rfl⟩ | rfl <;> decide
  · have hmark : isDigit 'P' = false := by decide
    rw [nineYears, String.toList_ofList, IntegerText.ofChars?, IntegerText.ofChars?.ofDigits?]
    simp [hmark]

/-- A row of digits that readers take is not always answered: the arithmetic of the sign rounds it
up, and messages cannot show what it gives. -/
theorem answer_nines :
    (tiersLookup (nineYears 4300)).HasShortRuns "" ∧
      ¬(tiersLookup (nineYears 4300)).NestsTooDeep ∧
      ¬∃ a, (tiersLookup (nineYears 4300)).answer ruleIdOf "" = .ok a := by
  refine ⟨hasShortRuns_tiersLookup (countP_nineYears 4300).le, not_nestsTooDeep_tiersLookup _, ?_⟩
  have hunshown : (tiersLookup (nineYears 4300)).LooksUpUnshown ruleIdOf "" := by
    have hread := Duration.read_nines (show Decimal.precision < 4300 by decide) (by decide)
    exact ⟨_, _, tiers, parseLookup_nineYears 4300, .text rfl hread,
      Duration.shown?_pow (by decide) (by decide), load_tiersLookup _, rfl⟩
  rw [answer_of_looksUpUnshown hunshown]
  rintro ⟨a, ha⟩
  cases ha

end TieredTerms.Inquiry
