import TieredTerms.Config.Settings
import TieredTerms.Proofs.Inquiry.Lookup

/-!
# Configured tables

A table may come from the configuration instead of the inquiry.  A configured table was checked
before, so it always loads, and the answers are those for the same table given with the inquiry.  A
table that is given is all that counts.

* `RulesSection.IsValid` are the sections that a configuration can hold;
  `Workspace.isValid_settings` is where they come from.
* `Answer.withoutIds` is an answer without the ids of rules, `Inquiry.withoutIds_answer` tells that
  they are all that differs from one run to another.
* `Inquiry.answer_eq_given` compares a configured table with a given one.
* `Inquiry.answer_configured` puts these together.
-/

namespace TieredTerms

/-! ## Sections of a configuration -/

namespace Checked

variable {α β : Type}

/-- Two parts are read where each is. -/
theorem both_eq_ok {x : Checked α} {y : Checked β} {a : α} {b : β} :
    both x y = .ok (a, b) ↔ x = .ok a ∧ y = .ok b := by
  cases x <;> cases y <;> simp [both]

/-- What a value that may be missing is read as. -/
def readOr (default : α) (read : Datum → Checked α) : Option Datum → Checked α
  | some d => read d
  | none => .ok default

/-- A field is read where its value is, or the default where it is missing. -/
theorem field_eq_ok {fields : Fields} {name : String} {default a : α}
    {read : Datum → Checked α} :
    field fields name default read = .ok a ↔
      readOr default read (Fields.get? fields name) = .ok a := by
  unfold field readOr
  cases Fields.get? fields name with
  | none => rfl
  | some d => cases h : read d <;> simp [below, h]

end Checked

namespace RulesSection

variable {s : RulesSection}

/-- A section that was checked. -/
def IsValid [StandIns] (s : RulesSection) : Prop :=
  s.check = .ok s

theorem isValid_default [StandIns] : default.IsValid := rfl

/-- A check gives the section itself. -/
theorem eq_of_check [StandIns] {a : RulesSection} (h : s.check = .ok a) : a = s := by
  unfold check at h
  split at h
  · exact (Except.ok.inj h).symm
  · split at h
    · cases h
    · split at h
      · exact (Except.ok.inj h).symm
      · cases h
    · exact (Except.ok.inj h).symm

/-- A section of a document is valid. -/
theorem isValid_ofDatum [StandIns] {d : Datum} (h : ofDatum d = .ok s) : s.IsValid := by
  unfold ofDatum at h
  split at h
  · obtain ⟨⟨table, kind⟩, -, hcheck⟩ := bind_eq_ok.mp h
    cases eq_of_check hcheck
    exact hcheck
  · cases h

/-- The table of a valid section can be read, and has the kind that the section asks for. -/
theorem IsValid.parse [StandIns] (h : s.IsValid) (htable : s.table ≠ "") (ids : IdSource) :
    ∃ t, RuleTable.parse ids s.table = .ok t ∧
      ∀ kind, s.kind = some kind → t.kind? = some kind := by
  have hread : ∃ t, RuleTable.parse (fun _ => "") s.table = .ok t ∧
      ∀ kind, s.kind = some kind → t.kind? = some kind := by
    unfold IsValid check at h
    rw [if_neg htable] at h
    split at h
    · cases h
    · next t kind hparse hkind =>
      refine ⟨t, hparse, ?_⟩
      split_ifs at h with hsame
      · rw [hkind, hsame]
        simp
      · cases h
    · next t hparse hkind =>
      exact ⟨t, hparse, by simp [hkind]⟩
  obtain ⟨t, hparse, hkind⟩ := hread
  have hids := RuleTable.withoutIds_parse ids (fun _ => "") s.table
  rw [hparse, ok_map] at hids
  obtain ⟨u, hu, hut⟩ := map_eq_ok.mp hids
  refine ⟨u, hu, fun kind hs => ?_⟩
  rw [← u.kind?_withoutIds, hut, t.kind?_withoutIds, hkind kind hs]

end RulesSection

/-- Settings are made of five fields, where no field is without a meaning. -/
theorem Settings.ofFields_eq_ok [StandIns] {configPath : Option String} {fields : Fields}
    {s : Settings} : ofFields configPath fields = .ok s ↔
      s.configPath = configPath ∧
      Checked.field fields "json_output" false readTruth = .ok s.jsonFlag ∧
      Checked.field fields "verbose" false readTruth = .ok s.verbose ∧
      Checked.field fields "log_json" false readTruth = .ok s.logJson ∧
      Checked.field fields "rules" .default RulesSection.ofDatum = .ok s.rules ∧
      Checked.field fields "output" .default OutputSection.ofDatum = .ok s.output ∧
      unknownFields fields = .ok () := by
  constructor
  · intro h
    obtain ⟨⟨⟨⟨jsonFlag, verbose, logJson⟩, rules, output⟩, _⟩, hparts, hs⟩ := bind_eq_ok.mp h
    obtain ⟨hread, hunknown⟩ := Checked.both_eq_ok.mp hparts
    obtain ⟨hflags, hsections⟩ := Checked.both_eq_ok.mp hread
    obtain ⟨hjson, hother⟩ := Checked.both_eq_ok.mp hflags
    obtain ⟨hverbose, hlogJson⟩ := Checked.both_eq_ok.mp hother
    obtain ⟨hrules, houtput⟩ := Checked.both_eq_ok.mp hsections
    cases hs
    exact ⟨rfl, hjson, hverbose, hlogJson, hrules, houtput, hunknown⟩
  · rintro ⟨rfl, hjson, hverbose, hlogJson, hrules, houtput, hunknown⟩
    have hflags := Checked.both_eq_ok.mpr ⟨hjson, Checked.both_eq_ok.mpr ⟨hverbose, hlogJson⟩⟩
    have hsections := Checked.both_eq_ok.mpr ⟨hrules, houtput⟩
    have hread := Checked.both_eq_ok.mpr ⟨hflags, hsections⟩
    exact bind_eq_ok.mpr ⟨_, Checked.both_eq_ok.mpr ⟨hread, hunknown⟩, rfl⟩

/-- Settings hold the section that is read from the field of the rules. -/
theorem Settings.rules_ofFields [StandIns] {configPath : Option String} {fields : Fields}
    {s : Settings} (h : ofFields configPath fields = .ok s) :
    Checked.field fields "rules" .default RulesSection.ofDatum = .ok s.rules := by
  obtain ⟨-, -, -, -, hrules, -, -⟩ := ofFields_eq_ok.mp h
  exact hrules

/-- Settings of a document have a valid section about rules. -/
theorem Settings.isValid_ofFields [StandIns] {configPath : Option String} {fields : Fields}
    {s : Settings} (h : ofFields configPath fields = .ok s) : s.rules.IsValid := by
  have hread := Checked.field_eq_ok.mp (rules_ofFields h)
  cases hgiven : Fields.get? fields "rules" with
  | none =>
    rw [hgiven] at hread
    rw [← Except.ok.inj hread]
    exact RulesSection.isValid_default
  | some d =>
    rw [hgiven] at hread
    exact RulesSection.isValid_ofDatum hread

/-- The settings of a run have a valid section about rules, whatever layers they come from. -/
theorem Workspace.isValid_settings [StandIns] {w : Workspace} {named : Option String}
    {start : Option FilePath} {flags : Fields} {s : Settings}
    (h : w.settings named start flags = .ok s) : s.rules.IsValid := by
  obtain ⟨path, -, h⟩ := bind_eq_ok.mp h
  have hmerged {file : Fields} (h : (w.variableFields >>= fun environment =>
      (Settings.ofFields (path.map FilePath.toText)
        (overlay (overlay file environment)
          (("config_path", ((path.map FilePath.toText).map .text).getD .null) :: flags))).mapError
        ConfigFault.issues) = .ok s) : s.rules.IsValid := by
    obtain ⟨environment, -, h⟩ := bind_eq_ok.mp h
    exact Settings.isValid_ofFields (mapError_eq_ok.mp h)
  cases path with
  | none => exact hmerged h
  | some path =>
    obtain ⟨file, -, h⟩ := bind_eq_ok.mp h
    exact hmerged h

/-! ## Answers without ids -/

theorem Fields.withoutId_append (fields fields' : Fields) :
    withoutId (fields ++ fields') = withoutId fields ++ withoutId fields' :=
  List.filter_append fields fields'

namespace Answer

/-- An entry of a listing without the id of its rule. -/
def entryWithoutId : Datum → Datum
  | .object fields => .object (Fields.withoutId fields)
  | d => d

/-- A value in the data of an answer, without the ids of the rules that it lists. -/
def listingWithoutIds : Datum → Datum
  | .array entries => .array (entries.map entryWithoutId)
  | d => d

/-- The answer without the ids of rules. -/
def withoutIds (a : Answer) : Answer :=
  { a with
    data := (Fields.withoutId a.data).map fun (name, value) => (name, listingWithoutIds value) }

end Answer

namespace Inquiry

variable {ids ids' : IdSource} {configured configured' : String} {q : Inquiry} {t u : RuleTable}

/-- Tables that differ in ids only list the same entries. -/
theorem entries_described (h : t.withoutIds = u.withoutIds) :
    (described t).map Answer.entryWithoutId = (described u).map Answer.entryWithoutId := by
  have hentries (t : RuleTable) : (described t).map Answer.entryWithoutId =
      t.withoutIds.rules.zipIdx.map fun entry =>
        .object (Fields.withoutId (entry.1.describe (.int entry.2))) := by
    rw [described, RuleTable.withoutIds, List.zipIdx_map, List.map_map, List.map_map]
    exact List.map_congr_left fun entry _ =>
      congrArg Datum.object (Rule.withoutId_describe rfl (.int entry.2))
  rw [hentries, hentries, h]

/-- Look-ups that found the same rule apart from its id are answered in the same way. -/
theorem withoutIds_findAnswer (text : String) {found found' : Option RuleTable.Found}
    (h : found.map RuleTable.Found.withoutId = found'.map RuleTable.Found.withoutId) :
    (findAnswer text found).withoutIds = (findAnswer text found').withoutIds := by
  cases found with
  | none =>
    cases found' with
    | none => rfl
    | some f => cases h
  | some f =>
    cases found' with
    | none => cases h
    | some g =>
      obtain ⟨hindex, hrule⟩ : f.index = g.index ∧ f.rule.withoutId = g.rule.withoutId := by
        simpa [RuleTable.Found.withoutId] using h
      have hsame := Rule.withoutId_describe hrule (.int g.index)
      simp only [findAnswer, Answer.success, Answer.withoutIds, hindex, Fields.withoutId_append,
        hsame]

/-- The answers about tables that differ in ids only are the same apart from the ids. -/
theorem withoutIds_answerAbout [StandIns] (h : t.withoutIds = u.withoutIds) (q : Inquiry)
    (value : Value) :
    Answer.withoutIds <$> q.answerAbout value t = Answer.withoutIds <$> q.answerAbout value u := by
  have hwritable : t.isWritable = u.isWritable := by
    rw [← t.isWritable_withoutIds, h, u.isWritable_withoutIds]
  have hcompact : t.compact = u.compact := by
    rw [← t.compact_withoutIds, h, u.compact_withoutIds]
  have hsize : t.size = u.size := by
    rw [← t.size_withoutIds, h, u.size_withoutIds]
  have hif {a b : Answer} (hab : a.withoutIds = b.withoutIds) (writable : Bool) :
      Answer.withoutIds <$> ifWritable writable a =
        Answer.withoutIds <$> ifWritable writable b := by
    cases writable with
    | true => exact congrArg Except.ok hab
    | false => rfl
  unfold answerAbout
  split
  · next text _ =>
    have hfind : Option.map RuleTable.Found.withoutId <$> t.find value =
        Option.map RuleTable.Found.withoutId <$> u.find value := by
      rw [RuleTable.withoutIds_find, RuleTable.withoutIds_find, h]
    refine map_bind_congr hfind fun found found' hfound => ?_
    have hall : (found.all fun f => f.rule.isWritable) = found'.all fun f => f.rule.isWritable := by
      have hmapped := congrArg (Option.all fun f => f.rule.isWritable) hfound
      rwa [Option.all_map, Option.all_map] at hmapped
    rw [hall]
    exact hif (withoutIds_findAnswer text hfound) _
  · have hkind : t.kind? = u.kind? := by
      rw [← t.kind?_withoutIds, h, u.kind?_withoutIds]
    rw [checkAnswer, checkAnswer, hkind, hsize, hcompact, hwritable]
  · have hjson : t.toJson = u.toJson := by
      rw [← t.toJson_withoutIds, h, u.toJson_withoutIds]
    rw [convertAnswer, convertAnswer, hjson, hcompact, hwritable]
  · rw [hwritable]
    refine hif ?_ _
    simp [showAnswer, Answer.success, Answer.withoutIds, Fields.withoutId, Answer.listingWithoutIds,
      hsize, entries_described h]

/-- The report of an outcome depends on its ids as the outcome does. -/
theorem withoutIds_report (q : Inquiry) {outcome outcome' : Except Fault Answer}
    (h : Answer.withoutIds <$> outcome = Answer.withoutIds <$> outcome') :
    Answer.withoutIds <$> q.report outcome = Answer.withoutIds <$> q.report outcome' := by
  cases outcome with
  | ok a =>
    cases outcome' with
    | ok b => exact h
    | error fault => cases h
  | error fault =>
    cases outcome' with
    | ok b => cases h
    | error fault' =>
      cases h
      rfl

/-- Ids are all that answers to the same inquiry differ in from one run to another. -/
theorem withoutIds_answer [StandIns] (q : Inquiry) (ids ids' : IdSource) (configured : String) :
    Answer.withoutIds <$> q.answer ids configured =
      Answer.withoutIds <$> q.answer ids' configured := by
  rw [answer, answer]
  cases q.lookup with
  | error fault => rfl
  | ok value =>
    have hload := withoutIds_load q ids ids' configured
    exact q.withoutIds_report <|
      map_bind_congr hload fun t u htu => withoutIds_answerAbout htu q value

/-! ## Configured and given tables -/

/-- The inquiry with a table in compact form. -/
def given (q : Inquiry) (table : String) : Inquiry :=
  { q with rules := some table, fromJson := false }

/-- The answer without the warning that a check gives of a table. -/
def unwarned (q : Inquiry) (a : Answer) : Answer :=
  match q.question with
  | .check => { a with warnings := [] }
  | _ => a

theorem withoutIds_unwarned (q : Inquiry) (outcome : Except Fault Answer) :
    Answer.withoutIds <$> q.unwarned <$> outcome =
      q.unwarned <$> Answer.withoutIds <$> outcome := by
  have hanswer (a : Answer) : (q.unwarned a).withoutIds = q.unwarned a.withoutIds := by
    unfold unwarned
    split <;> rfl
  cases outcome with
  | ok a => exact congrArg Except.ok (hanswer a)
  | error fault => rfl

/-- The report of an outcome warns as the outcome does; a failure has no warning. -/
theorem unwarned_report (q : Inquiry) (outcome : Except Fault Answer) :
    q.report (q.unwarned <$> outcome) = q.unwarned <$> q.report outcome := by
  cases outcome with
  | ok a => rfl
  | error fault =>
    rw [error_map, report]
    split_ifs
    · unfold unwarned
      split <;> rfl
    · rfl

/-- A configured table is loaded as it is given. -/
theorem load_eq_given [StandIns] (hrules : q.rules = none) (hconfigured : configured ≠ "")
    (ids : IdSource) (configured' : String) :
    q.load ids configured = (q.given configured).load ids configured' := by
  simp [load, source, given, hrules, hconfigured]

/-- The answer about a configured table is the one about a given table, without the warning of a
check. -/
theorem answerAbout_eq_given [StandIns] (hrules : q.rules = none) (table : String) (value : Value)
    (t : RuleTable) :
    q.answerAbout value t = q.unwarned <$> (q.given table).answerAbout value t := by
  have hif (a : Answer) (writable : Bool) :
      q.unwarned <$> ifWritable writable a = ifWritable writable (q.unwarned a) := by
    cases writable <;> rfl
  cases hquestion : q.question with
  | find text =>
    simp only [answerAbout, given, hquestion]
    cases t.find value with
    | error fault => rfl
    | ok found =>
      simp only [ok_bind, hif, unwarned, hquestion]
  | check =>
    simp only [answerAbout, given, hquestion, hif]
    simp [unwarned, hquestion, checkAnswer, hrules, Answer.success]
  | convert format => simp only [answerAbout, given, hquestion, hif, unwarned]
  | «show» => simp only [answerAbout, given, hquestion, hif, unwarned]

/-- A configured table is asked about as a given table, and a check does not warn. -/
theorem answer_eq_given [StandIns] (hrules : q.rules = none) (hconfigured : configured ≠ "")
    (ids : IdSource) (configured' : String) :
    q.answer ids configured = q.unwarned <$> (q.given configured).answer ids configured' := by
  have hlookup : (q.given configured).lookup = q.lookup := rfl
  have hreport (outcome : Except Fault Answer) :
      (q.given configured).report outcome = q.report outcome := by
    cases outcome <;> rfl
  rw [answer, answer, hlookup]
  cases q.lookup with
  | error fault => rfl
  | ok value =>
    rw [ok_bind, ok_bind, hreport, ← unwarned_report,
      load_eq_given hrules hconfigured ids configured']
    cases (q.given configured).load ids configured' with
    | error fault => rfl
    | ok t => rw [ok_bind, ok_bind, answerAbout_eq_given hrules configured]

/-- A table that is given is asked about in the same way whatever is configured. -/
theorem answer_explicit [StandIns] {text : String} (hrules : q.rules = some text) (ids : IdSource)
    (configured configured' : String) : q.answer ids configured = q.answer ids configured' := by
  have hload : q.load ids configured = q.load ids configured' := by
    simp [load, source, hrules]
  rw [answer, answer, hload]

/-! ## What is listed of a configured table -/

/-- The listing of a table has an entry for each rule, with the kind of the rule. -/
theorem mem_described {entry : Datum} (h : entry ∈ described t) :
    ∃ r ∈ t.rules, entry.get? "kind" = some (.text r.kind.word) := by
  rw [described, List.mem_map] at h
  obtain ⟨⟨r, index⟩, hmem, rfl⟩ := h
  obtain ⟨_, _, hr⟩ := List.mem_zipIdx hmem
  exact ⟨r, hr ▸ List.getElem_mem _, rfl⟩

/-- The listing of a table that is loaded. -/
theorem data_of_show [StandIns] (hquestion : q.question = .show)
    (hload : q.load ids configured = .ok t) {a : Answer} (h : q.answer ids configured = .ok a) :
    a.data = [("count", .int t.size), ("periods", .array (described t))] := by
  have hanswer : q.answer ids configured = q.report (ifWritable t.isWritable (showAnswer t)) := by
    simp only [answer, lookup, hquestion, ok_bind, hload, answerAbout]
  rw [hanswer, ifWritable] at h
  split_ifs at h
  · cases h
    rfl
  · cases h

/-! ## Nothing configured -/

/-- A look-up of an integer that has more digits than readers take. -/
def AsksOverlong (q : Inquiry) : Prop :=
  ∃ text, q.question = .find text ∧ IsOverlong text

/-- The value of a look-up is read unless it is too long. -/
theorem lookup_cases (q : Inquiry) :
    (¬q.AsksOverlong ∧ ∃ value, q.lookup = .ok value) ∨
      q.AsksOverlong ∧
        ∃ count, digitLimit < count ∧ q.lookup = .error (.tooManyDigits count) := by
  unfold lookup AsksOverlong
  cases q.question with
  | find text =>
    simp only [Question.find.injEq, exists_eq_left']
    exact parseLookup_cases text
  | _ => exact .inl ⟨by simp, .none, rfl⟩

/-- Without a table every inquiry fails, unless its value cannot be read. -/
theorem answer_without_table [StandIns] (hrules : q.rules = none) {value : Value}
    (hlookup : q.lookup = .ok value) (ids : IdSource) :
    q.answer ids "" = .ok (.failed q.question.op "NO_RULES"
      "No rules given and no [rules] table configured" q.question.detail) := by
  have hload : q.load ids "" = .error .noRules := by
    simp [load, source, hrules]
  rw [answer, hlookup, ok_bind, hload]
  rfl

/-- Inquiries under a valid section.  A configured table always loads, with rules of the configured
kind; the answer is the one for the same table given in compact form, but for the warning of a
check; and every rule that is listed has the configured kind.  Where nothing is configured, an
inquiry without a table fails with this code, unless it looks up an integer that has more digits
than readers take.  An inquiry with a table is answered in the same way under every section.  Ids do
not count. -/
theorem answer_configured [StandIns] (s s' : RulesSection) (hs : s.IsValid) (ids ids' : IdSource)
    (q : Inquiry) :
    (q.rules = none → s.table ≠ "" →
      (∃ t, q.load ids s.table = .ok t ∧
        ∀ kind, s.kind = some kind → ∀ r ∈ t.rules, r.kind = kind) ∧
      Answer.withoutIds <$> q.answer ids s.table =
        Answer.withoutIds <$> q.unwarned <$> (q.given s.table).answer ids' s'.table ∧
      ∀ kind a, s.kind = some kind → q.question = .show → q.answer ids s.table = .ok a →
        ∃ periods, Fields.get? a.data "periods" = some (.array periods) ∧
          ∀ entry ∈ periods, entry.get? "kind" = some (.text kind.word)) ∧
    (q.rules = none → s.table = "" →
      (¬q.AsksOverlong → q.answer ids s.table = .ok (.failed q.question.op "NO_RULES"
        "No rules given and no [rules] table configured" q.question.detail)) ∧
      (q.AsksOverlong → ∃ count, digitLimit < count ∧
        q.answer ids s.table = .error (.tooManyDigits count))) ∧
    ∀ text, q.rules = some text →
      Answer.withoutIds <$> q.answer ids s.table =
        Answer.withoutIds <$> q.answer ids' s'.table := by
  refine ⟨fun hrules htable => ?_, fun hrules htable => ?_, fun text hrules => ?_⟩
  · obtain ⟨t, hparse, hkind⟩ := hs.parse htable ids
    have hload : q.load ids s.table = .ok t := by
      rw [load_eq_given hrules htable ids ""]
      exact hparse
    have hrule (kind : Kind) (hconfigured : s.kind = some kind) :
        ∀ r ∈ t.rules, r.kind = kind := by
      intro r hr
      have hall := hkind kind hconfigured
      rw [RuleTable.kind?_of_mem hr] at hall
      exact Option.some.inj hall
    refine ⟨⟨t, hload, hrule⟩, ?_, fun kind a hconfigured hquestion ha => ?_⟩
    · have hids := withoutIds_answer (q.given s.table) ids ids' s'.table
      rw [answer_eq_given hrules htable ids s'.table]
      rw [withoutIds_unwarned, hids, withoutIds_unwarned]
    · refine ⟨described t, ?_, fun entry hentry => ?_⟩
      · rw [data_of_show hquestion hload ha]
        rfl
      · obtain ⟨r, hr, hword⟩ := mem_described hentry
        rw [hword, hrule kind hconfigured r hr]
  · rw [htable]
    rcases q.lookup_cases with ⟨hshort, value, hvalue⟩ | ⟨hlong, count, hcount, hfault⟩
    · exact ⟨fun _ => answer_without_table hrules hvalue ids, fun hlong => absurd hlong hshort⟩
    · refine ⟨fun hshort => absurd hlong hshort, fun _ => ⟨count, hcount, ?_⟩⟩
      rw [answer, hfault, error_bind]
  · rw [answer_explicit hrules ids s.table s'.table]
    exact q.withoutIds_answer ids ids' s'.table

/-- A section with two rules of categories. -/
def tiersSection : RulesSection :=
  ⟨"C11-15P20D,C21-0P30D", some .category⟩

/-- The listing of whatever is configured. -/
def configuredListing : Inquiry :=
  { question := .show, rules := none, fromJson := true }

theorem answer_configured_tiers :
    tiersSection.IsValid ∧
      (∃ t, configuredListing.load ruleIdOf tiersSection.table = .ok t ∧
        ∀ r ∈ t.rules, r.kind = .category) ∧
      Answer.withoutIds <$> configuredListing.answer ruleIdOf tiersSection.table =
        Answer.withoutIds <$> configuredListing.unwarned <$>
          (configuredListing.given tiersSection.table).answer (fun _ => "") "" ∧
      ∃ a periods, configuredListing.answer ruleIdOf tiersSection.table = .ok a ∧
        Fields.get? a.data "periods" = some (.array periods) ∧
        ∀ entry ∈ periods, entry.get? "kind" = some (.text "category") := by
  have hvalid : tiersSection.IsValid := by
    show tiersSection.check = .ok tiersSection
    decide +kernel
  obtain ⟨hconfigured, -, -⟩ :=
    answer_configured tiersSection .default hvalid ruleIdOf (fun _ => "") configuredListing
  obtain ⟨⟨t, hload, hkind⟩, hsame, hlisted⟩ := hconfigured rfl (by decide)
  have hanswer : ∃ a, configuredListing.answer ruleIdOf tiersSection.table = .ok a := by
    have htiers : configuredListing.load ruleIdOf tiersSection.table = .ok tiers := by
      decide +kernel
    rw [answer, htiers]
    exact ⟨_, rfl⟩
  obtain ⟨a, ha⟩ := hanswer
  obtain ⟨periods, hperiods, hentries⟩ := hlisted .category a rfl rfl ha
  exact ⟨hvalid, ⟨t, hload, hkind .category rfl⟩, hsame, a, periods, ha, hperiods, hentries⟩

/-- The look-up of so many ones in whatever is configured. -/
def onesLookup (count : Nat) : Inquiry :=
  { question := .find (String.ofList (List.replicate count '1')), rules := none, fromJson := false }

theorem asksOverlong_onesLookup {count : Nat} (h : digitLimit < count) :
    (onesLookup count).AsksOverlong := by
  have hdigits : ∀ c ∈ List.replicate count '1', isDigit c = true ∧ isBlank c = false := by
    intro c hc
    rw [List.eq_of_mem_replicate hc]
    decide
  have hne : List.replicate count '1' ≠ [] := by
    rw [Ne, List.replicate_eq_nil_iff]
    omega
  refine ⟨_, rfl, ⟨false, List.replicate count '1'⟩, ?_, by simpa using h⟩
  rw [String.toList_ofList, stripChars_of_not_blank fun c hc => (hdigits c hc).2]
  exact ofChars?_of_digits hne (List.all_eq_true.mpr fun c hc => (hdigits c hc).1)

/-- An inquiry without a table is not always answered where nothing is configured: the value of a
look-up is read before. -/
theorem answer_ones_without_table :
    RulesSection.default.IsValid ∧ (onesLookup 4301).rules = none ∧
      ¬∃ a, (onesLookup 4301).answer ruleIdOf RulesSection.default.table = .ok a := by
  refine ⟨RulesSection.isValid_default, rfl, ?_⟩
  rintro ⟨a, ha⟩
  obtain ⟨value, hvalue, -⟩ := bind_eq_ok.mp ha
  have hlong := asksOverlong_onesLookup (show digitLimit < 4301 by decide)
  rcases lookup_cases (onesLookup 4301) with ⟨hshort, -⟩ | ⟨-, count, -, hfault⟩
  · exact hshort hlong
  · rw [hfault] at hvalue
    cases hvalue

end Inquiry

end TieredTerms
