import TieredTerms.Inquiry
import TieredTerms.Proofs.Report.Fields
import TieredTerms.Proofs.Screen.Tables

/-!
# Reports of successes

The answers about rules can be shown in every mode.  Their texts are written forms of rules, ids and
plain words, so that no text is marked up badly, no document has lone units, and a stream takes the
whole report as it is.

* `Report.ruleTable_eq_ok` is about the table of rules on a screen.
* `Answer.IsPresentable` are the answers that can be shown in every mode.
* `Inquiry.isPresentable_findAnswer`, `Inquiry.isPresentable_checkAnswer`,
  `Inquiry.isPresentable_convertAnswer` and `Inquiry.isPresentable_showAnswer` tell that the answers
  of the four questions are.
-/

namespace TieredTerms

namespace Report

theorem unaltered_line [StandIns] {text : String} (h : Unaltered text.toList) :
    Unaltered (line text) :=
  h.wrapped _

/-- Single values are shown as they are. -/
theorem fieldValue_eq_plain [StandIns] {d : Datum} (h : d.IsUnaltered) (name : String) :
    fieldValue name d = d.plain := by
  unfold fieldValue
  split_ifs
  · rfl
  · cases d with
    | array | object => cases h
    | _ => rfl

theorem unaltered_field [StandIns] {name : String} (hname : Unaltered name.toList) {d : Datum}
    (h : d.IsUnaltered) : Unaltered (field name d) := by
  refine unaltered_line ?_
  rw [fieldValue_eq_plain h]
  simp only [String.toList_append, Unaltered.append_iff]
  exact ⟨⟨⟨.of_all_isLow (by decide), hname⟩, .of_all_isLow (by decide)⟩, h.plain⟩

theorem unaltered_statusLine [StandIns] {op : String} (h : Unaltered op.toList) :
    Unaltered (statusLine op) := by
  refine unaltered_line ?_
  rw [String.toList_append, Unaltered.append_iff]
  exact ⟨.of_all_isLow (by decide), h⟩

variable {data : Fields}

theorem unaltered_findLines [StandIns] (h : UnalteredFields data) (verbose : Bool) :
    Unaltered (findLines verbose data) := by
  have hfield {name : String} (hname : Unaltered name.toList) : Unaltered (dataField data name) :=
    unaltered_field hname (h.get? name)
  unfold findLines
  dsimp only
  split_ifs
  · exact .flatMap fun name hname => hfield (Unaltered.of_all_all_isLow (by decide) name hname)
  · exact .flatMap fun name hname => hfield (Unaltered.of_all_all_isLow (by decide) name hname)
  · exact Unaltered.append_iff.mpr
      ⟨hfield (.of_all_isLow (by decide)), unaltered_field (.of_all_isLow (by decide)) trivial⟩

/-! ## Tables of rules -/

/-- Fields of single values that stand for themselves in tables. -/
def LiteralFields [StandIns] (fields : Fields) : Prop :=
  ∀ field ∈ fields, field.2.IsLiteral

variable {rule : Fields}

theorem isLiteral_getD [StandIns] (h : LiteralFields rule) (name : String) :
    ((Fields.get? rule name).getD .null).IsLiteral := by
  rw [Fields.get?]
  cases hfind : rule.find? fun field => field.1 == name with
  | none => exact Datum.isLiteral_null
  | some field => exact h field (List.mem_of_find?_eq_some hfind)

theorem isLiteral_cell [StandIns] (h : LiteralFields rule) (name : String) :
    IsLiteral (cell rule name) := by
  rw [cell, Fields.get?]
  cases hfind : rule.find? fun field => field.1 == name with
  | none => exact .of_all rfl
  | some field => exact (h field (List.mem_of_find?_eq_some hfind)).2

theorem isLiteral_upperCell [StandIns] (h : LiteralFields rule) : IsLiteral (upperCell rule) := by
  rw [upperCell]
  split_ifs
  · exact .of_all (by decide)
  · exact isLiteral_cell h "upper"

theorem isLiteral_idCell [StandIns] (h : LiteralFields rule) : IsLiteral (idCell rule) := by
  unfold idCell
  dsimp only
  split_ifs
  · exact (isLiteral_getD h "id").2
  · exact .of_all (by decide)

/-- Literal texts of a column are shown as they are. -/
theorem markedColumn_eq [StandIns] {texts : List String} (h : ∀ s ∈ texts, IsLiteral s)
    (header : String) (atRight wraps : Bool) :
    markedColumn header atRight wraps texts = .ok ⟨header, atRight, wraps, texts⟩ := by
  have hunmarked : texts.mapM unmarked = .ok texts := by
    induction texts with
    | nil => rfl
    | cons s texts ih =>
      obtain ⟨hs, htexts⟩ := List.forall_mem_cons.mp h
      rw [List.mapM_cons, hs.unmarked, ih htexts]
      rfl
  rw [markedColumn, hunmarked]
  rfl

/-- A table of rules is drawn in characters that a stream takes as they are. -/
theorem ruleTable_eq_ok [StandIns] {rules : List Fields} (h : ∀ rule ∈ rules, LiteralFields rule)
    (verbose : Bool) : ∃ t, ruleTable verbose rules = .ok t ∧ t.IsUnaltered := by
  have hcells (name : String) : ∀ s ∈ rules.map (cell · name), IsLiteral s :=
    List.forall_mem_map.mpr fun rule hrule => isLiteral_cell (h rule hrule) name
  have huppers : ∀ s ∈ rules.map upperCell, IsLiteral s :=
    List.forall_mem_map.mpr fun rule hrule => isLiteral_upperCell (h rule hrule)
  have hids : ∀ s ∈ rules.map idCell, IsLiteral s :=
    List.forall_mem_map.mpr fun rule hrule => isLiteral_idCell (h rule hrule)
  have hfirst : ∀ column ∈ ([⟨"#", true, true, rules.map (cell · "index")⟩,
      ⟨"Kind", false, true, rules.map (cell · "kind")⟩,
      ⟨"Lower", true, true, rules.map (cell · "lower")⟩,
      ⟨"Upper", true, true, rules.map upperCell⟩,
      ⟨"Result", false, true, rules.map (cell · "result")⟩] : List Column),
      Unaltered column.header.toList ∧ ∀ text ∈ column.texts, Unaltered text.toList := by
    simp only [List.forall_mem_cons]
    exact ⟨⟨.of_all_isLow (by decide), fun s hs => (hcells _ s hs).1⟩,
      ⟨.of_all_isLow (by decide), fun s hs => (hcells _ s hs).1⟩,
      ⟨.of_all_isLow (by decide), fun s hs => (hcells _ s hs).1⟩,
      ⟨.of_all_isLow (by decide), fun s hs => (huppers s hs).1⟩,
      ⟨.of_all_isLow (by decide), fun s hs => (hcells _ s hs).1⟩, by simp⟩
  unfold ruleTable
  rw [markedColumn_eq (hcells "index"), markedColumn_eq (hcells "lower"), markedColumn_eq huppers,
    markedColumn_eq (hcells "result"), markedColumn_eq hids]
  cases verbose with
  | false =>
    refine ⟨_, rfl, ?_⟩
    rw [BoxTable.IsUnaltered, List.append_nil]
    exact hfirst
  | true =>
    refine ⟨_, rfl, ?_⟩
    rw [BoxTable.IsUnaltered, List.reverse_singleton, List.forall_mem_append,
      List.forall_mem_singleton]
    exact ⟨hfirst, (.of_all_isLow (by decide) : Unaltered "ID".toList), fun s hs => (hids s hs).1⟩

theorem unaltered_showLines [StandIns] {rules : List Fields} (count : Datum)
    (h : ∀ rule ∈ rules, LiteralFields rule) (verbose : Bool) :
    ∃ lines, showLines verbose [("count", count), ("periods", .array (rules.map .object))] =
      .ok lines ∧ Unaltered lines := by
  have hitems : (rules.map Datum.object).mapM ruleFields = .ok rules := by
    clear h
    induction rules with
    | nil => rfl
    | cons rule rules ih =>
      rw [List.map_cons, List.mapM_cons, ih]
      rfl
  obtain ⟨t, htable, hunaltered⟩ := ruleTable_eq_ok h verbose
  have hperiods : Fields.get? [("count", count), ("periods", Datum.array (rules.map .object))]
      "periods" = some (.array (rules.map .object)) := rfl
  unfold showLines
  rw [hperiods]
  dsimp only [Option.getD]
  split_ifs
  · refine ⟨Screen.ofLines (t.drawn Screen.defaultWidth), ?_, .ofLines (.drawn hunaltered _)⟩
    rw [itemsOf, ok_bind, hitems, ok_bind, htable]
    rfl
  · exact ⟨_, rfl, unaltered_line (.of_all_isLow (by decide))⟩

theorem successLines_show [StandIns] {verbose : Bool} {data : Fields} {lines : List Char}
    (h : showLines verbose data = .ok lines) (warnings : List String) :
    successLines verbose (.success "show" data warnings) = .ok (statusLine "show" ++ lines) := by
  show (do return statusLine "show" ++ (← showLines verbose data)) = Except.ok _
  rw [h]
  rfl

end Report

/-! ## Successful answers -/

/-- A successful answer that has a report in every mode, in characters that a stream takes as they
are, and so have its warnings. -/
structure Answer.IsPresentable [StandIns] (a : Answer) : Prop where
  ok : a.ok = true
  report : ∀ mode, ∃ report, Report.format mode a = .ok report ∧ Unaltered report.toList
  warnings : ∀ warning ∈ a.warnings, Unaltered warning.toList

namespace Answer

variable {op : String} {data : Fields} {warnings : List String}

/-- The texts of warnings. -/
private theorem itemTexts_map_text (texts : List String) :
    Datum.itemTexts (texts.map .text) = texts := by
  induction texts with
  | nil => rfl
  | cons s texts ih => rw [List.map_cons, Datum.itemTexts, ih, Datum.texts, List.singleton_append]

/-- The texts of a success. -/
theorem texts_success (op : String) (data : Fields) (warnings : List String) :
    (success op data warnings).toDatum.texts =
      ["ok", "op", op, "data"] ++ Datum.fieldTexts data ++
        "warnings" :: (warnings ++ ["error"]) := by
  simp [success, toDatum, Datum.texts, Datum.fieldTexts, itemTexts_map_text]

/-- A success is presentable where its lines are and no text of it has lone units. -/
theorem isPresentable_success [StandIns] (hop : Unaltered op.toList)
    (hdata : HasNoLoneUnits (Datum.fieldTexts data))
    (hwarnings : ∀ warning ∈ warnings, Unaltered warning.toList)
    (hlines : ∀ verbose, ∃ lines,
      Report.successLines verbose (.success op data warnings) = .ok lines ∧ Unaltered lines) :
    (success op data warnings).IsPresentable where
  ok := rfl
  warnings := hwarnings
  report := by
    rintro ⟨json, verbose⟩
    cases json with
    | true =>
      have hlone : HasNoLoneUnits (success op data warnings).toDatum.texts := by
        have hnames : ∀ s ∈ ["ok", "op", op, "data"], Unaltered s.toList := by
          simp only [List.forall_mem_cons]
          exact ⟨.of_all_isLow (by decide), .of_all_isLow (by decide), hop,
            .of_all_isLow (by decide), by simp⟩
        have hwords : ∀ s ∈ "warnings" :: (warnings ++ ["error"]), Unaltered s.toList := by
          rw [List.forall_mem_cons, List.forall_mem_append, List.forall_mem_singleton]
          exact ⟨.of_all_isLow (by decide), hwarnings, .of_all_isLow (by decide)⟩
        rw [texts_success, HasNoLoneUnits.append_iff, HasNoLoneUnits.append_iff]
        exact ⟨⟨.of_unaltered hnames, hdata⟩, .of_unaltered hwords⟩
      have hjson : Report.json (success op data warnings) = .ok _ :=
        Report.json_eq_ok.mpr ⟨hlone, rfl⟩
      exact ⟨_, hjson, Report.unaltered_json hjson⟩
    | false =>
      obtain ⟨lines, hsuccess, hunaltered⟩ := hlines verbose
      refine ⟨String.ofList (lines.reverse.dropWhile (· == '\n')).reverse, ?_, ?_⟩
      · rw [Report.format, if_neg Bool.false_ne_true, Report.text, hsuccess]
        rfl
      · rw [String.toList_ofList]
        refine hunaltered.subset fun c hc => ?_
        exact List.mem_reverse.mp ((List.dropWhile_sublist _).subset (List.mem_reverse.mp hc))

end Answer

namespace Inquiry

/-- The answers of look-ups, without warnings or with such that reach a stream. -/
private theorem isPresentable_find [StandIns] {data : Fields} (hdata : UnalteredFields data)
    {warnings : List String} (hwarnings : ∀ warning ∈ warnings, Unaltered warning.toList) :
    (Answer.success "find" data warnings).IsPresentable := by
  have hstatus : Unaltered (Report.statusLine "find") :=
    Report.unaltered_statusLine (.of_all_isLow (by decide))
  refine Answer.isPresentable_success (.of_all_isLow (by decide)) hdata.hasNoLoneUnits hwarnings
    fun verbose => ?_
  exact ⟨_, rfl, Unaltered.append_iff.mpr ⟨hstatus, Report.unaltered_findLines hdata verbose⟩⟩

theorem isPresentable_findAnswer [StandIns] {value : String} (hvalue : Unaltered value.toList)
    {found : Option RuleTable.Found}
    (hid : ∀ f ∈ found, ∀ s, f.rule.id = some s → isRuleId s = true) :
    (findAnswer value found).IsPresentable := by
  cases found with
  | none =>
    refine isPresentable_find ?_ ?_
    · simp only [UnalteredFields, List.forall_mem_cons]
      exact ⟨⟨.of_all_isLow (by decide), hvalue⟩, ⟨.of_all_isLow (by decide), trivial⟩, by simp⟩
    · rw [List.forall_mem_singleton, String.toList_append, Unaltered.append_iff]
      exact ⟨.of_all_isLow (by decide), hvalue⟩
  | some f =>
    have hrule := Rule.isLiteral_describe (hid f rfl) f.index
    refine isPresentable_find ?_ (by simp)
    simp only [UnalteredFields, List.forall_mem_append, List.forall_mem_cons]
    exact ⟨⟨⟨.of_all_isLow (by decide), hvalue⟩, ⟨.of_all_isLow (by decide), trivial⟩, by simp⟩,
      fun field hfield => ⟨(hrule field hfield).1, (hrule field hfield).2.1⟩⟩

theorem isPresentable_checkAnswer [StandIns] (q : Inquiry) (t : RuleTable) :
    (q.checkAnswer t).IsPresentable := by
  have hkind : ((t.kind?.map fun kind => Datum.text kind.word).getD .null).IsUnaltered := by
    cases t.kind? with
    | none => trivial
    | some kind =>
      have hword : Unaltered kind.word.toList := by cases kind <;> exact .of_all_isLow (by decide)
      exact hword
  have hdata : UnalteredFields [("kind", (t.kind?.map fun kind => .text kind.word).getD .null),
      ("count", .int t.size), ("canonical", .text t.compact)] := by
    simp only [UnalteredFields, List.forall_mem_cons]
    exact ⟨⟨.of_all_isLow (by decide), hkind⟩, ⟨.of_all_isLow (by decide), trivial⟩,
      ⟨.of_all_isLow (by decide), t.ruleChars_compact.unaltered⟩,
      by simp⟩
  have hstatus : Unaltered (Report.statusLine "check") :=
    Report.unaltered_statusLine (.of_all_isLow (by decide))
  refine Answer.isPresentable_success (.of_all_isLow (by decide)) hdata.hasNoLoneUnits ?_
    fun verbose => ?_
  · split_ifs
    · exact Unaltered.of_all_all_isLow (by decide)
    · simp
  · refine ⟨_, rfl, Unaltered.append_iff.mpr ⟨hstatus, .flatMap fun field hfield => ?_⟩⟩
    exact Report.unaltered_field (hdata field hfield).1 (hdata field hfield).2

theorem isPresentable_convertAnswer [StandIns] {format : String} (hformat : Unaltered format.toList)
    (t : RuleTable) : (convertAnswer format t).IsPresentable := by
  have houtput : Unaltered (if format = "json" then t.toJson else t.compact).toList ∧
      ':' ∉ (if format = "json" then t.toJson else t.compact).toList := by
    split_ifs
    · exact ⟨t.unaltered_toJson, t.not_mem_colon_toJson⟩
    · exact ⟨t.ruleChars_compact.unaltered, t.ruleChars_compact.not_mem_colon⟩
  unfold convertAnswer
  dsimp only
  generalize (if format = "json" then t.toJson else t.compact) = output at houtput
  have hdata : UnalteredFields [("format", .text format), ("output", .text output)] := by
    simp only [UnalteredFields, List.forall_mem_cons]
    exact ⟨⟨.of_all_isLow (by decide), hformat⟩, ⟨.of_all_isLow (by decide), houtput.1⟩, by simp⟩
  have hlines : Report.convertLines [("format", .text format), ("output", .text output)] =
      Screen.raw output := by
    show Screen.raw (String.ofList (withEmoji output.toList)) = Screen.raw output
    rw [withEmoji_of_not_mem houtput.2, String.ofList_toList]
  refine Answer.isPresentable_success (.of_all_isLow (by decide)) hdata.hasNoLoneUnits (by simp)
    fun verbose => ?_
  exact ⟨_, rfl, hlines ▸ houtput.1.raw⟩

theorem isPresentable_showAnswer [StandIns] {t : RuleTable}
    (hid : ∀ r ∈ t.rules, ∀ s, r.id = some s → isRuleId s = true) :
    (showAnswer t).IsPresentable := by
  have hrules : ∀ fields ∈ t.rules.zipIdx.map fun entry => entry.1.describe (.int entry.2),
      ∀ field ∈ fields, Unaltered field.1.toList ∧ field.2.IsLiteral := by
    rw [List.forall_mem_map]
    intro entry hmem
    exact Rule.isLiteral_describe (hid entry.1 (List.fst_mem_of_mem_zipIdx hmem)) entry.2
  have hdescribed : described t =
      (t.rules.zipIdx.map fun entry => entry.1.describe (.int entry.2)).map .object := by
    rw [List.map_map]
    rfl
  unfold showAnswer
  rw [hdescribed]
  generalize t.rules.zipIdx.map (fun entry => entry.1.describe (.int entry.2)) = rules at hrules
  have htexts : HasNoLoneUnits (Datum.itemTexts (rules.map .object)) :=
    UnalteredFields.hasNoLoneUnits_objects fun rule hrule field hfield =>
      ⟨(hrules rule hrule field hfield).1, (hrules rule hrule field hfield).2.1⟩
  have hstatus : Unaltered (Report.statusLine "show") :=
    Report.unaltered_statusLine (.of_all_isLow (by decide))
  refine Answer.isPresentable_success (.of_all_isLow (by decide)) ?_ (by simp) fun verbose => ?_
  · have hcount : Unaltered "count".toList := .of_all_isLow (by decide)
    have hperiods : Unaltered "periods".toList := .of_all_isLow (by decide)
    simp only [Datum.fieldTexts, Datum.texts, HasNoLoneUnits.append_iff, HasNoLoneUnits.cons_iff]
    exact ⟨⟨hcount.isSome_loneUnit?, .nil⟩, ⟨hperiods.isSome_loneUnit?, htexts⟩, .nil⟩
  · obtain ⟨lines, hlines, hunaltered⟩ := Report.unaltered_showLines (.int t.size)
      (fun rule hrule field hfield => (hrules rule hrule field hfield).2) verbose
    refine ⟨Report.statusLine "show" ++ lines, ?_, Unaltered.append_iff.mpr ⟨hstatus, hunaltered⟩⟩
    exact Report.successLines_show hlines []

end Inquiry

end TieredTerms
