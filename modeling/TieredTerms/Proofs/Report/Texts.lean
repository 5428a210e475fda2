import TieredTerms.Proofs.CommandLine.Runs
import TieredTerms.Proofs.Inquiry.Canonical
import TieredTerms.Proofs.Rule.Intervals
import TieredTerms.Proofs.Screen.Folding

/-!
# Reports in text

The report of a conversion is the written form of the table and nothing else, however long it is, so
that it can be passed on: no line is broken, and no character is dropped or read as markup.  The
report of a check tells the canonical form of the table in full.  Where it is too long for the line
of its label, it is folded below the label into lines as wide as the screen.

* `Report.text_eq` is the report of a text without a line end at its end, `Report.text_eq_lines`
  that of several lines.
* `Inquiry.format_convert` is the statement about conversions, and about the runs that make them.
* `Inquiry.format_check` is the statement about checks.
-/

namespace TieredTerms

/-! ## Line ends -/

/-- Lines with their ends are the lines with an end between them and one behind the last. -/
theorem Screen.ofLines_eq {lines : List (List Char)} (hne : lines ≠ []) :
    ofLines lines = ['\n'].intercalate lines ++ ['\n'] := by
  induction lines with
  | nil => exact absurd rfl hne
  | cons line lines ih =>
    cases lines with
    | nil => simp [ofLines]
    | cons next lines =>
      have hcons : ofLines (line :: next :: lines) = line ++ ['\n'] ++ ofLines (next :: lines) :=
        List.flatMap_cons
      rw [hcons, ih (List.cons_ne_nil next lines), List.intercalate_cons_cons]
      simp only [List.append_assoc]

/-- Lines of glyphs end with a glyph. -/
theorem Glyphs.getLast?_intercalate {lines : List (List Char)}
    (h : ∀ line ∈ lines, Glyphs line ∧ line ≠ []) (hne : lines ≠ []) :
    ∃ c, (['\n'].intercalate lines).getLast? = some c ∧ isGlyph c = true := by
  induction lines with
  | nil => exact absurd rfl hne
  | cons line lines ih =>
    obtain ⟨hline, hlines⟩ := List.forall_mem_cons.mp h
    cases lines with
    | nil =>
      have hlast := List.getLast?_eq_some_getLast hline.2
      rw [List.intercalate_singleton]
      exact ⟨_, hlast, hline.1 _ (List.mem_of_getLast? hlast)⟩
    | cons next lines =>
      obtain ⟨c, hlast, hc⟩ := ih hlines (List.cons_ne_nil next lines)
      refine ⟨c, ?_, hc⟩
      rw [List.intercalate_cons_cons, List.getLast?_append, hlast, Option.some_or]

namespace Report

variable {a : Answer} {verbose : Bool}

/-- The lines of a success that end with a text without line ends. -/
theorem text_eq [StandIns] {cs : List Char} (hok : a.ok = true)
    (hend : cs.getLast? ≠ some '\n') (hlines : successLines verbose a = .ok (cs ++ ['\n'])) :
    text verbose a = .ok (String.ofList cs) := by
  have hkept : cs.reverse.dropWhile (· == '\n') = cs.reverse := by
    cases hcases : cs.reverse with
    | nil => rfl
    | cons c ds =>
      rw [List.getLast?_eq_head?_reverse, hcases, List.head?_cons, Ne, Option.some.injEq] at hend
      rw [List.dropWhile_cons_of_neg (by simpa using hend)]
  rw [text, hok, if_pos rfl, hlines, ok_bind]
  show Except.ok (String.ofList ((cs ++ ['\n']).reverse.dropWhile (· == '\n')).reverse) = _
  rw [List.reverse_concat, List.dropWhile_cons_of_pos (by decide), hkept, List.reverse_reverse]

/-- The report of the lines of a success. -/
theorem text_eq_lines [StandIns] {lines : List (List Char)} (hok : a.ok = true)
    (hglyphs : ∀ line ∈ lines, Glyphs line ∧ line ≠ []) (hne : lines ≠ [])
    (hlines : successLines verbose a = .ok (Screen.ofLines lines)) :
    text verbose a = .ok (String.ofList (['\n'].intercalate lines)) := by
  obtain ⟨c, hlast, hc⟩ := Glyphs.getLast?_intercalate hglyphs hne
  refine text_eq hok ?_ (hlines.trans (congrArg Except.ok (Screen.ofLines_eq hne)))
  rw [hlast, Ne, Option.some.injEq]
  exact ne_of_isGlyph hc (by decide)

/-- A label with a word behind it on a screen. -/
theorem isLaidOut_line {label word : String} (h : IsLabel Screen.defaultWidth label.toList)
    (hglyphs : Glyphs word.toList) (hword : ∀ c ∈ word.toList, isBlank c = false) :
    ∃ lines, line (label ++ word) = Screen.ofLines lines ∧
      IsLaidOut Screen.defaultWidth label.toList word.toList lines := by
  have hall : Glyphs (label ++ word).toList := by
    rw [String.toList_append, Glyphs.append_iff]
    exact ⟨h.glyphs, hglyphs⟩
  have hlaidOut := h.isLaidOut hglyphs hword
  rw [← String.toList_append] at hlaidOut
  exact ⟨_, hall.wrapped _, hlaidOut⟩

end Report

/-! ## Conversions -/

namespace Inquiry

variable {ids : IdSource} {configured format : String} {q : Inquiry} {a : Answer}

/-- What a conversion tells of a table that is well formed. -/
theorem answer_convert [StandIns] (hq : q.question = .convert format)
    (h : q.answer ids configured = .ok a) (hok : a.ok = true) :
    ∃ t, q.load ids configured = .ok t ∧ a = convertAnswer format t := by
  obtain ⟨value, -, hreport⟩ := bind_eq_ok.mp h
  obtain ⟨t, hload, habout⟩ := bind_eq_ok.mp (report_eq_ok hreport hok)
  simp only [answerAbout, hq, ifWritable] at habout
  split_ifs at habout
  cases habout
  exact ⟨t, hload, rfl⟩

/-- The written forms of a table consist of glyphs without colons. -/
theorem glyphs_output [StandIns] (format : String) (t : RuleTable) :
    Glyphs (if format = "json" then t.toJson else t.compact).toList ∧
      ':' ∉ (if format = "json" then t.toJson else t.compact).toList := by
  split_ifs
  · exact ⟨t.glyphs_toJson, t.not_mem_colon_toJson⟩
  · exact ⟨t.ruleChars_compact.glyphs, t.ruleChars_compact.not_mem_colon⟩

/-- The report of a conversion is its output. -/
theorem text_convertAnswer [StandIns] (format : String) (t : RuleTable) (verbose : Bool) :
    Report.text verbose (convertAnswer format t) =
      .ok (if format = "json" then t.toJson else t.compact) := by
  obtain ⟨hglyphs, hcolon⟩ := glyphs_output format t
  unfold convertAnswer
  dsimp only
  generalize (if format = "json" then t.toJson else t.compact) = output at hglyphs hcolon ⊢
  have hlines : Report.convertLines [("format", .text format), ("output", .text output)] =
      output.toList ++ ['\n'] := by
    show Screen.raw (String.ofList (withEmoji output.toList)) = _
    rw [withEmoji_of_not_mem hcolon, String.ofList_toList, hglyphs.raw]
  have hend : output.toList.getLast? ≠ some '\n' :=
    fun hlast => hglyphs.not_mem (by decide) (List.mem_of_getLast? hlast)
  have hsuccess : Report.successLines verbose
      (.success "convert" [("format", .text format), ("output", .text output)] []) =
        .ok (output.toList ++ ['\n']) := congrArg Except.ok hlines
  rw [Report.text_eq rfl hend hsuccess, String.ofList_toList]

/-- The report of a conversion that succeeds is the output of the answer, which is the written form
of the table, character for character, whether it is verbose or not.  A run writes it to the output
with one line end. -/
theorem format_convert [StandIns] (ids : IdSource) (configured format : String) (q : Inquiry)
    (hq : q.question = .convert format) (a : Answer) (h : q.answer ids configured = .ok a)
    (hok : a.ok = true) :
    ∃ t output, q.load ids configured = .ok t ∧
      output = (if format = "json" then t.toJson else t.compact) ∧
      Fields.get? a.data "output" = some (.text output) ∧
      (∀ verbose, Report.format ⟨false, verbose⟩ a = .ok output) ∧
      ∀ w time arguments s, Asks w arguments s q → s.rules.table = configured →
        s.wantsJson = false →
          (runProgram w ids time arguments).status = 0 ∧
            (runProgram w ids time arguments).output = output ++ "\n" := by
  obtain ⟨t, hload, rfl⟩ := answer_convert hq h hok
  have hformat (verbose : Bool) := text_convertAnswer format t verbose
  refine ⟨t, _, hload, rfl, rfl, hformat, ?_⟩
  intro w time arguments s hasks htable hjson
  have hreport : Report.format s.reportMode (convertAnswer format t) =
      .ok (if format = "json" then t.toJson else t.compact) := by
    rw [Report.format, Settings.reportMode, hjson]
    exact hformat s.verbose
  have hunaltered : Unaltered (if format = "json" then t.toJson else t.compact).toList := by
    split_ifs
    · exact t.unaltered_toJson
    · exact t.ruleChars_compact.unaltered
  subst htable
  rw [runProgram_of_asks hasks, inquiryOutcome, h]
  dsimp only
  rw [answerOutcome_of_format hreport, reportedOutcome, if_pos hok]
  exact ⟨rfl, Outcome.printed_of_unaltered hunaltered⟩

/-- A category with a bound of two hundred digits. -/
def wideTable : String :=
  "C1-" ++ String.ofList (List.replicate 200 '9') ++ "P1D"

/-- The rule of the wide table. -/
def wideRule : Rule where
  interval := .category 1 (10 ^ 200 - 1) Nat.one_pos (by decide)
  result := .clock Rule.oneDay
  id := some (ruleIdOf 0)
  result_valid := Rule.isNegative_oneDay

/-- The rules of the wide table. -/
def wideRules : RuleTable :=
  .singleton wideRule

theorem toList_wideTable :
    wideTable.toList = ['C', '1', '-'] ++ List.replicate 200 '9' ++ ['P', '1', 'D'] := by
  have hkind : "C1-".toList = ['C', '1', '-'] := by decide
  have hresult : "P1D".toList = ['P', '1', 'D'] := by decide
  rw [wideTable, String.toList_append, String.toList_append, hkind, hresult, String.toList_ofList]

theorem compact_wideRules : wideRules.compact = wideTable := by
  have hchars : wideRule.compactChars = wideTable.toList := by
    rw [toList_wideTable]
    decide +kernel
  show String.ofList wideRule.compactChars = wideTable
  rw [hchars, String.ofList_toList]

theorem toJson_wideRules [StandIns] : wideRules.toJson = "[\"" ++ wideTable ++ "\"]" := by
  have hascii : Json.asciiText wideRule.compact = '"' :: wideTable.toList ++ ['"'] := by
    rw [← compact_wideRules]
    exact Json.asciiText_of_ruleChars wideRule.ruleChars_compact
  have hopen : "[\"".toList = ['[', '"'] := by decide
  have hclose : "\"]".toList = ['"', ']'] := by decide
  show String.ofList ('[' :: Json.asciiText wideRule.compact ++ [']']) = _
  rw [hascii, ← String.toList_inj, String.toList_append, String.toList_append, String.toList_ofList,
    hopen, hclose]
  simp

theorem isPlain_wideRules : wideRules.IsPlain := by
  intro r hr
  rw [List.mem_singleton.mp hr]
  have hshort {n : Nat} (h : n < 10 ^ 200) : n < 10 ^ digitLimit :=
    h.trans_le (Nat.pow_le_pow_right (by decide) (by decide))
  exact ⟨⟨hshort (by decide), hshort (by decide)⟩,
    ⟨Decimal.isPlain_zero, Decimal.isPlain_zero, by decide⟩⟩

theorem parse_wideTable : RuleTable.parse ruleIdOf wideTable = .ok wideRules := by
  have hrule : Rule.parse (some (ruleIdOf 0)) wideTable = .ok wideRule := by
    rw [Rule.parse, RuleTokens.ofText, toList_wideTable]
    decide +kernel
  have hforms : wideRules.compactForms = [wideTable] := by
    rw [← compact_wideRules]
    rfl
  rw [← compact_wideRules, RuleTable.parse_compactForms ruleIdOf
    fun r hr => (isPlain_wideRules r hr).isCompactChar, hforms, RuleTable.pushForms, hrule]
  rfl

/-- The conversion of the wide table. -/
def wideConversion : Inquiry :=
  { checkOf wideTable with question := .convert "json" }

theorem load_wideConversion : wideConversion.load ruleIdOf "" = .ok wideRules := by
  rw [wideConversion, load_question, load_checkOf, parse_wideTable]

theorem answer_wideConversion :
    wideConversion.answer ruleIdOf "" = .ok (convertAnswer "json" wideRules) := by
  rw [answer, load_wideConversion]
  simp [wideConversion, lookup, answerAbout, ifWritable, isPlain_wideRules.isWritable, report]

/-- A table that is wider than a screen is converted to one line. -/
theorem format_convert_wide :
    ∃ s a, Asks ⟨[], [], [], []⟩ ["convert", wideTable] s ⟨.convert "json", some wideTable, false⟩ ∧
      Inquiry.answer ruleIdOf s.rules.table ⟨.convert "json", some wideTable, false⟩ = .ok a ∧
      a.ok = true ∧ Report.format ⟨false, true⟩ a = .ok ("[\"" ++ wideTable ++ "\"]") ∧
      (runProgram ⟨[], [], [], []⟩ ruleIdOf "" ["convert", wideTable]).output =
        "[\"" ++ wideTable ++ "\"]\n" := by
  obtain ⟨s, hs, hplain⟩ := exists_ok_of_any (x := settingsOf ⟨[], [], [], []⟩ ⟨[], []⟩)
    (p := fun s => s.rules.table == "" && !s.wantsJson) (by decide +kernel)
  simp only [Bool.and_eq_true, beq_iff_eq, Bool.not_eq_true'] at hplain
  obtain ⟨htable, hjson⟩ := hplain
  have hoption : OptionReader.isOption wideTable = false := by decide +kernel
  have hasks : Asks ⟨[], [], [], []⟩ ["convert", wideTable] s wideConversion :=
    asks_argument .convert hoption hs rfl
  obtain ⟨t, output, ht, houtput, -, hformat, hrun⟩ :=
    format_convert ruleIdOf "" "json" wideConversion rfl _ answer_wideConversion rfl
  rw [load_wideConversion, Except.ok.injEq] at ht
  subst ht
  rw [if_pos rfl, toJson_wideRules] at houtput
  subst houtput
  refine ⟨s, _, hasks, htable ▸ answer_wideConversion, rfl, hformat true, ?_⟩
  rw [(hrun _ "" _ s hasks htable hjson).2, String.append_assoc]
  rfl

/-! ## Checks -/

/-- The number of rules, as it is shown, is a word of glyphs. -/
theorem ruleChars_plain_int [StandIns] (n : Int) : RuleChars (Datum.plain (.int n)).toList := by
  rw [Datum.plain_int, intShown?]
  split_ifs
  · exact ruleChars_intText n
  · exact .nil

theorem plain_size [StandIns] {n : Nat} (h : n < 10 ^ 111) : Datum.plain (.int n) = natText n := by
  have hlimit (limit : Nat) (hlimit : 111 ≤ limit) : n < Nat.pow 10 limit :=
    h.trans_le (Nat.pow_le_pow_right (by decide) hlimit)
  rw [Datum.plain_int, intShown?, Int.natAbs_natCast, if_pos (hlimit digitLimit (by decide))]
  rfl

/-- A table with a written form has a kind. -/
theorem exists_kind {t : RuleTable} (h : t.compact ≠ "") : ∃ kind, t.kind? = some kind := by
  cases hrules : t.rules with
  | nil =>
    rw [RuleTable.compact, RuleTable.compactForms, hrules] at h
    exact absurd rfl h
  | cons r rules => exact ⟨r.kind, RuleTable.kind?_of_mem (hrules ▸ List.mem_cons_self)⟩

theorem isLabel_count : IsLabel Screen.defaultWidth "  count: ".toList :=
  ⟨by decide, by decide, by decide, by decide⟩

theorem isLabel_canonical : IsLabel Screen.defaultWidth "  canonical: ".toList :=
  ⟨by decide, by decide, by decide, by decide⟩

/-- The report of a check that succeeds tells, each on a line, the status, the kind, the number of
rules and the canonical form.  A canonical form that is too long for the line of its label follows
in pieces as wide as the screen, so that no line is wider and none of the form is lost. -/
theorem format_check [StandIns] (ids : IdSource) (configured : String) (q : Inquiry)
    (hq : q.question = .check) (a : Answer) (h : q.answer ids configured = .ok a)
    (hok : a.ok = true) (canonical : String)
    (hdata : Fields.get? a.data "canonical" = some (.text canonical)) (hne : canonical ≠ "") :
    ∃ t kind counts forms lines, q.load ids configured = .ok t ∧ t.kind? = some kind ∧
      canonical = t.compact ∧
      lines = ["OK  check".toList, ("  kind: " ++ kind.word).toList] ++ counts ++ forms ∧
      IsLaidOut Screen.defaultWidth "  count: ".toList (Datum.plain (.int t.size)).toList counts ∧
      (t.size < 10 ^ 111 → counts = [("  count: " ++ natText t.size).toList]) ∧
      IsLaidOut Screen.defaultWidth "  canonical: ".toList canonical.toList forms ∧
      forms.flatten = "  canonical: ".toList ++ canonical.toList ∧
      (∀ line ∈ lines, cellLength line ≤ Screen.defaultWidth) ∧
      ∀ verbose, Report.format ⟨false, verbose⟩ a =
        .ok (String.ofList (['\n'].intercalate lines)) := by
  obtain ⟨t, hload, -, rfl⟩ := answer_check hq h hok
  have hcanonical : canonical = t.compact := (Datum.text.inj (Option.some.inj hdata)).symm
  subst hcanonical
  obtain ⟨kind, hkind⟩ := exists_kind hne
  have hcount := ruleChars_plain_int t.size
  have hcompact := t.ruleChars_compact
  obtain ⟨counts, hcountLine, hcounts⟩ := Report.isLaidOut_line isLabel_count
    hcount.glyphs hcount.not_blank
  obtain ⟨forms, hformLine, hforms⟩ := Report.isLaidOut_line isLabel_canonical
    hcompact.glyphs hcompact.not_blank
  have hfirst : Report.statusLine "check" = Screen.ofLines ["OK  check".toList] := by
    decide +kernel
  have hkindLine : Report.field "kind" (.text kind.word) =
      Screen.ofLines [("  kind: " ++ kind.word).toList] := by
    have hword : Unaltered kind.word.toList := by cases kind <;> exact .of_all_isLow (by decide)
    rw [Report.field, Report.fieldValue_eq_plain (d := .text kind.word) hword]
    show Report.line ("  kind: " ++ kind.word) = _
    cases kind <;> decide +kernel
  have hlines (verbose : Bool) : Report.successLines verbose (q.checkAnswer t) =
      .ok (Screen.ofLines (["OK  check".toList, ("  kind: " ++ kind.word).toList] ++ counts ++
        forms)) := by
    have hcountField : Report.field "count" (.int t.size) = Screen.ofLines counts := by
      rw [← hcountLine, Report.field, Report.fieldValue_eq_plain (d := .int t.size) trivial]
      rfl
    have hformField : Report.field "canonical" (.text t.compact) = Screen.ofLines forms := by
      rw [← hformLine, Report.field,
        Report.fieldValue_eq_plain (d := .text t.compact) hcompact.unaltered]
      rfl
    show Except.ok (Report.statusLine "check" ++
      (Report.field "kind" ((t.kind?.map fun kind => .text kind.word).getD .null) ++
        (Report.field "count" (.int t.size) ++
          (Report.field "canonical" (.text t.compact) ++ [])))) = _
    rw [hkind, Option.map_some, Option.getD_some, hfirst, hkindLine, hcountField, hformField]
    simp only [Screen.ofLines, List.flatMap_append, List.flatMap_cons, List.flatMap_nil,
      List.append_nil, List.append_assoc]
  have hlaidOut {label word : List Char} {lines : List (List Char)}
      (hlabel : IsLabel Screen.defaultWidth label) (hword : Glyphs word)
      (h : IsLaidOut Screen.defaultWidth label word lines) :
      ∀ line ∈ lines, (Glyphs line ∧ line ≠ []) ∧ line.length ≤ Screen.defaultWidth :=
    fun line hline => ⟨⟨h.glyphs (Glyphs.append_iff.mpr ⟨hlabel.glyphs, hword⟩) line hline,
      hlabel.line_ne_nil h line hline⟩, hlabel.length_line_le h line hline⟩
  have hall : ∀ line ∈ ["OK  check".toList, ("  kind: " ++ kind.word).toList] ++ counts ++ forms,
      (Glyphs line ∧ line ≠ []) ∧ line.length ≤ Screen.defaultWidth := by
    rw [List.forall_mem_append, List.forall_mem_append]
    refine ⟨⟨?_, hlaidOut isLabel_count hcount.glyphs hcounts⟩,
      hlaidOut isLabel_canonical hcompact.glyphs hforms⟩
    cases kind <;> decide
  refine ⟨t, kind, counts, forms, _, hload, hkind, rfl, rfl, hcounts, fun hsize => ?_, hforms,
    hforms.flatten, fun line hline => ?_, fun verbose => ?_⟩
  · have hlength : (natText t.size).toList.length ≤ 111 := by
      rw [natText, String.toList_ofList]
      exact (Nat.length_toDigits_le_iff (by decide) (by decide)).mpr hsize
    rw [plain_size hsize] at hcounts
    have hlabel : "  count: ".toList.length = 9 := by decide
    have hwidth : Screen.defaultWidth = 120 := rfl
    cases hcounts with
    | one => rw [String.toList_append]
    | more tooLong => omega
  · obtain ⟨⟨hglyphs, -⟩, hle⟩ := hall line hline
    rw [hglyphs.cellLength]
    exact hle
  · exact Report.text_eq_lines rfl (fun line hline => (hall line hline).1) (by simp)
      (hlines verbose)

/-- The canonical form of the wide table needs two lines of its own. -/
theorem format_check_wide :
    ∃ a first rest, (checkOf wideTable).answer ruleIdOf "" = .ok a ∧ a.ok = true ∧
      Fields.get? a.data "canonical" = some (.text wideTable) ∧
      first.length = 120 ∧ rest.length = 86 ∧ first ++ rest = wideTable.toList ∧
      Report.format ⟨false, false⟩ a = .ok (String.ofList (['\n'].intercalate
        ["OK  check".toList, "  kind: category".toList, "  count: 1".toList,
          "  canonical: ".toList, first, rest])) := by
  have hload : (checkOf wideTable).load ruleIdOf "" = .ok wideRules := by
    rw [load_checkOf, parse_wideTable]
  have hanswer : (checkOf wideTable).answer ruleIdOf "" =
      .ok ((checkOf wideTable).checkAnswer wideRules) :=
    answer_checkOf parse_wideTable isPlain_wideRules.isWritable
  have hdata : Fields.get? ((checkOf wideTable).checkAnswer wideRules).data "canonical" =
      some (.text wideTable) := compact_wideRules ▸ rfl
  have hlength : wideTable.toList.length = 206 := by
    rw [toList_wideTable]
    decide +kernel
  have hfirst : (wideTable.toList.take 120).length = 120 := by
    rw [List.length_take, hlength]
    rfl
  have hrest : (wideTable.toList.drop 120).length = 86 := by
    rw [List.length_drop, hlength]
  have hcut : IsCutInto Screen.defaultWidth wideTable.toList
      [wideTable.toList.take 120, wideTable.toList.drop 120] := by
    have hlast : IsCutInto Screen.defaultWidth (wideTable.toList.drop 120) _ :=
      .last (List.ne_nil_of_length_pos (by omega)) (hrest.trans_le (by decide))
    have hall := IsCutInto.cut hfirst hlast
    rwa [List.take_append_drop] at hall
  obtain ⟨t, kind, counts, forms, lines, ht, hkind, -, rfl, -, hcounts, hforms, -, -, hformat⟩ :=
    format_check ruleIdOf "" (checkOf wideTable) rfl _ hanswer rfl wideTable hdata
      (by decide +kernel)
  rw [hload, Except.ok.injEq] at ht
  subst ht
  have hkindOf : kind = .category := (Option.some.inj hkind).symm
  have hcountsOf := hcounts (by decide +kernel)
  subst hkindOf hcountsOf
  cases hforms with
  | one fits =>
    rw [hlength] at fits
    exact absurd fits (by decide)
  | more tooLong cut =>
    rw [cut.unique hcut] at hformat
    exact ⟨_, _, _, hanswer, rfl, hdata, hfirst, hrest, List.take_append_drop 120 _, hformat false⟩

end Inquiry

end TieredTerms
