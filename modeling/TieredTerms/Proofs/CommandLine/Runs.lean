import Mathlib.Data.List.Find
import TieredTerms.Proofs.CommandLine.Flags
import TieredTerms.Proofs.Inquiry.Presentable
import TieredTerms.Proofs.Journal.SetUps

/-!
# What runs show of answers

A run of a command asks one question, and shows the answer on the two streams.  The report of a
success stands alone on the output.  A failure is told on the error stream alone, which drops style
codes and escapes lone units.  Flags change how an answer is shown, not whether there is one.

* `Asks` tells which inquiry a command line makes, `Shows` what a run shows of an answer.
* `debugText` are the lines for debugging; `debugText_eq_empty` tells that a run has none unless it
  is verbose.
* `Outcome.EndsLike` compares two runs, `ownOptions_cons_flag` adds a flag to a command line.
* `runProgram_shows` is the statement about all runs.
-/

namespace TieredTerms

/-! ## Streams -/

namespace Outcome

theorem printed_of_unaltered [StandIns] {text : String} (h : Unaltered text.toList) :
    printed text = text ++ "\n" := by
  rw [printed, h.dropStyles, String.ofList_toList]

theorem encoded_of_unaltered [StandIns] {text : String} (h : Unaltered text.toList) :
    encoded text = text := by
  rw [encoded, List.flatMap_congr (g := fun c => [c]), List.flatMap_singleton',
    String.ofList_toList]
  intro c hc
  have hnone : loneUnit? c = none := by simpa using h.isSome_loneUnit? c hc
  rw [hnone]

theorem encoded_printed [StandIns] {text : String} (h : Unaltered text.toList) :
    encoded (printed text) = text ++ "\n" := by
  rw [printed_of_unaltered h, encoded_of_unaltered]
  rw [String.toList_append, Unaltered.append_iff]
  exact ⟨h, .of_all_isLow (by decide)⟩

/-- Whether two runs end alike: with the same status, and both with output or both without. -/
def EndsLike (o o' : Outcome) : Prop :=
  o.status = o'.status ∧ (o.output = "" ↔ o'.output = "")

end Outcome

/-! ## Inquiries of command lines -/

/-- A command line makes an inquiry with settings: its own options are read, the settings are made,
and the command reads the other arguments. -/
def Asks [StandIns] (w : Workspace) (arguments : List String) (s : Settings) (q : Inquiry) : Prop :=
  ∃ given c rest own, ownOptions arguments = .ok given ∧ given.arguments = Command.word c :: rest ∧
    settingsOf w given = .ok s ∧ c.form.read rest = .ok own ∧
    own.firstOf? [Command.examplesOption.name, CommandForm.help.name] = none ∧ c.inquiry own = .ok q

/-- The debugging lines of a run, each with its line end. -/
def debugText [StandIns] (ids : IdSource) (time : String) (s : Settings) (q : Inquiry) : String :=
  String.join ((s.journal.lines time (q.notes ids s.rules.table)).map fun line =>
    Outcome.encoded (line.written ++ "\n"))

/-- The warnings of an answer, each on a line. -/
def warningText (a : Answer) : String :=
  String.join (a.warnings.map fun warning => "WARNING: " ++ warning ++ "\n")

section Runs

variable {w : Workspace} {ids : IdSource} {time : String} {arguments : List String} {s : Settings}
  {q : Inquiry} {a : Answer}

@[simp] theorem Command.ofWord?_word (c : Command) : ofWord? c.word = some c := by
  cases c <;> rfl

/-- The run of a command line that makes an inquiry is the outcome of the inquiry. -/
theorem runProgram_of_asks [StandIns] (h : Asks w arguments s q) :
    runProgram w ids time arguments = inquiryOutcome ids time s q := by
  obtain ⟨given, c, rest, own, hown, hrest, hsettings, hread, hfirst, hinquiry⟩ := h
  unfold runProgram
  simp only [hown, hrest, Command.ofWord?_word, runProgram.inSettings, hsettings, runCommand, hread,
    hfirst, hinquiry]

/-- The formats of commands are plain words. -/
theorem unaltered_of_inquiry [StandIns] {c : Command} {own : Given} (h : c.inquiry own = .ok q) :
    ∀ format, q.question = .convert format → Unaltered format.toList := by
  have hformats : ∀ format ∈ tableFormats, Unaltered format.toList :=
    Unaltered.of_all_all_isLow (by decide)
  intro format hformat
  unfold Command.inquiry at h
  cases c with
  | find =>
    dsimp only at h
    split at h
    · cases h
    · cases h
      cases hformat
    · cases h
  | check | «show» =>
    obtain ⟨rules, -, h⟩ := bind_eq_ok.mp h
    cases h
    cases hformat
  | convert =>
    obtain ⟨target, htarget, h⟩ := bind_eq_ok.mp h
    obtain ⟨rules, -, h⟩ := bind_eq_ok.mp h
    cases h
    cases hformat
    unfold Command.target at htarget
    split at htarget
    · cases htarget
      exact .of_all_isLow (by decide)
    · split_ifs at htarget with hmem
      cases htarget
      exact hformats _ (List.contains_iff_mem.mp hmem)

theorem Asks.unaltered_format [StandIns] (h : Asks w arguments s q) :
    ∀ format, q.question = .convert format → Unaltered format.toList := by
  obtain ⟨given, c, rest, own, -, -, -, -, -, hinquiry⟩ := h
  exact unaltered_of_inquiry hinquiry

/-- The notes of an inquiry are for debugging. -/
theorem exists_of_mem_notes [StandIns] {configured : String} {note : Note}
    (h : note ∈ q.notes ids configured) :
    ∃ source ∈ [Inquiry.loadSource, Inquiry.questionSource], ∃ text, note = .debug source text := by
  unfold Inquiry.notes at h
  split at h
  · cases h
  · rw [List.mem_append] at h
    rcases h with h | h
    · obtain ⟨text, -, rfl⟩ := List.mem_map.mp h
      exact ⟨_, by simp, text, rfl⟩
    · obtain ⟨text, -, rfl⟩ := List.mem_map.mp h
      exact ⟨_, by simp, text, rfl⟩

/-- A run that is not verbose writes no debugging lines. -/
theorem debugText_eq_empty [StandIns] (h : s.verbose = false) : debugText ids time s q = "" := by
  have hstate : SetUp.IsState ⟨false, s.logJson⟩ s.journal := by
    rw [Settings.journal, h]
    exact Journal.isState_setUp Journal.hasOwnThresholds_initial ⟨false, s.logJson⟩
  have hsources : ∀ source ∈ [Inquiry.loadSource, Inquiry.questionSource], StandsClear source := by
    decide +kernel
  have hlines : s.journal.lines time (q.notes ids s.rules.table) = [] := by
    refine hstate.lines_eq_nil time ?_ ?_
    all_goals
      intro note hnote
      obtain ⟨source, hsource, text, rfl⟩ := exists_of_mem_notes hnote
    · exact hsources source hsource
    · show ¬(if IsOwnSource source then Severity.warning else .warning).level ≤
        Severity.debug.level
      rw [ite_self]
      decide
  rw [debugText, hlines]
  rfl

/-! ## Answers -/

/-- What a run shows of an answer.  The report of a success goes to the output, with the warnings on
the error stream except in JSON.  The report of a failure goes to the error stream as that takes it:
as it is in JSON, and wherever it holds nothing that a stream alters.  A failure in JSON that holds
lone units has no report. -/
structure Shows [StandIns] (ids : IdSource) (time : String) (s : Settings) (q : Inquiry)
    (a : Answer) (o : Outcome) : Prop where
  success : a.ok = true → ∃ report, Report.format s.reportMode a = .ok report ∧
    o = { status := 0, output := report ++ "\n", unreported := none
          errors := debugText ids time s q ++ if s.wantsJson then "" else warningText a }
  failure : a.ok = false → o.status = 1 ∧ o.output = ""
  report : a.ok = false → ∀ report, Report.format s.reportMode a = .ok report →
    o.unreported = none ∧
      o.errors = debugText ids time s q ++ Outcome.encoded (Outcome.printed report) ∧
      (s.wantsJson = true ∨ Unaltered report.toList →
        o.errors = debugText ids time s q ++ (report ++ "\n"))
  reported : s.wantsJson = false ∨ HasNoLoneUnits a.toDatum.texts →
    ∃ report, Report.format s.reportMode a = .ok report

/-- Warnings that a stream takes as they are. -/
theorem join_warnings [StandIns] (h : ∀ warning ∈ a.warnings, Unaltered warning.toList) :
    String.join (a.warnings.map fun warning =>
      Outcome.encoded (Outcome.printed ("WARNING: " ++ warning))) = warningText a := by
  rw [warningText, List.map_congr_left]
  intro warning hwarning
  rw [Outcome.encoded_printed]
  rw [String.toList_append, Unaltered.append_iff]
  exact ⟨.of_all_isLow (by decide), h warning hwarning⟩

theorem answerOutcome_of_format [StandIns] {mode : ReportMode} {report : String}
    (h : Report.format mode a = .ok report) :
    answerOutcome mode a = reportedOutcome mode a report := by
  rw [answerOutcome, h]

/-- A failure has a report in text, and one in JSON where no text of it has lone units. -/
theorem exists_format_of_failure [StandIns] (hok : a.ok = false)
    (h : s.wantsJson = false ∨ HasNoLoneUnits a.toDatum.texts) :
    ∃ report, Report.format s.reportMode a = .ok report := by
  unfold Report.format Settings.reportMode
  cases hjson : s.wantsJson with
  | true =>
    rw [hjson] at h
    exact ⟨_, Report.json_eq_ok.mpr ⟨h.resolve_left Bool.noConfusion, rfl⟩⟩
  | false =>
    simp only [Bool.false_eq_true, if_false, Report.text, hok]
    exact ⟨_, rfl⟩

/-- The outcome of an inquiry shows its answer. -/
theorem shows_inquiryOutcome [StandIns] (hids : ∀ n, isRuleId (ids n) = true)
    (hformat : ∀ format, q.question = .convert format → Unaltered format.toList)
    (h : q.answer ids s.rules.table = .ok a) :
    Shows ids time s q a (inquiryOutcome ids time s q) := by
  have houtcome : inquiryOutcome ids time s q = (answerOutcome s.reportMode a).withLines
      (s.journal.lines time (q.notes ids s.rules.table)) := by
    rw [inquiryOutcome, h]
  rw [houtcome]
  have hunaltered (report : String) (hreport : Report.format s.reportMode a = .ok report)
      (hshown : s.wantsJson = true ∨ Unaltered report.toList) : Unaltered report.toList := by
    refine hshown.elim (fun hjson => ?_) id
    rw [Report.format, Settings.reportMode, if_pos hjson] at hreport
    exact Report.unaltered_json hreport
  refine ⟨fun hok => ?_, fun hok => ?_, fun hok report hreport => ?_, fun hlone => ?_⟩
  · have hpresentable := Inquiry.isPresentable_of_answer hids hformat h hok
    obtain ⟨report, hreport, hplain⟩ := hpresentable.report s.reportMode
    refine ⟨report, hreport, ?_⟩
    have hwarnings : String.join ((if s.wantsJson then [] else a.warnings).map fun warning =>
        Outcome.encoded (Outcome.printed ("WARNING: " ++ warning))) =
          if s.wantsJson then "" else warningText a := by
      split_ifs
      · rfl
      · exact join_warnings hpresentable.warnings
    rw [answerOutcome_of_format hreport, reportedOutcome, if_pos hok, ← hwarnings,
      ← Outcome.printed_of_unaltered hplain]
    rfl
  · cases hreport : Report.format s.reportMode a with
    | ok report =>
      rw [answerOutcome_of_format hreport, reportedOutcome, if_neg (by simp [hok])]
      exact ⟨rfl, rfl⟩
    | error fault =>
      rw [answerOutcome, hreport]
      exact ⟨rfl, rfl⟩
  · rw [answerOutcome_of_format hreport, reportedOutcome, if_neg (by simp [hok])]
    refine ⟨rfl, rfl, fun hshown => ?_⟩
    rw [← Outcome.encoded_printed (hunaltered report hreport hshown)]
    rfl
  · cases hok : a.ok with
    | true =>
      have hpresentable := Inquiry.isPresentable_of_answer hids hformat h hok
      obtain ⟨report, hreport, -⟩ := hpresentable.report s.reportMode
      exact ⟨report, hreport⟩
    | false => exact exists_format_of_failure hok hlone

/-! ## Two runs -/

private theorem append_newLine_ne (text : String) : text ++ "\n" ≠ "" := by
  intro h
  have hchars : text.toList ++ ['\n'] = [] := by
    have hlist := congrArg String.toList h
    rw [String.toList_append] at hlist
    exact hlist
  simp at hchars

/-- An inquiry that succeeds ends with output and the status of success, any other without
output. -/
theorem inquiryOutcome_ends [StandIns] (time : String) (s : Settings)
    (hids : ∀ n, isRuleId (ids n) = true)
    (hformat : ∀ format, q.question = .convert format → Unaltered format.toList) :
    ((∃ a, q.answer ids s.rules.table = .ok a ∧ a.ok = true) ∧
      (inquiryOutcome ids time s q).status = 0 ∧ (inquiryOutcome ids time s q).output ≠ "") ∨
    (¬(∃ a, q.answer ids s.rules.table = .ok a ∧ a.ok = true) ∧
      (inquiryOutcome ids time s q).status = 1 ∧ (inquiryOutcome ids time s q).output = "") := by
  cases hanswer : q.answer ids s.rules.table with
  | error fault =>
    rw [inquiryOutcome, hanswer]
    exact .inr ⟨by simp, rfl, rfl⟩
  | ok a =>
    have hshows : Shows ids time s q a _ := shows_inquiryOutcome hids hformat hanswer
    cases hok : a.ok with
    | true =>
      obtain ⟨report, -, houtcome⟩ := hshows.success hok
      rw [houtcome]
      exact .inl ⟨⟨a, rfl, hok⟩, rfl, append_newLine_ne report⟩
    | false => exact .inr ⟨by simp [hok], hshows.failure hok⟩

theorem Outcome.EndsLike.refl (o : Outcome) : o.EndsLike o :=
  ⟨rfl, Iff.rfl⟩

/-- Settings that differ in flags end an inquiry alike. -/
theorem endsLike_inquiryOutcome [StandIns] (hids : ∀ n, isRuleId (ids n) = true)
    (hformat : ∀ format, q.question = .convert format → Unaltered format.toList) (g : Given) :
    (inquiryOutcome ids time (s.withFlags g) q).EndsLike (inquiryOutcome ids time s q) := by
  rcases inquiryOutcome_ends time s hids hformat with
    ⟨hsucceeds, hstatus, houtput⟩ | ⟨hfails, hstatus, houtput⟩
  all_goals
    rcases inquiryOutcome_ends time (s.withFlags g) hids hformat with
      ⟨hsucceeds', hstatus', houtput'⟩ | ⟨hfails', hstatus', houtput'⟩
  · exact ⟨hstatus'.trans hstatus.symm, iff_of_false houtput' houtput⟩
  · exact absurd hsucceeds hfails'
  · exact absurd hsucceeds' hfails
  · exact ⟨hstatus'.trans hstatus.symm, iff_of_true houtput' houtput⟩

/-- Settings that differ in flags end the runs of a command alike. -/
theorem endsLike_runCommand [StandIns] (hids : ∀ n, isRuleId (ids n) = true) (g : Given)
    (c : Command) (rest : List String) :
    (runCommand ids time (s.withFlags g) c rest).EndsLike (runCommand ids time s c rest) := by
  unfold runCommand
  split
  · exact .refl _
  · split
    · exact .refl _
    · split
      · exact .refl _
      · next hinquiry =>
        exact endsLike_inquiryOutcome hids (unaltered_of_inquiry hinquiry) g

/-- Command lines with the same arguments behind the program's own options, and with the same
configuration file, end their runs alike. -/
theorem endsLike_of_config [StandIns] (w : Workspace) (hids : ∀ n, isRuleId (ids n) = true)
    {arguments arguments' : List String} {given given' : Given}
    (hown : ownOptions arguments = .ok given) (hown' : ownOptions arguments' = .ok given')
    (harguments : given.arguments = given'.arguments)
    (hconfig : given.value? "--config" = given'.value? "--config") :
    (runProgram w ids time arguments).EndsLike (runProgram w ids time arguments') := by
  have hsettings := settingsOf_withFlags w hconfig
  have hin (run : Settings → Outcome) (hrun : ∀ s, (run (s.withFlags given)).EndsLike (run s)) :
      (runProgram.inSettings w given run).EndsLike (runProgram.inSettings w given' run) := by
    unfold runProgram.inSettings
    rw [hsettings]
    cases settingsOf w given' with
    | ok s => exact hrun s
    | error fault => exact .refl _
  unfold runProgram
  rw [hown, hown']
  dsimp only
  rw [harguments]
  split
  · exact hin _ fun s => .refl _
  · split
    · exact hin _ fun s => endsLike_runCommand hids given _ _
    · exact .refl _

end Runs

/-! ## Command lines that differ in flags -/

namespace Given

/-- The names of the flags. -/
def flagNames : List String :=
  [GlobalFlag.json, .verbose, .logJson].map GlobalFlag.option

/-- What a command line gives apart from flags. -/
def withoutFlags (g : Given) : Given :=
  { g with options := g.options.filter fun option => !flagNames.contains option.1 }

/-- The path of the configuration file is no flag. -/
theorem value?_withoutFlags (g : Given) :
    g.withoutFlags.value? "--config" = g.value? "--config" := by
  rw [value?, value?, withoutFlags]
  dsimp only
  rw [← List.filter_reverse, List.find?_filter, List.find?_congr]
  intro option _
  cases hname : option.1 == "--config" with
  | false => simp
  | true =>
    rw [beq_iff_eq.mp hname]
    decide

end Given

/-- A flag in front of a command line adds the flag and nothing else. -/
theorem ownOptions_cons_flag [StandIns] {arguments : List String} {given : Given}
    (h : ownOptions arguments = .ok given) (f : GlobalFlag) :
    ownOptions (f.option :: arguments) = .ok (given.withOption f.option none) := by
  have hread : programForm.read (f.option :: arguments) =
      (programForm.read arguments).map (Given.withOption f.option none) := by
    have htake : OptionReader.take ⟨programForm.options, false⟩ f.option arguments.head? =
        .ok ⟨[(f.option, none)], false⟩ := by
      cases f <;> rfl
    have hoption : OptionReader.isOption f.option = true := by cases f <;> decide
    have hends : f.option ≠ "--" := by cases f <;> decide
    unfold CommandForm.read
    rw [OptionReader.read, if_neg hends, if_pos hoption]
    show (do
      let taken ← OptionReader.take ⟨programForm.options, false⟩ f.option arguments.head?
      let given ← OptionReader.read ⟨programForm.options, false⟩
        (arguments.drop (if taken.next then 1 else 0))
      return taken.options.foldr (fun (option : String × Option String) =>
        Given.withOption option.1 option.2) given) = _
    rw [htake, ok_bind]
    show (do
      let given ← OptionReader.read ⟨programForm.options, programForm.anywhere⟩ arguments
      return given.withOption f.option none) = _
    cases OptionReader.read ⟨programForm.options, programForm.anywhere⟩ arguments <;> rfl
  have hfirst (given : Given) :
      (given.withOption f.option none).firstOf? ["--version", CommandForm.help.name] =
        given.firstOf? ["--version", CommandForm.help.name] := by
    have hflag : ["--version", CommandForm.help.name].contains f.option = false := by
      cases f <;> decide
    rw [Given.firstOf?, Given.withOption, List.map_cons, List.find?_cons, hflag]
    rfl
  unfold ownOptions at h ⊢
  cases harguments : programForm.read arguments with
  | error fault =>
    rw [harguments] at h
    cases h
  | ok read =>
    rw [harguments] at h
    rw [hread, harguments]
    dsimp only [Except.map] at h ⊢
    rw [hfirst]
    split at h
    · cases h
    · cases h
      rfl

/-- The run of a command line that makes an inquiry shows its answer.  Command lines that differ in
flags only end their runs alike, with the same status, and both with output or both without. -/
theorem runProgram_shows [StandIns] (around : Surroundings) (ids : IdSource) (time : String)
    (hids : ∀ n, isRuleId (ids n) = true) :
    (∀ arguments s q a, Asks around.toWorkspace arguments s q →
      q.answer ids s.rules.table = .ok a →
        Shows ids time s q a (runProgram around.toWorkspace ids time arguments)) ∧
    ∀ arguments arguments' given given', ownOptions arguments = .ok given →
      ownOptions arguments' = .ok given' → given.withoutFlags = given'.withoutFlags →
        (runProgram around.toWorkspace ids time arguments).EndsLike
          (runProgram around.toWorkspace ids time arguments') := by
  constructor
  · intro arguments s q a hasks hanswer
    rw [runProgram_of_asks hasks]
    exact shows_inquiryOutcome hids hasks.unaltered_format hanswer
  · intro arguments arguments' given given' hown hown' hsame
    refine endsLike_of_config _ hids hown hown' ?_ ?_
    · exact (Given.mk.injEq ..).mp hsame |>.2
    · rw [← given.value?_withoutFlags, hsame, given'.value?_withoutFlags]

/-! ## Runs without options -/

/-- A command line that starts with a word has no own options. -/
theorem ownOptions_word [StandIns] {word : String} (h : OptionReader.isOption word = false)
    (rest : List String) : ownOptions (word :: rest) = .ok ⟨[], word :: rest⟩ := by
  have hends : word ≠ "--" := by
    rintro rfl
    exact absurd h (by decide)
  have hread : programForm.read (word :: rest) = .ok ⟨[], word :: rest⟩ := by
    rw [CommandForm.read, OptionReader.read, if_neg hends, if_neg (by simp [h])]
    rfl
  rw [ownOptions, hread]
  rfl

/-- A command with one argument, without options, makes the inquiry of the argument. -/
theorem asks_argument [StandIns] {w : Workspace} {s : Settings} {q : Inquiry} (c : Command)
    {argument : String} (h : OptionReader.isOption argument = false)
    (hsettings : settingsOf w ⟨[], [c.word, argument]⟩ = .ok s)
    (hinquiry : c.inquiry ⟨[], [argument]⟩ = .ok q) : Asks w [c.word, argument] s q := by
  have hword : OptionReader.isOption c.word = false := by
    cases c <;> decide
  have hends : argument ≠ "--" := by
    rintro rfl
    exact absurd h (by decide)
  have hread : c.form.read [argument] = .ok ⟨[], [argument]⟩ := by
    rw [CommandForm.read, OptionReader.read, if_neg hends, if_neg (by simp [h]), OptionReader.read]
    rfl
  exact ⟨_, c, [argument], ⟨[], [argument]⟩, ownOptions_word hword _, rfl, hsettings, hread, rfl,
    hinquiry⟩

theorem runProgram_shows_lookup :
    (∀ n, isRuleId (ruleIdOf n) = true) ∧
    ∃ s a, Asks askingWorkspace ["find", "2"] s ⟨.find "2", none, false⟩ ∧
      Inquiry.answer ruleIdOf s.rules.table ⟨.find "2", none, false⟩ = .ok a ∧ a.ok = true ∧
      Shows ruleIdOf "" s ⟨.find "2", none, false⟩ a
        (runProgram askingWorkspace ruleIdOf "" ["find", "2"]) ∧
      (runProgram askingWorkspace ruleIdOf "" ["--json", "find", "2"]).EndsLike
        (runProgram askingWorkspace ruleIdOf "" ["find", "2"]) := by
  obtain ⟨s, hs, htable⟩ := exists_ok_of_any (x := settingsOf askingWorkspace flaglessLookup)
    (p := fun s => s.rules.table == "C1-2P1D") (by decide +kernel)
  rw [beq_iff_eq] at htable
  obtain ⟨a, ha, hok⟩ := exists_ok_of_any
    (x := Inquiry.answer ruleIdOf "C1-2P1D" ⟨.find "2", none, false⟩)
    (p := Answer.ok) (by decide +kernel)
  have hasks : Asks askingWorkspace ["find", "2"] s ⟨.find "2", none, false⟩ :=
    asks_argument .find (by decide) hs rfl
  rw [← htable] at ha
  obtain ⟨hshows, hends⟩ :=
    runProgram_shows ⟨askingWorkspace, by decide +kernel⟩ ruleIdOf "" isRuleId_ruleIdOf
  refine ⟨isRuleId_ruleIdOf, s, a, hasks, ha, hok, hshows _ s _ a hasks ha, ?_⟩
  exact hends _ _ _ _ (ownOptions_cons_flag ownOptions_flaglessLookup .json)
    ownOptions_flaglessLookup rfl

/-- The argument of a check that holds style codes. -/
def styledTable : String := "bad\x1b[31;1mred\x1b[0mrule"

/-- A failure is not always written as it is reported: a stream takes style codes away. -/
theorem runProgram_drops_styles :
    ∃ s a report, Asks ⟨[], [], [], []⟩ ["check", styledTable] s (Inquiry.checkOf styledTable) ∧
      (Inquiry.checkOf styledTable).answer ruleIdOf s.rules.table = .ok a ∧ a.ok = false ∧
      Report.format s.reportMode a = .ok report ∧ s.verbose = false ∧
      (runProgram ⟨[], [], [], []⟩ ruleIdOf "" ["check", styledTable]).errors ≠ report ++ "\n" := by
  obtain ⟨s, hs, hplain⟩ := exists_ok_of_any
    (x := settingsOf ⟨[], [], [], []⟩ ⟨[], ["check", styledTable]⟩)
    (p := fun s => s.rules.table == "" && !s.verbose && !s.wantsJson) (by decide +kernel)
  simp only [Bool.and_eq_true, beq_iff_eq, Bool.not_eq_true'] at hplain
  obtain ⟨⟨htable, hverbose⟩, hjson⟩ := hplain
  obtain ⟨a, ha, hfails⟩ := exists_ok_of_any
    (x := (Inquiry.checkOf styledTable).answer ruleIdOf "")
    (p := fun a => !a.ok && (Report.format ⟨false, false⟩ a).toOption.any fun report =>
      Outcome.encoded (Outcome.printed report) != report ++ "\n") (by decide +kernel)
  rw [Bool.and_eq_true, Bool.not_eq_true'] at hfails
  obtain ⟨hok, hreport⟩ := hfails
  obtain ⟨report, hreport, hdiffers⟩ := exists_ok_of_any hreport
  have hmode : s.reportMode = ⟨false, false⟩ := by
    rw [Settings.reportMode, hjson, hverbose]
  rw [← htable] at ha
  rw [← hmode] at hreport
  have hasks : Asks ⟨[], [], [], []⟩ ["check", styledTable] s (Inquiry.checkOf styledTable) :=
    asks_argument .check (by decide +kernel) hs rfl
  have hshown : Shows ruleIdOf "" s (Inquiry.checkOf styledTable) a _ :=
    shows_inquiryOutcome isRuleId_ruleIdOf hasks.unaltered_format ha
  refine ⟨s, a, report, hasks, ha, hok, hreport, hverbose, ?_⟩
  rw [runProgram_of_asks hasks, (hshown.report hok report hreport).2.1, debugText_eq_empty hverbose]
  simpa using hdiffers

end TieredTerms
