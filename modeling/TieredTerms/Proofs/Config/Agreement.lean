import TieredTerms.Proofs.Config.Layers

/-!
# A file as configuration and as settings

A configuration file is read in two ways: on its own, and as the lowest layer of settings.  Where no
variable and no flag lies above it, the sections are the same.  Settings are stricter at the top
level only: they have fields of their own, and refuse those that are none.

* `Configuration.ofDatum_eq_ok` tells what a configuration asks of a document, as
  `Settings.ofFields_eq_ok` does for settings.
* `Workspace.HasNoVariables` are environments without a layer, by `variableFields_of_unset`.
* `Workspace.settings_eq_ok` and `Workspace.loadConfig_eq_ok` lead back to the document of the file,
  `loadConfig_of_settings` and `settings_of_loadConfig` from the one way to the other.
* `Workspace.settings_agree_with_loadConfig` puts these together.
-/

namespace TieredTerms

/-! ## What a document has to hold -/

namespace Settings

/-- Every field is a setting. -/
def HasKnownNames (fields : Fields) : Prop :=
  ∀ name ∈ Fields.names fields, name ∈ knownNames

theorem unknownFields_eq_ok {fields : Fields} :
    unknownFields fields = .ok () ↔ HasKnownNames fields := by
  have hnames : fields.filter (fun field => !knownNames.contains field.1) = [] ↔
      HasKnownNames fields := by
    simp [List.filter_eq_nil_iff, HasKnownNames, Fields.names]
  rw [← hnames]
  unfold unknownFields
  dsimp only
  split_ifs with hempty
  · exact iff_of_true rfl (List.isEmpty_iff.mp hempty)
  · exact iff_of_false (by simp) fun hnil => hempty (List.isEmpty_iff.mpr hnil)

end Settings

/-- A configuration is made of two sections. -/
theorem Configuration.ofDatum_eq_ok [StandIns] {fields : Fields} {c : Configuration} :
    ofDatum (.object fields) = .ok c ↔
      Checked.field fields "rules" .default RulesSection.ofDatum = .ok c.rules ∧
      Checked.field fields "output" .default OutputSection.ofDatum = .ok c.output := by
  constructor
  · intro h
    obtain ⟨⟨rules, output⟩, hsections, hc⟩ := bind_eq_ok.mp h
    cases hc
    exact Checked.both_eq_ok.mp hsections
  · intro h
    exact bind_eq_ok.mpr ⟨_, Checked.both_eq_ok.mpr h, rfl⟩

/-! ## No variables -/

namespace Workspace

variable {w : Workspace}

/-- No variable has a name of the kind that settings are read from, in whatever case it is
written. -/
def HasNoVariables (w : Workspace) : Prop :=
  ∀ entry ∈ w.environment, ¬variablePrefix.toList <+: (lowerName entry.1).toList

theorem HasNoVariables.lookup_eq_none (h : w.HasNoVariables) (name : String) :
    (loweredVariables w.environment).lookup (variablePrefix ++ name) = none := by
  rw [lookup_loweredVariables, lookupLowered?, Option.map_eq_none_iff, List.find?_eq_none]
  intro entry hentry hname
  refine h entry (List.mem_reverse.mp hentry) ⟨name.toList, ?_⟩
  rw [eq_of_beq hname, String.toList_append]

/-- No field of a section is set on its own. -/
theorem HasNoVariables.nestedFields_eq_nil (h : w.HasNoVariables) (section_ : String) :
    nestedFields (loweredVariables w.environment) section_ = [] := by
  have hstart : ∀ entry ∈ loweredVariables w.environment,
      ¬nestedStart section_ <+: entry.1.toList := by
    intro entry hentry hprefix
    obtain ⟨original, horiginal, hname⟩ :=
      mem_names_loweredVariables.mp (List.mem_map_of_mem hentry)
    refine h original horiginal (List.IsPrefix.trans ?_ (hname ▸ hprefix))
    rw [nestedStart, String.toList_append, List.append_assoc]
    exact List.prefix_append _ _
  have hflat : IsFlat (loweredVariables w.environment) section_ := by
    intro entry hentry field hname
    refine absurd ⟨field.toList, ?_⟩ (hstart entry hentry)
    rw [hname, nestedName, String.toList_ofList]
  have hnone : (loweredVariables w.environment).filterMap (nestedField? section_) = [] := by
    rw [List.filterMap_eq_nil_iff]
    intro entry hentry
    exact if_neg fun hprefix => hstart entry hentry (List.isPrefixOf_iff_prefix.mp hprefix)
  rw [nestedFields_eq hflat, hnone]
  rfl

theorem HasNoVariables.sectionOfVariables_eq [StandIns] (h : w.HasNoVariables) (section_ : String)
    (known : List String) :
    sectionOfVariables (loweredVariables w.environment) section_ known = .ok none := by
  simp only [sectionOfVariables, h.lookup_eq_none, h.nestedFields_eq_nil]
  rfl

/-- Without variables their layer is empty. -/
theorem variableFields_of_unset [StandIns] (h : w.HasNoVariables) : w.variableFields = .ok [] := by
  simp only [variableFields, plainSettings, sectionSettings, h.lookup_eq_none,
    h.sectionOfVariables_eq, List.filterMap_cons, List.filterMap_nil, Option.map_none,
    List.filterMapM_cons, List.filterMapM_nil]
  rfl

/-- A field of the file is the field of all layers, if it is not the path of the file. -/
theorem field_merged_file {α : Type} (path : Option FilePath) (file : Fields) {name : String}
    (hname : name ≠ "config_path") (default : α) (read : Datum → Checked α) :
    Checked.field (merged path [] file []) name default read =
      Checked.field file name default read := by
  have hnone : (Fields.names []).Nodup := List.nodup_nil
  have hget : Fields.get? (merged path [] file []) name = Fields.get? file name :=
    get?_merged hnone hname (Fields.get?_nil name)
  rw [Checked.field, Checked.field, hget]

/-- The path of the file is a setting, so that it makes no difference to whether the others are. -/
theorem hasKnownNames_merged_file (path : Option FilePath) (file : Fields) :
    Settings.HasKnownNames (merged path [] file []) ↔ Settings.HasKnownNames file := by
  have hgiven : ∀ name ∈ Fields.names
      [("config_path", ((path.map FilePath.toText).map Datum.text).getD .null)],
      (!Settings.knownNames.contains name) = false := by
    intro name hname
    rw [List.mem_singleton.mp hname]
    rfl
  rw [← Settings.unknownFields_eq_ok, ← Settings.unknownFields_eq_ok]
  unfold Settings.unknownFields merged
  dsimp only
  rw [filter_overlay (fun name => !Settings.knownNames.contains name) hgiven, overlay]

/-! ## The two ways -/

variable {text : String} {start : Option FilePath}

/-- A text that leads to a file names the file of a run. -/
theorem chosenConfig_eq {contents : String} (htext : text ≠ "")
    (hfile : w.contents (FilePath.ofText text) = .ok contents) (start : Option FilePath) :
    w.chosenConfig (some text) start = .ok (some (FilePath.ofText text)) := by
  have hisFile : w.isFile (FilePath.ofText text) = .ok true := by
    rw [isFile, hfile]
  simp only [chosenConfig, if_neg htext, ifFile, hisFile]
  rfl

/-- The document of a file is what its contents are read as. -/
theorem readConfig_eq_ok {path : FilePath} {contents : String} {fields : Fields}
    (hfile : w.contents path = .ok contents) :
    w.readConfig path = .ok fields ↔ Toml.parse contents = .ok fields := by
  have hopen : w.openFile path = .ok contents := by
    rw [openFile, hfile]
    rfl
  rw [readConfig, hopen, ok_bind]
  cases Toml.parse contents with
  | ok read => simp
  | error fault => cases fault <;> simp

/-- A configuration is made of the document of the file. -/
theorem loadConfig_eq_ok [StandIns] {path : FilePath} {contents : String} {c : Configuration}
    (hfile : w.contents path = .ok contents) :
    w.loadConfig (some path) start = .ok c ↔
      ∃ fields, Toml.parse contents = .ok fields ∧
        Configuration.ofDatum (.object fields) = .ok c := by
  have hsteps : w.loadConfig (some path) start =
      w.readConfig path >>= fun fields =>
        (Configuration.ofDatum (.object fields)).mapError .issues := rfl
  simp only [hsteps, bind_eq_ok, readConfig_eq_ok hfile, mapError_eq_ok]

/-- Without variables and flags, settings are made of the document of the file as well: of the same
sections, of three truth values, and of no field without a meaning. -/
theorem settings_eq_ok [StandIns] (hunset : w.HasNoVariables) {contents : String}
    (htext : text ≠ "") (hfile : w.contents (FilePath.ofText text) = .ok contents) {s : Settings} :
    w.settings (some text) start [] = .ok s ↔
      s.configPath = some (FilePath.ofText text).toText ∧
      ∃ fields, Toml.parse contents = .ok fields ∧
        Checked.field fields "json_output" false readTruth = .ok s.jsonFlag ∧
        Checked.field fields "verbose" false readTruth = .ok s.verbose ∧
        Checked.field fields "log_json" false readTruth = .ok s.logJson ∧
        Configuration.ofDatum (.object fields) = .ok ⟨s.rules, s.output⟩ ∧
        Settings.HasKnownNames fields := by
  have hread : w.fileFields (some text) start = w.readConfig (FilePath.ofText text) := by
    rw [fileFields, chosenConfig_eq htext hfile start]
    rfl
  rw [settings_eq, chosenConfig_eq htext hfile, ok_bind, hread, variableFields_of_unset hunset]
  simp only [bind_eq_ok, ok_bind, mapError_eq_ok, Settings.ofFields_eq_ok,
    Settings.unknownFields_eq_ok, Configuration.ofDatum_eq_ok, hasKnownNames_merged_file,
    readConfig_eq_ok hfile, field_merged_file, ne_eq, String.reduceEq, not_false_eq_true,
    Option.map_some]
  constructor
  · rintro ⟨fields, hparse, hpath, hjson, hverbose, hlogJson, hrules, houtput, hknown⟩
    exact ⟨hpath, fields, hparse, hjson, hverbose, hlogJson, ⟨hrules, houtput⟩, hknown⟩
  · rintro ⟨hpath, fields, hparse, hjson, hverbose, hlogJson, ⟨hrules, houtput⟩, hknown⟩
    exact ⟨fields, hparse, hpath, hjson, hverbose, hlogJson, hrules, houtput, hknown⟩

/-- The sections of settings are those of the configuration. -/
theorem loadConfig_of_settings [StandIns] (hunset : w.HasNoVariables) {contents : String}
    (htext : text ≠ "") (hfile : w.contents (FilePath.ofText text) = .ok contents) {s : Settings}
    (hs : w.settings (some text) start [] = .ok s) (start' : Option FilePath) :
    w.loadConfig (some (FilePath.ofText text)) start' = .ok ⟨s.rules, s.output⟩ := by
  obtain ⟨-, fields, hparse, -, -, -, hsections, -⟩ := (settings_eq_ok hunset htext hfile).mp hs
  exact (loadConfig_eq_ok hfile).mpr ⟨fields, hparse, hsections⟩

/-- A configuration whose document has no other fields gives settings with the defaults besides. -/
theorem settings_of_loadConfig [StandIns] (hunset : w.HasNoVariables) {contents : String}
    (htext : text ≠ "") (hfile : w.contents (FilePath.ofText text) = .ok contents)
    (hnames : ∀ fields, Toml.parse contents = .ok fields →
      ∀ name ∈ Fields.names fields, name = "rules" ∨ name = "output")
    {start' : Option FilePath} {c : Configuration}
    (hc : w.loadConfig (some (FilePath.ofText text)) start' = .ok c) (start : Option FilePath) :
    w.settings (some text) start [] =
      .ok ⟨some (FilePath.ofText text).toText, false, false, false, c.rules, c.output⟩ := by
  obtain ⟨fields, hparse, hsections⟩ := (loadConfig_eq_ok hfile).mp hc
  have hflag (name : String) (hname : name ≠ "rules" ∧ name ≠ "output") :
      Checked.field fields name false readTruth = .ok false := by
    have hmissing : Fields.get? fields name = none := Fields.get?_eq_none.mpr fun hmem =>
      (hnames fields hparse name hmem).elim hname.1 hname.2
    rw [Checked.field_eq_ok, hmissing]
    rfl
  have hknown : Settings.HasKnownNames fields := by
    intro name hmem
    rcases hnames fields hparse name hmem with rfl | rfl <;> decide
  exact (settings_eq_ok hunset htext hfile).mpr ⟨rfl, fields, hparse, hflag _ (by decide),
    hflag _ (by decide), hflag _ (by decide), hsections, hknown⟩

/-- A file that is there, read without variables and without flags.  Where settings are made, a
configuration is made as well, and its sections are those of the settings.  Where the document has
no other fields than the two sections, either is made exactly where the other is.  It does not
matter where a search would start. -/
theorem settings_agree_with_loadConfig [StandIns] (hunset : w.HasNoVariables) {contents : String}
    (htext : text ≠ "") (hfile : w.contents (FilePath.ofText text) = .ok contents)
    (start start' : Option FilePath) :
    (∀ s, w.settings (some text) start [] = .ok s →
      w.loadConfig (some (FilePath.ofText text)) start' = .ok ⟨s.rules, s.output⟩) ∧
    ((∀ fields, Toml.parse contents = .ok fields →
        ∀ name ∈ Fields.names fields, name = "rules" ∨ name = "output") →
      ((∃ s, w.settings (some text) start [] = .ok s) ↔
        ∃ c, w.loadConfig (some (FilePath.ofText text)) start' = .ok c)) := by
  refine ⟨fun s hs => loadConfig_of_settings hunset htext hfile hs start', fun hnames => ⟨?_, ?_⟩⟩
  · rintro ⟨s, hs⟩
    exact ⟨_, loadConfig_of_settings hunset htext hfile hs start'⟩
  · rintro ⟨c, hc⟩
    exact ⟨_, settings_of_loadConfig hunset htext hfile hnames hc start⟩

/-- A file with both sections. -/
def bothSections : String :=
  "[rules]\ntable = \"C1-2P1D\"\nkind = \"C\"\n\n[output]\njson = true\n"

/-- A workspace that has the file, and a variable that is for another program. -/
def unvariedWorkspace : Workspace where
  files := [(["condperiod.toml"], bothSections)]
  folders := []
  current := []
  environment := [("HOME", "/")]

theorem hasNoVariables_unvariedWorkspace : unvariedWorkspace.HasNoVariables := by
  intro entry hentry
  rw [List.mem_singleton.mp hentry]
  decide

theorem names_bothSections {fields : Fields} (h : Toml.parse bothSections = .ok fields) :
    ∀ name ∈ Fields.names fields, name = "rules" ∨ name = "output" := by
  obtain ⟨read, hread, hnames⟩ := exists_ok_of_any (x := Toml.parse bothSections)
    (p := fun fields => (Fields.names fields).all ["rules", "output"].contains) (by decide +kernel)
  cases h.symm.trans hread
  intro name hname
  simpa using List.all_eq_true.mp hnames name hname

theorem settings_agree_with_loadConfig_bothSections :
    (∃ s, unvariedWorkspace.settings (some "condperiod.toml") none [] = .ok s ∧
      s.rules = ⟨"C1-2P1D", some .category⟩ ∧ s.output = ⟨true⟩ ∧
      unvariedWorkspace.loadConfig (some (FilePath.ofText "condperiod.toml")) none =
        .ok ⟨s.rules, s.output⟩) ∧
    ((∃ s, unvariedWorkspace.settings (some "condperiod.toml") none [] = .ok s) ↔
      ∃ c, unvariedWorkspace.loadConfig (some (FilePath.ofText "condperiod.toml")) none =
        .ok c) := by
  have hfile : unvariedWorkspace.contents (FilePath.ofText "condperiod.toml") =
      .ok bothSections := by decide +kernel
  obtain ⟨hsame, hexact⟩ := settings_agree_with_loadConfig hasNoVariables_unvariedWorkspace
    (by decide) hfile none none
  obtain ⟨s, hs, hsections⟩ := exists_ok_of_any
    (x := unvariedWorkspace.settings (some "condperiod.toml") none [])
    (p := fun s => s.rules = ⟨"C1-2P1D", some .category⟩ ∧ s.output = ⟨true⟩) (by decide +kernel)
  obtain ⟨hrules, houtput⟩ := of_decide_eq_true hsections
  exact ⟨⟨s, hs, hrules, houtput, hsame s hs⟩, hexact fun _ => names_bothSections⟩

end Workspace

end TieredTerms
