import TieredTerms.Proofs.Config.Sources
import TieredTerms.Proofs.Inquiry.Configured

/-!
# The section about rules in layers

The table and the kind of the section about rules may come from four layers each: the variable of
the field, the variable of the whole section, the configuration file, and the default.  The highest
layer that has the field counts, for each field on its own, and only what comes out is checked.

* `Checked.issues` are the issues of what was read, `Settings.issues_ofFields` those of all
  settings.
* `RulesSection.ReadsFrom` tells which section the values of the two fields make.
* `Workspace.field_rules_eq_ok` reads the section from the layers.
* `Workspace.settings_rules` puts these together.
-/

namespace TieredTerms

/-! ## Issues -/

namespace Checked

variable {α β : Type}

/-- The issues of what was read. -/
def issues : Checked α → List Issue
  | .ok _ => []
  | .error issues => issues

theorem issues_both (x : Checked α) (y : Checked β) : (both x y).issues = x.issues ++ y.issues := by
  cases x <;> cases y <;> simp [both, issues]

/-- What is made of parts that were read has no issues of its own. -/
theorem issues_bind {x : Checked α} {f : α → Checked β} (h : ∀ a, (f a).issues = []) :
    (x >>= f).issues = x.issues := by
  cases x with
  | ok a => exact h a
  | error issues => rfl

/-- The issues of a field are at the place of the field. -/
theorem head_of_field {fields : Fields} {name : String} {default : α} {read : Datum → Checked α}
    {i : Issue} (h : i ∈ (field fields name default read).issues) :
    i.path.head? = some (.field name) := by
  unfold field at h
  split at h
  · next d _ =>
    cases hread : read d with
    | ok a => simp [hread, below, issues] at h
    | error issues =>
      simp only [hread, below, Checked.issues, List.mem_map] at h
      obtain ⟨inner, -, rfl⟩ := h
      rfl
  · simp [issues] at h

/-- A field has issues where it is not read, if what it is read by tells any. -/
theorem issues_field_eq_nil {fields : Fields} {name : String} {default : α}
    {read : Datum → Checked α} (hread : ∀ d, read d ≠ .error []) :
    (field fields name default read).issues = [] ↔
      ∃ a, field fields name default read = .ok a := by
  unfold field
  cases Fields.get? fields name with
  | none => simp [issues]
  | some d =>
    cases h : read d with
    | ok a => simp [h, below, issues]
    | error found =>
      have hsome : found ≠ [] := fun hnil => hread d (hnil ▸ h)
      simp [h, below, issues, hsome]

/-! A refusal tells at least one issue. -/

theorem field_ne_nil {fields : Fields} {name : String} {default : α} {read : Datum → Checked α}
    (hread : ∀ d, read d ≠ .error []) : field fields name default read ≠ .error [] := by
  intro h
  obtain ⟨a, ha⟩ := (issues_field_eq_nil hread).mp (congrArg issues h)
  rw [ha] at h
  cases h

theorem both_ne_nil {x : Checked α} {y : Checked β} (hx : x ≠ .error []) (hy : y ≠ .error []) :
    both x y ≠ .error [] := by
  cases x <;> cases y <;> simp_all [both]

theorem bind_ne_nil {x : Checked α} {f : α → Checked β} (hx : x ≠ .error [])
    (hf : ∀ a, f a ≠ .error []) : (x >>= f) ≠ .error [] := by
  cases x with
  | ok a => exact hf a
  | error issues =>
    rintro ⟨⟩
    exact hx rfl

end Checked

/-- The issues of settings are those of their parts. -/
theorem Settings.issues_ofFields [StandIns] (configPath : Option String) (fields : Fields) :
    (ofFields configPath fields).issues =
      (Checked.field fields "json_output" false readTruth).issues ++
      (Checked.field fields "verbose" false readTruth).issues ++
      (Checked.field fields "log_json" false readTruth).issues ++
      (Checked.field fields "rules" .default RulesSection.ofDatum).issues ++
      (Checked.field fields "output" .default OutputSection.ofDatum).issues ++
      (unknownFields fields).issues := by
  unfold ofFields
  rw [Checked.issues_bind fun _ => rfl]
  simp only [Checked.issues_both, List.append_assoc]

/-- No issue of a field without a meaning is at the place of a field with one. -/
theorem Settings.head_of_unknown {fields : Fields} {i : Issue}
    (h : i ∈ (unknownFields fields).issues) {name : String} (hname : name ∈ knownNames) :
    i.path.head? ≠ some (.field name) := by
  unfold unknownFields at h
  dsimp only at h
  split_ifs at h
  · simp [Checked.issues] at h
  · simp only [Checked.issues, List.mem_map, List.mem_filter] at h
    obtain ⟨field, ⟨-, hunknown⟩, rfl⟩ := h
    rintro ⟨⟩
    simp [hname] at hunknown

/-- The issues of settings at the place of the rules are those of the section about rules. -/
theorem Settings.exists_rules_issue [StandIns] (configPath : Option String) (fields : Fields) :
    (∃ i ∈ (ofFields configPath fields).issues, i.path.head? = some (.field "rules")) ↔
      (Checked.field fields "rules" .default RulesSection.ofDatum).issues ≠ [] := by
  constructor
  · rintro ⟨i, hi, hhead⟩ hnil
    have hother {α : Type} {name : String} {default : α} {read : Datum → Checked α}
        (hname : name ≠ "rules") : i ∉ (Checked.field fields name default read).issues := by
      intro hmem
      have hplace := Checked.head_of_field hmem
      rw [hhead] at hplace
      cases hplace
      exact hname rfl
    simp only [issues_ofFields, hnil, List.append_nil, List.mem_append] at hi
    rcases hi with (((hi | hi) | hi) | hi) | hi
    · exact hother (by decide) hi
    · exact hother (by decide) hi
    · exact hother (by decide) hi
    · exact hother (by decide) hi
    · exact head_of_unknown hi (by decide) hhead
  · intro hsome
    obtain ⟨i, hi⟩ := List.exists_mem_of_ne_nil _ hsome
    refine ⟨i, ?_, Checked.head_of_field hi⟩
    simp [issues_ofFields, hi]

/-! ## The section of two values -/

namespace RulesSection

variable {table kind : Option Datum} {s : RulesSection}

/-- The section that the values of its fields make: the table is a text, empty where it is missing;
the kind is named by its tag, and is none where it is missing or null; and the two fit together. -/
structure ReadsFrom [StandIns] (table kind : Option Datum) (s : RulesSection) : Prop where
  table : table = none ∧ s.table = "" ∨ table = some (.text s.table)
  kind : (kind = none ∨ kind = some .null) ∧ s.kind = none ∨
    ∃ tag k, kind = some (.text tag) ∧ Kind.ofTag? tag = some k ∧ s.kind = some k
  valid : s.IsValid

theorem readOr_readText {value : Option Datum} {text : String} :
    Checked.readOr "" readText value = .ok text ↔
      value = none ∧ text = "" ∨ value = some (.text text) := by
  cases value with
  | none => simp [Checked.readOr, eq_comm]
  | some d => cases d <;> simp [Checked.readOr, readText, Checked.problem]

theorem readOr_readKind {value : Option Datum} {k? : Option Kind} :
    Checked.readOr none readKind value = .ok k? ↔
      (value = none ∨ value = some .null) ∧ k? = none ∨
        ∃ tag k, value = some (.text tag) ∧ Kind.ofTag? tag = some k ∧ k? = some k := by
  cases value with
  | none => simp [Checked.readOr, eq_comm]
  | some d =>
    cases d with
    | null => simp [Checked.readOr, readKind, eq_comm]
    | text s =>
      cases h : Kind.ofTag? s with
      | none => simp [Checked.readOr, readKind, h, Checked.problem]
      | some k => simp [Checked.readOr, readKind, h, eq_comm]
    | _ => simp [Checked.readOr, readKind, Checked.problem]

theorem readsFrom_iff [StandIns] :
    ReadsFrom table kind s ↔ Checked.readOr "" readText table = .ok s.table ∧
      Checked.readOr none readKind kind = .ok s.kind ∧ s.IsValid := by
  rw [readOr_readText, readOr_readKind]
  exact ⟨fun h => ⟨h.table, h.kind, h.valid⟩,
    fun ⟨htable, hkind, hvalid⟩ => ⟨htable, hkind, hvalid⟩⟩

/-- Values make one section at most. -/
theorem ReadsFrom.unique [StandIns] {s' : RulesSection} (h : ReadsFrom table kind s)
    (h' : ReadsFrom table kind s') : s = s' := by
  obtain ⟨htable, hkind, -⟩ := readsFrom_iff.mp h
  obtain ⟨htable', hkind', -⟩ := readsFrom_iff.mp h'
  obtain ⟨table, kind⟩ := s
  obtain ⟨table', kind'⟩ := s'
  cases Except.ok.inj (htable.symm.trans htable')
  cases Except.ok.inj (hkind.symm.trans hkind')
  rfl

/-- Nothing below a value counts. -/
theorem readsFrom_overlay [StandIns] {upperTable upperKind lowerTable lowerKind : Option Datum} :
    ReadsFrom ((upperTable.map (overlayValue lowerTable)).or lowerTable)
        ((upperKind.map (overlayValue lowerKind)).or lowerKind) s ↔
      ReadsFrom (upperTable.or lowerTable) (upperKind.or lowerKind) s := by
  have htable :
      Checked.readOr "" readText ((upperTable.map (overlayValue lowerTable)).or lowerTable) =
        Checked.readOr "" readText (upperTable.or lowerTable) := by
    cases upperTable with
    | none => rfl
    | some d => exact readText_overlayValue lowerTable d
  have hkind :
      Checked.readOr none readKind ((upperKind.map (overlayValue lowerKind)).or lowerKind) =
        Checked.readOr none readKind (upperKind.or lowerKind) := by
    cases upperKind with
    | none => rfl
    | some d => exact readKind_overlayValue lowerKind d
  rw [readsFrom_iff, readsFrom_iff, htable, hkind]

/-- A section of a document is the one that its two fields make. -/
theorem ofDatum_eq_ok [StandIns] {fields : Fields} :
    ofDatum (.object fields) = .ok s ↔
      ReadsFrom (Fields.get? fields "table") (Fields.get? fields "kind") s := by
  rw [readsFrom_iff, ← Checked.field_eq_ok, ← Checked.field_eq_ok]
  constructor
  · intro h
    obtain ⟨⟨table, kind⟩, hparts, hcheck⟩ := bind_eq_ok.mp h
    obtain ⟨htable, hkind⟩ := Checked.both_eq_ok.mp hparts
    cases eq_of_check hcheck
    exact ⟨htable, hkind, hcheck⟩
  · rintro ⟨htable, hkind, hvalid⟩
    exact bind_eq_ok.mpr ⟨(s.table, s.kind), Checked.both_eq_ok.mpr ⟨htable, hkind⟩, hvalid⟩

/-- Without values nothing is configured. -/
theorem readsFrom_none [StandIns] : ReadsFrom none none s ↔ s = default := by
  constructor
  · rintro ⟨htable, hkind, -⟩
    obtain ⟨table, kind⟩ := s
    simp only [reduceCtorEq, or_false, true_and, false_and, exists_false] at htable hkind
    rw [htable, hkind]
    rfl
  · rintro rfl
    exact ⟨.inl ⟨rfl, rfl⟩, .inl ⟨.inl rfl, rfl⟩, isValid_default⟩

theorem readText_ne_nil (d : Datum) : readText d ≠ .error [] := by
  cases d <;> simp [readText, Checked.problem]

theorem readKind_ne_nil (d : Datum) : readKind d ≠ .error [] := by
  unfold readKind
  split
  · simp
  · split <;> simp [Checked.problem]
  · simp [Checked.problem]

theorem check_ne_nil [StandIns] (s : RulesSection) : s.check ≠ .error [] := by
  unfold check
  split_ifs
  · simp
  · split
    · simp [Checked.problem]
    · split_ifs <;> simp [Checked.problem]
    · simp

/-- A section that is refused tells why. -/
theorem ofDatum_ne_nil [StandIns] (d : Datum) : ofDatum d ≠ .error [] := by
  unfold ofDatum
  split
  · exact Checked.bind_ne_nil
      (Checked.both_ne_nil (Checked.field_ne_nil readText_ne_nil)
        (Checked.field_ne_nil readKind_ne_nil))
      fun parts => check_ne_nil ⟨parts.1, parts.2⟩
  · simp [Checked.problem]

end RulesSection

/-! ## The section of layers -/

namespace Workspace

variable {w : Workspace} {named : Option String} {start : Option FilePath} {flags : Fields}

/-- The fields of all layers, for a run that read the configuration file at the given path. -/
def merged (path : Option FilePath) (flags file environment : Fields) : Fields :=
  overlay (overlay file environment)
    (("config_path", ((path.map FilePath.toText).map .text).getD .null) :: flags)

/-- Settings are read in one piece from the file, the variables and the flags. -/
theorem settings_eq [StandIns] (w : Workspace) (named : Option String) (start : Option FilePath)
    (flags : Fields) :
    w.settings named start flags =
      w.chosenConfig named start >>= fun path =>
      w.fileFields named start >>= fun file =>
      w.variableFields >>= fun environment =>
      (Settings.ofFields (path.map FilePath.toText)
        (merged path flags file environment)).mapError .issues := by
  unfold settings fileFields
  cases w.chosenConfig named start with
  | error fault => rfl
  | ok path => cases path <;> rfl

/-- The document of the section about rules is that of the variables, laid over the one of the
file. -/
theorem get?_merged {path : Option FilePath} {file environment : Fields}
    (hnames : (Fields.names environment).Nodup) {name : String} (hname : name ≠ "config_path")
    (hflags : Fields.get? flags name = none) :
    Fields.get? (merged path flags file environment) name =
      ((Fields.get? environment name).map (overlayValue (Fields.get? file name))).or
        (Fields.get? file name) := by
  have hgiven : Fields.get? (("config_path",
      ((path.map FilePath.toText).map Datum.text).getD .null) :: flags) name = none := by
    rw [Fields.get?_cons, if_neg (Ne.symm hname), hflags]
  rw [merged, get?_overlay_of_none hgiven, get?_overlay file hnames]
  cases Fields.get? environment name <;> rfl

/-- The file has a section about rules with the given fields, or none and there are none. -/
def FileRules (file rules : Fields) : Prop :=
  Fields.get? file "rules" = none ∧ rules = [] ∨ Fields.get? file "rules" = some (.object rules)

/-- No variable reaches deeper than into the section about rules. -/
def FlatRules (w : Workspace) : Prop :=
  ∀ entry ∈ w.environment, ∀ field, lowerName entry.1 = nestedName "rules" field →
    ¬nestingMark <:+: field.toList

/-- The value of a field of the section about rules: that of the variable of the field, or else of
the document in the variable of the section, or else of the section of the file. -/
def layeredRule (w : Workspace) (document rules : Fields) (key : String) : Option Datum :=
  ((w.lookupLowered? (nestedName "rules" key)).map .text).or
    ((Fields.get? document key).or (Fields.get? rules key))

/-- The variables give a section, each field from its own variable or else from the document of the
section. -/
theorem sectionOfVariables_layered [StandIns] {section_ : String} (known : List String)
    {document : Fields} (hknown : ∀ k ∈ known, lowerName k = k)
    (hdocument : GivesSection (w.lookupLowered? (variablePrefix ++ section_)) document)
    (hflat : ∀ entry ∈ w.environment, ∀ field, lowerName entry.1 = nestedName section_ field →
      ¬nestingMark <:+: field.toList) :
    ∃ fields, (Fields.names fields).Nodup ∧
      (∀ key, Fields.get? fields key = ((w.lookupLowered? (nestedName section_ key)).map
        Datum.text).or (Fields.get? document key)) ∧
      (sectionOfVariables (loweredVariables w.environment) section_ known =
          .ok (some (.object fields)) ∨
        sectionOfVariables (loweredVariables w.environment) section_ known = .ok none ∧
          fields = []) := by
  have hentry {entry : String × String} (h : entry ∈ loweredVariables w.environment) :
      ∃ original ∈ w.environment, lowerName original.1 = entry.1 :=
    mem_names_loweredVariables.mp (List.mem_map_of_mem h)
  simp only [← lookup_loweredVariables] at hdocument ⊢
  refine sectionOfVariables_fields (nodup_loweredVariables w.environment) (fun entry h => ?_)
    (fun entry h field hname => ?_) hknown hdocument
  · obtain ⟨original, -, hname⟩ := hentry h
    rw [← hname, lowerName_idem]
  · obtain ⟨original, horiginal, hlower⟩ := hentry h
    exact hflat original horiginal field (hlower.trans hname)

/-- The section about rules is read from the layered values of its fields. -/
theorem field_rules_eq_ok [StandIns] {file environment document rules : Fields}
    (hrules : FileRules file rules)
    (hdocument : GivesSection (w.lookupLowered? (variablePrefix ++ "rules")) document)
    (hflat : w.FlatRules) (hflags : Fields.get? flags "rules" = none)
    (henvironment : w.variableFields = .ok environment) (path : Option FilePath)
    {s : RulesSection} :
    Checked.field (merged path flags file environment) "rules" .default RulesSection.ofDatum =
        .ok s ↔
      RulesSection.ReadsFrom (w.layeredRule document rules "table")
        (w.layeredRule document rules "kind") s := by
  obtain ⟨hnames, section?, _, hsection, -, hget, -⟩ := variableFields_sections henvironment
  obtain ⟨fields, hnodup, hfields, hcases⟩ :=
    sectionOfVariables_layered ["table", "kind"] (by decide) hdocument hflat
  have hlayered (key : String) :
      w.layeredRule document rules key = (Fields.get? fields key).or (Fields.get? rules key) := by
    rw [layeredRule, hfields, Option.or_assoc]
  rw [Checked.field_eq_ok, get?_merged hnames (by decide) hflags, hget, hlayered, hlayered]
  rcases hcases with hsome | ⟨hnone, rfl⟩
  · cases Except.ok.inj (hsection.symm.trans hsome)
    rcases hrules with ⟨hfile, rfl⟩ | hfile
    · simp only [hfile, Option.map_some, overlayValue, Checked.readOr,
        RulesSection.ofDatum_eq_ok, Fields.get?_nil, Option.or_none]
    · have hmap (key : String) : Fields.get? (overlay rules fields) key =
          ((Fields.get? fields key).map (overlayValue (Fields.get? rules key))).or
            (Fields.get? rules key) := by
        rw [get?_overlay rules hnodup]
        cases Fields.get? fields key <;> rfl
      simp only [hfile, Option.map_some, Option.some_or, overlayValue, Checked.readOr,
        RulesSection.ofDatum_eq_ok, hmap, RulesSection.readsFrom_overlay]
  · cases Except.ok.inj (hsection.symm.trans hnone)
    rcases hrules with ⟨hfile, rfl⟩ | hfile
    · simp only [hfile, Option.map_none, Option.none_or, Checked.readOr, Fields.get?_nil,
        RulesSection.readsFrom_none, Except.ok.injEq, eq_comm]
    · simp only [hfile, Option.map_none, Option.none_or, Checked.readOr, Fields.get?_nil,
        RulesSection.ofDatum_eq_ok]

/-- Settings that are made hold the section of the layered values, and settings that are refused
have an issue at the place of the rules exactly where the layered values make no section, whatever
each layer would make alone.  The variables of the section are not at fault otherwise. -/
theorem settings_rules [StandIns] {file document rules : Fields}
    (hfile : w.fileFields named start = .ok file) (hrules : FileRules file rules)
    (hdocument : GivesSection (w.lookupLowered? (variablePrefix ++ "rules")) document)
    (hflat : w.FlatRules) (hflags : Fields.get? flags "rules" = none) :
    (∀ s, w.settings named start flags = .ok s →
      RulesSection.ReadsFrom (w.layeredRule document rules "table")
        (w.layeredRule document rules "kind") s.rules) ∧
    (∀ issues, w.settings named start flags = .error (.issues issues) →
      ((∃ i ∈ issues, i.path.head? = some (.field "rules")) ↔
        ¬∃ s, RulesSection.ReadsFrom (w.layeredRule document rules "table")
          (w.layeredRule document rules "kind") s)) ∧
    w.settings named start flags ≠ .error (.variable "rules") := by
  obtain ⟨path, hpath, -⟩ := bind_eq_ok.mp hfile
  rw [settings_eq, hpath, ok_bind, hfile, ok_bind]
  cases henvironment : w.variableFields with
  | error fault =>
    obtain ⟨fields, -, -, hgiven⟩ :=
      sectionOfVariables_layered ["table", "kind"] (by decide) hdocument hflat
    have hfault : fault = .variable "output" ∨ ∃ container, fault = .tooDeep container := by
      rcases variableFields_eq_error henvironment with herror | herror
      · rcases hgiven with hgiven | ⟨hgiven, -⟩
        · rw [herror] at hgiven
          cases hgiven
        · rw [herror] at hgiven
          cases hgiven
      · exact sectionOfVariables_eq_error herror
    rw [error_bind]
    rcases hfault with rfl | ⟨container, rfl⟩ <;> simp
  | ok environment =>
    have hsection (s : RulesSection) :=
      field_rules_eq_ok (s := s) hrules hdocument hflat hflags henvironment path
    rw [ok_bind]
    cases hsettings : Settings.ofFields (path.map FilePath.toText)
        (merged path flags file environment) with
    | ok s =>
      refine ⟨?_, by simp [Except.mapError], by simp [Except.mapError]⟩
      rintro _ ⟨⟩
      exact (hsection s.rules).mp (Settings.rules_ofFields hsettings)
    | error found =>
      refine ⟨by simp [Except.mapError], ?_, by simp [Except.mapError]⟩
      rintro _ ⟨⟩
      have hissues := Settings.exists_rules_issue (path.map FilePath.toText)
        (merged path flags file environment)
      rw [hsettings, Checked.issues] at hissues
      rw [hissues, Ne, Checked.issues_field_eq_nil RulesSection.ofDatum_ne_nil]
      simp only [hsection]

/-- A workspace whose file has a table of durations and asks for categories. -/
def mixedWorkspace (environment : List (String × String)) : Workspace where
  files := [(["condperiod.toml"], "[rules]\ntable = \"DP1DP2DP1Y\"\nkind = \"C\"\n")]
  folders := []
  current := []
  environment

/-- The variables that ask for durations. -/
def askDurations : List (String × String) :=
  [("CONDPERIOD_RULES__KIND", "D")]

theorem flatRules_askDurations : (mixedWorkspace askDurations).FlatRules := by
  intro entry hentry field hname
  rw [List.mem_singleton.mp hentry] at hname
  have hchars := congrArg (fun name => name.toList.drop (nestedStart "rules").length) hname
  dsimp only at hchars
  rw [nestedName, String.toList_ofList, List.drop_left] at hchars
  have hfield : field.toList = ['k', 'i', 'n', 'd'] := hchars.symm.trans (by decide +kernel)
  rw [hfield]
  decide

/-- The file of the workspace gives the table. -/
theorem fileFields_askDurations :
    ∃ file rules, (mixedWorkspace askDurations).fileFields none none = .ok file ∧
      Fields.get? file "rules" = some (.object rules) ∧
      Fields.get? rules "table" = some (.text "DP1DP2DP1Y") := by
  obtain ⟨file, hfile, htest⟩ := exists_ok_of_any
    (x := (mixedWorkspace askDurations).fileFields none none)
    (p := fun file => (Checked.readOr "" readText
      ((Fields.get? file "rules").bind (Datum.get? · "table"))).toOption.any (· == "DP1DP2DP1Y"))
    (by decide +kernel)
  obtain ⟨text, hread, htext⟩ := exists_ok_of_any htest
  rw [beq_iff_eq] at htext
  subst htext
  have hgiven := (RulesSection.readOr_readText.mp hread).resolve_left (by simp)
  obtain ⟨d, hd, htable⟩ := Option.bind_eq_some_iff.mp hgiven
  cases d with
  | object rules => exact ⟨file, rules, hfile, hd, htable⟩
  | _ => cases htable

/-- A kind among the variables rescues a table that the kind in the file refuses. -/
theorem settings_rules_mixed :
    (¬∃ s, (mixedWorkspace []).settings none none [] = .ok s) ∧
    ∃ s, (mixedWorkspace askDurations).settings none none [] = .ok s ∧
      s.rules = ⟨"DP1DP2DP1Y", some .duration⟩ := by
  have hmade (environment : List (String × String)) (b : Bool)
      (h : ((mixedWorkspace environment).settings none none []).isOk = b) :
      (∃ s, (mixedWorkspace environment).settings none none [] = .ok s) ↔ b = true := by
    rw [← h]
    cases (mixedWorkspace environment).settings none none [] <;> simp [Except.isOk, Except.toBool]
  refine ⟨(hmade [] false (by decide +kernel)).not.mpr (by decide), ?_⟩
  obtain ⟨s, hs⟩ := (hmade askDurations true (by decide +kernel)).mpr rfl
  obtain ⟨file, rules, hfile, hrulesOfFile, htableOfFile⟩ := fileFields_askDurations
  have hsection : (mixedWorkspace askDurations).lookupLowered? (variablePrefix ++ "rules") = none :=
    by decide +kernel
  obtain ⟨hrules, -, -⟩ := settings_rules hfile (.inr hrulesOfFile) (.inl ⟨hsection, rfl⟩)
    flatRules_askDurations (Fields.get?_nil "rules")
  have htable : (mixedWorkspace askDurations).lookupLowered? (nestedName "rules" "table") = none :=
    by decide +kernel
  have hkind : (mixedWorkspace askDurations).lookupLowered? (nestedName "rules" "kind") =
      some "D" := by decide +kernel
  have hlayered := hrules s hs
  rw [layeredRule, layeredRule, htable, hkind, htableOfFile] at hlayered
  have hvalid : RulesSection.IsValid ⟨"DP1DP2DP1Y", some .duration⟩ := by
    show RulesSection.check _ = _
    decide +kernel
  exact ⟨s, hs, hlayered.unique
    ⟨.inr rfl, .inr ⟨"D", .duration, rfl, by decide +kernel, rfl⟩, hvalid⟩⟩

end Workspace

end TieredTerms
