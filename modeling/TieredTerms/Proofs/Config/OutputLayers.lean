import TieredTerms.Proofs.Config.Layers

/-!
# The section about output in layers

The one field of the section about output has two names, a short one and a long one.  Layers are
laid over each other name by name, when it is not yet known that both names mean the same field, so
that two values may come out side by side.  The short name then counts, from whatever layer it is: a
variable of the long name does not reach over a file that uses the short one.

* `OutputSection.ofDatum_eq_ok` tells which value of a document counts.
* `Workspace.sectionVariables` are the variables of a section, `lookupLowered?_of_section` finds a
  variable among them.
* `Workspace.output_of_layers` reads the section from the layers.
* `Workspace.settings_output` is what becomes of a single variable, and of none.
-/

namespace TieredTerms

/-! ## The two names -/

/-- A truth value is read whether something lies below it or not. -/
theorem readTruth_overlayValue (base : Option Datum) (d : Datum) :
    readTruth (overlayValue base d) = readTruth d := by
  rcases overlayValue_cases base d with h | ⟨fields, fields', rfl, h⟩
  · rw [h]
  · rw [h]
    rfl

/-- Values that are read alike come out alike. -/
theorem readOr_truth_congr {short long short' long' : Option Datum}
    (hshort : short.map readTruth = short'.map readTruth)
    (hlong : long.map readTruth = long'.map readTruth) :
    Checked.readOr false readTruth (short.or long) =
      Checked.readOr false readTruth (short'.or long') := by
  have hmap (value : Option Datum) :
      Checked.readOr false readTruth value = (value.map readTruth).getD (.ok false) := by
    cases value <;> rfl
  rw [hmap, hmap, Option.map_or, Option.map_or, hshort, hlong]

/-- The section of a document holds the value under the short name, or else under the long one. -/
theorem OutputSection.ofDatum_eq_ok {fields : Fields} {s : OutputSection} :
    ofDatum (.object fields) = .ok s ↔
      Checked.readOr false readTruth
        ((Fields.get? fields "json").or (Fields.get? fields "json_output")) = .ok s.json := by
  have hname (name : String) :
      (Checked.field fields name false readTruth >>= fun json => .ok (⟨json⟩ : OutputSection)) =
          .ok s ↔ Checked.readOr false readTruth (Fields.get? fields name) = .ok s.json := by
    rw [← Checked.field_eq_ok, bind_eq_ok]
    constructor
    · rintro ⟨json, hjson, ⟨⟩⟩
      exact hjson
    · exact fun h => ⟨s.json, h, rfl⟩
  have hhas : Fields.has fields "json" = (Fields.get? fields "json").isSome := by
    rw [Fields.has, Fields.get?, Option.isSome_map, Bool.eq_iff_iff, List.find?_isSome,
      List.any_eq_true]
  show (Checked.field fields (if Fields.has fields "json" then "json" else "json_output") false
    readTruth >>= fun json => .ok (⟨json⟩ : OutputSection)) = .ok s ↔ _
  rw [hname, hhas]
  cases hshort : Fields.get? fields "json" with
  | none => rfl
  | some d => simp [hshort]

/-! ## The variables of a section -/

/-- A name in lower case is that of a variable of a section: of the section as a whole, or of a
field of it. -/
def IsOfSection (section_ name : String) : Prop :=
  name = variablePrefix ++ section_ ∨ nestedStart section_ <+: name.toList

instance (section_ name : String) : Decidable (IsOfSection section_ name) :=
  inferInstanceAs (Decidable (_ ∨ _))

theorem isOfSection_nestedName (section_ key : String) :
    IsOfSection section_ (nestedName section_ key) := by
  rw [IsOfSection, nestedName, String.toList_ofList]
  exact .inr (List.prefix_append _ _)

theorem nestedName_inj {section_ key key' : String}
    (h : nestedName section_ key = nestedName section_ key') : key = key' := by
  have hchars := congrArg String.toList h
  rw [nestedName, nestedName, String.toList_ofList, String.toList_ofList] at hchars
  exact String.ext (List.append_cancel_left hchars)

namespace Workspace

variable {w : Workspace} {section_ key text : String}

/-- The variables of a section, their names in lower case. -/
def sectionVariables (w : Workspace) (section_ : String) : List (String × String) :=
  (w.environment.map fun entry => (lowerName entry.1, entry.2)).filter fun entry =>
    IsOfSection section_ entry.1

theorem mem_sectionVariables {entry : String × String} (h : entry ∈ w.environment)
    (hname : IsOfSection section_ (lowerName entry.1)) :
    (lowerName entry.1, entry.2) ∈ w.sectionVariables section_ :=
  List.mem_filter.mpr ⟨List.mem_map_of_mem h, decide_eq_true hname⟩

/-- A variable of a section is looked up among these. -/
theorem lookupLowered?_of_section {name : String} (h : IsOfSection section_ name) :
    w.lookupLowered? name =
      ((w.sectionVariables section_).reverse.find? fun entry => entry.1 == name).map Prod.snd := by
  have hsame (entry : String × String) :
      decide (decide (IsOfSection section_ entry.1) = true ∧ (entry.1 == name) = true) =
        (entry.1 == name) := by
    by_cases hname : entry.1 = name
    · simp [hname, h]
    · simp [hname]
  simp only [sectionVariables, ← List.filter_reverse, ← List.map_reverse, List.find?_filter,
    hsame, List.find?_map, lookupLowered?, Option.map_map]
  rfl

/-- Without variables of a section there is none to look up. -/
theorem lookupLowered?_of_nil {name : String} (h : w.sectionVariables section_ = [])
    (hname : IsOfSection section_ name) : w.lookupLowered? name = none := by
  rw [lookupLowered?_of_section hname, h]
  rfl

/-- Of a single variable of a section the value is found under its name alone. -/
theorem lookupLowered?_of_singleton {name other : String}
    (h : w.sectionVariables section_ = [(other, text)]) (hname : IsOfSection section_ name) :
    w.lookupLowered? name = if other = name then some text else none := by
  rw [lookupLowered?_of_section hname, h]
  by_cases hsame : other = name <;> simp [hsame]

/-! ## The section of layers -/

variable {named : Option String} {start : Option FilePath} {flags file environment : Fields}

/-- The fields of the section about output in a file; none where there is no such section. -/
def fileOutput (file : Fields) : Fields :=
  match Fields.get? file "output" with
  | some (.object fields) => fields
  | _ => []

/-- Fields laid over a file give a section in which each name is read from the fields, or else from
the section of the file. -/
theorem exists_laidOver {fields : Fields} (hnodup : (Fields.names fields).Nodup) (file : Fields) :
    ∃ laid, overlayValue (Fields.get? file "output") (.object fields) = .object laid ∧
      ∀ key, (Fields.get? laid key).map readTruth =
        ((Fields.get? fields key).or (Fields.get? (fileOutput file) key)).map readTruth := by
  unfold fileOutput
  rcases Fields.get? file "output" with _ | below
  · exact ⟨fields, by simp [overlayValue], fun key => by rw [Fields.get?_nil, Option.or_none]⟩
  cases below with
  | object below =>
    refine ⟨overlay below fields, by rw [overlayValue], fun key => ?_⟩
    rw [get?_overlay below hnodup]
    cases Fields.get? fields key with
    | none => rfl
    | some d => exact congrArg some (readTruth_overlayValue _ d)
  | _ => exact ⟨fields, by simp [overlayValue], fun key => by rw [Fields.get?_nil, Option.or_none]⟩

/-- The value under a name of the section about output: that of the variable of the name, or else
of the document in the variable of the section, or else of the section of the file. -/
def layeredOutput (w : Workspace) (document file : Fields) (key : String) : Option Datum :=
  ((w.lookupLowered? (nestedName "output" key)).map .text).or
    ((Fields.get? document key).or (Fields.get? (fileOutput file) key))

/-- The section about output is read from the layered value under the short name, or else from the
one under the long name. -/
theorem output_of_layers [StandIns] {document : Fields}
    (hdocument : GivesSection (w.lookupLowered? (variablePrefix ++ "output")) document)
    (hflat : ∀ entry ∈ w.environment, ∀ field, lowerName entry.1 = nestedName "output" field →
      ¬nestingMark <:+: field.toList)
    (hflags : Fields.get? flags "output" = none)
    (henvironment : w.variableFields = .ok environment) {path : Option FilePath}
    {s : OutputSection}
    (h : Checked.field (merged path flags file environment) "output" .default
      OutputSection.ofDatum = .ok s) :
    Checked.readOr false readTruth ((w.layeredOutput document file "json").or
      (w.layeredOutput document file "json_output")) = .ok s.json := by
  obtain ⟨hnames, _, section?, -, hsection, -, hget⟩ := variableFields_sections henvironment
  obtain ⟨fields, hnodup, hfields, hcases⟩ :=
    sectionOfVariables_layered ["json"] (by decide) hdocument hflat
  have hlayered (key : String) : w.layeredOutput document file key =
      (Fields.get? fields key).or (Fields.get? (fileOutput file) key) := by
    rw [layeredOutput, hfields, Option.or_assoc]
  rw [Checked.field_eq_ok, get?_merged hnames (by decide) hflags, hget] at h
  rw [hlayered, hlayered]
  rcases hcases with hsome | ⟨hnone, rfl⟩
  · cases Except.ok.inj (hsection.symm.trans hsome)
    obtain ⟨laid, hlaid, hread⟩ := exists_laidOver hnodup file
    rw [Option.map_some, Option.some_or, hlaid] at h
    rw [← OutputSection.ofDatum_eq_ok.mp h]
    exact (readOr_truth_congr (hread "json") (hread "json_output")).symm
  · cases Except.ok.inj (hsection.symm.trans hnone)
    simp only [Fields.get?_nil, Option.none_or, fileOutput]
    rw [Option.map_none, Option.none_or] at h
    rcases hfile : Fields.get? file "output" with _ | below
    · rw [hfile] at h
      cases h
      rfl
    rw [hfile] at h
    cases below with
    | object below => exact OutputSection.ofDatum_eq_ok.mp h
    | _ => cases h

/-! ## Settings -/

/-- With variables for one name alone, and none for the section as a whole, the section is read from
the variable and the file. -/
theorem output_of_few [StandIns] {name : String} (hname : ¬nestingMark <:+: name.toList)
    (hfew : ∀ entry ∈ w.sectionVariables "output", entry.1 = nestedName "output" name)
    (hflags : Fields.get? flags "output" = none)
    (henvironment : w.variableFields = .ok environment) {path : Option FilePath}
    {s : OutputSection}
    (h : Checked.field (merged path flags file environment) "output" .default
      OutputSection.ofDatum = .ok s) :
    Checked.readOr false readTruth ((w.layeredOutput [] file "json").or
      (w.layeredOutput [] file "json_output")) = .ok s.json := by
  have hwhole : w.lookupLowered? (variablePrefix ++ "output") = none := by
    rw [lookupLowered?_of_section (.inl rfl), Option.map_eq_none_iff, List.find?_eq_none]
    intro entry hentry hsame
    have hchars := congrArg (fun name => name.toList.length)
      ((eq_of_beq hsame).symm.trans (hfew entry (List.mem_reverse.mp hentry)))
    simp [nestedName, nestedStart, nestingMark] at hchars
  refine output_of_layers (.inl ⟨hwhole, rfl⟩) (fun entry hentry field hfield => ?_) hflags
    henvironment h
  have hmem := mem_sectionVariables hentry (hfield ▸ isOfSection_nestedName "output" field)
  rw [← nestedName_inj (hfield.symm.trans (hfew _ hmem)).symm]
  exact hname

theorem layeredOutput_nil (w : Workspace) (file : Fields) (key : String) :
    w.layeredOutput [] file key =
      ((w.lookupLowered? (nestedName "output" key)).map Datum.text).or
        (Fields.get? (fileOutput file) key) := by
  rw [layeredOutput, Fields.get?_nil, Option.none_or]

/-- The value that settings hold for the section about output.  A single variable of the short name
gives it, whatever the file says.  A single variable of the long name gives it where the file does
not use the short name; where it does, the file does.  Without variables of the section it is the
value in the file, the one of the short name first, or else false. -/
theorem settings_output [StandIns] {s : Settings} (hs : w.settings named start flags = .ok s)
    (hflags : Fields.get? flags "output" = none) :
    ∃ file, w.fileFields named start = .ok file ∧
      (∀ text b, w.sectionVariables "output" = [(nestedName "output" "json", text)] →
        readTruth (.text text) = .ok b → s.output.json = b) ∧
      (∀ text b, w.sectionVariables "output" = [(nestedName "output" "json_output", text)] →
        readTruth (.text text) = .ok b →
        (Fields.get? (fileOutput file) "json" = none → s.output.json = b) ∧
        ∀ d, Fields.get? (fileOutput file) "json" = some d → readTruth d = .ok s.output.json) ∧
      (w.sectionVariables "output" = [] →
        Checked.readOr false readTruth ((Fields.get? (fileOutput file) "json").or
          (Fields.get? (fileOutput file) "json_output")) = .ok s.output.json) := by
  rw [settings_eq] at hs
  obtain ⟨path, -, hs⟩ := bind_eq_ok.mp hs
  obtain ⟨file, hfile, hs⟩ := bind_eq_ok.mp hs
  obtain ⟨environment, henvironment, hs⟩ := bind_eq_ok.mp hs
  obtain ⟨-, -, -, -, -, houtput, -⟩ := Settings.ofFields_eq_ok.mp (mapError_eq_ok.mp hs)
  have hshort : ¬nestingMark <:+: "json".toList := by decide
  have hlong : ¬nestingMark <:+: "json_output".toList := by decide
  have hdistinct : nestedName "output" "json_output" ≠ nestedName "output" "json" := by decide
  have hnames (key : String) := isOfSection_nestedName "output" key
  refine ⟨file, hfile, fun text b hone hread => ?_, fun text b hone hread => ?_, fun hnone => ?_⟩
  · have hlayers := output_of_few hshort (by simp [hone]) hflags henvironment houtput
    rw [layeredOutput_nil, lookupLowered?_of_singleton hone (hnames _), if_pos rfl] at hlayers
    exact Except.ok.inj (hlayers.symm.trans hread)
  · have hlayers := output_of_few hlong (by simp [hone]) hflags henvironment houtput
    rw [layeredOutput_nil, layeredOutput_nil, lookupLowered?_of_singleton hone (hnames _),
      if_neg hdistinct, lookupLowered?_of_singleton hone (hnames _), if_pos rfl] at hlayers
    constructor
    · intro hfree
      rw [hfree] at hlayers
      exact Except.ok.inj (hlayers.symm.trans hread)
    · intro d hd
      rw [hd] at hlayers
      exact hlayers
  · have hlayers := output_of_few hshort (by simp [hnone]) hflags henvironment houtput
    rw [layeredOutput_nil, layeredOutput_nil, lookupLowered?_of_nil hnone (hnames _),
      lookupLowered?_of_nil hnone (hnames _)] at hlayers
    exact hlayers

/-- A workspace whose file has a section about output with the given line. -/
def outputWorkspace (line : String) (environment : List (String × String)) : Workspace where
  files := [(["condperiod.toml"], "[output]\n" ++ line ++ "\n")]
  folders := []
  current := []
  environment

/-- A variable of the short name counts before the long name in the file. -/
theorem settings_output_twoNames :
    ∃ s, (outputWorkspace "json_output = true" [("CONDPERIOD_OUTPUT__JSON", "no")]).settings none
      none [] = .ok s ∧ s.output.json = false := by
  obtain ⟨s, hs, -⟩ := exists_ok_of_any (p := fun _ => true)
    (x := (outputWorkspace "json_output = true" [("CONDPERIOD_OUTPUT__JSON", "no")]).settings none
      none []) (by decide +kernel)
  obtain ⟨file, -, hshort, -⟩ := settings_output hs (Fields.get?_nil "output")
  exact ⟨s, hs, hshort "no" false (by decide +kernel) (by decide +kernel)⟩

/-- A variable of the long name does not count before the short name in the file. -/
theorem settings_output_shadowed :
    (outputWorkspace "json = true" [("CONDPERIOD_OUTPUT__JSON_OUTPUT", "false")]).sectionVariables
      "output" = [(nestedName "output" "json_output", "false")] ∧
    readTruth (.text "false") = .ok false ∧
    ∃ s, (outputWorkspace "json = true" [("CONDPERIOD_OUTPUT__JSON_OUTPUT", "false")]).settings none
      none [] = .ok s ∧ s.output.json ≠ false := by
  obtain ⟨s, hs, hjson⟩ := exists_ok_of_any (p := fun s => s.output.json)
    (x := (outputWorkspace "json = true"
      [("CONDPERIOD_OUTPUT__JSON_OUTPUT", "false")]).settings none none []) (by decide +kernel)
  exact ⟨by decide +kernel, by decide +kernel, s, hs, by simp [hjson]⟩

end Workspace

end TieredTerms
