import TieredTerms.CommandLine.Run
import TieredTerms.Proofs.Config.Layers

/-!
# Flags and settings

A command line hands every flag to the settings, set or not.  The flags lie above all other layers,
so what the variables or the file say about them does not count, and apart from them the settings
are the same for all command lines that name the same configuration file.

* `settingsOf_withFlags` compares the settings of two command lines.
* `GlobalFlag` are the flags, `Workspace.LaidBelow` tells what the layers below say of one.
* `flag_of_settingsOf` is what counts: the flag alone.
-/

namespace TieredTerms

/-- The flags of the program that are settings as well. -/
inductive GlobalFlag where
  | json
  | verbose
  | logJson

namespace GlobalFlag

/-- The option that sets a flag. -/
def option : GlobalFlag → String
  | .json => "--json"
  | .verbose => "--verbose"
  | .logJson => "--log-json"

/-- The name of the setting of a flag. -/
def setting : GlobalFlag → String
  | .json => "json_output"
  | .verbose => "verbose"
  | .logJson => "log_json"

/-- The value of a flag in settings. -/
def value (s : Settings) : GlobalFlag → Bool
  | .json => s.jsonFlag
  | .verbose => s.verbose
  | .logJson => s.logJson

end GlobalFlag

/-- Settings with the flags of a command line. -/
def Settings.withFlags (g : Given) (s : Settings) : Settings :=
  { s with
    jsonFlag := g.has "--json"
    verbose := g.has "--verbose"
    logJson := g.has "--log-json" }

theorem Settings.value_withFlags (g : Given) (s : Settings) (f : GlobalFlag) :
    f.value (s.withFlags g) = g.has f.option := by
  cases f <;> rfl

/-! ## Settings of two command lines -/

namespace Workspace

variable {path : Option FilePath} {file environment : Fields}

/-- The highest layer of a run: the path of the configuration file, and the flags. -/
def flagLayer (path : Option FilePath) (g : Given) : Fields :=
  ("config_path", ((path.map FilePath.toText).map .text).getD .null) :: flagFields g

theorem names_flagLayer (path : Option FilePath) (g : Given) :
    Fields.names (flagLayer path g) = ["config_path", "json_output", "verbose", "log_json"] := rfl

theorem merged_eq (path : Option FilePath) (g : Given) (file environment : Fields) :
    merged path (flagFields g) file environment =
      overlay (overlay file environment) (flagLayer path g) := rfl

/-- A flag is read as it is given. -/
theorem field_flag (g : Given) (f : GlobalFlag) :
    Checked.field (merged path (flagFields g) file environment) f.setting false readTruth =
      .ok (g.has f.option) := by
  have hnames : (Fields.names (flagLayer path g)).Nodup := by
    rw [names_flagLayer]
    decide
  have hgiven : Fields.get? (flagLayer path g) f.setting = some (.bool (g.has f.option)) := by
    cases f <;> rfl
  rw [Checked.field_eq_ok, merged_eq, get?_overlay _ hnames, hgiven]
  dsimp only
  rw [overlayValue_bool]
  rfl

/-- Fields that are no flags are read from the layers below. -/
theorem field_merged_flags {α : Type} (g : Given) {name : String}
    (hname : name ∉ Fields.names (flagLayer path g)) (default : α) (read : Datum → Checked α) :
    Checked.field (merged path (flagFields g) file environment) name default read =
      Checked.field (overlay file environment) name default read := by
  unfold Checked.field
  rw [merged_eq, get?_overlay_of_none (Fields.get?_eq_none.mpr hname)]

/-- Flags are settings, so they add no fields that are none. -/
theorem unknownFields_merged_flags (g : Given) :
    Settings.unknownFields (merged path (flagFields g) file environment) =
      Settings.unknownFields (overlay file environment) := by
  have hknown : ∀ name ∈ Fields.names (flagLayer path g),
      (!Settings.knownNames.contains name) = false := by
    rw [names_flagLayer]
    decide
  unfold Settings.unknownFields
  rw [merged_eq]
  dsimp only
  rw [filter_overlay (fun name => !Settings.knownNames.contains name) hknown]

/-- Settings of the same layers below the flags differ in the flags only. -/
theorem ofFields_withFlags [StandIns] (configPath : Option String) (g g' : Given) :
    Settings.ofFields configPath (merged path (flagFields g) file environment) =
      Settings.withFlags g <$>
        Settings.ofFields configPath (merged path (flagFields g') file environment) := by
  have hjson (g : Given) : Checked.field (merged path (flagFields g) file environment)
      "json_output" false readTruth = .ok (g.has "--json") := field_flag g .json
  have hverbose (g : Given) : Checked.field (merged path (flagFields g) file environment)
      "verbose" false readTruth = .ok (g.has "--verbose") := field_flag g .verbose
  have hlogJson (g : Given) : Checked.field (merged path (flagFields g) file environment)
      "log_json" false readTruth = .ok (g.has "--log-json") := field_flag g .logJson
  have hrules (g : Given) : "rules" ∉ Fields.names (flagLayer path g) := by
    rw [names_flagLayer]
    decide
  have houtput (g : Given) : "output" ∉ Fields.names (flagLayer path g) := by
    rw [names_flagLayer]
    decide
  simp only [Settings.ofFields, hjson, hverbose, hlogJson, field_merged_flags _ (hrules _),
    field_merged_flags _ (houtput _), unknownFields_merged_flags]
  generalize Checked.both (Checked.field _ "rules" _ _) _ = sections
  cases sections <;> cases Settings.unknownFields (overlay file environment) <;> rfl

end Workspace

/-- The settings of two command lines that name the same configuration file differ in the flags
only. -/
theorem settingsOf_withFlags [StandIns] (w : Workspace) {g g' : Given}
    (hconfig : g.value? "--config" = g'.value? "--config") :
    settingsOf w g = Settings.withFlags g <$> settingsOf w g' := by
  rw [settingsOf, settingsOf, hconfig, Workspace.settings_eq, Workspace.settings_eq]
  cases w.chosenConfig (g'.value? "--config") none with
  | error fault => rfl
  | ok path =>
    cases w.fileFields (g'.value? "--config") none with
    | error fault => rfl
    | ok file =>
      cases w.variableFields with
      | error fault => rfl
      | ok environment =>
        simp only [ok_bind]
        rw [Workspace.ofFields_withFlags _ g g']
        cases Settings.ofFields (path.map FilePath.toText)
          (Workspace.merged path (flagFields g') file environment) <;> rfl

/-- The settings of a command line have its flags. -/
theorem value_settingsOf [StandIns] {w : Workspace} {g : Given} {s : Settings}
    (h : settingsOf w g = .ok s) (f : GlobalFlag) : f.value s = g.has f.option := by
  have hsame := settingsOf_withFlags w (rfl : g.value? "--config" = g.value? "--config")
  rw [h, ok_map] at hsame
  rw [Except.ok.inj hsame, Settings.value_withFlags]

/-! ## What the layers below say -/

/-- What the variables and the file say of a flag: the variable counts before the file, and false
where neither says anything. -/
def Workspace.LaidBelow (w : Workspace) (g : Given) (f : GlobalFlag) (b : Bool) : Prop :=
  ∃ file, w.fileFields (g.value? "--config") none = .ok file ∧
    Checked.readOr false readTruth
      (((w.lookupLowered? (variablePrefix ++ f.setting)).map Datum.text).or
        (Fields.get? file f.setting)) = .ok b

/-- The settings of a run have every flag as the command line gives it, whatever the layers below
say.  A flag that is not given is false, so it has the value of the layers below only where they say
false. -/
theorem flag_of_settingsOf [StandIns] {w : Workspace} {g : Given} {s : Settings}
    (h : settingsOf w g = .ok s) (f : GlobalFlag) :
    f.value s = g.has f.option ∧
      (g.has f.option = false → ∀ b, w.LaidBelow g f b → (f.value s = b ↔ b = false)) := by
  have hvalue := value_settingsOf h f
  refine ⟨hvalue, fun habsent b _ => ?_⟩
  rw [hvalue, habsent]
  exact eq_comm

/-- A workspace whose variables ask for reports in JSON. -/
def askingWorkspace : Workspace where
  files := [(["condperiod.toml"], "[rules]\ntable = \"C1-2P1D\"\n")]
  folders := []
  current := []
  environment := [("CONDPERIOD_JSON_OUTPUT", "true")]

/-- The command line of a look-up, without any flag. -/
def flaglessLookup : Given :=
  ⟨[], ["find", "2"]⟩

theorem ownOptions_flaglessLookup [StandIns] : ownOptions ["find", "2"] = .ok flaglessLookup := by
  have hread : programForm.read ["find", "2"] = .ok flaglessLookup := by
    rw [CommandForm.read, OptionReader.read]
    rfl
  rw [ownOptions, hread]
  rfl

theorem settingsOf_flaglessLookup : ∃ s, settingsOf askingWorkspace flaglessLookup = .ok s := by
  have hmade : (settingsOf askingWorkspace flaglessLookup).isOk = true := by decide +kernel
  cases hsettings : settingsOf askingWorkspace flaglessLookup with
  | ok s => exact ⟨s, rfl⟩
  | error fault =>
    rw [hsettings] at hmade
    cases hmade

theorem laidBelow_askingWorkspace : askingWorkspace.LaidBelow flaglessLookup .json true := by
  have hread : (askingWorkspace.fileFields none none).isOk = true := by decide +kernel
  have hvariable :
      askingWorkspace.lookupLowered? (variablePrefix ++ "json_output") = some "true" := by
    decide +kernel
  cases hfile : askingWorkspace.fileFields none none with
  | ok file =>
    refine ⟨file, hfile, ?_⟩
    rw [GlobalFlag.setting, hvariable]
    show readTruth (.text "true") = .ok true
    decide +kernel
  | error fault =>
    rw [hfile] at hread
    cases hread

theorem flag_of_settingsOf_asking :
    ∃ s, settingsOf askingWorkspace flaglessLookup = .ok s ∧ s.jsonFlag = false ∧
      (s.jsonFlag = true ↔ true = false) := by
  obtain ⟨s, hs⟩ := settingsOf_flaglessLookup
  obtain ⟨hvalue, hbelow⟩ := flag_of_settingsOf hs .json
  exact ⟨s, hs, hvalue, hbelow rfl true laidBelow_askingWorkspace⟩

/-- A flag that is not given does not leave its value to the variables. -/
theorem flag_ignores_variable :
    ownOptions ["find", "2"] = .ok flaglessLookup ∧ flaglessLookup.has "--json" = false ∧
      askingWorkspace.LaidBelow flaglessLookup .json true ∧
      ∃ s, settingsOf askingWorkspace flaglessLookup = .ok s ∧ s.jsonFlag ≠ true := by
  obtain ⟨s, hs⟩ := settingsOf_flaglessLookup
  have hvalue := value_settingsOf hs .json
  refine ⟨ownOptions_flaglessLookup, rfl, laidBelow_askingWorkspace, s, hs, ?_⟩
  rw [show s.jsonFlag = false from hvalue]
  decide

end TieredTerms
