import Mathlib.Data.List.Infix
import Mathlib.Tactic.SplitIfs
import TieredTerms.Proofs.Config.Overlay
import TieredTerms.Proofs.Outcome

/-!
# The layers below the flags

Below the flags of a run lie the environment variables and the configuration file.  The names of
variables are compared without their case, and of several variables of one name the last one
counts.

* `Workspace.lookupLowered?` is the variable of a name, `Workspace.fileFields` what the file holds.
* `lookup_loweredVariables` looks a variable up, `get?_nestedFields` a field of a section that
  variables set one by one.
* `sectionOfVariables_fields` is a section as the variables give it: a variable for a single field
  lies over the JSON document of the whole section.
* `Workspace.variableFields_eq_ok` takes the layer of the variables apart.
-/

namespace TieredTerms

namespace Workspace

/-- The variable of a name in lower case. -/
def lookupLowered? (w : Workspace) (name : String) : Option String :=
  (w.environment.reverse.find? fun entry => lowerName entry.1 == name).map Prod.snd

/-- The fields of the configuration file; none where there is no file. -/
def fileFields (w : Workspace) (named : Option String) (start : Option FilePath) :
    Except ConfigFault Fields := do
  match ← w.chosenConfig named start with
  | some path => w.readConfig path
  | none => return []

end Workspace

/-! ## Names in lower case -/

theorem lowerNameChar_idem (c : Char) : lowerNameChar (lowerNameChar c) = lowerNameChar c := by
  by_cases hcapital : 'A'.toNat ≤ c.toNat ∧ c.toNat ≤ 'Z'.toNat
  · have hall : ∀ n < 91, 'A'.toNat ≤ n → lowerNameChar (lowerNameChar (Char.ofNat n)) =
        lowerNameChar (Char.ofNat n) := by decide
    have hc := hall c.toNat (Nat.lt_succ_of_le hcapital.2) hcapital.1
    rwa [Char.ofNat_toNat] at hc
  · have hsame : c.toLower = c := dif_neg hcapital
    unfold lowerNameChar
    by_cases hsign : c = '\u212a'
    · rw [if_pos hsign]
      rfl
    · rw [if_neg hsign, hsame, if_neg hsign, hsame]

theorem lowerName_idem (name : String) : lowerName (lowerName name) = lowerName name := by
  simp [lowerName, Function.comp_def, lowerNameChar_idem]

/-- What stands at the end of a name in lower case is in lower case. -/
theorem lowerName_of_append {name : String} {front back : List Char}
    (h : name.toList = front ++ back) (hname : lowerName name = name) :
    lowerName (String.ofList back) = String.ofList back := by
  have hchars : name.toList.map lowerNameChar = name.toList := by
    simpa [lowerName] using congrArg String.toList hname
  rw [h, List.map_append] at hchars
  have hback := (List.append_inj hchars (by simp)).2
  rw [lowerName, String.toList_ofList, hback]

/-- The name of a field in lower case is the one that is known. -/
theorem fieldName_of_lower {known : List String} (hknown : ∀ k ∈ known, lowerName k = k)
    {name : String} (h : lowerName name = name) : fieldName known name = name := by
  unfold fieldName
  cases hfind : known.find? fun k => lowerName k = lowerName name with
  | none => rfl
  | some k =>
    have hk := hknown k (List.mem_of_find?_eq_some hfind)
    have hsame : lowerName k = lowerName name := by simpa using List.find?_some hfind
    rw [Option.getD_some, ← hk, hsame, h]

/-! ## Variables -/

/-- Variables as fields of a document. -/
def asFields (entries : List (String × String)) : Fields :=
  entries.map fun entry => (entry.1, .text entry.2)

theorem names_asFields (entries : List (String × String)) :
    Fields.names (asFields entries) = entries.map Prod.fst := by
  simp [Fields.names, asFields]

theorem get?_asFields (entries : List (String × String)) (key : String) :
    Fields.get? (asFields entries) key = (entries.lookup key).map .text := by
  induction entries with
  | nil => rfl
  | cons entry entries ih =>
    obtain ⟨name, value⟩ := entry
    rw [asFields, List.map_cons, Fields.get?_cons, List.lookup_cons]
    by_cases h : name = key
    · simp [h]
    · rw [if_neg h, beq_false_of_ne (Ne.symm h)]
      exact ih

/-- Variables in lower case are put together like fields. -/
theorem asFields_loweredVariables (environment : List (String × String)) :
    asFields (loweredVariables environment) =
      Fields.ofPairs (environment.map fun entry => (lowerName entry.1, .text entry.2)) := by
  have hput (name value : String) (entries : List (String × String)) :
      asFields (loweredVariables.put name value entries) =
        Fields.put name (.text value) (asFields entries) := by
    induction entries with
    | nil => rfl
    | cons entry entries ih =>
      simp only [loweredVariables.put, asFields, List.map_cons, Fields.put]
      split_ifs
      · rfl
      · rw [List.map_cons]
        exact congrArg _ ih
  have hfold (entries : List (String × String)) :
      asFields (environment.foldl (fun lowered entry =>
        loweredVariables.put (lowerName entry.1) entry.2 lowered) entries) =
      (environment.map fun entry => (lowerName entry.1, Datum.text entry.2)).foldl
        (fun fields pair => fields.put pair.1 pair.2) (asFields entries) := by
    induction environment generalizing entries with
    | nil => rfl
    | cons entry environment ih =>
      rw [List.foldl_cons, ih, hput]
      rfl
  exact hfold []

/-- The names of the variables are distinct. -/
theorem nodup_loweredVariables (environment : List (String × String)) :
    ((loweredVariables environment).map Prod.fst).Nodup := by
  rw [← names_asFields, asFields_loweredVariables]
  exact Fields.nodup_ofPairs _

/-- The names of the variables are those of the environment in lower case. -/
theorem mem_names_loweredVariables {environment : List (String × String)} {name : String} :
    name ∈ (loweredVariables environment).map Prod.fst ↔
      ∃ entry ∈ environment, lowerName entry.1 = name := by
  rw [← names_asFields, asFields_loweredVariables, Fields.mem_names_ofPairs]
  simp [Fields.names]

/-- The variable that counts is the last one of its name. -/
theorem lookup_loweredVariables (w : Workspace) (name : String) :
    (loweredVariables w.environment).lookup name = w.lookupLowered? name := by
  refine Option.map_injective (fun s s' h => Datum.text.inj h) ?_
  rw [← get?_asFields, asFields_loweredVariables, Fields.get?_ofPairs, ← List.map_reverse,
    Fields.get?, List.find?_map, Workspace.lookupLowered?]
  simp [Function.comp_def]

/-! ## Single fields of a section -/

/-- What the name of a variable for a single field of a section starts with. -/
def nestedStart (section_ : String) : List Char :=
  (variablePrefix ++ section_).toList ++ nestingMark

/-- The name of the variable for a single field of a section. -/
def nestedName (section_ field : String) : String :=
  String.ofList (nestedStart section_ ++ field.toList)

/-- The variables for single fields of a section reach no deeper than into the section. -/
def IsFlat (environment : List (String × String)) (section_ : String) : Prop :=
  ∀ entry ∈ environment, ∀ field, entry.1 = nestedName section_ field →
    ¬nestingMark <:+: field.toList

/-- The field of a section that a variable sets. -/
def nestedField? (section_ : String) (entry : String × String) : Option (String × Datum) :=
  if (nestedStart section_).isPrefixOf entry.1.toList then
    some (String.ofList (entry.1.toList.drop (nestedStart section_).length), .text entry.2)
  else none

theorem nestedField?_eq_some {section_ key : String} {entry : String × String} {d : Datum} :
    nestedField? section_ entry = some (key, d) ↔
      entry.1 = nestedName section_ key ∧ d = .text entry.2 := by
  constructor
  · intro h
    unfold nestedField? at h
    split_ifs at h with hstart
    obtain ⟨field, hfield⟩ := List.isPrefixOf_iff_prefix.mp hstart
    rw [← hfield, List.drop_left] at h
    cases h
    refine ⟨String.ext ?_, rfl⟩
    simp [nestedName, hfield]
  · rintro ⟨hname, rfl⟩
    simp [nestedField?, hname, nestedName]

/-- A name without a nesting mark is one piece. -/
theorem splitNested_of_not_infix {cs : List Char} (h : ¬nestingMark <:+: cs) :
    splitNested cs = [cs] := by
  induction cs with
  | nil => rfl
  | cons c cs ih =>
    have hrest : splitNested cs = [cs] :=
      ih fun hrest => h (hrest.trans (List.infix_cons List.infix_rfl))
    rw [splitNested, hrest]
    rintro rest rfl rfl
    exact h ⟨[], rest, rfl⟩

/-- The fields of a section that variables set one by one are put together in their order. -/
theorem nestedFields_eq {environment : List (String × String)} {section_ : String}
    (h : IsFlat environment section_) :
    nestedFields environment section_ =
      Fields.ofPairs (environment.filterMap (nestedField? section_)) := by
  have hfold (fields : Fields) :
      environment.foldl (fun fields entry =>
        if (nestedStart section_).isPrefixOf entry.1.toList then
          setNested entry.2 ((splitNested (entry.1.toList.drop (nestedStart section_).length)).map
            String.ofList) fields
        else fields) fields =
      (environment.filterMap (nestedField? section_)).foldl
        (fun fields pair => fields.put pair.1 pair.2) fields := by
    induction environment generalizing fields with
    | nil => rfl
    | cons entry environment ih =>
      rw [List.foldl_cons, ih fun other hother => h other (List.mem_cons_of_mem _ hother)]
      cases hfield : nestedField? section_ entry with
      | none =>
        rw [List.filterMap_cons_none hfield]
        unfold nestedField? at hfield
        split_ifs at hfield with hstart
        congr 1
        exact if_neg hstart
      | some pair =>
        obtain ⟨key, d⟩ := pair
        obtain ⟨hname, rfl⟩ := nestedField?_eq_some.mp hfield
        have hflat := splitNested_of_not_infix (h entry (List.mem_cons_self ..) key hname)
        rw [List.filterMap_cons_some hfield, List.foldl_cons]
        congr 1
        simp [hname, nestedName, hflat, setNested]
  exact hfold []

/-- The names of the fields that variables set are distinct where those of the variables are. -/
theorem nodup_nestedField {environment : List (String × String)}
    (h : (environment.map Prod.fst).Nodup) (section_ : String) :
    (Fields.names (environment.filterMap (nestedField? section_))).Nodup := by
  induction environment with
  | nil => exact List.nodup_nil
  | cons entry environment ih =>
    obtain ⟨hname, hrest⟩ := List.nodup_cons.mp h
    cases hfield : nestedField? section_ entry with
    | none =>
      rw [List.filterMap_cons_none hfield]
      exact ih hrest
    | some pair =>
      rw [List.filterMap_cons_some hfield]
      refine List.nodup_cons.mpr ⟨fun hmem => hname ?_, ih hrest⟩
      obtain ⟨⟨key, d⟩, hother, hkey⟩ := List.mem_map.mp hmem
      obtain ⟨other, hentry, hpair⟩ := List.mem_filterMap.mp hother
      obtain ⟨hotherName, -⟩ := nestedField?_eq_some.mp hpair
      obtain ⟨hentryName, -⟩ := nestedField?_eq_some.mp hfield
      rw [hentryName, ← hkey, ← hotherName]
      exact List.mem_map_of_mem hentry

/-- The fields that variables set one by one are looked up by the names of the variables. -/
theorem get?_nestedField (environment : List (String × String)) (section_ key : String) :
    Fields.get? (environment.filterMap (nestedField? section_)) key =
      (environment.lookup (nestedName section_ key)).map .text := by
  induction environment with
  | nil => rfl
  | cons entry environment ih =>
    obtain ⟨name, value⟩ := entry
    rw [List.lookup_cons]
    cases hfield : nestedField? section_ (name, value) with
    | none =>
      have hne : nestedName section_ key ≠ name := by
        rintro rfl
        rw [nestedField?_eq_some.mpr ⟨rfl, rfl⟩] at hfield
        cases hfield
      rw [List.filterMap_cons_none hfield, ih, beq_false_of_ne hne]
    | some pair =>
      obtain ⟨field, d⟩ := pair
      obtain ⟨hname, rfl⟩ := nestedField?_eq_some.mp hfield
      rw [List.filterMap_cons_some hfield, Fields.get?_cons, ih]
      by_cases hkey : field = key
      · rw [if_pos hkey, ← hkey, ← hname, beq_self_eq_true]
        rfl
      · have hne : nestedName section_ key ≠ name := by
          intro h
          have hchars := congrArg String.toList (h.trans hname)
          refine hkey (String.ext ?_)
          simpa [nestedName, eq_comm] using hchars
        rw [if_neg hkey, beq_false_of_ne hne]

/-! ## Sections -/

namespace Json

/-- A number or a word is no object. -/
theorem readScalar_ne_object (cs rest : List Char) (fields : Fields) :
    readScalar cs ≠ .ok (.object fields, rest) := by
  have hnumber (negative : Bool) (ds : List Char) :
      (readNumber? negative ds).getD (.error (.malformed .value cs)) ≠
        .ok (.object fields, rest) := by
    unfold readNumber?
    dsimp only
    split_ifs <;> simp
  intro h
  unfold readScalar at h
  dsimp only at h
  split at h
  · next result hfind =>
    obtain ⟨⟨word, value⟩, hmem, hword⟩ := List.exists_of_findSome?_eq_some hfind
    obtain ⟨behind, -, rfl⟩ := Option.map_eq_some_iff.mp hword
    cases h
    simp at hmem
  · split at h
    · exact hnumber _ _ h
    · exact hnumber _ _ h

/-- The fields of an object that is read have distinct names. -/
theorem nodup_of_readValue [StandIns] {fuel depth : Nat} {cs rest : List Char} {fields : Fields}
    (h : readValue fuel depth cs = .ok (.object fields, rest)) : (Fields.names fields).Nodup := by
  cases fuel with
  | zero => cases h
  | succ fuel =>
    rw [readValue.eq_def] at h
    dsimp only at h
    split at h
    · obtain ⟨_, -, h⟩ := bind_eq_ok.mp h
      cases h
    · cases h
    · split at h
      · cases h
      · obtain ⟨_, -, h⟩ := bind_eq_ok.mp h
        cases h
    · cases h
    · split at h
      · cases h
        exact List.nodup_nil
      · obtain ⟨pairs, -, h⟩ := bind_eq_ok.mp h
        cases h
        exact Fields.nodup_ofPairs _
    · exact absurd h (readScalar_ne_object _ _ _)

theorem nodup_of_parse [StandIns] {text : String} {fields : Fields}
    (h : parse text = .ok (.object fields)) : (Fields.names fields).Nodup := by
  unfold parse at h
  dsimp only at h
  split at h
  · next value hread =>
    cases h
    unfold readDocument at hread
    split_ifs at hread
    · cases hread
    · obtain ⟨⟨value, rest⟩, hvalue, hread⟩ := bind_eq_ok.mp hread
      dsimp only at hread
      split at hread
      · cases hread
        exact nodup_of_readValue hvalue
      · cases hread
  · cases h
  · cases h
  · cases h

end Json

/-- The document that a variable gives for a section: none, or an object whose names are in lower
case. -/
def GivesSection [StandIns] (value : Option String) (fields : Fields) : Prop :=
  value = none ∧ fields = [] ∨
    ∃ text, value = some text ∧ Json.parse text = .ok (.object fields) ∧
      ∀ name ∈ Fields.names fields, lowerName name = name

/-- A section as the variables give it has each field from the variable of the field, or else from
the document of the section. -/
theorem sectionOfVariables_fields [StandIns] {environment : List (String × String)}
    {section_ : String} {known : List String} {document : Fields}
    (hnames : (environment.map Prod.fst).Nodup)
    (hlower : ∀ entry ∈ environment, lowerName entry.1 = entry.1)
    (hflat : IsFlat environment section_) (hknown : ∀ k ∈ known, lowerName k = k)
    (hdocument : GivesSection (environment.lookup (variablePrefix ++ section_)) document) :
    ∃ fields, (Fields.names fields).Nodup ∧
      (∀ key, Fields.get? fields key =
        ((environment.lookup (nestedName section_ key)).map Datum.text).or
          (Fields.get? document key)) ∧
      (sectionOfVariables environment section_ known = .ok (some (.object fields)) ∨
        sectionOfVariables environment section_ known = .ok none ∧ fields = []) := by
  let nested := environment.filterMap (nestedField? section_)
  have hnested : (Fields.names nested).Nodup := nodup_nestedField hnames section_
  have hgathered : nestedFields environment section_ = nested := by
    rw [nestedFields_eq hflat, Fields.ofPairs_of_nodup hnested]
  have hnestedLower : ∀ name ∈ Fields.names nested, lowerName name = name := by
    intro name hname
    obtain ⟨⟨key, d⟩, hpair, rfl⟩ := List.mem_map.mp hname
    obtain ⟨entry, hentry, hfield⟩ := List.mem_filterMap.mp hpair
    obtain ⟨hfull, -⟩ := nestedField?_eq_some.mp hfield
    have hchars : entry.1.toList = nestedStart section_ ++ key.toList := by
      rw [hfull, nestedName, String.toList_ofList]
    simpa using lowerName_of_append hchars (hlower entry hentry)
  -- a name in lower case is the name of the field itself, so that renaming changes nothing
  have hrename {fields : Fields} (hnodup : (Fields.names fields).Nodup)
      (hall : ∀ name ∈ Fields.names fields, lowerName name = name) :
      Fields.ofPairs (fields.map fun field => (fieldName known field.1, field.2)) = fields := by
    have hsame : fields.map (fun field => (fieldName known field.1, field.2)) = fields := by
      refine (List.map_congr_left fun field hfield => ?_).trans (List.map_id fields)
      have hname := hall field.1 (List.mem_map_of_mem hfield)
      simp [fieldName_of_lower hknown hname]
    rw [hsame, Fields.ofPairs_of_nodup hnodup]
  have hrenamed {fields renamed : Fields} (h : renamed = fields) :
      (Except.ok (some (.object renamed)) : Except ConfigFault (Option Datum)) =
        .ok (some (.object fields)) := by
    rw [h]
  have hget (key : String) : Fields.get? (overlay document nested) key =
      ((environment.lookup (nestedName section_ key)).map Datum.text).or
        (Fields.get? document key) := by
    rw [get?_overlay document hnested, get?_nestedField]
    cases environment.lookup (nestedName section_ key) with
    | none => rfl
    | some value => exact congrArg some (overlayValue_text _ value)
  rcases hdocument with ⟨hlookup, rfl⟩ | ⟨text, hlookup, hparse, hdocumentLower⟩
  · refine ⟨nested, hnested, fun key => ?_, ?_⟩
    · rw [get?_nestedField]
      simp [Fields.get?_nil]
    · simp only [sectionOfVariables, hlookup, hgathered]
      by_cases hempty : nested = []
      · exact .inr ⟨by simp [hempty], hempty⟩
      · left
        simp only [List.isEmpty_iff, hempty, if_false]
        exact hrenamed (hrename hnested hnestedLower)
  · refine ⟨overlay document nested, nodup_overlay (Json.nodup_of_parse hparse) nested, hget,
      .inl ?_⟩
    have hall : ∀ name ∈ Fields.names (overlay document nested), lowerName name = name := by
      intro name hname
      rcases mem_names_overlay hname with hname | hname
      · exact hdocumentLower name hname
      · exact hnestedLower name hname
    simp only [sectionOfVariables, hlookup, hgathered, hparse]
    exact hrenamed (hrename (nodup_overlay (Json.nodup_of_parse hparse) nested) hall)

/-- Variables give no section only where the variable of the section is no JSON document. -/
theorem sectionOfVariables_eq_error [StandIns] {environment : List (String × String)}
    {section_ : String} {known : List String} {fault : ConfigFault}
    (h : sectionOfVariables environment section_ known = .error fault) :
    fault = .variable section_ ∨ ∃ container, fault = .tooDeep container := by
  unfold sectionOfVariables at h
  dsimp only at h
  split at h
  · cases h
  · split at h
    · cases h
      exact .inr ⟨_, rfl⟩
    · cases h
      exact .inl rfl
    · cases h
    · cases h
    · cases h

/-! ## The layer of the variables -/

namespace Workspace

/-- The single values that variables give. -/
def plainFields (w : Workspace) : Fields :=
  plainSettings.filterMap fun name =>
    ((loweredVariables w.environment).lookup (variablePrefix ++ name)).map fun value =>
      (name, .text value)

/-- The layer of the variables consists of the single values and of the two sections. -/
theorem variableFields_eq_ok [StandIns] {w : Workspace} {fields : Fields}
    (h : w.variableFields = .ok fields) :
    ∃ rules output,
      sectionOfVariables (loweredVariables w.environment) "rules" ["table", "kind"] = .ok rules ∧
      sectionOfVariables (loweredVariables w.environment) "output" ["json"] = .ok output ∧
      fields = w.plainFields ++ (rules.map ("rules", ·)).toList ++
        (output.map ("output", ·)).toList := by
  obtain ⟨sections, hsections, h⟩ := bind_eq_ok.mp h
  rw [sectionSettings, List.filterMapM_cons, List.filterMapM_cons, List.filterMapM_nil] at hsections
  dsimp only at hsections
  cases hrules : sectionOfVariables (loweredVariables w.environment) "rules" ["table", "kind"] with
  | error fault =>
    rw [hrules] at hsections
    cases hsections
  | ok rules =>
    cases houtput : sectionOfVariables (loweredVariables w.environment) "output" ["json"] with
    | error fault =>
      rw [hrules, houtput] at hsections
      cases rules <;> cases hsections
    | ok output =>
      rw [hrules, houtput] at hsections
      refine ⟨rules, output, rfl, rfl, ?_⟩
      cases h
      rw [List.append_assoc]
      cases rules <;> cases output <;> cases hsections <;> rfl

/-- The layer of the variables is missing where one of the two sections is. -/
theorem variableFields_eq_error [StandIns] {w : Workspace} {fault : ConfigFault}
    (h : w.variableFields = .error fault) :
    sectionOfVariables (loweredVariables w.environment) "rules" ["table", "kind"] = .error fault ∨
      sectionOfVariables (loweredVariables w.environment) "output" ["json"] = .error fault := by
  unfold variableFields at h
  dsimp only at h
  rw [sectionSettings, List.filterMapM_cons, List.filterMapM_cons, List.filterMapM_nil] at h
  dsimp only at h
  cases hrules : sectionOfVariables (loweredVariables w.environment) "rules" ["table", "kind"] with
  | error fault' =>
    rw [hrules] at h
    cases h
    exact .inl rfl
  | ok rules =>
    cases houtput : sectionOfVariables (loweredVariables w.environment) "output" ["json"] with
    | error fault' =>
      rw [hrules, houtput] at h
      cases rules <;> cases h <;> exact .inr rfl
    | ok output =>
      rw [hrules, houtput] at h
      cases rules <;> cases output <;> cases h

theorem names_plainFields (w : Workspace) :
    (Fields.names w.plainFields).Sublist plainSettings := by
  have hall (names : List String) : (Fields.names (names.filterMap fun name =>
      ((loweredVariables w.environment).lookup (variablePrefix ++ name)).map fun value =>
        (name, Datum.text value))).Sublist names := by
    induction names with
    | nil => exact List.Sublist.refl _
    | cons name names ih =>
      cases hlookup : (loweredVariables w.environment).lookup (variablePrefix ++ name) with
      | none =>
        rw [List.filterMap_cons_none (by simp [hlookup])]
        exact ih.cons name
      | some value =>
        rw [List.filterMap_cons_some (b := (name, .text value)) (by simp [hlookup])]
        exact ih.cons_cons name
  exact hall plainSettings

/-- The fields of the variables have distinct names, and either section is as the variables give
it. -/
theorem variableFields_sections [StandIns] {w : Workspace} {fields : Fields}
    (h : w.variableFields = .ok fields) :
    (Fields.names fields).Nodup ∧ ∃ rules output,
      sectionOfVariables (loweredVariables w.environment) "rules" ["table", "kind"] = .ok rules ∧
      sectionOfVariables (loweredVariables w.environment) "output" ["json"] = .ok output ∧
      Fields.get? fields "rules" = rules ∧ Fields.get? fields "output" = output := by
  obtain ⟨rules, output, hrules, houtput, rfl⟩ := variableFields_eq_ok h
  have hplain := w.names_plainFields
  constructor
  · have hsub : (Fields.names (w.plainFields ++ (rules.map ("rules", ·)).toList ++
        (output.map ("output", ·)).toList)).Sublist (plainSettings ++ ["rules"] ++ ["output"]) := by
      simp only [Fields.names, List.map_append]
      refine (hplain.append ?_).append ?_
      · cases rules <;> simp
      · cases output <;> simp
    exact hsub.nodup (by decide)
  · have hnone {name : String} (hname : name ∉ plainSettings) :
        Fields.get? w.plainFields name = none :=
      Fields.get?_eq_none.mpr fun hmem => hname (hplain.subset hmem)
    refine ⟨rules, output, hrules, houtput, ?_, ?_⟩
    · rw [Fields.get?_append, Fields.get?_append, hnone (by decide)]
      cases rules <;> cases output <;> rfl
    · rw [Fields.get?_append, Fields.get?_append, hnone (by decide)]
      cases rules <;> cases output <;> rfl

end Workspace

end TieredTerms
