import TieredTerms.Proofs.Rule.Faults
import TieredTerms.Proofs.RuleTable.Decoding
import TieredTerms.Proofs.RuleTable.FirstMatch

/-!
# Faults of tables

What can be wrong with the text of a table is what can be wrong with the compact forms in it, a rule
of another kind than the first, or an item of a JSON array that is no text.

* `RuleTable.yields_pushForms` and `RuleTable.yields_pushItems` carry what holds of every form to
  the whole table.
* `RuleTable.yields_parse` and `RuleTable.yields_parseJson` are the two texts of a table.
* `RuleTable.yields_find` is a look-up in a table.
-/

namespace TieredTerms

theorem Fault.causedBy_kindMismatch [StandIns] {cs : List Char} (expected given : Kind) :
    (kindMismatch expected given).CausedBy cs := by
  refine .misfit (.inr (.inr rfl)) fun _ => .pair ?_ ?_
  · cases expected <;> exact .of_all_isLow (by decide)
  · cases given <;> exact .of_all_isLow (by decide)

namespace RuleTable

variable {P : Rule → Prop} {E : Fault → Prop}

/-! ## Forms -/

/-- A rule goes to the end, or is of another kind than the first. -/
theorem yields_pushRule (hkind : ∀ expected given, E (.kindMismatch expected given)) (t : RuleTable)
    (r : Rule) : Yields (fun u => u.rules = t.rules ++ [r]) E (t.pushRule .none r) := by
  by_cases hfits : ∀ kind ∈ t.kind?, r.kind = kind
  · obtain ⟨u, hu, hrules⟩ := pushRule_none fun s hs => (hfits s.kind (kind?_of_mem hs)).symm
    rw [hu]
    exact hrules
  · push Not at hfits
    obtain ⟨kind, hsome, hne⟩ := hfits
    rw [pushRule_of_other .none hsome hne]
    exact hkind _ _

/-- The next rule of a table, and the rules behind it. -/
private theorem yields_pushed (hkind : ∀ expected given, E (.kindMismatch expected given))
    {t : RuleTable} (ht : ∀ r ∈ t.rules, P r) {rule : Except Fault Rule} (hrule : Yields P E rule)
    {next : RuleTable → Except Fault RuleTable}
    (hnext : ∀ u : RuleTable, (∀ r ∈ u.rules, P r) →
      Yields (fun u => ∀ r ∈ u.rules, P r) E (next u)) :
    Yields (fun u => ∀ r ∈ u.rules, P r) E (rule >>= fun r => t.pushRule .none r >>= next) := by
  refine hrule.bind fun r _ hr => ?_
  refine (yields_pushRule hkind t r).bind fun u _ hu => hnext u ?_
  rw [hu, List.forall_mem_append, List.forall_mem_singleton]
  exact ⟨ht, hr⟩

/-- What every form gives, every rule of the table has. -/
theorem yields_pushForms [StandIns] (hkind : ∀ expected given, E (.kindMismatch expected given))
    {forms : List String} (hforms : ∀ form ∈ forms, ∀ id, Yields P E (Rule.parse id form))
    (ids : IdSource) (position : Nat) {t : RuleTable} (ht : ∀ r ∈ t.rules, P r) :
    Yields (fun u => ∀ r ∈ u.rules, P r) E (pushForms ids position t forms) := by
  induction forms generalizing position t with
  | nil => exact ht
  | cons form forms ih =>
    obtain ⟨hform, hrest⟩ := List.forall_mem_cons.mp hforms
    exact yields_pushed hkind ht (hform _) fun u hu => ih hrest (position + 1) hu

/-- The forms between the commas stand in the text. -/
theorem infix_of_mem_segments {text form : String} (h : form ∈ segments text) :
    form.toList <:+: text.toList := by
  rw [segments, List.mem_map] at h
  obtain ⟨segment, hsegment, rfl⟩ := h
  have hpiece : segment <:+: [','].intercalate (text.toList.splitOn ',') :=
    infix_intercalate hsegment
  rw [List.intercalate_splitOn] at hpiece
  rw [String.toList_ofList]
  exact (infix_stripChars segment).trans hpiece

/-- The text of a table gives rules that can be written where its numbers are modest, or a fault of
the text. -/
theorem yields_parse [StandIns] (ids : IdSource) (text : String) :
    Yields (fun t => ∀ r ∈ t.rules, HasModestNumbers text.toList → r.isWritable = true)
      (Fault.CausedBy text.toList) (parse ids text) := by
  unfold parse
  split_ifs
  · intro r hr
    cases hr
  · refine yields_pushForms Fault.causedBy_kindMismatch ?_ ids 0 ?_
    · intro form hform id
      have hpart := infix_of_mem_segments hform
      exact (Rule.yields_parse id form).imp
        (fun _ _ hwritable hmodest => hwritable (hmodest.within hpart))
        fun _ hfault => hfault.mono hpart
    · intro r hr
      cases hr

/-! ## JSON -/

/-- Items of a document are texts or do not fit. -/
theorem yields_pushItems [StandIns] (hkind : ∀ expected given, E (.kindMismatch expected given))
    (hitem : ∀ (v : Value) position, E (.tableItem v.typeName position)) {data : List Datum}
    (htexts : ∀ d ∈ data, ∀ s, Value.ofDatum d = .text s → ∀ id, Yields P E (Rule.parse id s))
    (ids : IdSource) (position : Nat) {t : RuleTable} (ht : ∀ r ∈ t.rules, P r) :
    Yields (fun u => ∀ r ∈ u.rules, P r) E
      (pushItems ids position t (Value.ofItems data)) := by
  induction data generalizing position t with
  | nil => exact ht
  | cons d data ih =>
    obtain ⟨hd, hrest⟩ := List.forall_mem_cons.mp htexts
    have htext {s : String} (hs : Value.ofDatum d = .text s) :
        Yields (fun u => ∀ r ∈ u.rules, P r) E
          (t.push (ids position) (.text s) .none >>= fun u =>
            pushItems ids (position + 1) u (Value.ofItems data)) := by
      have hrule : ruleOf (ids position) (.text s) = Rule.parse (some (ids position)) s := rfl
      rw [push, hrule, bind_assoc]
      exact yields_pushed hkind ht (hd s hs _) fun u hu => ih hrest (position + 1) hu
    rw [Value.ofItems]
    cases d with
    | text s => exact htext rfl
    | moment s => exact htext rfl
    | _ => exact hitem _ _

/-- The JSON text of a table gives what every text of its array gives. -/
theorem yields_parseJson [StandIns] (ids : IdSource) (text : String)
    (hjson : ∀ fault, Json.parse text = .error fault → E (jsonFault fault))
    (hkind : ∀ expected given, E (.kindMismatch expected given))
    (hitem : ∀ (v : Value) position, E (.tableItem v.typeName position))
    (hitems : ∀ v : Value, E (.tableItems v.typeName))
    (htexts : ∀ data, Json.parse text = .ok (.array data) → ∀ d ∈ data, ∀ s,
      Value.ofDatum d = .text s → ∀ id, Yields P E (Rule.parse id s)) :
    Yields (fun t => ∀ r ∈ t.rules, P r) E (parseJson ids text) := by
  unfold parseJson
  cases hdocument : Json.parse text with
  | error fault => exact hjson fault hdocument
  | ok document =>
    change Yields _ E (ofItems ids (Value.ofDatum document))
    cases document with
    | array data =>
      refine yields_pushItems hkind hitem (htexts data hdocument) ids 0 ?_
      intro r hr
      cases hr
    | _ => exact hitems _

/-! ## Look-ups -/

/-- The target is shown without lone units where it is refused. -/
theorem hasNoLoneUnits_mismatch [StandIns] (w : Target) :
    HasNoLoneUnits (Rule.mismatch w).shownTexts := by
  cases hshown : w.shown? with
  | none =>
    rw [(Rule.faultClass_mismatch w).2 (w.shown?_value.trans hshown)]
    exact .nil
  | some shown =>
    have hencodable : IsEncodable shown.toList := by
      cases w with
      | category n => exact isEncodable_intShown hshown
      | duration d => exact Duration.isEncodable_shown hshown
    have hvalue : w.value.shown = .ok shown := by
      rw [w.shown_value, hshown, shownNumbers]
    obtain ⟨given, hgiven, hencodable⟩ := givenText_of_shown hvalue hencodable
    rw [Rule.mismatch, hgiven]
    cases w with
    | category n => exact .singleton hencodable
    | duration d => exact .singleton hencodable

/-- What a look-up finds is a rule of the table, and it fails where the target is of the other kind:
with a fault of types unless messages cannot show the target. -/
theorem yields_find_of_denotes [StandIns] (t : RuleTable) {v : Value} {w : Target}
    (hv : Denotes v w) : Yields (fun found => ∀ f, found = some f → f.rule ∈ t.rules)
      (fun fault => fault.faultClass = .type ∧ HasNoLoneUnits fault.shownTexts ∨
        fault = .numberTooLong ∧ w.shown? = none ∧
          ∃ kind, t.kind? = some kind ∧ kind ≠ w.kind) (t.find v) := by
  have hstored {found : Option Found} (hfound : t.find v = .ok found) :
      ∀ f, found = some f → f.rule ∈ t.rules := by
    rintro f rfl
    exact List.mem_of_getElem? (t.stored_of_find hfound)
  cases hkind : t.kind? with
  | none =>
    have hempty : t.rules = [] := by simpa [kind?] using hkind
    have hfind : t.find v = .ok none := by
      rw [find, lookupValue_of_denotes hv, hempty]
      rfl
    rw [hfind]
    exact hstored hfind
  | some kind =>
    by_cases hfits : kind = w.kind
    · obtain ⟨found, hfound, -⟩ := find_of_kind hv (hkind.trans (congrArg some hfits))
      rw [hfound]
      exact hstored hfound
    · obtain ⟨htype, hlong⟩ := Rule.faultClass_mismatch w
      rw [find_of_other_kind hv hkind hfits]
      rw [w.shown?_value] at htype hlong
      cases hshown : w.shown? with
      | some shown =>
        exact .inl ⟨htype.mpr (by rw [hshown]; rfl), hasNoLoneUnits_mismatch w⟩
      | none => exact .inr ⟨hlong hshown, rfl, kind, rfl, hfits⟩

/-- A value of a text is looked up.  Apart from faults of the text, only a duration that messages
cannot show is a fault, where it is given to rules of categories. -/
theorem yields_find [StandIns] {cs : List Char} (t : RuleTable) {v : Value} (hv : v.StandsIn cs) :
    Yields (fun found => ∀ f, found = some f → f.rule ∈ t.rules)
      (fun fault => fault.CausedBy cs ∨ fault = .numberTooLong ∧ ∃ d, Denotes v (.duration d) ∧
        d.shown? = none ∧ t.kind? = some .category) (t.find v) := by
  cases hv with
  | @int n hn =>
    refine (yields_find_of_denotes t (.category n)).imp (fun _ _ h => h) fun fault hfault => ?_
    rcases hfault with ⟨htype, hencodable⟩ | ⟨-, hshown, -⟩
    · exact .inl (.misfit (.inr (.inr htype)) fun _ => hencodable)
    · rw [Target.shown?, intShown?_of_lt hn] at hshown
      cases hshown
  | @text s hs =>
    rcases read_cases hs with hread | ⟨hread, hlarge⟩ | ⟨d, hread, -⟩
    · rw [find, lookupValue, Value.asText?]
      simp only [parseDuration, hread, error_bind]
      exact .inl (.misfit (.inl rfl) fun _ => .singleton (isEncodable_quoted s))
    · rw [find, lookupValue, Value.asText?]
      simp only [parseDuration, hread, error_bind]
      exact .inl (.manyDigits hlarge)
    · have hdenotes : Denotes (.text s) (.duration d) := .text rfl hread
      refine (yields_find_of_denotes t hdenotes).imp (fun _ _ h => h) fun fault hfault => ?_
      rcases hfault with ⟨htype, hencodable⟩ | ⟨hlong, hshown, kind, hkind, hne⟩
      · exact .inl (.misfit (.inr (.inr htype)) fun _ => hencodable)
      · refine .inr ⟨hlong, d, hdenotes, hshown, ?_⟩
        cases kind with
        | category => exact hkind
        | duration => exact absurd rfl hne

end RuleTable

end TieredTerms
