import TieredTerms.Proofs.RuleTable.Pushing
import TieredTerms.RuleTable.Lookup

/-!
# Readings with other ids

The ids of rules come from outside and differ from reading to reading.  Whatever is read twice gives
the same table apart from the ids, or the same fault.

* `RuleTable.withoutIds` is a table without its ids.
* `Rule.withoutId_parse` is one rule, `RuleTable.withoutIds_pushRule` one insertion.
* `RuleTable.withoutIds_parse` and `RuleTable.withoutIds_parseJson` are the two texts of a table.
* `RuleTable.withoutIds_find` is a look-up.
-/

namespace TieredTerms

/-! ## Rules -/

namespace Rule

/-- The rule without its id. -/
def withoutId (r : Rule) : Rule :=
  { r with id := none }

@[simp] theorem kind_withoutId (r : Rule) : r.withoutId.kind = r.kind := rfl

@[simp] theorem isWritable_withoutId (r : Rule) : r.withoutId.isWritable = r.isWritable := rfl

@[simp] theorem compact_withoutId (r : Rule) : r.withoutId.compact = r.compact := rfl

@[simp] theorem holdsFor_withoutId [StandIns] (r : Rule) (v : Value) :
    r.withoutId.holdsFor v = r.holdsFor v := rfl

/-- A rule that is built with an id has no more than a rule that is built without. -/
theorem withoutId_build [StandIns] (id : Option String) (kind lower upper result : Value) :
    withoutId <$> build id kind lower upper result = build none kind lower upper result := by
  rw [build, build]
  cases kindArgument kind with
  | error fault => rfl
  | ok k =>
    rw [ok_bind, ok_bind]
    cases intervalOf k lower upper with
    | error fault => rfl
    | ok interval =>
      rw [ok_bind, ok_bind]
      cases durationArgument "fourth" result with
      | error fault => rfl
      | ok d => rfl

theorem withoutId_parse [StandIns] (id : Option String) (text : String) :
    withoutId <$> parse id text = parse none text := by
  rw [parse, parse]
  cases RuleTokens.ofText text with
  | error fault => rfl
  | ok tokens => exact withoutId_build id _ _ _ _

end Rule

/-! ## Tables -/

namespace RuleTable

/-- The table without the ids of its rules. -/
def withoutIds (t : RuleTable) : RuleTable where
  rules := t.rules.map Rule.withoutId
  uniform := by
    simp only [List.forall_mem_map, Rule.kind_withoutId]
    exact t.uniform

@[simp] theorem size_withoutIds (t : RuleTable) : t.withoutIds.size = t.size := by
  simp [size, withoutIds]

@[simp] theorem kind?_withoutIds (t : RuleTable) : t.withoutIds.kind? = t.kind? := by
  simp [kind?, withoutIds, Function.comp_def]

@[simp] theorem isWritable_withoutIds (t : RuleTable) : t.withoutIds.isWritable = t.isWritable := by
  simp [isWritable, withoutIds, Function.comp_def]

@[simp] theorem compactForms_withoutIds (t : RuleTable) :
    t.withoutIds.compactForms = t.compactForms := by
  simp [compactForms, withoutIds, Function.comp_def]

@[simp] theorem compact_withoutIds (t : RuleTable) : t.withoutIds.compact = t.compact := by
  simp [compact]

@[simp] theorem toJson_withoutIds [StandIns] (t : RuleTable) : t.withoutIds.toJson = t.toJson := by
  simp [toJson]

@[simp] theorem placeAt_withoutIds (t : RuleTable) (index : Value) :
    t.withoutIds.placeAt index = t.placeAt index := by
  simp [placeAt]

/-- A rule is put into a table in the same way without the ids. -/
theorem withoutIds_pushRule (t : RuleTable) (index : Value) (r : Rule) :
    withoutIds <$> t.pushRule index r = t.withoutIds.pushRule index r.withoutId := by
  by_cases hfits : ∀ kind ∈ t.kind?, r.kind = kind
  · have hfits' : ∀ kind ∈ t.withoutIds.kind?, r.withoutId.kind = kind := by simpa using hfits
    rw [pushRule_of_fits index hfits, pushRule_of_fits index hfits', placeAt_withoutIds]
    cases t.placeAt index with
    | error fault => rfl
    | ok place => exact congrArg Except.ok (eq_of_rules (by simp [insert, withoutIds]))
  · push Not at hfits
    obtain ⟨kind, hkind, hne⟩ := hfits
    rw [pushRule_of_other index hkind hne,
      pushRule_of_other index ((kind?_withoutIds t).trans hkind) (by simpa using hne)]
    rfl

/-- A value puts the same rule into tables that differ in ids only. -/
theorem withoutIds_push [StandIns] {t u : RuleTable} (h : t.withoutIds = u.withoutIds)
    (id id' : String) (v index : Value) :
    withoutIds <$> t.push id v index = withoutIds <$> u.push id' v index := by
  have hrule : Rule.withoutId <$> ruleOf id v = Rule.withoutId <$> ruleOf id' v := by
    unfold ruleOf
    split
    · rw [Rule.withoutId_parse, Rule.withoutId_parse]
    · rfl
    · rfl
  refine map_bind_congr hrule fun r s hrs => ?_
  rw [withoutIds_pushRule, withoutIds_pushRule, h, hrs]

/-! ## Readings -/

/-- Compact forms extend tables that differ in ids only in the same way. -/
theorem withoutIds_pushForms [StandIns] (ids ids' : IdSource) (forms : List String) (position : Nat)
    {t u : RuleTable} (h : t.withoutIds = u.withoutIds) :
    withoutIds <$> pushForms ids position t forms =
      withoutIds <$> pushForms ids' position u forms := by
  induction forms generalizing position t u with
  | nil => exact congrArg Except.ok h
  | cons form forms ih =>
    have hrule : Rule.withoutId <$> Rule.parse (some (ids position)) form =
        Rule.withoutId <$> Rule.parse (some (ids' position)) form := by
      rw [Rule.withoutId_parse, Rule.withoutId_parse]
    refine map_bind_congr hrule fun r s hrs => ?_
    have htable : withoutIds <$> t.pushRule .none r = withoutIds <$> u.pushRule .none s := by
      rw [withoutIds_pushRule, withoutIds_pushRule, h, hrs]
    exact map_bind_congr htable fun a b hab => ih (position + 1) hab

/-- Values extend tables that differ in ids only in the same way. -/
theorem withoutIds_pushItems [StandIns] (ids ids' : IdSource) (items : List Value) (position : Nat)
    {t u : RuleTable} (h : t.withoutIds = u.withoutIds) :
    withoutIds <$> pushItems ids position t items =
      withoutIds <$> pushItems ids' position u items := by
  induction items generalizing position t u with
  | nil => exact congrArg Except.ok h
  | cons item items ih =>
    have hstep : withoutIds <$> (t.push (ids position) item .none >>= fun t =>
          pushItems ids (position + 1) t items) =
        withoutIds <$> (u.push (ids' position) item .none >>= fun u =>
          pushItems ids' (position + 1) u items) :=
      map_bind_congr (withoutIds_push h _ _ _ _) fun a b hab => ih (position + 1) hab
    cases item with
    | rule r => exact hstep
    | text s => exact hstep
    | kind k => exact hstep
    | _ => rfl

/-- A text is read in the same way whatever the ids are. -/
theorem withoutIds_parse [StandIns] (ids ids' : IdSource) (text : String) :
    withoutIds <$> parse ids text = withoutIds <$> parse ids' text := by
  rw [parse, parse]
  split_ifs
  · rfl
  · exact withoutIds_pushForms ids ids' _ 0 rfl

/-- A JSON text is read in the same way whatever the ids are. -/
theorem withoutIds_parseJson [StandIns] (ids ids' : IdSource) (text : String) :
    withoutIds <$> parseJson ids text = withoutIds <$> parseJson ids' text := by
  rw [parseJson, parseJson]
  cases (Json.parse text).mapError jsonFault with
  | error fault => rfl
  | ok document =>
    rw [ok_bind, ok_bind]
    cases Value.ofDatum document with
    | list items => exact withoutIds_pushItems ids ids' items 0 rfl
    | tuple items => exact withoutIds_pushItems ids ids' items 0 rfl
    | _ => rfl

/-! ## Look-ups -/

/-- What a look-up found, without the id of the rule. -/
def Found.withoutId (f : Found) : Found :=
  { f with rule := f.rule.withoutId }

/-- A search finds the same rule without the ids. -/
theorem withoutIds_firstMatch [StandIns] (v : Value) (start : Nat) (rules : List Rule) :
    Option.map Found.withoutId <$> firstMatch v start rules =
      firstMatch v start (rules.map Rule.withoutId) := by
  induction rules generalizing start with
  | nil => rfl
  | cons r rules ih =>
    rw [List.map_cons, firstMatch, firstMatch, Rule.holdsFor_withoutId]
    cases r.holdsFor v with
    | error fault => rfl
    | ok holds =>
      cases holds with
      | true => rfl
      | false => exact ih (start + 1)

/-- A look-up finds the same rule without the ids. -/
theorem withoutIds_find [StandIns] (t : RuleTable) (v : Value) :
    Option.map Found.withoutId <$> t.find v = t.withoutIds.find v := by
  rw [find, find]
  cases lookupValue v with
  | error fault => rfl
  | ok w => exact withoutIds_firstMatch w 0 t.rules

end RuleTable

end TieredTerms
