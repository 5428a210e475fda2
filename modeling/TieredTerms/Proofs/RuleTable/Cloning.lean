import TieredTerms.Proofs.Rule.Rebuilding
import TieredTerms.Proofs.RuleTable.Ids

/-!
# Tables that are built anew

A table whose rules are short is built anew with the same rules, ids apart, so it is written in the
same way.

* `RuleTable.cloneRules_of_isShort` follows the rules one by one, `RuleTable.clone_of_isShort` is
  the whole table.
* `RuleTable.rebuilding_keeps` is about rules and tables.
-/

namespace TieredTerms.RuleTable

/-- Short rules of one kind extend a table of that kind, each built anew. -/
theorem cloneRules_of_isShort [StandIns] (ids : IdSource) {kind : Kind} {rules : List Rule}
    (hshort : ∀ r ∈ rules, r.IsShort) (hrules : ∀ r ∈ rules, r.kind = kind) (position : Nat)
    {t : RuleTable} (ht : ∀ s ∈ t.rules, s.kind = kind) :
    ∃ u, cloneRules ids position t rules = .ok u ∧
      u.rules.map Rule.withoutId = t.rules.map Rule.withoutId ++ rules.map Rule.withoutId := by
  induction rules generalizing position t with
  | nil => exact ⟨t, rfl, by simp⟩
  | cons r rules ih =>
    rw [List.forall_mem_cons] at hshort hrules
    have hclone := hshort.1.clone (some (ids position))
    generalize hs : ({ r with id := some (ids position) } : Rule) = s at hclone
    have hkind : s.kind = kind := by rw [← hs, ← hrules.1]; rfl
    obtain ⟨next, hnext, hnextRules⟩ := pushRule_none (r := s) fun a ha => by rw [ht a ha, hkind]
    have hnextKinds : ∀ a ∈ next.rules, a.kind = kind := by
      rw [hnextRules, List.forall_mem_append, List.forall_mem_singleton]
      exact ⟨ht, hkind⟩
    obtain ⟨u, hu, huRules⟩ := ih hshort.2 hrules.2 (position + 1) hnextKinds
    refine ⟨u, ?_, ?_⟩
    · rw [cloneRules, hclone, ok_bind, hnext, ok_bind, hu]
    · rw [huRules, hnextRules, List.map_append, List.append_assoc, ← hs]
      rfl

/-- A table of short rules is built anew with the same rules, ids apart. -/
theorem clone_of_isShort [StandIns] (ids : IdSource) {t : RuleTable}
    (h : ∀ r ∈ t.rules, r.IsShort) : ∃ u, t.clone ids = .ok u ∧ u.withoutIds = t.withoutIds := by
  obtain ⟨kind, hkind⟩ := t.exists_kind
  obtain ⟨u, hu, hrules⟩ := cloneRules_of_isShort ids h hkind 0 (t := empty) (by simp [empty])
  exact ⟨u, hu, eq_of_rules hrules⟩

/-- A short rule that is built of four values is built anew of its own parts, with the same parts
and written in the same way.  It is built as well of the texts and kinds among the four values in
their other form.  Tables of short rules are built anew with the same rules in the same order, and
are written in the same way. -/
theorem rebuilding_keeps [StandIns] {id : Option String} {a : Arguments} {r : Rule}
    (h : Rule.build id a.kind a.lower a.upper a.result = .ok r) (hshort : r.IsShort) :
    (∀ id', ∃ s,
        Rule.build id' (.kind r.kind) r.lowerValue r.upperValue (.duration r.result) = .ok s ∧
        r.clone id' = .ok s ∧ s.withoutId = r.withoutId ∧ s.isWritable = true ∧
        s.compact = r.compact) ∧
      (∀ b, a.Replaces b → ∀ id', ∃ s, Rule.build id' b.kind b.lower b.upper b.result = .ok s ∧
        s.withoutId = r.withoutId) ∧
      ∀ t : RuleTable, (∀ s ∈ t.rules, s.IsShort) → ∀ ids, ∃ u, t.clone ids = .ok u ∧
        u.withoutIds = t.withoutIds ∧ u.size = t.size ∧ u.kind? = t.kind? ∧
        u.isWritable = true ∧ u.compactForms = t.compactForms ∧ u.toJson = t.toJson := by
  refine ⟨fun id' =>
    ⟨_, hshort.build_parts id', hshort.clone id', rfl, hshort.isWritable, rfl⟩, ?_, ?_⟩
  · intro b hab id'
    exact ⟨_, Rule.build_of_isOf ((Rule.isOf_of_build h).replace hab) hshort id', rfl⟩
  · intro t ht ids
    obtain ⟨u, hu, hrules⟩ := clone_of_isShort ids ht
    have hwritable : t.isWritable = true := by
      rw [isWritable, List.all_eq_true]
      exact fun s hs => (ht s hs).isWritable
    refine ⟨u, hu, hrules, ?_, ?_, ?_, ?_, ?_⟩
    · rw [← size_withoutIds, hrules, size_withoutIds]
    · rw [← kind?_withoutIds, hrules, kind?_withoutIds]
    · rw [← isWritable_withoutIds, hrules, isWritable_withoutIds, hwritable]
    · rw [← compactForms_withoutIds, hrules, compactForms_withoutIds]
    · rw [← toJson_withoutIds, hrules, toJson_withoutIds]

/-- A table that holds the rule from a day to a year twice. -/
def twoYears : RuleTable where
  rules := [Rule.dayToYear, Rule.dayToYear]
  uniform := by simp

/-- The rule from a day to a year is built of texts, of the durations that these give, and of its
own parts, and a table of two such rules is built anew. -/
theorem rebuilding_keeps_dayToYear :
    Rule.build none (.kind .duration) (.text "P1D") (.text "P1Y") (.text "PT24H") =
        .ok Rule.dayToYear ∧ Rule.dayToYear.IsShort ∧
      (∃ s, Rule.build none (.kind .duration) Rule.dayToYear.lowerValue Rule.dayToYear.upperValue
          (.duration Rule.dayToYear.result) = .ok s ∧ s.compact = Rule.dayToYear.compact) ∧
      (∃ s, Rule.build none (.text "D") (.duration (.clock Rule.oneDay)) (.text "P1Y")
          (.duration (.clock Rule.oneDay)) = .ok s ∧ s.withoutId = Rule.dayToYear) ∧
      ∃ u, twoYears.clone ruleIdOf = .ok u ∧ u.size = 2 ∧ u.kind? = some .duration ∧
        u.toJson = "[\"DP1DP1YP1D\", \"DP1DP1YP1D\"]" := by
  have hbuild : Rule.build none (.kind .duration) (.text "P1D") (.text "P1Y") (.text "PT24H") =
      .ok Rule.dayToYear := by
    decide +kernel
  have hzero : (Decimal.ofInt 0).IsShort := by
    rw [Decimal.IsShort, Decimal.toRat_of_isZero (by decide), abs_zero]
    positivity
  have hone : (Decimal.ofInt 1).IsShort := by
    have hvalue : |(Decimal.ofInt 1).toRat| = 1 := by norm_num [Decimal.toRat, Decimal.ofInt]
    rw [Decimal.IsShort, hvalue]
    exact one_lt_zpow₀ (by norm_num) (by decide)
  have hshort : Rule.dayToYear.IsShort := ⟨⟨⟨hzero, hzero⟩, ⟨hone, hzero⟩⟩, ⟨hzero, hzero⟩⟩
  obtain ⟨hparts, hforms, htables⟩ := rebuilding_keeps
    (a := ⟨.kind .duration, .text "P1D", .text "P1Y", .text "PT24H"⟩) hbuild hshort
  obtain ⟨s, hs, -, -, -, hcompact⟩ := hparts none
  obtain ⟨v, hv, hsame⟩ := hforms
    ⟨.text "D", .duration (.clock Rule.oneDay), .text "P1Y", .duration (.clock Rule.oneDay)⟩
    ⟨.letter .duration, .read (by decide +kernel), .same _, .read (by decide +kernel)⟩ none
  have hall : ∀ r ∈ twoYears.rules, r.IsShort := by
    intro r hr
    rw [List.eq_of_mem_replicate (n := 2) hr]
    exact hshort
  obtain ⟨u, hu, -, hsize, hkind, -, -, hjson⟩ := htables twoYears hall ruleIdOf
  refine ⟨hbuild, hshort, ⟨s, hs, hcompact⟩, ⟨v, hv, hsame⟩, u, hu, hsize, hkind, ?_⟩
  rw [hjson]
  decide +kernel

end TieredTerms.RuleTable
