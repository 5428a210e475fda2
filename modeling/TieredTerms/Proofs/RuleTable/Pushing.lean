import Mathlib.Data.List.Basic
import TieredTerms.RuleTable.Build
import TieredTerms.Proofs.Outcome

/-!
# Putting rules into tables

What one insertion does to a table, and how the written forms of a table are read one after the
other.

* `RuleTable.pushRule_eq_ok` says when an insertion succeeds and what it gives.
* `RuleTable.pushItems_texts` reads a list of texts as the text with commas is read.
-/

namespace TieredTerms.RuleTable

theorem eq_of_rules {t u : RuleTable} (h : t.rules = u.rules) : t = u := by
  cases t
  cases u
  cases h
  rfl

theorem mem_kind? {t : RuleTable} {kind : Kind} (h : kind ∈ t.kind?) :
    ∃ s ∈ t.rules, s.kind = kind := by
  rw [kind?, Option.mem_def, Option.map_eq_some_iff] at h
  obtain ⟨s, hs, hkind⟩ := h
  exact ⟨s, List.mem_of_head? hs, hkind⟩

/-- All rules of a table are of one kind. -/
theorem exists_kind (t : RuleTable) : ∃ kind, ∀ r ∈ t.rules, r.kind = kind := by
  cases hrules : t.rules with
  | nil => exact ⟨.category, by simp⟩
  | cons first rest =>
    refine ⟨first.kind, fun r hr => t.uniform r ?_ first ?_⟩
    · rwa [hrules]
    · simp [hrules]

/-! ## One insertion -/

/-- A rule that fits goes to the place that the index names. -/
theorem pushRule_of_fits {t : RuleTable} (index : Value) {r : Rule}
    (h : ∀ kind ∈ t.kind?, r.kind = kind) :
    t.pushRule index r = do return t.insert (← t.placeAt index) r (fits_of_kind? h) := by
  rw [pushRule]
  split
  · rfl
  · next kind hkind => rw [dif_pos (h kind hkind)]

/-- A rule that does not fit is refused, whatever the index. -/
theorem pushRule_of_other {t : RuleTable} (index : Value) {r : Rule} {kind : Kind}
    (hkind : t.kind? = some kind) (h : r.kind ≠ kind) :
    t.pushRule index r = .error (.kindMismatch kind r.kind) := by
  rw [pushRule]
  split
  · next hnone =>
    rw [hnone] at hkind
    cases hkind
  · next kind' hkind' =>
    rw [hkind, Option.some.injEq] at hkind'
    subst hkind'
    rw [dif_neg h]

/-- An insertion succeeds where the rule fits and the index names a place, and puts the rule
there. -/
theorem pushRule_eq_ok {t u : RuleTable} {index : Value} {r : Rule} :
    t.pushRule index r = .ok u ↔
      (∀ kind ∈ t.kind?, r.kind = kind) ∧
        ∃ place, t.placeAt index = .ok place ∧
          u.rules = t.rules.take place ++ r :: t.rules.drop place := by
  by_cases hfits : ∀ kind ∈ t.kind?, r.kind = kind
  · rw [pushRule_of_fits index hfits]
    constructor
    · intro h
      obtain ⟨place, hplace, hu⟩ := bind_eq_ok.mp h
      cases hu
      exact ⟨hfits, place, hplace, rfl⟩
    · rintro ⟨-, place, hplace, hrules⟩
      rw [hplace]
      exact congrArg Except.ok (eq_of_rules hrules.symm)
  · constructor
    · intro h
      push Not at hfits
      obtain ⟨kind, hkind, hne⟩ := hfits
      rw [pushRule_of_other index hkind hne] at h
      cases h
    · exact fun h => absurd h.1 hfits

/-- Without an index, a rule of the kind of all others goes to the end. -/
theorem pushRule_none {t : RuleTable} {r : Rule} (h : ∀ s ∈ t.rules, s.kind = r.kind) :
    ∃ u, t.pushRule .none r = .ok u ∧ u.rules = t.rules ++ [r] := by
  have hfits : ∀ kind ∈ t.kind?, r.kind = kind := by
    intro kind hkind
    obtain ⟨s, hs, rfl⟩ := mem_kind? hkind
    exact (h s hs).symm
  refine ⟨t.insert t.size r h, ?_, ?_⟩
  · rw [pushRule_of_fits .none hfits]
    rfl
  · simp [insert, size]

/-! ## Lists of texts -/

/-- A list is read item by item. -/
theorem pushItems_cons_eq_ok [StandIns] {ids : IdSource} {position : Nat} {t u : RuleTable}
    {item : Value} {items : List Value} (h : pushItems ids position t (item :: items) = .ok u) :
    ∃ next, t.push (ids position) item .none = .ok next ∧
      pushItems ids (position + 1) next items = .ok u := by
  cases item with
  | rule r => exact bind_eq_ok.mp h
  | text s => exact bind_eq_ok.mp h
  | kind k => exact bind_eq_ok.mp h
  | _ => cases h

/-- A list of texts is read as the pieces of a text with commas are. -/
theorem pushItems_texts [StandIns] (ids : IdSource) (position : Nat) (t : RuleTable)
    (forms : List String) :
    pushItems ids position t (forms.map .text) = pushForms ids position t forms := by
  induction forms generalizing position t with
  | nil => rfl
  | cons form forms ih =>
    have hrule : ruleOf (ids position) (.text form) = Rule.parse (some (ids position)) form := rfl
    rw [List.map_cons, pushItems, pushForms]
    rw [push, hrule]
    cases Rule.parse (some (ids position)) form with
    | error fault => rfl
    | ok r =>
      simp only [ok_bind]
      cases t.pushRule .none r with
      | error fault => rfl
      | ok u => exact ih (position + 1) u

end TieredTerms.RuleTable
