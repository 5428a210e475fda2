import Mathlib.Data.List.Forall2
import TieredTerms.Proofs.Json.Compact
import TieredTerms.Proofs.Rule.Written
import TieredTerms.Proofs.RuleTable.Pushing

/-!
# Reading written tables

A table is plain where its rules are.  Its three written forms, one text with commas, a list of
texts and a JSON array, are all read back.

* `RuleTable.pushForms_compactForms` reads the compact forms of plain rules one after the other.
* `RuleTable.parse_joined` cuts a text at its commas.
* `RuleTable.decoders_undo_encoders` puts the readers and the writers together.
-/

namespace TieredTerms.RuleTable

/-- A table of plain rules. -/
def IsPlain (t : RuleTable) : Prop :=
  ∀ r ∈ t.rules, r.IsPlain

/-- A table of plain rules can be written. -/
theorem IsPlain.isWritable {t : RuleTable} (h : t.IsPlain) : t.isWritable = true := by
  rw [RuleTable.isWritable, List.all_eq_true]
  exact fun r hr => (h r hr).isWritable

/-- What a written form gives back: a table with the same rules in the same order that can be
written, in the same way, and is equal. -/
structure RestoredBy (t u : RuleTable) : Prop where
  rules : List.Forall₂ Rule.SameParts t.rules u.rules
  writable : u.isWritable = true
  equal : t.equal u = .ok true ∧ u.equal t = .ok true
  compact : u.compact = t.compact

/-! ## Rules that are given back -/

/-- Two lists of rules that are the same or equal in pairs are equal. -/
theorem all_zip {rs ss : List Rule}
    (h : List.Forall₂ (fun r s => r.sameOrEqual s = .ok true) rs ss) :
    equal.all (rs.zip ss) = .ok true := by
  induction h with
  | nil => rfl
  | cons hequal _ ih => rw [List.zip_cons_cons, equal.all, hequal, ok_bind, if_pos rfl, ih]

theorem sameOrEqual_of_key {r s : Rule} {key : RuleKey} (hr : r.key = .ok key)
    (hs : s.key = .ok key) : r.sameOrEqual s = .ok true := by
  rw [Rule.sameOrEqual]
  split_ifs
  · rfl
  · simp [Rule.equal, hr, hs]

/-- A table whose rules are given back is given back. -/
theorem restoredBy_of_rules {t u : RuleTable} (h : List.Forall₂ Rule.RestoredBy t.rules u.rules) :
    t.RestoredBy u := by
  have hsize : t.size = u.size := h.length_eq
  have hplain : u.IsPlain := by
    intro s hs
    obtain ⟨i, hi, rfl⟩ := List.mem_iff_getElem.mp hs
    exact (h.get (by rwa [h.length_eq]) hi).plain
  refine ⟨h.imp fun _ _ hrule => hrule.parts, hplain.isWritable, ⟨?_, ?_⟩, ?_⟩
  · rw [equal, if_pos hsize]
    refine all_zip (h.imp fun _ _ hrule => ?_)
    obtain ⟨key, hr, hs⟩ := hrule.key
    exact sameOrEqual_of_key hr hs
  · rw [equal, if_pos hsize.symm]
    refine all_zip (h.flip.imp fun _ _ hrule => ?_)
    obtain ⟨key, hr, hs⟩ := hrule.key
    exact sameOrEqual_of_key hs hr
  · have hforms : List.Forall₂ (· = ·) u.compactForms t.compactForms := by
      rw [compactForms, compactForms, List.forall₂_map_left_iff, List.forall₂_map_right_iff]
      exact h.flip.imp fun _ _ hrule => hrule.compact
    rw [List.forall₂_eq_eq_eq] at hforms
    rw [compact, compact, hforms]

/-! ## One form after the other -/

/-- The compact forms of plain rules of one kind are read behind the rules of that kind that a
table holds already. -/
theorem pushForms_compactForms [StandIns] (ids : IdSource) {kind : Kind} {rules : List Rule}
    (hplain : ∀ r ∈ rules, r.IsPlain) (hrules : ∀ r ∈ rules, r.kind = kind) (position : Nat)
    (t : RuleTable) (ht : ∀ s ∈ t.rules, s.kind = kind) :
    ∃ u restored, pushForms ids position t (rules.map Rule.compact) = .ok u ∧
      u.rules = t.rules ++ restored ∧ List.Forall₂ Rule.RestoredBy rules restored := by
  induction rules generalizing position t with
  | nil => exact ⟨t, [], rfl, by simp, .nil⟩
  | cons r rules ih =>
    rw [List.forall_mem_cons] at hplain hrules
    obtain ⟨s, hparse, hrestored⟩ := Rule.parse_compact (some (ids position)) hplain.1
    have hkind : s.kind = kind := by rw [← hrestored.parts.kind, hrules.1]
    obtain ⟨next, hnext, hnextRules⟩ := pushRule_none (r := s) fun a ha => by rw [ht a ha, hkind]
    have hnextKinds : ∀ a ∈ next.rules, a.kind = kind := by
      rw [hnextRules, List.forall_mem_append, List.forall_mem_singleton]
      exact ⟨ht, hkind⟩
    obtain ⟨u, restored, hu, huRules, hall⟩ := ih hplain.2 hrules.2 (position + 1) next hnextKinds
    refine ⟨u, s :: restored, ?_, ?_, .cons hrestored hall⟩
    · rw [List.map_cons, pushForms, hparse, ok_bind, hnext, ok_bind, hu]
    · rw [huRules, hnextRules, List.append_assoc, List.singleton_append]

/-- The compact forms of a plain table give it back. -/
theorem pushForms_restores [StandIns] (ids : IdSource) {t : RuleTable} (h : t.IsPlain) :
    ∃ u, pushForms ids 0 empty t.compactForms = .ok u ∧ t.RestoredBy u := by
  obtain ⟨kind, hkind⟩ := t.exists_kind
  obtain ⟨u, restored, hu, hrules, hall⟩ :=
    pushForms_compactForms ids h hkind 0 empty (by simp [empty])
  refine ⟨u, hu, restoredBy_of_rules ?_⟩
  rw [hrules]
  exact hall

/-! ## Cutting at commas -/

/-- A piece stands in the text with marks between. -/
theorem infix_intercalate {mark : Char} {piece : List Char} {pieces : List (List Char)}
    (h : piece ∈ pieces) : piece <:+: [mark].intercalate pieces := by
  induction pieces with
  | nil => cases h
  | cons first pieces ih =>
    cases pieces with
    | nil =>
      rw [List.mem_singleton] at h
      rw [List.intercalate_singleton, h]
    | cons next pieces =>
      rw [List.intercalate_cons_cons]
      rcases List.mem_cons.mp h with rfl | h
      · exact ⟨[], [mark] ++ [mark].intercalate (next :: pieces), by simp⟩
      · exact (ih h).trans (List.suffix_append _ _).isInfix

private theorem isBlank_of_isCompactChar {c : Char} (h : Rule.isCompactChar c = true) :
    isBlank c = false := by
  obtain ⟨hlow, hhigh⟩ := Rule.toNat_of_isCompactChar h
  exact isBlank_eq_false (by omega) (by omega)

/-- Compact forms with commas between are cut into these forms. -/
theorem segments_joined {forms : List (List Char)} (hne : forms ≠ [])
    (h : ∀ form ∈ forms, ∀ c ∈ form, Rule.isCompactChar c = true) :
    segments (String.ofList ([','].intercalate forms)) = forms.map String.ofList := by
  have hsplit : ([','].intercalate forms).splitOn ',' = forms := by
    refine List.splitOn_intercalate ',' ?_ hne
    exact fun form hform hcomma => absurd (h form hform ',' hcomma) (by decide)
  rw [segments, String.toList_ofList, hsplit]
  refine List.map_congr_left fun form hform => ?_
  rw [stripChars_of_not_blank fun c hc => isBlank_of_isCompactChar (h form hform c hc)]

/-- Compact forms with commas between are read one after the other. -/
theorem parse_joined [StandIns] (ids : IdSource) {first : Char} {form : List Char}
    {forms : List (List Char)}
    (h : ∀ f ∈ (first :: form) :: forms, ∀ c ∈ f, Rule.isCompactChar c = true) :
    parse ids (String.ofList ([','].intercalate ((first :: form) :: forms))) =
      pushForms ids 0 empty (((first :: form) :: forms).map String.ofList) := by
  have hblank : isBlank first = false :=
    isBlank_of_isCompactChar (h _ List.mem_cons_self first List.mem_cons_self)
  obtain ⟨tail, htail⟩ : ∃ tail, [','].intercalate ((first :: form) :: forms) = first :: tail := by
    cases forms with
    | nil => exact ⟨_, by simp; rfl⟩
    | cons next forms => exact ⟨_, by simp; rfl⟩
  rw [parse, if_neg, segments_joined (by simp) h]
  rw [String.toList_ofList, htail, List.all_cons, hblank]
  simp

/-- One form is read as a table of one rule. -/
theorem pushForms_single [StandIns] (ids : IdSource) (form : String) :
    pushForms ids 0 empty [form] = singleton <$> Rule.parse (some (ids 0)) form := by
  rw [pushForms]
  cases Rule.parse (some (ids 0)) form with
  | error fault => rfl
  | ok r => rfl

/-- A single compact form is read as a table of one rule. -/
theorem parse_single [StandIns] (ids : IdSource) {first : Char} {form : List Char}
    (h : ∀ c ∈ first :: form, Rule.isCompactChar c = true) :
    parse ids (String.ofList (first :: form)) =
      singleton <$> Rule.parse (some (ids 0)) (String.ofList (first :: form)) := by
  have hpieces : parse ids (String.ofList ([','].intercalate [first :: form])) = _ :=
    parse_joined ids (by simpa using h)
  rw [List.intercalate_singleton, List.map_singleton] at hpieces
  rw [hpieces, pushForms_single]

/-! ## The three written forms -/

/-- The compact form of a table is the compact forms of its rules with commas between. -/
theorem toList_compact (t : RuleTable) :
    t.compact.toList = [','].intercalate (t.rules.map Rule.compactChars) := by
  have hlists : t.compactForms.map String.toList = t.rules.map Rule.compactChars := by
    rw [compactForms, List.map_map]
    exact List.map_congr_left fun r _ => String.toList_ofList
  rw [compact, String.toList_intercalate, hlists]
  rfl

/-- A table whose rules are written without commas and blanks is read form by form. -/
theorem parse_compactForms [StandIns] (ids : IdSource) {t : RuleTable}
    (h : ∀ r ∈ t.rules, ∀ c ∈ r.compactChars, Rule.isCompactChar c = true) :
    parse ids t.compact = pushForms ids 0 empty t.compactForms := by
  have hforms : (t.rules.map Rule.compactChars).map String.ofList = t.compactForms := by
    rw [List.map_map]
    rfl
  have hchars : ∀ f ∈ t.rules.map Rule.compactChars, ∀ c ∈ f, Rule.isCompactChar c = true := by
    rw [List.forall_mem_map]
    exact h
  rw [← String.ofList_toList (s := t.compact), toList_compact, ← hforms]
  cases hrules : t.rules with
  | nil => rfl
  | cons first rest =>
    rw [hrules] at hchars
    exact parse_joined ids hchars

/-- The text of a plain table gives it back. -/
theorem parse_compact [StandIns] (ids : IdSource) {t : RuleTable} (h : t.IsPlain) :
    ∃ u, parse ids t.compact = .ok u ∧ t.RestoredBy u := by
  rw [parse_compactForms ids fun r hr => (h r hr).isCompactChar]
  exact pushForms_restores ids h

/-- The compact forms of a plain table give it back. -/
theorem ofItems_compactForms [StandIns] (ids : IdSource) {t : RuleTable} (h : t.IsPlain) :
    ∃ u, ofItems ids (.list (t.compactForms.map .text)) = .ok u ∧ t.RestoredBy u := by
  obtain ⟨u, hu, hrestored⟩ := pushForms_restores ids h
  exact ⟨u, by rw [ofItems, pushItems_texts, hu], hrestored⟩

private theorem ofDatum_texts (forms : List String) :
    Value.ofDatum (.array (forms.map .text)) = .list (forms.map .text) := by
  have hitems : Value.ofItems (forms.map .text) = forms.map .text := by
    induction forms with
    | nil => rw [List.map_nil, List.map_nil, Value.ofItems]
    | cons form forms ih => rw [List.map_cons, List.map_cons, Value.ofItems, Value.ofDatum, ih]
  rw [Value.ofDatum, hitems]

/-- A JSON array of texts is read as the list of these texts, with the halves of pairs joined. -/
theorem parseJson_texts [StandIns] (ids : IdSource) (forms : List String) :
    parseJson ids (Json.compactText (.array (forms.map .text))) =
      ofItems ids (.list ((forms.map Json.joinedText).map .text)) := by
  rw [parseJson, Json.parse_compactText_texts]
  change ofItems ids (Value.ofDatum (.array ((forms.map Json.joinedText).map .text))) = _
  rw [ofDatum_texts]

/-- Texts without halves of pairs are read as they are. -/
theorem parseJson_unsplit [StandIns] (ids : IdSource) {forms : List String}
    (h : ∀ form ∈ forms, Json.IsUnsplit form.toList) :
    parseJson ids (Json.compactText (.array (forms.map .text))) =
      ofItems ids (.list (forms.map .text)) := by
  rw [parseJson_texts, List.map_congr_left fun form hform =>
    Json.joinedText_of_isUnsplit (h form hform), List.map_id']

/-- The JSON text of a plain table is read as the list of its compact forms. -/
theorem parseJson_toJson [StandIns] (ids : IdSource) {t : RuleTable} (h : t.IsPlain) :
    parseJson ids t.toJson = ofItems ids (.list (t.compactForms.map .text)) := by
  refine parseJson_unsplit ids ?_
  rw [compactForms, List.forall_mem_map]
  intro r hr
  refine Json.isUnsplit_of_loneUnit? fun c hc => loneUnit?_eq_none_of_lt ?_
  rw [Rule.compact, String.toList_ofList] at hc
  have hsmall := (Rule.toNat_of_isCompactChar ((h r hr).isCompactChar c hc)).2
  unfold privatePlanes
  omega

/-- A plain table of any kind and length can be written, and every decoder undoes its encoder. -/
theorem decoders_undo_encoders [StandIns] (ids : IdSource) (t : RuleTable) (h : t.IsPlain) :
    t.isWritable = true ∧
      (∃ u, parse ids t.compact = .ok u ∧ t.RestoredBy u) ∧
      (∃ u, ofItems ids (.list (t.compactForms.map .text)) = .ok u ∧ t.RestoredBy u) ∧
      ∃ u, parseJson ids t.toJson = .ok u ∧ t.RestoredBy u := by
  refine ⟨h.isWritable, parse_compact ids h, ofItems_compactForms ids h, ?_⟩
  rw [parseJson_toJson ids h]
  exact ofItems_compactForms ids h

/-- A table of two rules: three to five days give a year and six months, six days and more give
half a second. -/
def twoStages : RuleTable where
  rules :=
    [{ interval := .duration (.clock ⟨3 * microsPerDay, by decide, by decide⟩)
         (.clock ⟨5 * microsPerDay, by decide, by decide⟩) (by decide +kernel) (by decide +kernel)
         (by decide +kernel)
       result := .calendar (Decimal.ofInt 1) (Decimal.ofInt 6) Clock.zero
       id := none
       result_valid := by decide +kernel },
     { interval := .duration (.clock ⟨6 * microsPerDay, by decide, by decide⟩) (.clock Clock.zero)
         (by decide +kernel) (by decide +kernel) (by decide +kernel)
       result := .clock ⟨500000, by decide, by decide⟩
       id := none
       result_valid := by decide +kernel }]
  uniform := by simp [Rule.kind, Interval.kind]

theorem decoders_undo_encoders_twoStages :
    twoStages.IsPlain ∧ twoStages.isWritable = true ∧
      (∃ u, parse ruleIdOf twoStages.compact = .ok u ∧ twoStages.RestoredBy u) ∧
      (∃ u, ofItems ruleIdOf (.list (twoStages.compactForms.map .text)) = .ok u ∧
        twoStages.RestoredBy u) ∧
      ∃ u, parseJson ruleIdOf twoStages.toJson = .ok u ∧ twoStages.RestoredBy u := by
  have hplain : twoStages.IsPlain := by
    have hclock {time : Clock} (h : 0 ≤ time.micros) : (Duration.clock time).IsPlain :=
      ⟨Decimal.isPlain_zero, Decimal.isPlain_zero, h⟩
    intro r hr
    simp only [twoStages, List.mem_cons, List.not_mem_nil, or_false] at hr
    rcases hr with rfl | rfl
    · exact ⟨⟨hclock (by decide), hclock (by decide)⟩,
        ⟨⟨by decide, by decide, by decide⟩, ⟨by decide, by decide, by decide⟩, by decide⟩⟩
    · exact ⟨⟨hclock (by decide), hclock (by decide)⟩, hclock (by decide)⟩
  exact ⟨hplain, decoders_undo_encoders ruleIdOf twoStages hplain⟩

end TieredTerms.RuleTable
