import TieredTerms.Proofs.Number.Digits
import TieredTerms.Proofs.RuleTable.Decoding
import TieredTerms.Proofs.Screen.Unaltered
import TieredTerms.Proofs.Text.Characters

/-!
# The characters of rules

Rules are written in digits, capital letters, signs, points and commas, whatever their size.  None
of these characters means anything to a screen: they stand for themselves in marked up texts and in
strings of JSON, and a stream takes them as they are.

* `isRuleChar` are the characters, `RuleChars` the rows of them.
* `Duration.ruleChars_formatChars`, `Rule.ruleChars_compactChars` and `RuleTable.ruleChars_compact`
  are about the written forms.
* `RuleTable.all_isListChar_toJson` is about a table in JSON.
-/

namespace TieredTerms

/-- Whether a character lies where those of written rules do. -/
def isRuleChar (c : Char) : Bool :=
  '+' ≤ c && c ≤ 'Y' && c != ':'

/-- Characters of written rules. -/
def RuleChars (cs : List Char) : Prop :=
  ∀ c ∈ cs, isRuleChar c = true

instance (cs : List Char) : Decidable (RuleChars cs) :=
  List.decidableBAll (fun c => isRuleChar c = true) cs

theorem toNat_of_isRuleChar {c : Char} (h : isRuleChar c = true) :
    43 ≤ c.toNat ∧ c.toNat ≤ 89 ∧ c ≠ ':' := by
  simp only [isRuleChar, Bool.and_eq_true, decide_eq_true_eq, bne_iff_ne, Char.le_def,
    UInt32.le_iff_toNat_le] at h
  exact ⟨h.1.1, h.1.2, h.2⟩

theorem isRuleChar_of_isAsciiDigit {c : Char} (h : isAsciiDigit c = true) :
    isRuleChar c = true := by
  obtain ⟨hlow, hhigh⟩ := toNat_of_isAsciiDigit h
  simp only [isRuleChar, Bool.and_eq_true, decide_eq_true_eq, bne_iff_ne, Char.le_def,
    UInt32.le_iff_toNat_le]
  refine ⟨?_, ?_⟩
  · change 43 ≤ c.toNat ∧ c.toNat ≤ 89
    omega
  · rintro rfl
    exact absurd h (by decide)

theorem isUnaltered_of_isRuleChar [StandIns] {c : Char} (h : isRuleChar c = true) :
    isUnaltered c = true := by
  obtain ⟨hlow, hhigh, -⟩ := toNat_of_isRuleChar h
  refine isUnaltered_of_lt ?_ ?_
  · rintro rfl
    exact absurd hlow (by decide)
  · unfold privatePlanes
    omega

namespace RuleChars

variable {cs ds : List Char}

@[simp] theorem nil : RuleChars [] := by
  simp [RuleChars]

@[simp] theorem cons_iff {c : Char} :
    RuleChars (c :: cs) ↔ isRuleChar c = true ∧ RuleChars cs :=
  List.forall_mem_cons

@[simp] theorem append_iff : RuleChars (cs ++ ds) ↔ RuleChars cs ∧ RuleChars ds :=
  List.forall_mem_append

theorem subset (h : RuleChars cs) (hsub : ds ⊆ cs) : RuleChars ds :=
  fun c hc => h c (hsub hc)

theorem zeros (n : Nat) : RuleChars (List.replicate n '0') :=
  fun c hc => by
    rw [List.eq_of_mem_replicate hc]
    decide

theorem toDigits (n : Nat) : RuleChars (Nat.toDigits 10 n) :=
  fun c hc => isRuleChar_of_isAsciiDigit (asciiDigits_toDigits n c hc)

/-- Texts of rules with commas between them. -/
theorem intercalate {parts : List (List Char)} (h : ∀ part ∈ parts, RuleChars part) :
    RuleChars ([','].intercalate parts) :=
  forall_mem_intercalate (show RuleChars [','] by decide) h

theorem unaltered [StandIns] (h : RuleChars cs) : Unaltered cs :=
  fun c hc => isUnaltered_of_isRuleChar (h c hc)

theorem not_blank (h : RuleChars cs) : ∀ c ∈ cs, isBlank c = false := by
  intro c hc
  obtain ⟨hlow, hhigh, -⟩ := toNat_of_isRuleChar (h c hc)
  exact isBlank_eq_false (by omega) (by omega)

theorem not_mem_bracket (h : RuleChars cs) : '[' ∉ cs :=
  fun hmem => absurd (h '[' hmem) (by decide)

theorem not_mem_colon (h : RuleChars cs) : ':' ∉ cs :=
  fun hmem => absurd (h ':' hmem) (by decide)

end RuleChars

/-! ## Numbers -/

theorem ruleChars_intText (n : Int) : RuleChars (intText n).toList := by
  have hdigits : RuleChars (natText n.natAbs).toList := by
    rw [natText, String.toList_ofList]
    exact .toDigits _
  rw [intText]
  split_ifs
  · rw [String.toList_append, RuleChars.append_iff]
    exact ⟨by decide, hdigits⟩
  · exact hdigits

/-- Digits with a point at any place. -/
theorem RuleChars.withPoint {digits : List Char} (h : RuleChars digits) (point : Int) :
    RuleChars (if point ≤ 0 then '0' :: '.' :: (List.replicate (-point).toNat '0' ++ digits)
      else if digits.length ≤ point.toNat then
        digits ++ List.replicate (point.toNat - digits.length) '0'
      else digits.take point.toNat ++ '.' :: digits.drop point.toNat) := by
  split_ifs
  · simp only [cons_iff, append_iff]
    exact ⟨by decide, by decide, .zeros _, h⟩
  · exact append_iff.mpr ⟨h, .zeros _⟩
  · simp only [append_iff, cons_iff]
    exact ⟨h.subset (List.take_subset ..), by decide, h.subset (List.drop_subset ..)⟩

theorem Decimal.ruleChars_toText (d : Decimal) : RuleChars d.toText.toList := by
  have hsuffix (power : Int) : RuleChars (if power = 0 then "" else
      (if power < 0 then "E-" else "E+") ++
        String.ofList (Nat.toDigits 10 power.natAbs)).toList := by
    have hdigits : RuleChars (String.ofList (Nat.toDigits 10 power.natAbs)).toList := by
      rw [String.toList_ofList]
      exact .toDigits _
    split_ifs
    · exact .nil
    all_goals
      rw [String.toList_append, RuleChars.append_iff]
      exact ⟨by decide, hdigits⟩
  have hsign : RuleChars (if d.negative then "-" else "").toList := by
    cases d.negative <;> decide
  unfold toText
  simp only [String.toList_append, String.toList_ofList, RuleChars.append_iff]
  exact ⟨⟨hsign, (RuleChars.toDigits d.coefficient).withPoint _⟩, hsuffix _⟩

/-! ## Durations -/

theorem ruleChars_unitText (n : Nat) {unit : Char} (h : isRuleChar unit = true) :
    RuleChars (unitText n unit) := by
  rw [unitText]
  split_ifs
  · exact .nil
  · exact RuleChars.append_iff.mpr ⟨.toDigits n, RuleChars.cons_iff.mpr ⟨h, .nil⟩⟩

theorem ruleChars_decimalUnitText (d : Decimal) {unit : Char} (h : isRuleChar unit = true) :
    RuleChars (decimalUnitText d unit) := by
  rw [decimalUnitText]
  split_ifs
  · exact .nil
  · exact RuleChars.append_iff.mpr ⟨d.abs.ruleChars_toText, RuleChars.cons_iff.mpr ⟨h, .nil⟩⟩

theorem ruleChars_secondsText (seconds micros : Nat) : RuleChars (secondsText seconds micros) := by
  have hfraction : RuleChars (fractionDigits micros) := by
    refine (RuleChars.toDigits (microsPerSecond + micros)).subset fun c hc => ?_
    rw [fractionDigits, List.mem_reverse] at hc
    have hmem := (List.dropWhile_sublist _).subset hc
    exact List.mem_of_mem_drop (List.mem_reverse.mp hmem)
  rw [secondsText]
  split_ifs
  · exact ruleChars_unitText _ (by decide)
  · simp only [RuleChars.append_iff, RuleChars.cons_iff]
    exact ⟨⟨.toDigits _, by decide, hfraction⟩, by decide, .nil⟩

theorem ruleChars_clockText (micros : Nat) : RuleChars (clockText micros) := by
  have htime : RuleChars (timeOfDayText (micros % microsPerDay)) := by
    rw [timeOfDayText]
    split_ifs
    · exact .nil
    · simp only [RuleChars.cons_iff, RuleChars.append_iff]
      exact ⟨by decide, ⟨ruleChars_unitText _ (by decide), ruleChars_unitText _ (by decide)⟩,
        ruleChars_secondsText _ _⟩
  rw [clockText, RuleChars.append_iff]
  exact ⟨ruleChars_unitText _ (by decide), htime⟩

/-- Every duration is written in these characters, with a sign and exponents where it needs them. -/
theorem Duration.ruleChars_formatChars (d : Duration) : RuleChars d.formatChars := by
  have hunits : RuleChars d.unitsText := by
    cases d with
    | clock time => exact ruleChars_clockText _
    | calendar years months time =>
      simp only [unitsText, RuleChars.append_iff]
      exact ⟨⟨ruleChars_decimalUnitText _ (by decide), ruleChars_decimalUnitText _ (by decide)⟩,
        ruleChars_clockText _⟩
  unfold formatChars
  simp only [RuleChars.append_iff, RuleChars.cons_iff]
  refine ⟨?_, by decide, ?_⟩
  · cases d.hasMinus <;> decide
  · split_ifs
    · decide
    · exact hunits

theorem Duration.ruleChars_format (d : Duration) : RuleChars d.format.toList := by
  rw [format, String.toList_ofList]
  exact d.ruleChars_formatChars

/-! ## Rules and tables -/

theorem Rule.ruleChars_compactChars (r : Rule) : RuleChars r.compactChars := by
  have hinterval : RuleChars r.interval.compactChars := by
    cases r.interval with
    | category lower upper lower_pos ordered =>
      rw [Interval.compactChars, RuleChars.append_iff, RuleChars.cons_iff]
      exact ⟨.toDigits _, by decide, .toDigits _⟩
    | duration lower upper lower_valid upper_valid ordered =>
      rw [Interval.compactChars, RuleChars.append_iff]
      exact ⟨lower.ruleChars_formatChars, upper.ruleChars_formatChars⟩
  rw [compactChars, List.cons_append, RuleChars.cons_iff, RuleChars.append_iff]
  exact ⟨by cases r.kind <;> decide, hinterval, r.result.ruleChars_formatChars⟩

theorem Rule.ruleChars_compact (r : Rule) : RuleChars r.compact.toList := by
  rw [compact, String.toList_ofList]
  exact r.ruleChars_compactChars

theorem RuleTable.ruleChars_compact (t : RuleTable) : RuleChars t.compact.toList := by
  rw [toList_compact]
  refine .intercalate fun part hpart => ?_
  obtain ⟨r, -, rfl⟩ := List.mem_map.mp hpart
  exact r.ruleChars_compactChars

/-! ## Strings of JSON -/

namespace Json

/-- Whether a character may stand in a list of strings that hold rules. -/
def isListChar (c : Char) : Bool :=
  isRuleChar c || ['"', '[', ']', ' '].contains c

/-- No character of a rule is escaped. -/
theorem asciiText_of_ruleChars [StandIns] {s : String} (h : RuleChars s.toList) :
    asciiText s = '"' :: s.toList ++ ['"'] := by
  have hescaped : ∀ c ∈ s.toList, asciiChar c = [c] := by
    intro c hc
    obtain ⟨hlow, hhigh, -⟩ := toNat_of_isRuleChar (h c hc)
    have hne (e : Char) (he : e.toNat < 43 ∨ 89 < e.toNat) : c ≠ e := by
      rintro rfl
      omega
    rw [asciiChar, shortEscape?, if_neg (hne _ (by decide)), if_neg (hne _ (by decide)),
      if_neg (hne _ (by decide)), if_neg (hne _ (by decide)), if_neg (hne _ (by decide)),
      if_neg (hne _ (by decide)), if_neg (hne _ (by decide))]
    exact if_pos ⟨by omega, by omega⟩
  rw [asciiText, List.flatMap_congr hescaped, List.flatMap_singleton']

theorem isUnaltered_of_isListChar [StandIns] {c : Char} (h : isListChar c = true) :
    isUnaltered c = true := by
  have hmarks : Unaltered ['"', '[', ']', ' '] := .of_all_isLow (by decide)
  rw [isListChar, Bool.or_eq_true, List.contains_iff_mem] at h
  rcases h with hrule | hmark
  · exact isUnaltered_of_isRuleChar hrule
  · exact hmarks c hmark

theorem all_isListChar_asciiText [StandIns] {s : String} (h : RuleChars s.toList) :
    (asciiText s).all isListChar = true := by
  have hchars : s.toList.all isListChar = true := by
    rw [List.all_eq_true]
    intro c hc
    rw [isListChar, h c hc, Bool.true_or]
  rw [asciiText_of_ruleChars h, List.cons_append, List.all_cons, List.all_append, hchars]
  decide

theorem all_isListChar_compactItems [StandIns] {texts : List String}
    (h : ∀ s ∈ texts, RuleChars s.toList) :
    (compactItems spaced (texts.map .text)).all isListChar = true := by
  induction texts with
  | nil =>
    rw [List.map_nil, compactItems]
    decide
  | cons s texts ih =>
    obtain ⟨hs, htexts⟩ := List.forall_mem_cons.mp h
    rw [List.map_cons, compactItems, compact, List.all_append, List.all_append,
      all_isListChar_asciiText hs, ih htexts]
    decide

end Json

/-- A table in JSON is a list of such strings. -/
theorem RuleTable.all_isListChar_toJson [StandIns] (t : RuleTable) :
    t.toJson.toList.all Json.isListChar = true := by
  have hforms : ∀ form ∈ t.compactForms, RuleChars form.toList := by
    rw [compactForms, List.forall_mem_map]
    exact fun r _ => r.ruleChars_compact
  rw [toJson, Json.compactText, String.toList_ofList]
  cases hcases : t.compactForms with
  | nil =>
    rw [List.map_nil, Json.compact]
    decide
  | cons form forms =>
    rw [hcases, List.forall_mem_cons] at hforms
    rw [List.map_cons, Json.compact, Json.compact, List.cons_append, List.all_cons, List.all_append,
      Json.all_isListChar_asciiText hforms.1, Json.all_isListChar_compactItems hforms.2]
    decide

theorem RuleTable.unaltered_toJson [StandIns] (t : RuleTable) : Unaltered t.toJson.toList :=
  fun c hc => Json.isUnaltered_of_isListChar (List.all_eq_true.mp t.all_isListChar_toJson c hc)

theorem RuleTable.not_mem_colon_toJson [StandIns] (t : RuleTable) : ':' ∉ t.toJson.toList :=
  fun hmem => absurd (List.all_eq_true.mp t.all_isListChar_toJson ':' hmem) (by decide)

end TieredTerms
