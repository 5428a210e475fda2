import TieredTerms.Proofs.Report.Documents

/-!
# The fields of answers

The data of an answer about rules are single values: numbers, truth values and short texts.  Where a
stream takes the texts as they are, it takes their layout as it is, and a document of them has no
lone units.  The fields of a rule are such values, and mean nothing where marked up texts are shown.

* `Datum.IsUnaltered` are the values, `UnalteredFields` the fields of them.
* `IsLiteral` are the texts that stand for themselves, `Rule.isLiteral_describe` tells that those of
  a rule do.
-/

namespace TieredTerms

/-! ## Marked up texts -/

/-- A text without colons has no emoji codes. -/
theorem withEmoji_of_not_mem {cs : List Char} (h : ':' ∉ cs) : withEmoji cs = cs := by
  have hreplace (fuel : Nat) : replaceCodes fuel cs = cs := by
    induction cs generalizing fuel with
    | nil => cases fuel <;> rfl
    | cons c cs ih =>
      rw [List.mem_cons, not_or] at h
      cases fuel with
      | zero => rfl
      | succ fuel => rw [replaceCodes, if_neg (Ne.symm h.1), ih h.2]
  exact hreplace cs.length

/-- A text without brackets and colons stands for itself. -/
theorem unmarked_of_not_mem {s : String} (hbracket : '[' ∉ s.toList) (hcolon : ':' ∉ s.toList) :
    unmarked s = .ok s := by
  unfold unmarked
  simp [hbracket, withEmoji_of_not_mem hcolon]

/-! ## Single values -/

namespace Datum

/-- A single value whose text a stream takes as it is. -/
def IsUnaltered [StandIns] : Datum → Prop
  | .null | .bool _ | .int _ => True
  | .text s => Unaltered s.toList
  | _ => False

variable {d : Datum}

@[simp] theorem plain_null [StandIns] : null.plain = "None" := rfl

@[simp] theorem plain_bool [StandIns] (b : Bool) : (bool b).plain = if b then "True" else "False" :=
  rfl

theorem plain_int [StandIns] (n : Int) : (int n).plain = (intShown? n).getD "" := by
  show (Value.int n).shown.toOption.getD "" = _
  rw [Value.shown_int]
  cases intShown? n <;> rfl

theorem IsUnaltered.plain [StandIns] (h : d.IsUnaltered) : Unaltered d.plain.toList := by
  cases d with
  | null =>
    rw [plain_null]
    exact .of_all_isLow (by decide)
  | bool b =>
    rw [plain_bool]
    cases b <;> exact .of_all_isLow (by decide)
  | int n =>
    rw [plain_int, intShown?]
    split_ifs
    · exact (ruleChars_intText n).unaltered
    · exact .nil
  | text s => exact h
  | _ => cases h

theorem IsUnaltered.hasNoLoneUnits [StandIns] (h : d.IsUnaltered) : HasNoLoneUnits d.texts := by
  cases d with
  | null | bool | int =>
    rw [texts]
    exact .nil
    all_goals simp
  | text s =>
    rw [texts]
    exact .of_unaltered (List.forall_mem_singleton.mpr h)
  | real | array | object | moment => cases h

end Datum

/-- Fields of single values, names and texts of which a stream takes as they are. -/
def UnalteredFields [StandIns] (fields : Fields) : Prop :=
  ∀ field ∈ fields, Unaltered field.1.toList ∧ field.2.IsUnaltered

namespace UnalteredFields

variable {fields : Fields}

theorem get? [StandIns] (h : UnalteredFields fields) (name : String) :
    ((Fields.get? fields name).getD .null).IsUnaltered := by
  rw [Fields.get?]
  cases hfind : fields.find? fun field => field.1 == name with
  | none => trivial
  | some field => exact (h field (List.mem_of_find?_eq_some hfind)).2

theorem hasNoLoneUnits [StandIns] (h : UnalteredFields fields) :
    HasNoLoneUnits (Datum.fieldTexts fields) := by
  induction fields with
  | nil =>
    rw [Datum.fieldTexts]
    exact .nil
  | cons field fields ih =>
    obtain ⟨name, value⟩ := field
    obtain ⟨⟨hname, hvalue⟩, hfields⟩ := List.forall_mem_cons.mp h
    rw [Datum.fieldTexts, HasNoLoneUnits.append_iff, HasNoLoneUnits.cons_iff]
    exact ⟨⟨hname.isSome_loneUnit?, hvalue.hasNoLoneUnits⟩, ih hfields⟩

/-- Objects of such fields. -/
theorem hasNoLoneUnits_objects [StandIns] {objects : List Fields}
    (h : ∀ fields ∈ objects, UnalteredFields fields) :
    HasNoLoneUnits (Datum.itemTexts (objects.map .object)) := by
  induction objects with
  | nil =>
    rw [List.map_nil, Datum.itemTexts]
    exact .nil
  | cons fields objects ih =>
    obtain ⟨hfields, hobjects⟩ := List.forall_mem_cons.mp h
    rw [List.map_cons, Datum.itemTexts, HasNoLoneUnits.append_iff, Datum.texts]
    exact ⟨hasNoLoneUnits hfields, ih hobjects⟩

end UnalteredFields

/-! ## The fields of rules -/

/-- The characters of an id. -/
theorem mem_ruleId {s : String} (h : isRuleId s = true) :
    ∀ c ∈ s.toList, isHexDigit c = true ∨ c = '\n' := by
  simp only [isRuleId, Bool.and_eq_true, Bool.or_eq_true, beq_iff_eq, List.all_eq_true] at h
  obtain ⟨⟨-, hdigits⟩, hrest⟩ := h
  intro c hc
  rw [← List.take_append_drop ruleIdLength s.toList, List.mem_append] at hc
  rcases hc with hc | hc
  · exact .inl (hdigits c hc)
  · rcases hrest with hrest | hrest
    · simp [hrest] at hc
    · rw [hrest, List.mem_singleton] at hc
      exact .inr hc

/-- The id of a number is an id. -/
theorem isRuleId_ruleIdOf (n : Nat) : isRuleId (ruleIdOf n) = true := by
  have hdigit : ∀ d < 16, isHexDigit (Nat.digitChar d) = true := by decide
  have hsmall : n % Nat.pow 16 4 < 0x10000 := Nat.mod_lt _ (by decide)
  rw [isRuleId, ruleIdOf, String.toList_ofList, ruleIdLength, paddedHex_four hsmall]
  simp only [List.take, List.drop, List.all_cons, List.all_nil, Bool.and_true]
  rw [hdigit _ (by omega), hdigit _ (by omega), hdigit _ (by omega), hdigit _ (by omega)]
  rfl

theorem toNat_of_isHexDigit {c : Char} (h : isHexDigit c = true) :
    48 ≤ c.toNat ∧ c.toNat ≤ 57 ∨ 97 ≤ c.toNat ∧ c.toNat ≤ 102 := by
  simp only [isHexDigit, Bool.or_eq_true, Bool.and_eq_true, decide_eq_true_eq, Char.le_def,
    UInt32.le_iff_toNat_le] at h
  exact h

/-- A text that a stream takes as it is, and that stands for itself where marked up texts are
shown. -/
def IsLiteral [StandIns] (s : String) : Prop :=
  Unaltered s.toList ∧ '[' ∉ s.toList ∧ ':' ∉ s.toList

instance [StandIns] (s : String) : Decidable (IsLiteral s) :=
  inferInstanceAs (Decidable (Unaltered s.toList ∧ '[' ∉ s.toList ∧ ':' ∉ s.toList))

/-- Texts of characters that stand for themselves, whatever stands in for lone units. -/
theorem IsLiteral.of_all [StandIns] {s : String}
    (h : (s.toList.all fun c => isLow c && c != '[' && c != ':') = true) : IsLiteral s := by
  simp only [List.all_eq_true, Bool.and_eq_true, bne_iff_ne] at h
  refine ⟨fun c hc => isUnaltered_of_isLow (h c hc).1.1, fun hmem => ?_, fun hmem => ?_⟩
  · exact (h _ hmem).1.2 rfl
  · exact (h _ hmem).2 rfl

theorem IsLiteral.unmarked [StandIns] {s : String} (h : IsLiteral s) : unmarked s = .ok s :=
  unmarked_of_not_mem h.2.1 h.2.2

theorem isLiteral_of_ruleChars [StandIns] {s : String} (h : RuleChars s.toList) : IsLiteral s :=
  ⟨h.unaltered, h.not_mem_bracket, h.not_mem_colon⟩

theorem isLiteral_ruleId [StandIns] {s : String} (h : isRuleId s = true) : IsLiteral s := by
  refine ⟨fun c hc => ?_, ?_, ?_⟩
  · rcases mem_ruleId h c hc with hhex | rfl
    · have hrange := toNat_of_isHexDigit hhex
      refine isUnaltered_of_lt ?_ ?_
      · rintro rfl
        exact absurd hhex (by decide)
      · unfold privatePlanes
        omega
    · exact isUnaltered_of_isLow (by decide)
  all_goals
    intro hmem
    exact absurd (mem_ruleId h _ hmem) (by decide)

namespace Datum

/-- A single value whose text is literal. -/
def IsLiteral [StandIns] (d : Datum) : Prop :=
  d.IsUnaltered ∧ TieredTerms.IsLiteral d.plain

theorem isLiteral_null [StandIns] : IsLiteral .null :=
  ⟨trivial, by rw [plain_null]; exact .of_all (by decide)⟩

theorem isLiteral_bool [StandIns] (b : Bool) : IsLiteral (.bool b) := by
  refine ⟨trivial, ?_⟩
  rw [plain_bool]
  cases b <;> exact .of_all (by decide)

theorem isLiteral_int [StandIns] (n : Int) : IsLiteral (.int n) := by
  refine ⟨trivial, ?_⟩
  rw [plain_int, intShown?]
  split_ifs
  · exact isLiteral_of_ruleChars (ruleChars_intText n)
  · exact .of_all (by decide)

theorem isLiteral_text [StandIns] {s : String} (h : TieredTerms.IsLiteral s) :
    IsLiteral (.text s) :=
  ⟨h.1, h⟩

end Datum

/-- The fields of a rule are single values with literal texts. -/
theorem Rule.isLiteral_describe [StandIns] {r : Rule} (hid : ∀ s, r.id = some s → isRuleId s = true)
    (index : Nat) :
    ∀ field ∈ r.describe (.int index), Unaltered field.1.toList ∧ field.2.IsLiteral := by
  have hduration (d : Duration) : (Datum.text d.format).IsLiteral :=
    Datum.isLiteral_text (isLiteral_of_ruleChars d.ruleChars_format)
  have hidDatum : ((r.id.map Datum.text).getD .null).IsLiteral := by
    cases hcases : r.id with
    | none => exact Datum.isLiteral_null
    | some s => exact Datum.isLiteral_text (isLiteral_ruleId (hid s hcases))
  have hkind : IsLiteral r.kind.word := by
    cases r.kind <;> exact .of_all (by decide)
  have hfields (lower upper : Datum) (hlower : lower.IsLiteral) (hupper : upper.IsLiteral) :
      ∀ field ∈ [("index", .int index), ("id", (r.id.map .text).getD .null),
        ("kind", .text r.kind.word), ("lower", lower), ("upper", upper),
        ("unbounded", .bool r.isUnbounded), ("result", .text r.result.format),
        ("period", .text r.compact)], Unaltered field.1.toList ∧ field.2.IsLiteral := by
    simp only [List.forall_mem_cons]
    exact ⟨⟨.of_all_isLow rfl, Datum.isLiteral_int _⟩, ⟨.of_all_isLow rfl, hidDatum⟩,
      ⟨.of_all_isLow rfl, Datum.isLiteral_text hkind⟩, ⟨.of_all_isLow rfl, hlower⟩,
      ⟨.of_all_isLow rfl, hupper⟩, ⟨.of_all_isLow rfl, Datum.isLiteral_bool _⟩,
      ⟨.of_all_isLow rfl, hduration _⟩,
      ⟨.of_all_isLow rfl, Datum.isLiteral_text (isLiteral_of_ruleChars r.ruleChars_compact)⟩,
      by simp⟩
  unfold describe
  cases r.interval with
  | category lower upper lower_pos ordered =>
    exact hfields _ _ (Datum.isLiteral_int _) (Datum.isLiteral_int _)
  | duration lower upper lower_valid upper_valid ordered =>
    exact hfields _ _ (hduration lower) (hduration upper)

end TieredTerms
