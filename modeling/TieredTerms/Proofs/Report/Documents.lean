import TieredTerms.Proofs.Rule.Characters
import TieredTerms.Proofs.Screen.LoneUnits
import TieredTerms.Report

/-!
# Reports in JSON

A report in JSON escapes every control character, so a stream takes it as it is.  There is one
unless a text of the answer has lone units.

* `loneRow?_eq_none` tells where a text has no lone units.
* `Json.unaltered_indented` is about the written form of a document of such texts.
* `Report.json_eq_ok` tells which answers have a report in JSON, `Report.unaltered_json` that a
  stream takes it as it is.
-/

namespace TieredTerms

/-! ## Lone units -/

/-- The first row of characters with units is missing where no character has one. -/
private theorem row_eq_none {unit? : Char → Option Nat} (cs : List Char) :
    ((cs.drop (cs.takeWhile fun c => (unit? c).isNone).length).takeWhile fun c =>
      (unit? c).isSome).head?.bind unit? = none ↔ ∀ c ∈ cs, (unit? c).isSome = false := by
  induction cs with
  | nil => simp
  | cons c cs ih =>
    cases hc : unit? c with
    | none => simpa [hc] using ih
    | some unit => simp [hc]

theorem loneRow?_eq_none [StandIns] {cs : List Char} :
    loneRow? cs = none ↔ ∀ c ∈ cs, (loneUnit? c).isSome = false := by
  rw [← row_eq_none, loneRow?, Option.map_eq_none_iff]

namespace Json

/-! ## Strings -/

theorem unaltered_unitEscape [StandIns] (unit : Nat) : Unaltered (unitEscape unit) := by
  rw [unitEscape, paddedHex]
  simp only [Unaltered.cons_iff, Unaltered.append_iff]
  exact ⟨isUnaltered_of_isLow (by decide), isUnaltered_of_isLow (by decide),
    .replicate (isUnaltered_of_isLow (by decide)) _,
    unaltered_toDigits (by decide) (by decide) _⟩

/-- Control characters of a string are escaped, and so reach a stream. -/
theorem unaltered_plainChar [StandIns] {c : Char} (h : (loneUnit? c).isSome = false) :
    Unaltered (plainChar c) := by
  have hunits : Unaltered (unitsEscape c) := by
    unfold unitsEscape
    dsimp only
    split_ifs
    · exact unaltered_unitEscape _
    · exact Unaltered.append_iff.mpr ⟨unaltered_unitEscape _, unaltered_unitEscape _⟩
  unfold plainChar
  split
  · next e he =>
    have hescape : isUnaltered e = true := by
      unfold shortEscape? at he
      split_ifs at he <;> cases he <;> exact isUnaltered_of_isLow (by decide)
    exact Unaltered.cons_iff.mpr
      ⟨isUnaltered_of_isLow (by decide), Unaltered.cons_iff.mpr ⟨hescape, .nil⟩⟩
  · split_ifs with hprintable
    · have hne : c ≠ '\x1b' := by
        rintro rfl
        exact absurd hprintable (by decide)
      simpa [isUnaltered, hne] using h
    · exact hunits

theorem unaltered_plainText [StandIns] {s : String}
    (h : ∀ c ∈ s.toList, (loneUnit? c).isSome = false) : Unaltered (plainText s) := by
  rw [plainText, List.cons_append, Unaltered.cons_iff, Unaltered.append_iff]
  exact ⟨isUnaltered_of_isLow (by decide), .flatMap fun c hc => unaltered_plainChar (h c hc),
    .of_all_isLow (by decide)⟩

/-! ## Documents -/

theorem unaltered_indentedRealText [StandIns] (x : Binary64) : Unaltered (indentedRealText x) := by
  unfold indentedRealText
  split
  · have hmarks : Unaltered numeralChars := .of_all_isLow (by decide)
    have hword : Unaltered "null".toList := .of_all_isLow (by decide)
    exact FloatLayout.forall_mem_write hmarks indentedReal hword hword x
  · exact .of_all_isLow (by decide)

theorem unaltered_newLine [StandIns] (level : Nat) : Unaltered (newLine level) :=
  Unaltered.cons_iff.mpr ⟨isUnaltered_of_isLow (by decide), .blanks _⟩

mutual

/-- A document without lone units is written in characters that a stream takes as they are. -/
theorem unaltered_indented [StandIns] (level : Nat) (d : Datum) (h : HasNoLoneUnits d.texts) :
    Unaltered (indented level d) := by
  match d with
  | .null | .array [] | .object [] =>
    rw [indented]
    exact .of_all_isLow (by decide)
  | .bool b =>
    rw [indented]
    cases b <;> exact .of_all_isLow (by decide)
  | .int n =>
    rw [indented]
    exact (ruleChars_intText n).unaltered
  | .real x =>
    rw [indented]
    exact unaltered_indentedRealText x
  | .text s | .moment s =>
    rw [indented]
    exact unaltered_plainText (h s (by simp [Datum.texts]))
  | .array (item :: items) =>
    rw [Datum.texts, Datum.itemTexts, HasNoLoneUnits.append_iff] at h
    simp only [indented, Unaltered.cons_iff, Unaltered.append_iff]
    exact ⟨⟨⟨isUnaltered_of_isLow (by decide), unaltered_newLine _⟩, unaltered_indented _ item h.1⟩,
      unaltered_indentedItems level items h.2⟩
  | .object ((name, value) :: fields) =>
    rw [Datum.texts, Datum.fieldTexts, HasNoLoneUnits.append_iff, HasNoLoneUnits.cons_iff] at h
    simp only [indented, Unaltered.cons_iff, Unaltered.append_iff]
    exact ⟨⟨⟨⟨⟨isUnaltered_of_isLow (by decide), unaltered_newLine _⟩, unaltered_plainText h.1.1⟩,
      isUnaltered_of_isLow (by decide), isUnaltered_of_isLow (by decide), .nil⟩,
      unaltered_indented _ value h.1.2⟩,
      unaltered_indentedFields level fields h.2⟩

theorem unaltered_indentedItems [StandIns] (level : Nat) (items : List Datum)
    (h : HasNoLoneUnits (Datum.itemTexts items)) : Unaltered (indentedItems level items) := by
  match items with
  | [] =>
    rw [indentedItems, Unaltered.append_iff]
    exact ⟨unaltered_newLine level, .of_all_isLow (by decide)⟩
  | item :: items =>
    rw [Datum.itemTexts, HasNoLoneUnits.append_iff] at h
    simp only [indentedItems, Unaltered.cons_iff, Unaltered.append_iff]
    exact ⟨⟨⟨isUnaltered_of_isLow (by decide), unaltered_newLine _⟩, unaltered_indented _ item h.1⟩,
      unaltered_indentedItems level items h.2⟩

theorem unaltered_indentedFields [StandIns] (level : Nat) (fields : List (String × Datum))
    (h : HasNoLoneUnits (Datum.fieldTexts fields)) : Unaltered (indentedFields level fields) := by
  match fields with
  | [] =>
    rw [indentedFields, Unaltered.append_iff]
    exact ⟨unaltered_newLine level, .of_all_isLow (by decide)⟩
  | (name, value) :: fields =>
    rw [Datum.fieldTexts, HasNoLoneUnits.append_iff, HasNoLoneUnits.cons_iff] at h
    simp only [indentedFields, Unaltered.cons_iff, Unaltered.append_iff]
    exact ⟨⟨⟨⟨⟨isUnaltered_of_isLow (by decide), unaltered_newLine _⟩, unaltered_plainText h.1.1⟩,
      isUnaltered_of_isLow (by decide), isUnaltered_of_isLow (by decide), .nil⟩,
      unaltered_indented _ value h.1.2⟩,
      unaltered_indentedFields level fields h.2⟩

end

end Json

namespace Report

/-- There is a report in JSON where no text of the answer has lone units. -/
theorem json_eq_ok [StandIns] {a : Answer} {report : String} :
    json a = .ok report ↔
      HasNoLoneUnits a.toDatum.texts ∧ report = Json.indentedText a.toDatum := by
  have hnone : loneUnits? a = none ↔ HasNoLoneUnits a.toDatum.texts := by
    simp [loneUnits?, List.findSome?_eq_none_iff, loneRow?_eq_none, HasNoLoneUnits]
  unfold json
  cases hrow : loneUnits? a with
  | none => simp [hnone.mp hrow, eq_comm]
  | some row =>
    have hlone : ¬HasNoLoneUnits a.toDatum.texts := by
      rw [← hnone, hrow]
      simp
    simp [hlone]

/-- A stream takes a report in JSON as it is. -/
theorem unaltered_json [StandIns] {a : Answer} {report : String} (h : json a = .ok report) :
    Unaltered report.toList := by
  obtain ⟨hlone, rfl⟩ := json_eq_ok.mp h
  rw [Json.indentedText, String.toList_ofList]
  exact Json.unaltered_indented 0 a.toDatum hlone

end Report

end TieredTerms
