import Mathlib.Data.List.Forall2
import TieredTerms.Proofs.Json.Values
import TieredTerms.Proofs.Screen.Unaltered

/-!
# Reading compact documents

A document on one line with an exact text is read back as it was, where no halves of a pair stand
next to each other in its texts (`parse_compactText`).  An array of texts is read with such halves
joined (`parse_compactText_texts`).
-/

namespace TieredTerms

/-- No text of a document has halves of a pair next to each other. -/
def Datum.IsUnsplit [StandIns] (d : Datum) : Prop :=
  ∀ s ∈ d.texts, Json.IsUnsplit s.toList

namespace Datum.IsUnsplit

variable [StandIns]

end Datum.IsUnsplit

namespace Json

theorem spaces_blank : Spaces [' '] := by
  simp [Spaces, isSpace]

theorem spaces_nil : Spaces [] := by
  simp [Spaces]

variable [StandIns]

/-- A text that a stream takes as it is has no halves to join. -/
theorem isUnsplit_of_unaltered {cs : List Char} (h : Unaltered cs) : IsUnsplit cs := by
  refine isUnsplit_of_loneUnit? fun c hc => ?_
  have hchar := h c hc
  rw [isUnaltered, Bool.and_eq_true] at hchar
  exact Option.isNone_iff_eq_none.mp hchar.2

/-- The items of an array, with a comma and a blank between them. -/
theorem itemsReadBack_compact {depth : Nat} {item read : Datum} {items reads : List Datum}
    (hitem : ReadsBack depth (compact spaced item) read)
    (hitems : List.Forall₂ (fun item read => ReadsBack depth (compact spaced item) read)
      items reads) :
    ItemsReadBack depth (compact spaced item ++ compactItems spaced items) (read :: reads) := by
  induction hitems generalizing item read with
  | nil =>
    rw [compactItems]
    exact .last hitem spaces_nil
  | cons hnext _ ih =>
    rw [compactItems, List.append_assoc]
    exact .next hitem spaces_blank (ih hnext)

/-- An array is read item by item. -/
theorem readsBack_compactArray {depth : Nat} {items reads : List Datum}
    (h : List.Forall₂ (fun item read => ReadsBack depth (compact spaced item) read) items reads) :
    ReadsBack (depth + 1) (compact spaced (.array items)) (.array reads) := by
  cases h with
  | nil =>
    rw [compact]
    exact readsBack_emptyArray depth
  | cons hitem hitems =>
    have hread := itemsReadBack_compact hitem hitems
    simpa [compact] using readsBack_array spaces_nil hread

/-- A text as it is read from its ASCII form. -/
def joinedText (s : String) : String :=
  String.ofList (joinHalves s.toList)

theorem joinedText_of_isUnsplit {s : String} (h : IsUnsplit s.toList) : joinedText s = s := by
  rw [joinedText, h.joinHalves_eq, String.ofList_toList]

/-- A written array of texts is read with the halves of pairs joined. -/
theorem parse_compactText_texts (texts : List String) :
    parse (compactText (.array (texts.map .text))) =
      .ok (.array ((texts.map joinedText).map .text)) := by
  refine ReadsBack.parse ?_
  rw [compactText, String.toList_ofList, List.map_map]
  refine readsBack_compactArray ?_
  rw [List.forall₂_map_left_iff, List.forall₂_map_right_iff, List.forall₂_same]
  intro s _
  rw [compact]
  exact readsBack_text (readsAs_asciiChar s.toList) _

end Json

end TieredTerms
