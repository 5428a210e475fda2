import TieredTerms.Proofs.Json.Values

/-!
# Reading indented documents

An indented document with an exact text is read back as it was (`parse_indentedText`).
-/

namespace TieredTerms.Json

theorem spaces_newLine (level : Nat) : Spaces (newLine level) := by
  intro c hc
  rw [newLine, List.mem_cons] at hc
  rcases hc with rfl | hc
  · decide
  · rw [List.eq_of_mem_replicate hc]
    decide

/-- The items of an array, each on a line of its own. -/
theorem itemsReadBack_indented [StandIns] {depth level : Nat} {item : Datum} {items : List Datum}
    (hitem : ReadsBack depth (indented (level + 1) item) item)
    (hitems : ∀ item ∈ items, ReadsBack depth (indented (level + 1) item) item) :
    ItemsReadBack depth (indented (level + 1) item ++ indentedItems level items)
      (item :: items) := by
  induction items generalizing item with
  | nil =>
    rw [indentedItems]
    exact .last hitem (spaces_newLine level)
  | cons next items ih =>
    obtain ⟨hnext, hitems⟩ := List.forall_mem_cons.mp hitems
    rw [indentedItems, List.cons_append, List.cons_append, List.append_assoc]
    exact .next hitem (spaces_newLine _) (ih hnext hitems)

/-- The fields of an object, each on a line of its own. -/
theorem fieldsReadBack_indented [StandIns] {depth level : Nat} (name : String) {value : Datum}
    {fields : Fields} (hvalue : ReadsBack depth (indented (level + 1) value) value)
    (hfields : ∀ field ∈ fields, ReadsBack depth (indented (level + 1) field.2) field.2) :
    FieldsReadBack depth ('"' :: (name.toList.flatMap plainChar ++ '"' :: ':' :: ([' '] ++
      (indented (level + 1) value ++ indentedFields level fields)))) ((name, value) :: fields) := by
  have hgap : Spaces [' '] := by simp [Spaces, isSpace]
  induction fields generalizing name value with
  | nil =>
    rw [indentedFields]
    exact .last (readsAs_plainChar _) hgap hvalue (spaces_newLine level)
  | cons next fields ih =>
    obtain ⟨nextName, nextValue⟩ := next
    obtain ⟨hnext, hfields⟩ := List.forall_mem_cons.mp hfields
    have hchars : indentedFields level ((nextName, nextValue) :: fields) =
        ',' :: (newLine (level + 1) ++ '"' :: (nextName.toList.flatMap plainChar ++
          '"' :: ':' :: ([' '] ++ (indented (level + 1) nextValue ++
            indentedFields level fields)))) := by
      simp [indentedFields, plainText]
    rw [hchars]
    exact .next (readsAs_plainChar _) hgap hvalue (spaces_newLine _) (ih nextName hnext hfields)

/-- Every indented document with an exact text is read back. -/
theorem readsBack_indented [StandIns] {depth : Nat} {d : Datum} (h : d.IsExact depth)
    (level : Nat) : ReadsBack depth (indented level d) d := by
  induction h generalizing level with
  | null =>
    rw [indented]
    exact readsBack_null _
  | bool b =>
    rw [indented]
    exact readsBack_bool _ b
  | int hshort =>
    rw [indented]
    exact readsBack_int hshort
  | text s =>
    rw [indented]
    simpa [plainText] using readsBack_text (readsAs_plainChar s.toList) _
  | @array depth items _ ih =>
    cases items with
    | nil =>
      rw [indented]
      exact readsBack_emptyArray depth
    | cons item items =>
      obtain ⟨hitem, hitems⟩ := List.forall_mem_cons.mp ih
      have hread := itemsReadBack_indented (hitem (level + 1))
        fun item hmem => hitems item hmem (level + 1)
      simpa [indented] using readsBack_array (spaces_newLine (level + 1)) hread
  | @object depth fields hnodup _ ih =>
    cases fields with
    | nil =>
      rw [indented]
      exact readsBack_emptyObject depth
    | cons field fields =>
      obtain ⟨name, value⟩ := field
      obtain ⟨hvalue, hfields⟩ := List.forall_mem_cons.mp ih
      have hread := fieldsReadBack_indented name (hvalue (level + 1))
        fun field hmem => hfields field hmem (level + 1)
      simpa [indented, plainText] using readsBack_object hnodup (spaces_newLine (level + 1)) hread

/-- An indented document with an exact text is read back. -/
theorem parse_indentedText [StandIns] {d : Datum} (h : d.IsExact depthLimit) :
    parse (indentedText d) = .ok d := by
  refine ReadsBack.parse ?_
  rw [indentedText, String.toList_ofList]
  exact readsBack_indented h 0

end TieredTerms.Json
