import TieredTerms.Proofs.Config.Overlay
import TieredTerms.Proofs.Json.Strings
import TieredTerms.Proofs.Number.Digits

/-!
# Reading written values

A written value is read back wherever it stands in a document, and so is what is put together from
written values: spaces stand in front of items and fields, or before the end of a container.

* `Datum.IsExact` are the documents with an exact text: its numbers are whole and not too long, its
  names distinct, and its containers not too deep in each other.  Doubles and moments have none.
* `ReadsBack` is what holds of a written value, `ItemsReadBack` and `FieldsReadBack` of what stands
  in a container up to its end.
* `readsBack_scalar`, `readsBack_text`, `readsBack_array` and `readsBack_object` are about the four
  kinds of values, `ReadsBack.parse` about a whole document.
-/

namespace TieredTerms

/-- A document with an exact text, in which so many containers may stand inside each other. -/
inductive Datum.IsExact : Nat → Datum → Prop where
  | null {depth : Nat} : IsExact depth .null
  | bool {depth : Nat} (b : Bool) : IsExact depth (.bool b)
  | int {depth : Nat} {n : Int} (short : (Nat.toDigits 10 n.natAbs).length ≤ digitLimit) :
    IsExact depth (.int n)
  | text {depth : Nat} (s : String) : IsExact depth (.text s)
  | array {depth : Nat} {items : List Datum} (items_exact : ∀ item ∈ items, IsExact depth item) :
    IsExact (depth + 1) (.array items)
  | object {depth : Nat} {fields : Fields} (nodup : (Fields.names fields).Nodup)
    (fields_exact : ∀ field ∈ fields, IsExact depth field.2) : IsExact (depth + 1) (.object fields)

namespace Json

/-! ## Spaces -/

/-- Characters that may stand between the parts of a document. -/
def Spaces (cs : List Char) : Prop :=
  ∀ c ∈ cs, isSpace c = true

theorem Spaces.skipSpace_append {space : List Char} (h : Spaces space) (cs : List Char) :
    skipSpace (space ++ cs) = skipSpace cs :=
  List.dropWhile_append_of_pos h

/-- Whether a value may start with a character: it is no space, ends no container and is no byte
order mark. -/
def startsValue (c : Char) : Bool :=
  !isSpace c && c != ']' && c != '}' && c != '\uFEFF'

theorem startsValue_iff {c : Char} :
    startsValue c = true ↔ isSpace c = false ∧ c ≠ ']' ∧ c ≠ '}' ∧ c ≠ '\uFEFF' := by
  simp [startsValue, and_assoc]

theorem startsValue_of_isAsciiDigit {c : Char} (h : isAsciiDigit c = true) :
    startsValue c = true := by
  have hne (d : Char) (hd : isAsciiDigit d = false) : c ≠ d := by
    rintro rfl
    rw [h] at hd
    cases hd
  simp [startsValue, isSpace, hne ' ' (by decide), hne '\t' (by decide), hne '\n' (by decide),
    hne '\r' (by decide), hne ']' (by decide), hne '}' (by decide), hne '\uFEFF' (by decide)]

theorem skipSpace_cons {c : Char} (h : startsValue c = true) (cs : List Char) :
    skipSpace (c :: cs) = c :: cs :=
  List.dropWhile_cons_of_neg (by simp [(startsValue_iff.mp h).1])

/-- The characters that may stand behind a value. -/
def endChars : List Char :=
  [' ', '\t', '\n', '\r', ',', ']', '}']

/-- What may stand behind a value: nothing, or a space, or a mark of its container. -/
def EndsValue (cs : List Char) : Prop :=
  ∀ c ∈ cs.head?, c ∈ endChars

theorem EndsValue.of_all {cs : List Char} (h : EndsValue cs) {p : Char → Bool}
    (hp : endChars.all p = true) : ∀ c ∈ cs.head?, p c = true :=
  fun c hc => List.all_eq_true.mp hp c (h c hc)

theorem endsValue_cons {c : Char} (hc : c ∈ endChars) (cs : List Char) : EndsValue (c :: cs) :=
  fun _ hd => Option.some.inj hd ▸ hc

theorem Spaces.endsValue_append {space : List Char} (h : Spaces space) {c : Char}
    (hc : c ∈ endChars) (cs : List Char) : EndsValue (space ++ c :: cs) := by
  cases space with
  | nil => exact endsValue_cons hc cs
  | cons first space =>
    refine endsValue_cons ?_ _
    have hspace := h first List.mem_cons_self
    simp only [isSpace, Bool.or_eq_true, beq_iff_eq] at hspace
    rcases hspace with ((rfl | rfl) | rfl) | rfl <;> decide

/-! ## Numbers -/

section Numbers

variable {rest : List Char}

/-- The digits of a number end where its value does. -/
theorem takeWhile_of_endsValue (h : EndsValue rest) : rest.takeWhile isAsciiDigit = [] := by
  have hdigit := h.of_all (p := fun c => !isAsciiDigit c) (by decide)
  cases rest with
  | nil => rfl
  | cons c cs => exact List.takeWhile_cons_of_neg (by simpa using hdigit c rfl)

/-- A number does not start with a zero unless it is zero. -/
theorem exists_toDigits {n : Nat} (hn : n ≠ 0) :
    ∃ c ds, Nat.toDigits 10 n = c :: ds ∧ isAsciiDigit c = true ∧ c ≠ '0' := by
  induction n using Nat.strong_induction_on with
  | _ n ih =>
    by_cases hsmall : n < 10
    · have hdigit : ∀ d < 10, d ≠ 0 →
          isAsciiDigit (Nat.digitChar d) = true ∧ Nat.digitChar d ≠ '0' := by
        decide
      exact ⟨_, [], Nat.toDigits_of_lt_base hsmall, hdigit n hsmall hn⟩
    · obtain ⟨c, ds, hdigits, hc⟩ := ih (n / 10) (by omega) (by omega)
      refine ⟨c, ds ++ [Nat.digitChar (n % 10)], ?_, hc⟩
      rw [Nat.toDigits_of_base_le (by decide) (not_lt.mp hsmall), hdigits, List.cons_append]

theorem wholeDigits_toDigits (n : Nat) (h : EndsValue rest) :
    wholeDigits (Nat.toDigits 10 n ++ rest) = (Nat.toDigits 10 n, rest) := by
  by_cases hn : n = 0
  · rw [hn, Nat.toDigits_zero]
    rfl
  · obtain ⟨c, ds, hdigits, -, hzero⟩ := exists_toDigits hn
    have hall := asciiDigits_toDigits n
    have hwhole (cs : List Char) : wholeDigits (c :: cs) =
        ((c :: cs).takeWhile isAsciiDigit, (c :: cs).dropWhile isAsciiDigit) := by
      unfold wholeDigits
      split
      · next heq => exact absurd (List.cons.inj heq).1 hzero
      · rfl
    have hdrop : rest.dropWhile isAsciiDigit = rest := by
      have happend := List.takeWhile_append_dropWhile (p := isAsciiDigit) (l := rest)
      rwa [takeWhile_of_endsValue h, List.nil_append] at happend
    rw [hdigits, List.cons_append, hwhole, ← List.cons_append, ← hdigits,
      List.takeWhile_append_of_pos hall, List.dropWhile_append_of_pos hall,
      takeWhile_of_endsValue h, hdrop, List.append_nil]

theorem fractionPart_of_endsValue (h : EndsValue rest) : fractionPart rest = ([], rest) := by
  have hpoint := h.of_all (p := (· != '.')) (by decide)
  unfold fractionPart
  split
  · exact absurd (hpoint '.' rfl) (by decide)
  · rfl

theorem exponentPart_of_endsValue (h : EndsValue rest) : exponentPart rest = (none, rest) := by
  have hmark := h.of_all (p := fun c => !(c == 'e' || c == 'E')) (by decide)
  cases rest with
  | nil => rfl
  | cons c cs =>
    have hc : (c == 'e' || c == 'E') = false := by simpa using hmark c rfl
    unfold exponentPart
    dsimp only
    rw [hc]
    rfl

/-- The digits of a whole number are read as the number. -/
theorem readNumber?_toDigits (negative : Bool) {n : Nat} (h : EndsValue rest)
    (hshort : (Nat.toDigits 10 n).length ≤ digitLimit) :
    readNumber? negative (Nat.toDigits 10 n ++ rest) =
      some (.ok (.int (if negative then -n else n), rest)) := by
  have hvalue : digitsValue (Nat.toDigits 10 n) = n := by
    rw [digitsValue_eq_ofDigitChars (asciiDigits_toDigits n), Nat.ofDigitChars_ten_toDigits]
  have hempty : (Nat.toDigits 10 n).isEmpty = false := by
    rw [List.isEmpty_eq_false_iff]
    exact Nat.toDigits_ne_nil
  rw [readNumber?, wholeDigits_toDigits n h]
  simp only [hempty, fractionPart_of_endsValue h, exponentPart_of_endsValue h,
    if_neg (not_lt.mpr hshort), IntegerText.value, hvalue]
  rfl

theorem afterWord?_of_ne (front : List Char) {word : String} {first c : Char} {tail cs : List Char}
    (hword : word.toList = front ++ first :: tail) (hne : first ≠ c) :
    afterWord? word (front ++ c :: cs) = none := by
  have hprefix : word.toList.isPrefixOf (front ++ c :: cs) = false := by
    rw [Bool.eq_false_iff, Ne, List.isPrefixOf_iff_prefix, hword, List.prefix_append_right_inj,
      List.cons_prefix_cons]
    exact fun h => hne h.1
  rw [afterWord?, hprefix]
  rfl

/-- Where no word of documents stands, a number is read. -/
theorem readScalar_of_no_word {cs : List Char}
    (h : ∀ word ∈ ["null", "true", "false", "NaN", "Infinity", "-Infinity"],
      afterWord? word cs = none) :
    readScalar cs = (match cs with
      | '-' :: rest => readNumber? true rest
      | cs => readNumber? false cs).getD (.error (.malformed .value cs)) := by
  simp only [List.forall_mem_cons] at h
  obtain ⟨hnull, htrue, hfalse, hnan, hinfinity, hminus, -⟩ := h
  unfold readScalar
  dsimp only
  split
  · next result hresult =>
    simp [hnull, htrue, hfalse, hnan, hinfinity, hminus] at hresult
  · rfl

theorem readScalar_intText {n : Int} (h : EndsValue rest)
    (hshort : (Nat.toDigits 10 n.natAbs).length ≤ digitLimit) :
    readScalar ((intText n).toList ++ rest) = .ok (.int n, rest) := by
  obtain ⟨c, ds, hdigits⟩ :=
    List.exists_cons_of_ne_nil (Nat.toDigits_ne_nil (b := 10) (n := n.natAbs))
  have hc : isAsciiDigit c = true :=
    asciiDigits_toDigits n.natAbs c (hdigits ▸ List.mem_cons_self)
  have hne (d : Char) (hd : isAsciiDigit d = false) : d ≠ c := by
    rintro rfl
    rw [hc] at hd
    cases hd
  have hread (negative : Bool) := readNumber?_toDigits negative h hshort
  rw [hdigits, List.cons_append] at hread
  by_cases hsign : n < 0
  · have hchars : (intText n).toList ++ rest = '-' :: c :: (ds ++ rest) := by
      rw [intText, if_pos hsign, natText, hdigits, String.toList_append, String.toList_ofList,
        String.toList_ofList]
      rfl
    rw [hchars, readScalar_of_no_word]
    · show (readNumber? true (c :: (ds ++ rest))).getD _ = _
      rw [hread, Option.getD_some, if_pos rfl, Int.ofNat_natAbs_of_nonpos hsign.le, neg_neg]
    · have hfirst (d : Char) (hd : d ≠ '-') {word : String} {tail : List Char}
          (hword : word.toList = d :: tail) : afterWord? word ('-' :: c :: (ds ++ rest)) = none :=
        afterWord?_of_ne [] hword hd
      simp only [List.forall_mem_cons]
      exact ⟨hfirst 'n' (by decide) rfl, hfirst 't' (by decide) rfl, hfirst 'f' (by decide) rfl,
        hfirst 'N' (by decide) rfl, hfirst 'I' (by decide) rfl,
        afterWord?_of_ne ['-'] rfl (hne 'I' (by decide)), by simp⟩
  · have hchars : (intText n).toList ++ rest = c :: (ds ++ rest) := by
      rw [intText, if_neg hsign, natText, String.toList_ofList, hdigits]
      rfl
    rw [hchars, readScalar_of_no_word]
    · split
      · next heq => exact absurd (List.cons.inj heq).1 (hne '-' (by decide)).symm
      · rw [hread, Option.getD_some, if_neg Bool.false_ne_true,
          Int.natAbs_of_nonneg (not_lt.mp hsign)]
    · have hfirst (d : Char) (hd : isAsciiDigit d = false) {word : String} {tail : List Char}
          (hword : word.toList = d :: tail) : afterWord? word (c :: (ds ++ rest)) = none :=
        afterWord?_of_ne [] hword (hne d hd)
      simp only [List.forall_mem_cons]
      exact ⟨hfirst 'n' (by decide) rfl, hfirst 't' (by decide) rfl, hfirst 'f' (by decide) rfl,
        hfirst 'N' (by decide) rfl, hfirst 'I' (by decide) rfl, hfirst '-' (by decide) rfl, by simp⟩

end Numbers

/-! ## Values -/

/-- What holds of a written value: it starts like one, and is read up to what may stand behind
it. -/
structure ReadsBack [StandIns] (depth : Nat) (text : List Char) (d : Datum) : Prop where
  starts : ∃ c cs, text = c :: cs ∧ startsValue c = true
  reads : ∀ fuel rest, text.length ≤ fuel → EndsValue rest →
    readValue fuel depth (text ++ rest) = .ok (d, rest)

theorem ReadsBack.length_pos [StandIns] {depth : Nat} {text : List Char} {d : Datum}
    (h : ReadsBack depth text d) : 0 < text.length := by
  obtain ⟨c, cs, rfl, -⟩ := h.starts
  exact Nat.succ_pos _

/-- Spaces in front of a value are skipped. -/
theorem ReadsBack.skipSpace_append [StandIns] {depth : Nat} {text : List Char} {d : Datum}
    (h : ReadsBack depth text d) {space : List Char} (hspace : Spaces space) (cs : List Char) :
    skipSpace (space ++ (text ++ cs)) = text ++ cs := by
  obtain ⟨c, rest, rfl, hc⟩ := h.starts
  rw [hspace.skipSpace_append, List.cons_append, skipSpace_cons hc]

/-- A word or a number. -/
theorem readValue_scalar [StandIns] {cs : List Char}
    (h : ∀ c ∈ cs.head?, c ≠ '"' ∧ c ≠ '[' ∧ c ≠ '{')
    (fuel depth : Nat) : readValue (fuel + 1) depth cs = readScalar cs := by
  unfold readValue
  split
  · exact absurd rfl (h '"' rfl).1
  · exact absurd rfl (h '[' rfl).2.1
  · exact absurd rfl (h '[' rfl).2.1
  · exact absurd rfl (h '{' rfl).2.2
  · exact absurd rfl (h '{' rfl).2.2
  · rfl

/-- A value that is a word or a number. -/
theorem readsBack_scalar [StandIns] {depth : Nat} {d : Datum} {text : List Char} {c : Char}
    {cs : List Char} (hstart : text = c :: cs) (hstarts : startsValue c = true)
    (hfirst : c ≠ '"' ∧ c ≠ '[' ∧ c ≠ '{')
    (hread : ∀ rest, EndsValue rest → readScalar (text ++ rest) = .ok (d, rest)) :
    ReadsBack depth text d := by
  refine ⟨⟨c, cs, hstart, hstarts⟩, fun fuel rest hfuel hends => ?_⟩
  have hlength : 0 < text.length := by rw [hstart]; exact Nat.succ_pos _
  obtain ⟨fuel, rfl⟩ : ∃ k, fuel = k + 1 := ⟨fuel - 1, by omega⟩
  rw [readValue_scalar, hread rest hends]
  rw [hstart]
  intro d hd
  cases hd
  exact hfirst

/-- The text of a number starts with a sign or a digit. -/
theorem exists_intText (n : Int) :
    ∃ c cs, (intText n).toList = c :: cs ∧ startsValue c = true ∧ c ≠ '"' ∧ c ≠ '[' ∧ c ≠ '{' := by
  by_cases hsign : n < 0
  · refine ⟨'-', (natText n.natAbs).toList, ?_, by decide, by decide⟩
    rw [intText, if_pos hsign, String.toList_append]
    rfl
  · obtain ⟨c, cs, hdigits⟩ := List.exists_cons_of_ne_nil
      (Nat.toDigits_ne_nil (b := 10) (n := n.natAbs))
    have hc : isAsciiDigit c = true :=
      asciiDigits_toDigits n.natAbs c (hdigits ▸ List.mem_cons_self)
    refine ⟨c, cs, ?_, startsValue_of_isAsciiDigit hc, ?_⟩
    · rw [intText, if_neg hsign, natText, String.toList_ofList, hdigits]
    · refine ⟨?_, ?_, ?_⟩
      all_goals
        rintro rfl
        exact absurd hc (by decide)

theorem readsBack_int [StandIns] {depth : Nat} {n : Int}
    (hshort : (Nat.toDigits 10 n.natAbs).length ≤ digitLimit) :
    ReadsBack depth (intText n).toList (.int n) := by
  obtain ⟨c, cs, hchars, hstarts, hfirst⟩ := exists_intText n
  exact readsBack_scalar hchars hstarts hfirst fun rest hends => readScalar_intText hends hshort

theorem readsBack_null [StandIns] (depth : Nat) : ReadsBack depth "null".toList .null :=
  readsBack_scalar rfl (by decide) (by decide) fun _ _ => rfl

theorem readsBack_bool [StandIns] (depth : Nat) (b : Bool) :
    ReadsBack depth (if b then "true" else "false").toList (.bool b) := by
  cases b with
  | false => exact readsBack_scalar rfl (by decide) (by decide) fun _ _ => rfl
  | true => exact readsBack_scalar rfl (by decide) (by decide) fun _ _ => rfl

theorem readsBack_text [StandIns] {written cs : List Char} (h : ReadsAs written cs) (depth : Nat) :
    ReadsBack depth ('"' :: written ++ ['"']) (.text (String.ofList cs)) := by
  refine ⟨⟨'"', _, List.cons_append, by decide⟩, fun fuel rest hfuel _ => ?_⟩
  rw [List.length_append, List.length_cons, List.length_singleton] at hfuel
  obtain ⟨fuel, rfl⟩ : ∃ k, fuel = k + 1 := ⟨fuel - 1, by omega⟩
  rw [List.append_assoc, List.cons_append, List.singleton_append, readValue,
    h.readText rest (by omega)]
  rfl

/-! ## Arrays -/

/-- Written items, with commas between them, up to the end of their array. -/
inductive ItemsReadBack [StandIns] (depth : Nat) : List Char → List Datum → Prop where
  | last {text space : List Char} {d : Datum} (value : ReadsBack depth text d)
      (spaces : Spaces space) : ItemsReadBack depth (text ++ (space ++ [']'])) [d]
  | next {text space behind : List Char} {d : Datum} {items : List Datum}
      (value : ReadsBack depth text d) (spaces : Spaces space)
      (items_read : ItemsReadBack depth behind items) :
      ItemsReadBack depth (text ++ ',' :: (space ++ behind)) (d :: items)

namespace ItemsReadBack

variable {depth : Nat} {text : List Char} {items : List Datum}

theorem starts [StandIns] (h : ItemsReadBack depth text items) :
    ∃ c cs, text = c :: cs ∧ startsValue c = true := by
  cases h with
  | last value | next value =>
    obtain ⟨c, cs, rfl, hc⟩ := value.starts
    exact ⟨c, _, List.cons_append, hc⟩

/-- The items of an array are read up to its closing bracket. -/
theorem reads [StandIns] (h : ItemsReadBack depth text items) (fuel : Nat)
    (hfuel : text.length ≤ fuel)
    (rest : List Char) : readItems fuel depth (text ++ rest) = .ok (items, rest) := by
  induction h generalizing fuel with
  | @last text space d value spaces =>
    have hpos := value.length_pos
    simp only [List.length_append, List.length_singleton] at hfuel
    obtain ⟨fuel, rfl⟩ : ∃ k, fuel = k + 1 := ⟨fuel - 1, by omega⟩
    have hread : readValue fuel depth (text ++ (space ++ ']' :: rest)) =
        .ok (d, space ++ ']' :: rest) :=
      value.reads fuel _ (by omega) (spaces.endsValue_append (by decide) _)
    rw [List.append_assoc, List.append_assoc, List.singleton_append, readItems, hread, ok_bind]
    dsimp only
    rw [spaces.skipSpace_append]
    rfl
  | @next text space behind d items value spaces items_read ih =>
    obtain ⟨c, cs, hbehind, hc⟩ := items_read.starts
    have hpos := value.length_pos
    simp only [List.length_append, List.length_cons] at hfuel
    obtain ⟨fuel, rfl⟩ : ∃ k, fuel = k + 1 := ⟨fuel - 1, by omega⟩
    have hread : readValue fuel depth (text ++ ',' :: (space ++ (behind ++ rest))) =
        .ok (d, ',' :: (space ++ (behind ++ rest))) :=
      value.reads fuel _ (by omega) (endsValue_cons (by decide) _)
    have hskip : skipSpace (space ++ (behind ++ rest)) = behind ++ rest := by
      rw [spaces.skipSpace_append, hbehind, List.cons_append, skipSpace_cons hc]
    rw [List.append_assoc, List.cons_append, List.append_assoc, readItems, hread, ok_bind]
    show (readItems fuel depth (skipSpace (space ++ (behind ++ rest))) >>= _) = _
    rw [hskip, ih fuel (by omega)]
    rfl

end ItemsReadBack

/-- An array that is not empty is read from its first item on. -/
theorem readValue_array [StandIns] {fuel depth : Nat} {cs items : List Char}
    (h : skipSpace cs = items) (hitems : items.head? ≠ some ']') :
    readValue (fuel + 1) (depth + 1) ('[' :: cs) = do
      let (items, rest) ← readItems fuel depth items
      return (.array items, rest) := by
  rw [readValue, h]
  split
  · exact absurd rfl hitems
  · rfl

theorem readsBack_emptyArray [StandIns] (depth : Nat) :
    ReadsBack (depth + 1) ['[', ']'] (.array []) := by
  refine ⟨⟨'[', [']'], rfl, by decide⟩, fun fuel rest hfuel _ => ?_⟩
  obtain ⟨fuel, rfl⟩ : ∃ k, fuel = k + 1 := ⟨fuel - 1, by simp at hfuel; omega⟩
  rfl

theorem readsBack_array [StandIns] {depth : Nat} {space text : List Char} {items : List Datum}
    (hspace : Spaces space) (h : ItemsReadBack depth text items) :
    ReadsBack (depth + 1) ('[' :: (space ++ text)) (.array items) := by
  refine ⟨⟨'[', _, rfl, by decide⟩, fun fuel rest hfuel _ => ?_⟩
  obtain ⟨c, cs, htext, hc⟩ := h.starts
  rw [List.length_cons, List.length_append] at hfuel
  obtain ⟨fuel, rfl⟩ : ∃ k, fuel = k + 1 := ⟨fuel - 1, by omega⟩
  have hskip : skipSpace (space ++ (text ++ rest)) = text ++ rest := by
    rw [hspace.skipSpace_append, htext, List.cons_append, skipSpace_cons hc]
  have hhead : (text ++ rest).head? ≠ some ']' := by
    rw [htext, List.cons_append, List.head?_cons, Ne, Option.some.injEq]
    exact (startsValue_iff.mp hc).2.1
  rw [List.cons_append, List.append_assoc, readValue_array hskip hhead, h.reads fuel (by omega)]
  rfl

/-! ## Objects -/

/-- Written fields, with commas between them, up to the end of their object. -/
inductive FieldsReadBack [StandIns] (depth : Nat) : List Char → Fields → Prop where
  | last {written gap text space : List Char} {name : String} {d : Datum}
      (name_read : ReadsAs written name.toList) (gap_spaces : Spaces gap)
      (value : ReadsBack depth text d) (spaces : Spaces space) :
      FieldsReadBack depth
        ('"' :: (written ++ '"' :: ':' :: (gap ++ (text ++ (space ++ ['}'])))))
        [(name, d)]
  | next {written gap text space behind : List Char} {name : String} {d : Datum} {fields : Fields}
      (name_read : ReadsAs written name.toList) (gap_spaces : Spaces gap)
      (value : ReadsBack depth text d) (spaces : Spaces space)
      (fields_read : FieldsReadBack depth behind fields) :
      FieldsReadBack depth
        ('"' :: (written ++ '"' :: ':' :: (gap ++ (text ++ ',' :: (space ++ behind)))))
        ((name, d) :: fields)

namespace FieldsReadBack

variable [StandIns] {depth : Nat} {text : List Char} {fields : Fields}

theorem starts (h : FieldsReadBack depth text fields) : ∃ cs, text = '"' :: cs := by
  cases h with
  | last | next => exact ⟨_, rfl⟩

/-- The fields of an object are read up to its closing brace. -/
theorem reads (h : FieldsReadBack depth text fields) (fuel : Nat) (hfuel : text.length ≤ fuel)
    (rest : List Char) : readFields fuel depth (text ++ rest) = .ok (fields, rest) := by
  induction h generalizing fuel with
  | @last written gap text space name d name_read gap_spaces value spaces =>
    simp only [List.length_append, List.length_cons, List.length_nil] at hfuel
    obtain ⟨fuel, rfl⟩ : ∃ k, fuel = k + 1 := ⟨fuel - 1, by omega⟩
    have hread : readValue fuel depth (text ++ (space ++ '}' :: rest)) =
        .ok (d, space ++ '}' :: rest) :=
      value.reads fuel _ (by omega) (spaces.endsValue_append (by decide) _)
    simp only [List.append_assoc, List.cons_append, List.nil_append]
    rw [readFields, name_read.readText _ (by omega), ok_bind, String.ofList_toList]
    show (readValue fuel depth (skipSpace (gap ++ (text ++ (space ++ '}' :: rest)))) >>= _) = _
    rw [value.skipSpace_append gap_spaces, hread, ok_bind]
    dsimp only
    rw [spaces.skipSpace_append]
    rfl
  | @next written gap text space behind name d fields name_read gap_spaces value spaces fields_read
      ih =>
    obtain ⟨cs, hbehind⟩ := fields_read.starts
    simp only [List.length_append, List.length_cons] at hfuel
    obtain ⟨fuel, rfl⟩ : ∃ k, fuel = k + 1 := ⟨fuel - 1, by omega⟩
    have hread : readValue fuel depth (text ++ ',' :: (space ++ (behind ++ rest))) =
        .ok (d, ',' :: (space ++ (behind ++ rest))) :=
      value.reads fuel _ (by omega) (endsValue_cons (by decide) _)
    have hskip : skipSpace (space ++ (behind ++ rest)) = behind ++ rest := by
      rw [spaces.skipSpace_append, hbehind, List.cons_append, skipSpace_cons (by decide)]
    simp only [List.append_assoc, List.cons_append]
    rw [readFields, name_read.readText _ (by omega), ok_bind, String.ofList_toList]
    show (readValue fuel depth (skipSpace (gap ++ (text ++ ',' :: (space ++ (behind ++ rest))))) >>=
      _) = _
    rw [value.skipSpace_append gap_spaces, hread, ok_bind]
    show (readFields fuel depth (skipSpace (space ++ (behind ++ rest))) >>= _) = _
    rw [hskip, ih fuel (by omega)]
    rfl

end FieldsReadBack

/-- An object that is not empty is read from its first field on. -/
theorem readValue_object [StandIns] {fuel depth : Nat} {cs fields : List Char}
    (h : skipSpace cs = fields) (hfields : fields.head? ≠ some '}') :
    readValue (fuel + 1) (depth + 1) ('{' :: cs) = do
      let (pairs, rest) ← readFields fuel depth fields
      return (.object (Fields.ofPairs pairs), rest) := by
  rw [readValue, h]
  split
  · exact absurd rfl hfields
  · rfl

theorem readsBack_emptyObject [StandIns] (depth : Nat) :
    ReadsBack (depth + 1) ['{', '}'] (.object []) := by
  refine ⟨⟨'{', ['}'], rfl, by decide⟩, fun fuel rest hfuel _ => ?_⟩
  obtain ⟨fuel, rfl⟩ : ∃ k, fuel = k + 1 := ⟨fuel - 1, by simp at hfuel; omega⟩
  rfl

theorem readsBack_object [StandIns] {depth : Nat} {space text : List Char} {fields : Fields}
    (hnodup : (Fields.names fields).Nodup) (hspace : Spaces space)
    (h : FieldsReadBack depth text fields) :
    ReadsBack (depth + 1) ('{' :: (space ++ text)) (.object fields) := by
  refine ⟨⟨'{', _, rfl, by decide⟩, fun fuel rest hfuel _ => ?_⟩
  obtain ⟨cs, htext⟩ := h.starts
  rw [List.length_cons, List.length_append] at hfuel
  obtain ⟨fuel, rfl⟩ : ∃ k, fuel = k + 1 := ⟨fuel - 1, by omega⟩
  have hskip : skipSpace (space ++ (text ++ rest)) = text ++ rest := by
    rw [hspace.skipSpace_append, htext, List.cons_append, skipSpace_cons (by decide)]
  have hhead : (text ++ rest).head? ≠ some '}' := by
    rw [htext, List.cons_append, List.head?_cons]
    decide
  rw [List.cons_append, List.append_assoc, readValue_object hskip hhead, h.reads fuel (by omega),
    ok_bind]
  show Except.ok (Datum.object (Fields.ofPairs fields), rest) = _
  rw [Fields.ofPairs_of_nodup hnodup]

/-! ## Documents -/

/-- A document whose value is read back is read back itself. -/
theorem ReadsBack.parse [StandIns] {text : String} {d : Datum}
    (h : ReadsBack depthLimit text.toList d) : parse text = .ok d := by
  obtain ⟨c, cs, htext, hc⟩ := h.starts
  have hread := h.reads (2 * text.toList.length + 2) [] (by omega) nofun
  have hdocument : readDocument text.toList = .ok d := by
    have hmark : text.toList.head? ≠ some '\uFEFF' := by
      rw [htext, List.head?_cons, Ne, Option.some.injEq]
      exact (startsValue_iff.mp hc).2.2.2
    have hskip : skipSpace text.toList = text.toList := by
      rw [htext, skipSpace_cons hc]
    rw [List.append_nil] at hread
    rw [readDocument, if_neg hmark, hskip, hread]
    rfl
  rw [Json.parse, hdocument]

end Json

end TieredTerms
