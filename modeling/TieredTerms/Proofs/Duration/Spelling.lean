import TieredTerms.Duration.Reader
import TieredTerms.Proofs.Number.Digits

/-!
# The spelling of durations

What a text that gives a duration is made of: digits and marks, a comma in front of a digit only,
and perhaps a line end as the last character.  Every reader takes such characters from the front of
a text and leaves the others alone (`Taken`), so what a whole text consists of follows from the
readers of its pieces.

* `Duration.Spelled` is the text without the line end, `Duration.SpelledText` the text with it.
* `Duration.spelledText_of_ofChars?` is the statement about texts,
  `Duration.isSpelling_of_parse?` the same for single characters.
-/

namespace TieredTerms

namespace Duration

/-- The marks of the written forms of durations. -/
def spellingMarks : List Char :=
  ['-', '+', 'P', 'Y', 'M', 'W', 'D', 'T', 'H', 'S', '.', ',', ':', 'Z', '\n']

/-- Whether a character may stand in a text that gives a duration. -/
def isSpelling (c : Char) : Bool :=
  isAsciiDigit c || spellingMarks.contains c

/-- Whether a character may stand anywhere in such a text.  A comma is the mark of a fraction, and a
line end comes last. -/
def isFree (c : Char) : Bool :=
  isSpelling c && c != ',' && c != '\n'

/-- Characters that may stand in a text that gives a duration, in front of its line end. -/
inductive Spelled : List Char → Prop
  | nil : Spelled []
  | cons {c : Char} {cs : List Char} (hc : isFree c = true) (h : Spelled cs) : Spelled (c :: cs)
  | fraction {c : Char} {cs : List Char} (hc : isAsciiDigit c = true) (h : Spelled cs) :
      Spelled (',' :: c :: cs)

/-- A text consists of spelling characters in front of the rest. -/
def Taken (cs rest : List Char) : Prop :=
  ∃ front, Spelled front ∧ cs = front ++ rest

/-- Spelling characters, perhaps with a line end behind them. -/
def SpelledText (cs : List Char) : Prop :=
  ∃ rest, Taken cs rest ∧ atTextEnd rest = true

variable {cs ds rest : List Char}

theorem isSpelling_of_isFree {c : Char} (h : isFree c = true) : isSpelling c = true := by
  simp only [isFree, Bool.and_eq_true] at h
  exact h.1.1

theorem isFree_of_isAsciiDigit {c : Char} (h : isAsciiDigit c = true) : isFree c = true := by
  have hcomma : c ≠ ',' := by
    rintro rfl
    exact absurd h (by decide)
  have hline : c ≠ '\n' := by
    rintro rfl
    exact absurd h (by decide)
  simp [isFree, isSpelling, h, hcomma, hline]

namespace Spelled

theorem of_isFree (h : ∀ c ∈ cs, isFree c = true) : Spelled cs := by
  induction cs with
  | nil => exact .nil
  | cons c cs ih =>
    rw [List.forall_mem_cons] at h
    exact .cons h.1 (ih h.2)

theorem append (h : Spelled cs) (h' : Spelled ds) : Spelled (cs ++ ds) := by
  induction h with
  | nil => exact h'
  | cons hc _ ih => exact .cons hc ih
  | fraction hc _ ih => exact .fraction hc ih

theorem isSpelling (h : Spelled cs) : ∀ c ∈ cs, isSpelling c = true := by
  induction h with
  | nil => exact List.forall_mem_nil _
  | cons hc _ ih => exact List.forall_mem_cons.mpr ⟨isSpelling_of_isFree hc, ih⟩
  | fraction hc _ ih =>
    exact List.forall_mem_cons.mpr ⟨by decide,
      List.forall_mem_cons.mpr ⟨isSpelling_of_isFree (isFree_of_isAsciiDigit hc), ih⟩⟩

/-- A line end is not among the characters. -/
theorem not_mem_line (h : Spelled cs) : '\n' ∉ cs := by
  induction h with
  | nil => exact List.not_mem_nil
  | cons hc _ ih =>
    refine List.not_mem_cons_of_ne_of_not_mem ?_ ih
    rintro rfl
    exact absurd hc (by decide)
  | fraction hc _ ih =>
    refine List.not_mem_cons_of_ne_of_not_mem (by decide)
      (List.not_mem_cons_of_ne_of_not_mem ?_ ih)
    rintro rfl
    exact absurd hc (by decide)

end Spelled

theorem Taken.refl (cs : List Char) : Taken cs cs :=
  ⟨[], .nil, rfl⟩

theorem Taken.trans (h : Taken cs ds) (h' : Taken ds rest) : Taken cs rest := by
  obtain ⟨front, hfront, rfl⟩ := h
  obtain ⟨front', hfront', rfl⟩ := h'
  exact ⟨front ++ front', hfront.append hfront', by rw [List.append_assoc]⟩

theorem Taken.cons {c : Char} (hc : isFree c = true) (h : Taken cs rest) :
    Taken (c :: cs) rest := by
  obtain ⟨front, hfront, rfl⟩ := h
  exact ⟨c :: front, .cons hc hfront, rfl⟩

/-- Where nothing else is left, the text is spelled. -/
theorem Taken.spelled (h : Taken cs rest) (hrest : Spelled rest) : Spelled cs := by
  obtain ⟨front, hfront, rfl⟩ := h
  exact hfront.append hrest

theorem Spelled.spelledText (h : Spelled cs) : SpelledText cs :=
  ⟨[], ⟨cs, h, by rw [List.append_nil]⟩, rfl⟩

theorem SpelledText.cons {c : Char} (hc : isFree c = true) (h : SpelledText cs) :
    SpelledText (c :: cs) := by
  obtain ⟨rest, htaken, hend⟩ := h
  exact ⟨rest, htaken.cons hc, hend⟩

/-- A spelled text has a line end at its end only. -/
theorem SpelledText.eq_append (h : SpelledText cs) :
    ∃ body, Spelled body ∧ (cs = body ∨ cs = body ++ ['\n']) := by
  obtain ⟨rest, ⟨body, hbody, rfl⟩, hend⟩ := h
  rw [atTextEnd, Bool.or_eq_true, beq_iff_eq, beq_iff_eq] at hend
  refine ⟨body, hbody, hend.imp ?_ ?_⟩
  · rintro rfl
    rw [List.append_nil]
  · rintro rfl
    rfl

theorem SpelledText.isSpelling (h : SpelledText cs) : ∀ c ∈ cs, Duration.isSpelling c = true := by
  obtain ⟨body, hbody, rfl | rfl⟩ := h.eq_append
  · exact hbody.isSpelling
  · rw [List.forall_mem_append, List.forall_mem_singleton]
    exact ⟨hbody.isSpelling, by decide⟩

private theorem atTextEnd_of_guard {u : Unit} (h : guard (atTextEnd cs) = some u) :
    atTextEnd cs = true := by
  by_contra hend
  rw [guard, if_neg hend] at h
  cases h

private theorem spelled_digits (h : cs.all isAsciiDigit = true) : Spelled cs :=
  .of_isFree fun c hc => isFree_of_isAsciiDigit (List.all_eq_true.mp h c hc)

private theorem taken_digits (cs : List Char) : Taken cs (cs.dropWhile isAsciiDigit) := by
  refine ⟨cs.takeWhile isAsciiDigit, spelled_digits ?_, (List.takeWhile_append_dropWhile).symm⟩
  rw [List.all_eq_true]
  exact fun c hc => List.mem_takeWhile_imp hc

/-- A mark with digits behind it is taken as a fraction. -/
private theorem taken_fraction {mark : Char} {fraction : List Char}
    (h : ((mark == '.' || mark == ',') && !(fraction.takeWhile isAsciiDigit).isEmpty) = true) :
    Taken (mark :: fraction) (fraction.dropWhile isAsciiDigit) := by
  rw [Bool.and_eq_true, Bool.or_eq_true, beq_iff_eq, beq_iff_eq] at h
  obtain ⟨rfl | rfl, hdigits⟩ := h
  · exact (taken_digits fraction).cons (by decide)
  · cases fraction with
    | nil => simp at hdigits
    | cons c fraction =>
      by_cases hc : isAsciiDigit c = true
      · obtain ⟨front, hfront, hrest⟩ := taken_digits fraction
        rw [List.dropWhile_cons_of_pos hc]
        refine ⟨',' :: c :: front, .fraction hc hfront, ?_⟩
        rw [List.cons_append, List.cons_append, ← hrest]
      · rw [List.takeWhile_cons_of_neg hc] at hdigits
        cases hdigits

end Duration

open Duration

variable {cs ds rest : List Char}

/-! ## Amounts -/

theorem taken_readAmount? {amount : Decimal} (h : readAmount? cs = some (amount, rest)) :
    Taken cs rest := by
  rw [readAmount?] at h
  have hdigits := taken_digits cs
  generalize cs.dropWhile isAsciiDigit = behind at h hdigits
  dsimp only at h
  split_ifs at h
  cases behind with
  | nil =>
    cases h
    exact hdigits
  | cons mark fraction =>
    dsimp only at h
    split_ifs at h with hmark
    · cases h
      exact hdigits.trans (taken_fraction hmark)
    · cases h
      exact hdigits

theorem taken_readUnit (unit : Char) (hunit : isFree unit = true) (cs : List Char) :
    Taken cs (readUnit unit cs).2 := by
  rw [readUnit]
  split
  · next amount c rest hread =>
    split_ifs with hc
    · subst hc
      exact (taken_readAmount? hread).trans ((Taken.refl rest).cons hunit)
    · exact Taken.refl cs
  · exact Taken.refl cs

namespace Designators

private theorem spelledText_body? {negative : Bool} {d : Designators}
    (h : body? negative cs = some d) : SpelledText cs := by
  have hdays := (((taken_readUnit 'Y' (by decide) cs).trans
    (taken_readUnit 'M' (by decide) _)).trans
    (taken_readUnit 'W' (by decide) _)).trans
    (taken_readUnit 'D' (by decide) _)
  simp only [body?] at h
  split at h
  · next time hmark =>
    rw [Option.bind_eq_bind, Option.bind_eq_some_iff] at h
    obtain ⟨u, hend, -⟩ := h
    rw [hmark] at hdays
    have htime := ((taken_readUnit 'H' (by decide) time).trans
      (taken_readUnit 'M' (by decide) _)).trans
      (taken_readUnit 'S' (by decide) _)
    exact ⟨_, hdays.trans (htime.cons (by decide)), atTextEnd_of_guard hend⟩
  · rw [Option.bind_eq_bind, Option.bind_eq_some_iff] at h
    obtain ⟨u, hend, -⟩ := h
    exact ⟨_, hdays, atTextEnd_of_guard hend⟩

/-- The amounts of a text are those behind its `P`, which is first or behind a sign. -/
theorem ofChars?_eq_some_iff {d : Designators} :
    ofChars? cs = some d ↔ ∃ sign units, cs = sign ++ 'P' :: units ∧
      sign ∈ [[], ['+'], ['-']] ∧ atTextEnd units = false ∧
      body? (sign == ['-']) units = some d := by
  constructor
  · intro h
    have hbody {negative : Bool} {units : List Char}
        (h : (if atTextEnd units = true then none else body? negative units) = some d) :
        atTextEnd units = false ∧ body? negative units = some d := by
      split_ifs at h with hend
      exact ⟨by simpa using hend, h⟩
    unfold ofChars? at h
    split at h
    next negative signed hsign =>
      obtain ⟨sign, rfl, hmem, rfl⟩ : ∃ sign, cs = sign ++ signed ∧ sign ∈ [[], ['+'], ['-']] ∧
          negative = (sign == ['-']) := by
        split at hsign <;> cases hsign
        · exact ⟨['-'], rfl, by simp, rfl⟩
        · exact ⟨['+'], rfl, by simp, rfl⟩
        · exact ⟨[], rfl, by simp, rfl⟩
      split at h
      · exact ⟨sign, _, rfl, hmem, hbody h⟩
      · cases h
  · rintro ⟨sign, units, rfl, hsign, hend, hbody⟩
    simp only [List.mem_cons, List.not_mem_nil, or_false] at hsign
    have hunits {negative : Bool} (h : body? negative units = some d) :
        (if atTextEnd units = true then none else body? negative units) = some d := by
      rw [hend]
      exact h
    rcases hsign with rfl | rfl | rfl <;> exact hunits hbody

private theorem spelledText_ofChars? {d : Designators} (h : ofChars? cs = some d) :
    SpelledText cs := by
  obtain ⟨sign, units, rfl, hsign, -, hbody⟩ := ofChars?_eq_some_iff.mp h
  have hunits : SpelledText ('P' :: units) := (spelledText_body? hbody).cons (by decide)
  simp only [List.mem_cons, List.not_mem_nil, or_false] at hsign
  rcases hsign with rfl | rfl | rfl
  · exact hunits
  · exact hunits.cons (by decide)
  · exact hunits.cons (by decide)

end Designators

/-! ## Dates and times -/

/-- The marks of a form may stand anywhere. -/
def SpelledForm (parts : List FormPart) : Prop :=
  ∀ part ∈ parts, match part with
    | .digits _ => True
    | .mark c => isFree c = true

private theorem taken_readForm? {parts : List FormPart} (hparts : SpelledForm parts)
    {numbers : List Nat} (h : readForm? parts cs = some (numbers, rest)) : Taken cs rest := by
  induction parts generalizing cs numbers with
  | nil =>
    cases h
    exact Taken.refl rest
  | cons part parts ih =>
    obtain ⟨hpart, hrest⟩ := List.forall_mem_cons.mp hparts
    cases part with
    | mark m =>
      cases cs with
      | nil => cases h
      | cons c cs =>
        rw [readForm?] at h
        split_ifs at h with hc
        subst hc
        exact (ih hrest h).cons hpart
    | digits n =>
      simp only [readForm?] at h
      split_ifs at h with hdigits
      obtain ⟨⟨behind, remaining⟩, hbehind, hresult⟩ := Option.map_eq_some_iff.mp h
      cases hresult
      exact Taken.trans ⟨cs.take n, spelled_digits hdigits.2, (List.take_append_drop n cs).symm⟩
        (ih hrest hbehind)

private theorem spelled_wholeForm? {parts : List FormPart} (hparts : SpelledForm parts)
    {numbers : List Nat} (h : wholeForm? parts cs = some numbers) : Spelled cs := by
  rw [wholeForm?] at h
  split at h
  · next hform => exact (taken_readForm? hparts hform).spelled .nil
  · cases h

private theorem spelled_date {date : CalendarDate} (h : DateForm.ofChars? cs = some date) :
    Spelled cs := by
  have hforms : ∀ reading ∈ DateForm.readings, SpelledForm reading.parts := by
    simp [DateForm.readings, SpelledForm, isFree, isSpelling, spellingMarks]
  rw [DateForm.ofChars?] at h
  split at h
  · next hfound =>
    obtain ⟨reading, hmem, hform⟩ := List.exists_of_findSome?_eq_some hfound
    obtain ⟨numbers, hnumbers, -⟩ := Option.map_eq_some_iff.mp hform
    exact spelled_wholeForm? (hforms reading hmem) hnumbers
  · cases h

namespace TimeForm

private theorem spelled_zone (h : isZone cs = true) : Spelled cs := by
  have hdigits (n : Nat) : SpelledForm [.digits n] := by simp [SpelledForm]
  have hpair : SpelledForm [.digits 2, .digits 2] := by simp [SpelledForm]
  have hcolon : SpelledForm [.digits 2, .mark ':', .digits 2] := by
    simp [SpelledForm, isFree, isSpelling, spellingMarks]
  unfold isZone at h
  dsimp only at h
  split at h
  · exact .nil
  · exact .cons (by decide) .nil
  · next sign cs _ =>
    simp only [Bool.and_eq_true, Bool.or_eq_true, beq_iff_eq, Option.isSome_iff_exists] at h
    obtain ⟨hsign, hzone⟩ := h
    have hrest : Spelled cs := by
      rcases hzone with (⟨numbers, hform⟩ | ⟨numbers, hform⟩) | ⟨numbers, hform⟩
      · exact spelled_wholeForm? (hdigits 2) hform
      · exact spelled_wholeForm? hpair hform
      · exact spelled_wholeForm? hcolon hform
    refine .cons ?_ hrest
    rcases hsign with rfl | rfl
    · decide
    · decide

private theorem taken_readLast? {last : Decimal} (h : readLast? cs = some (last, rest)) :
    Taken cs rest := by
  have hdigits : SpelledForm [.digits 2] := by simp [SpelledForm]
  rw [readLast?, Option.bind_eq_bind, Option.bind_eq_some_iff] at h
  obtain ⟨⟨numbers, behind⟩, hform, h⟩ := h
  have hwhole := taken_readForm? hdigits hform
  dsimp only at h
  cases behind with
  | nil =>
    cases h
    exact hwhole
  | cons mark fraction =>
    dsimp only at h
    split_ifs at h with hmark
    · cases h
      exact hwhole.trans (taken_fraction hmark)
    · cases h
      exact hwhole

private theorem spelled_time {time : TimeOfDay} (h : ofChars? cs = some time) : Spelled cs := by
  have hforms : ∀ parts ∈ forms, SpelledForm parts := by
    simp [forms, SpelledForm, isFree, isSpelling, spellingMarks]
  rw [ofChars?] at h
  split at h
  · next hfound =>
    obtain ⟨parts, hmem, hform⟩ := List.exists_of_findSome?_eq_some hfound
    simp only [reading?, Option.bind_eq_bind, Option.bind_eq_some_iff] at hform
    obtain ⟨⟨numbers, behind⟩, hnumbers, ⟨last, zone⟩, hlast, u, hzone, -⟩ := hform
    have hzone : isZone zone = true := by
      by_contra hnot
      rw [guard, if_neg hnot] at hzone
      cases hzone
    exact ((taken_readForm? (hforms parts hmem) hnumbers).trans (taken_readLast? hlast)).spelled
      (spelled_zone hzone)
  · cases h

end TimeForm

namespace Duration

/-- The date form is spelled without a line end. -/
theorem spelled_ofDateTime? {d : Duration} (h : ofDateTime? cs = some d) : Spelled cs := by
  rw [ofDateTime?] at h
  split at h
  · next dateChars timeChars hsplit =>
    simp only [Option.bind_eq_bind, Option.bind_eq_some_iff] at h
    obtain ⟨date, hdate, time, htime, -⟩ := h
    have hjoined : cs = dateChars ++ 'T' :: timeChars := by
      have hback : ['T'].intercalate (cs.splitOn 'T') = cs := List.intercalate_splitOn 'T'
      rw [hsplit] at hback
      rw [← hback]
      simp [List.intercalate, List.intersperse]
    rw [hjoined]
    exact (spelled_date hdate).append (.cons (by decide) (TimeForm.spelled_time htime))
  · cases h

/-- A text that gives a duration is spelled. -/
theorem spelledText_of_ofChars? {d : Duration} (h : ofChars? cs = some d) : SpelledText cs := by
  unfold ofChars? at h
  split at h
  · next hdesignators => exact Designators.spelledText_ofChars? hdesignators
  · split at h
    · exact (Spelled.cons (by decide) (spelled_ofDateTime? h)).spelledText
    · cases h

/-- A text that gives a duration is made of spelling characters. -/
theorem isSpelling_of_parse? {text : String} {d : Duration} (h : parse? text = some d) :
    ∀ c ∈ text.toList, isSpelling c = true :=
  (spelledText_of_ofChars? h).isSpelling

end Duration

end TieredTerms
