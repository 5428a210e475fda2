import TieredTerms.Proofs.Duration.LineEnds
import TieredTerms.Proofs.Rule.Building
import TieredTerms.Proofs.Rule.Written
import TieredTerms.Proofs.Screen.Unaltered

/-!
# Texts that are read as rules

What a text that gives a rule is made of: the letter of its kind, two bounds that are whole numbers
or texts of durations, perhaps each with a `-` behind it, and the text of its result.

* `Rule.parse_eq_ok` takes a successful reading apart, `Rule.parse_of_parts` puts it together.
* `Rule.pieces_of_parse` is about the characters: a stream takes each of them as it is
  (`Rule.unaltered_of_parse`), there is no mark of an exponent (`Rule.not_mem_of_parse`), and a
  comma is the mark of a fraction (`Rule.commasInNumbers_of_parse`).
* `Rule.parse_strip`: the blanks around the text are no part of it.
-/

namespace TieredTerms

/-! ## Characters of numbers -/

theorem isUnaltered_of_isDigit [StandIns] {c : Char} (h : isDigit c = true) :
    isUnaltered c = true := by
  refine isUnaltered_of_lt ?_ ?_
  · rintro rfl
    exact absurd h (by decide)
  · have hzeros : ∀ first ∈ digitZeros, first + 10 ≤ privatePlanes := by decide
    rw [isDigit, digitValue?] at h
    split_ifs at h with hlow hascii
    · exact hlow.trans (by decide)
    · cases h
    · rw [Option.isSome_map, List.find?_isSome] at h
      obtain ⟨first, hfirst, hrange⟩ := h
      have hbound := hzeros first hfirst
      rw [decide_eq_true_eq] at hrange
      omega

theorem isUnaltered_of_isSpelling [StandIns] {c : Char} (h : Duration.isSpelling c = true) :
    isUnaltered c = true := by
  have hmarks : Unaltered Duration.spellingMarks := .of_all_isLow (by decide)
  rw [Duration.isSpelling, Bool.or_eq_true, List.contains_iff_mem] at h
  rcases h with hdigit | hmark
  · exact isUnaltered_of_isDigit (isDigit_of_isAsciiDigit hdigit)
  · exact hmarks c hmark

theorem Unaltered.of_ofChars? [StandIns] {cs : List Char} {t : IntegerText}
    (h : IntegerText.ofChars? cs = some t) : Unaltered cs := by
  obtain ⟨hcs, hdigits, -⟩ := ofChars?_eq_some h
  have hunaltered : Unaltered t.digits :=
    fun c hc => isUnaltered_of_isDigit (List.all_eq_true.mp hdigits c hc)
  have hsign {c : Char} (hc : isLow c = true) : Unaltered (c :: t.digits) :=
    Unaltered.cons_iff.mpr ⟨isUnaltered_of_isLow hc, hunaltered⟩
  rcases hcs with rfl | rfl | rfl
  · exact hunaltered
  · exact hsign (by decide)
  · exact hsign (by decide)

/-! ## Successful readings -/

/-- A token that is an integer is a whole number. -/
theorem Token.eq_number {token : Token} {n : Int} (h : token.toValue.asCategory? = some n) :
    token = .number n := by
  cases token with
  | number m =>
    cases h
    rfl
  | text s => cases h

/-- A text that is a duration argument is read. -/
theorem read_of_durationArgument [StandIns] {ordinal s : String} {d : BoundDuration}
    (h : durationArgument ordinal (.text s) = .ok d) : Duration.read s = .ok d.val := by
  rcases durationArgument_eq_ok h with hstructured | ⟨s', htext, hread⟩
  · cases hstructured
  · cases htext
    exact hread

namespace Rule

/-- A text that is a kind argument is the letter of the kind. -/
private theorem kindArgument_text [StandIns] {text : String} {kind : Kind}
    (h : kindArgument (.text text) = .ok kind) : text = kind.tagText := by
  rw [kindArgument] at h
  split at h
  · next k hkind =>
    cases h
    exact Kind.eq_tagText_of_ofTag? hkind
  · cases h

/-- A text that gives a rule is its kind, two bounds that are cut off, and its result. -/
theorem parse_eq_ok [StandIns] {id : Option String} {text : String} {s : Rule}
    (h : parse id text = .ok s) : ∃ chars lower upper middle result lowerToken upperToken,
      text.toList = s.kind.tag :: chars ∧
      cutBound? chars = some (lower, middle) ∧ Token.ofChars lower = .ok lowerToken ∧
      cutBound? middle = some (upper, result) ∧ Token.ofChars upper = .ok upperToken ∧
      intervalOf s.kind lowerToken.toValue upperToken.toValue = .ok s.interval ∧
      Duration.read (String.ofList result) = .ok s.result := by
  obtain ⟨tokens, htokens, hbuild⟩ := bind_eq_ok.mp h
  obtain ⟨lower, middle, upper, result, hlowerCut, hlowerToken, hupperCut, hupperToken, -, htag,
    hrest⟩ := RuleTokens.ofText_eq_ok_iff.mp htokens
  obtain ⟨kind, hkind, hinterval, hresult, -⟩ := build_eq_ok hbuild
  have hsame : s.kind = kind := kind_of_intervalOf hinterval
  rw [← hsame] at hkind hinterval
  refine ⟨text.toList.drop 1, lower, upper, middle, result, tokens.lower, tokens.upper, ?_,
    hlowerCut, hlowerToken, hupperCut, hupperToken, hinterval, ?_⟩
  · have hfirst : text.toList.take 1 = [s.kind.tag] := by
      rw [← String.toList_ofList (l := text.toList.take 1), ← htag, kindArgument_text hkind]
      cases s.kind <;> rfl
    rw [← List.take_append_drop 1 text.toList, hfirst]
    rfl
  · rw [← hrest]
    exact read_of_durationArgument hresult

theorem id_of_parse [StandIns] {id : Option String} {text : String} {s : Rule}
    (h : parse id text = .ok s) : s.id = id := by
  obtain ⟨tokens, -, hbuild⟩ := bind_eq_ok.mp h
  obtain ⟨-, -, -, -, hid⟩ := build_eq_ok hbuild
  exact hid

/-- A text of a kind, two bounds that are cut off and a result gives the rule of these. -/
theorem parse_of_parts [StandIns] (id : Option String) {text : String} {s : Rule}
    {chars lower upper middle
    result : List Char} {lowerToken upperToken : Token} (hchars : text.toList = s.kind.tag :: chars)
    (hlowerCut : cutBound? chars = some (lower, middle))
    (hlower : Token.ofChars lower = .ok lowerToken)
    (hupperCut : cutBound? middle = some (upper, result))
    (hupper : Token.ofChars upper = .ok upperToken)
    (hinterval : intervalOf s.kind lowerToken.toValue upperToken.toValue = .ok s.interval)
    (hresult : Duration.read (String.ofList result) = .ok s.result) :
    parse id text = .ok { s with id := id } := by
  have hne : result ≠ [] := by
    rintro rfl
    cases hresult
  have htokens : RuleTokens.ofText text =
      .ok ⟨s.kind.tagText, lowerToken, upperToken, String.ofList result⟩ := by
    refine RuleTokens.ofText_eq_ok_iff.mpr ⟨lower, middle, upper, result, ?_, hlower, hupperCut,
      hupper, hne, ?_, rfl⟩
    · rw [hchars]
      exact hlowerCut
    · rw [hchars]
      cases s.kind <;> rfl
  have hargument := durationArgument_text "fourth" hresult s.result_valid
  rw [parse, htokens, ok_bind, ofTokens, build]
  generalize String.ofList result = written at hargument
  simp [kindArgument, hinterval, hargument]

/-- Read with another id, a text gives the same rule with that id. -/
theorem parse_with_id [StandIns] {id : Option String} {text : String} {s : Rule}
    (h : parse id text = .ok s)
    (id' : Option String) : parse id' text = .ok { s with id := id' } := by
  obtain ⟨chars, lower, upper, middle, result, lowerToken, upperToken, htext, hlowerCut, hlower,
    hupperCut, hupper, hinterval, hresult⟩ := parse_eq_ok h
  exact parse_of_parts id' htext hlowerCut hlower hupperCut hupper hinterval hresult

/-! ## Pieces -/

/-- The pieces of texts that are read: letters of kinds, marks between bounds, whole numbers, and
texts of durations. -/
inductive IsPiece : List Char → Prop
  | letter (k : Kind) : IsPiece [k.tag]
  | dash : IsPiece ['-']
  | number {cs : List Char} {t : IntegerText} (h : IntegerText.ofChars? cs = some t) : IsPiece cs
  | duration {cs : List Char} (h : Duration.SpelledText cs) : IsPiece cs

theorem isPiece_of_read {cs : List Char} {d : Duration}
    (h : Duration.read (String.ofList cs) = .ok d) : IsPiece cs := by
  have hparse := Duration.parse?_of_read h
  rw [Duration.parse?, String.toList_ofList] at hparse
  exact .duration (Duration.spelledText_of_ofChars? hparse)

/-- A bound is a whole number or the text of a duration. -/
private theorem isPiece_bound {cs : List Char} {token : Token} (h : Token.ofChars cs = .ok token)
    (hread : ∀ text, token = .text text → ∃ d, Duration.read text = .ok d) : IsPiece cs := by
  rw [Token.ofChars] at h
  split at h
  · next written hwritten => exact .number hwritten
  · cases h
    obtain ⟨d, hd⟩ := hread _ rfl
    exact isPiece_of_read hd

/-- The texts among the bounds of an interval are texts of durations. -/
private theorem read_of_intervalOf [StandIns] {kind : Kind} {lower upper : Token}
    {interval : Interval} (h : intervalOf kind lower.toValue upper.toValue = .ok interval) :
    ∀ token ∈ [lower, upper], ∀ text, token = .text text → ∃ d, Duration.read text = .ok d := by
  rw [List.forall_mem_cons, List.forall_mem_singleton]
  cases kind with
  | category =>
    obtain ⟨l, u, lower_pos, ordered, hlower, hupper, -⟩ := intervalOf_category_eq_ok h
    rw [Token.eq_number (lowerCategory_eq_ok hlower), Token.eq_number (upperCategory_eq_ok hupper)]
    exact ⟨by simp, by simp⟩
  | duration =>
    obtain ⟨l, u, lower_valid, upper_valid, ordered, hlower, hupper, -⟩ :=
      intervalOf_duration_eq_ok h
    constructor
    · rintro text rfl
      exact ⟨l, read_of_durationArgument hlower⟩
    · rintro text rfl
      exact ⟨u, read_of_durationArgument hupper⟩

/-- Cutting divides the characters into the bound, a `-` perhaps, and the rest. -/
private theorem flatten_of_cutBound? {cs bound rest : List Char}
    (h : cutBound? cs = some (bound, rest)) :
    ∃ marks, cs = (bound :: marks).flatten ++ rest ∧ ∀ mark ∈ marks, IsPiece mark := by
  rcases cutBound?_eq_some h with rfl | rfl
  · exact ⟨[], by simp, List.forall_mem_nil _⟩
  · exact ⟨[['-']], by simp, List.forall_mem_singleton.mpr .dash⟩

/-- A text that gives a rule is made of pieces. -/
theorem pieces_of_parse [StandIns] {id : Option String} {text : String} {s : Rule}
    (h : parse id text = .ok s) :
    ∃ pieces : List (List Char), text.toList = pieces.flatten ∧
      ∀ piece ∈ pieces, IsPiece piece := by
  obtain ⟨chars, lower, upper, middle, result, lowerToken, upperToken, htext, hlowerCut, hlower,
    hupperCut, hupper, hinterval, hresult⟩ := parse_eq_ok h
  have hread := read_of_intervalOf hinterval
  obtain ⟨marks, rfl, hmarks⟩ := flatten_of_cutBound? hlowerCut
  obtain ⟨marks', rfl, hmarks'⟩ := flatten_of_cutBound? hupperCut
  refine ⟨[s.kind.tag] :: lower :: marks ++ (upper :: marks' ++ [result]), by simp [htext], ?_⟩
  simp only [List.cons_append, List.forall_mem_cons, List.forall_mem_append]
  exact ⟨.letter _, isPiece_bound hlower (hread _ (by simp)), hmarks,
    isPiece_bound hupper (hread _ (by simp)), hmarks', isPiece_of_read hresult,
    List.forall_mem_nil _⟩

/-- A whole number is digits, perhaps with a sign in front. -/
theorem isDigit_of_ofChars? {cs : List Char} {t : IntegerText}
    (h : IntegerText.ofChars? cs = some t) {c : Char} (hc : c ∈ cs) :
    c = '-' ∨ c = '+' ∨ isDigit c = true := by
  obtain ⟨hcs, hdigits, -⟩ := ofChars?_eq_some h
  have hall (hmem : c ∈ t.digits) : isDigit c = true := List.all_eq_true.mp hdigits c hmem
  rcases hcs with rfl | rfl | rfl
  · exact .inr (.inr (hall hc))
  · exact (List.mem_cons.mp hc).imp_right fun hmem => .inr (hall hmem)
  · exact .inr ((List.mem_cons.mp hc).imp_right hall)

/-- A stream takes every character of a text that gives a rule as it is. -/
theorem unaltered_of_parse [StandIns] {id : Option String} {text : String} {s : Rule}
    (h : parse id text = .ok s) : Unaltered text.toList := by
  obtain ⟨pieces, htext, hpieces⟩ := pieces_of_parse h
  intro c hc
  rw [htext, List.mem_flatten] at hc
  obtain ⟨piece, hpiece, hmem⟩ := hc
  have hunaltered : Unaltered piece := by
    cases hpieces piece hpiece with
    | letter k => cases k <;> exact .of_all_isLow (by decide)
    | dash => exact .of_all_isLow (by decide)
    | number hnumber => exact .of_ofChars? hnumber
    | duration hspelled => exact fun c hc => isUnaltered_of_isSpelling (hspelled.isSpelling c hc)
  exact hunaltered c hmem

/-- A text that gives a rule holds no mark of an exponent. -/
theorem not_mem_of_parse [StandIns] {id : Option String} {text : String} {s : Rule}
    (h : parse id text = .ok s) : 'E' ∉ text.toList := by
  obtain ⟨pieces, htext, hpieces⟩ := pieces_of_parse h
  rw [htext, List.mem_flatten]
  rintro ⟨piece, hpiece, hmem⟩
  cases hpieces piece hpiece with
  | letter k => cases k <;> simp [Kind.tag] at hmem
  | dash => simp at hmem
  | number hnumber => simpa [isDigit, digitValue?] using isDigit_of_ofChars? hnumber hmem
  | duration hspelled => exact absurd (hspelled.isSpelling _ hmem) (by decide)

/-! ## Commas -/

/-- Every comma stands in front of an ASCII digit. -/
def CommasInNumbers (cs : List Char) : Prop :=
  ∀ front rest, cs = front ++ ',' :: rest → ∃ c behind, rest = c :: behind ∧ isAsciiDigit c = true

namespace CommasInNumbers

variable {cs ds : List Char}

theorem of_not_mem (h : ',' ∉ cs) : CommasInNumbers cs := by
  rintro front rest rfl
  exact absurd (List.mem_append_right _ List.mem_cons_self) h

theorem append (h : CommasInNumbers cs) (h' : CommasInNumbers ds) : CommasInNumbers (cs ++ ds) := by
  intro front rest hjoined
  rcases List.append_eq_append_iff.mp hjoined with ⟨front', -, hds⟩ | ⟨behind, hcs, hrest⟩
  · exact h' front' rest hds
  · cases behind with
    | nil => exact h' [] rest hrest.symm
    | cons comma behind =>
      obtain ⟨rfl, rfl⟩ := List.cons.inj hrest
      obtain ⟨c, digits, rfl, hc⟩ := h front behind hcs
      exact ⟨c, digits ++ ds, rfl, hc⟩

theorem flatten {pieces : List (List Char)} (h : ∀ piece ∈ pieces, CommasInNumbers piece) :
    CommasInNumbers pieces.flatten := by
  induction pieces with
  | nil => exact of_not_mem List.not_mem_nil
  | cons piece pieces ih =>
    rw [List.forall_mem_cons] at h
    exact h.1.append (ih h.2)

theorem of_spelled (h : Duration.Spelled cs) : CommasInNumbers cs := by
  induction h with
  | nil => exact of_not_mem List.not_mem_nil
  | @cons c cs hc _ ih =>
    have hcomma : ',' ∉ [c] := by
      rw [List.mem_singleton]
      rintro rfl
      exact absurd hc (by decide)
    exact (of_not_mem hcomma).append ih
  | @fraction c cs hc _ ih =>
    have hpair : CommasInNumbers [',', c] := by
      intro front rest hfront
      rcases front with _ | ⟨x, _ | ⟨y, front⟩⟩
      · cases hfront
        exact ⟨c, [], rfl, hc⟩
      · cases hfront
        exact absurd hc (by decide)
      · simp at hfront
    exact hpair.append ih

theorem of_isPiece (h : IsPiece cs) : CommasInNumbers cs := by
  cases h with
  | letter k => exact of_not_mem (by cases k <;> decide)
  | dash => exact of_not_mem (by decide)
  | number hnumber =>
    refine of_not_mem fun hmem => ?_
    rcases isDigit_of_ofChars? hnumber hmem with heq | heq | hdigit
    · cases heq
    · cases heq
    · exact absurd hdigit (by decide)
  | duration hspelled =>
    obtain ⟨body, hbody, rfl | rfl⟩ := hspelled.eq_append
    · exact of_spelled hbody
    · exact (of_spelled hbody).append (of_not_mem (by decide))

end CommasInNumbers

/-- In a text that gives a rule, a comma is the mark of a fraction. -/
theorem commasInNumbers_of_parse [StandIns] {id : Option String} {text : String} {s : Rule}
    (h : parse id text = .ok s) : CommasInNumbers text.toList := by
  obtain ⟨pieces, htext, hpieces⟩ := pieces_of_parse h
  rw [htext]
  exact .flatten fun piece hpiece => .of_isPiece (hpieces piece hpiece)

/-! ## Line ends -/

/-- A line end behind the characters is left behind what is cut off. -/
theorem cutBefore?_append_line {mark : Char} (hmark : mark ≠ '\n') (cs : List Char) :
    cutBefore? mark (cs ++ ['\n']) =
      (cutBefore? mark cs).map fun cut => (cut.1, cut.2 ++ ['\n']) := by
  by_cases hmem : mark ∈ cs
  · obtain ⟨front, rest, rfl, hfront⟩ := List.eq_append_cons_of_mem hmem
    rw [cutBefore?_append hfront, List.append_assoc, List.cons_append, cutBefore?_append hfront]
    rfl
  · have hline : mark ∉ cs ++ ['\n'] := by simp [hmem, hmark]
    rw [cutBefore?_of_not_mem hmem, cutBefore?_of_not_mem hline]
    rfl

theorem cutBound?_append_line (cs : List Char) :
    cutBound? (cs ++ ['\n']) = (cutBound? cs).map fun cut => (cut.1, cut.2 ++ ['\n']) := by
  cases cs with
  | nil => rfl
  | cons first cs =>
    rw [List.cons_append, cutBound?, cutBound?, cutBefore?_append_line (by decide),
      cutBefore?_append_line (by decide)]
    cases hdash : cutBefore? '-' cs with
    | some cut =>
      obtain ⟨before, behind⟩ := cut
      obtain ⟨-, rest, rfl, -⟩ := cutBefore?_eq_some hdash
      rfl
    | none =>
      cases cutBefore? 'P' cs with
      | none => rfl
      | some cut => rfl

private theorem cutBound?_of_line {cs bound rest : List Char}
    (h : cutBound? (cs ++ ['\n']) = some (bound, rest)) :
    ∃ rest', rest = rest' ++ ['\n'] ∧ cutBound? cs = some (bound, rest') := by
  rw [cutBound?_append_line, Option.map_eq_some_iff] at h
  obtain ⟨⟨bound', rest'⟩, hcut, heq⟩ := h
  cases heq
  exact ⟨rest', rfl, hcut⟩

/-- A text with a line end behind it gives the rule of the text without it. -/
theorem parse_of_line [StandIns] {id : Option String} {cs : List Char} {s : Rule}
    (h : parse id (String.ofList (cs ++ ['\n'])) = .ok s) :
    parse id (String.ofList cs) = .ok s := by
  obtain ⟨chars, lower, upper, middle, result, lowerToken, upperToken, htext, hlowerCut, hlower,
    hupperCut, hupper, hinterval, hresult⟩ := parse_eq_ok h
  rw [String.toList_ofList] at htext
  cases cs with
  | nil =>
    obtain ⟨-, rfl⟩ := List.cons.inj htext
    cases hlowerCut
  | cons first cs =>
    obtain ⟨rfl, rfl⟩ := List.cons.inj htext
    obtain ⟨middle', rfl, hlowerCut'⟩ := cutBound?_of_line hlowerCut
    obtain ⟨result', rfl, hupperCut'⟩ := cutBound?_of_line hupperCut
    obtain rfl := id_of_parse h
    exact parse_of_parts s.id String.toList_ofList hlowerCut' hlower hupperCut' hupper hinterval
      (Duration.read_of_line hresult)

/-- A character of a duration that is not a line end is not blank. -/
theorem isBlank_of_isSpelling {c : Char} (h : Duration.isSpelling c = true) (hline : c ≠ '\n') :
    isBlank c = false := by
  rw [Duration.isSpelling, Bool.or_eq_true, List.contains_iff_mem] at h
  rcases h with hdigit | hmark
  · obtain ⟨hlow, hhigh⟩ := toNat_of_isAsciiDigit hdigit
    simp only [isBlank, Bool.or_eq_false_iff, Bool.and_eq_false_iff, decide_eq_false_iff_not,
      beq_eq_false_iff_ne]
    omega
  · have hmarks : Duration.spellingMarks.all (fun mark => mark == '\n' || !isBlank mark) := by
      decide
    simpa [hline] using List.all_eq_true.mp hmarks c hmark

/-- A text that gives a duration does not end in a blank, but for one line end. -/
theorem eq_concat_of_read {cs : List Char} {d : Duration}
    (h : Duration.read (String.ofList cs) = .ok d) : ∃ init last, isBlank last = false ∧
      (cs = init ++ [last] ∨ cs = init ++ [last] ++ ['\n']) := by
  have hparse := Duration.parse?_of_read h
  rw [Duration.parse?, String.toList_ofList] at hparse
  obtain ⟨body, hbody, hend⟩ := (Duration.spelledText_of_ofChars? hparse).eq_append
  rcases List.eq_nil_or_concat body with rfl | ⟨init, last, rfl⟩
  · rcases hend with rfl | rfl <;> cases hparse
  rw [List.concat_eq_append] at hbody hend
  have hmem : last ∈ init ++ [last] := List.mem_append_right _ List.mem_cons_self
  refine ⟨init, last, isBlank_of_isSpelling (hbody.isSpelling last hmem) ?_, hend⟩
  rintro rfl
  exact hbody.not_mem_line hmem

/-- The blanks around a text that gives a rule are no part of it. -/
theorem parse_strip [StandIns] {id : Option String} {text : String} {s : Rule}
    (h : parse id text = .ok s) : parse id (strip text) = .ok s := by
  obtain ⟨chars, lower, upper, middle, result, lowerToken, upperToken, htext, hlowerCut, -,
    hupperCut, -, -, hresult⟩ := parse_eq_ok h
  have hsuffix : result <:+ text.toList := by
    rw [htext]
    exact ((prefix_and_suffix_of_cutBound? hupperCut).2.trans
      (prefix_and_suffix_of_cutBound? hlowerCut).2).trans (List.suffix_cons _ _)
  have hstart : isBlank s.kind.tag = false := by cases s.kind <;> decide
  have hstrip : strip text = String.ofList (stripEndChars text.toList) := by
    rw [strip, htext, stripChars_cons hstart]
  obtain ⟨front, hfront⟩ := hsuffix
  obtain ⟨init, last, hlast, hend⟩ := eq_concat_of_read hresult
  have hkept : stripEndChars (front ++ (init ++ [last])) = front ++ (init ++ [last]) := by
    rw [← List.append_assoc, stripEndChars_concat hlast]
  rcases hend with rfl | rfl
  · rw [hstrip, ← hfront, hkept, hfront, String.ofList_toList]
    exact h
  · rw [← List.append_assoc] at hfront
    rw [hstrip, ← hfront, stripEndChars_concat_of_isBlank (by decide), hkept]
    apply parse_of_line
    rwa [hfront, String.ofList_toList]

end Rule

end TieredTerms
