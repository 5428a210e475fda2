import TieredTerms.Rule.Build
import TieredTerms.Proofs.Duration.Projection
import TieredTerms.Proofs.Outcome

/-!
# Reading compact forms

A rule is plain where its durations are plain and its whole numbers are short enough to be read.
The compact form of a plain rule is read back: `Rule.parse_compact` gives a rule with the same
parts, the same key and the same compact form.  Its characters lie between `-` and `Y`
(`Rule.IsPlain.isCompactChar`).

The compact form has no marks between its durations.  It can be cut because a written duration
holds a single `P`, which is its first character, and no `-` (`RuleTokens.ofText_units`).
-/

namespace TieredTerms

/-! ## Cutting bounds off -/

theorem cutBefore?_append {mark : Char} {before : List Char} (h : mark ∉ before)
    (after : List Char) :
    cutBefore? mark (before ++ mark :: after) = some (before, mark :: after) := by
  have hall : ∀ c ∈ before, decide (c ≠ mark) = true :=
    fun c hc => decide_eq_true fun heq => h (heq ▸ hc)
  rw [cutBefore?, if_pos (by simp), List.takeWhile_append_of_pos hall,
    List.dropWhile_append_of_pos hall, List.takeWhile_cons_of_neg (by simp),
    List.dropWhile_cons_of_neg (by simp), List.append_nil]

theorem cutBefore?_of_not_mem {mark : Char} {cs : List Char} (h : mark ∉ cs) :
    cutBefore? mark cs = none := by
  rw [cutBefore?, if_neg (by simpa using h)]

/-- What is cut off does not hold the mark and is followed by it. -/
theorem cutBefore?_eq_some {mark : Char} {cs before behind : List Char}
    (h : cutBefore? mark cs = some (before, behind)) :
    mark ∉ before ∧ ∃ rest, behind = mark :: rest ∧ cs = before ++ mark :: rest := by
  by_cases hmem : mark ∈ cs
  · obtain ⟨front, rest, rfl, hfront⟩ := List.eq_append_cons_of_mem hmem
    rw [cutBefore?_append hfront] at h
    cases h
    exact ⟨hfront, rest, rfl, rfl⟩
  · rw [cutBefore?_of_not_mem hmem] at h
    cases h

/-- Without a cut there is no mark. -/
theorem cutBefore?_eq_none {mark : Char} {cs : List Char} (h : cutBefore? mark cs = none) :
    mark ∉ cs := by
  intro hmem
  obtain ⟨front, rest, rfl, hfront⟩ := List.eq_append_cons_of_mem hmem
  rw [cutBefore?_append hfront] at h
  cases h

/-- Where a bound ends: at the first `-` behind its first character, or where there is none at the
first `P` there. -/
inductive EndsBound (first : Char) (before : List Char) : List Char → List Char → Prop
  | dash {rest : List Char} (hdash : '-' ∉ before) :
      EndsBound first before (first :: before ++ '-' :: rest) rest
  | mark {units : List Char} (hdash : '-' ∉ before ++ 'P' :: units) (hmark : 'P' ∉ before) :
      EndsBound first before (first :: before ++ 'P' :: units) ('P' :: units)

/-- A bound has a first character and ends as it should. -/
theorem endsBound_of_cutBound? {cs bound rest : List Char}
    (h : cutBound? cs = some (bound, rest)) :
    ∃ first before, bound = first :: before ∧ EndsBound first before cs rest := by
  cases cs with
  | nil => cases h
  | cons first cs =>
    rw [cutBound?] at h
    cases hcut : cutBefore? '-' cs with
    | some pieces =>
      obtain ⟨before, behind⟩ := pieces
      obtain ⟨hdash, rest', rfl, rfl⟩ := cutBefore?_eq_some hcut
      rw [hcut] at h
      cases h
      exact ⟨first, before, rfl, .dash hdash⟩
    | none =>
      have hdash := cutBefore?_eq_none hcut
      rw [hcut] at h
      obtain ⟨⟨before, behind⟩, hcutMark, hpieces⟩ := Option.map_eq_some_iff.mp h
      obtain ⟨hmark, units, rfl, rfl⟩ := cutBefore?_eq_some hcutMark
      cases hpieces
      exact ⟨first, before, rfl, .mark hdash hmark⟩

/-- A bound is followed by the rest, or by a `-` and the rest. -/
theorem cutBound?_eq_some {cs bound rest : List Char} (h : cutBound? cs = some (bound, rest)) :
    cs = bound ++ rest ∨ cs = bound ++ '-' :: rest := by
  obtain ⟨first, before, rfl, hends⟩ := endsBound_of_cutBound? h
  cases hends with
  | dash => exact .inr rfl
  | mark => exact .inl rfl

theorem prefix_and_suffix_of_cutBound? {cs bound rest : List Char}
    (h : cutBound? cs = some (bound, rest)) : bound <+: cs ∧ rest <:+ cs := by
  rcases cutBound?_eq_some h with rfl | rfl
  · exact ⟨List.prefix_append _ _, List.suffix_append _ _⟩
  · exact ⟨List.prefix_append _ _, (List.suffix_cons _ _).trans (List.suffix_append _ _)⟩

/-- A bound ends at the next `-`, which is dropped. -/
theorem cutBound?_dash {first : Char} {bound : List Char} (h : '-' ∉ bound) (rest : List Char) :
    cutBound? (first :: bound ++ '-' :: rest) = some (first :: bound, rest) := by
  rw [List.cons_append, cutBound?, cutBefore?_append h]
  rfl

/-- Where no `-` follows, a bound ends at the next `P`. -/
theorem cutBound?_mark {first : Char} {bound rest : List Char} (hdash : '-' ∉ bound ++ 'P' :: rest)
    (h : 'P' ∉ bound) :
    cutBound? (first :: bound ++ 'P' :: rest) = some (first :: bound, 'P' :: rest) := by
  rw [List.cons_append, cutBound?, cutBefore?_of_not_mem hdash, cutBefore?_append h]
  rfl

namespace RuleTokens

variable {text : String}

/-- A bound is cut off and understood. -/
theorem bound_eq_ok_iff {position : Nat} {cs rest : List Char} {token : Token} :
    bound text position cs = .ok (token, rest) ↔
      ∃ piece, cutBound? cs = some (piece, rest) ∧ Token.ofChars piece = .ok token := by
  unfold bound
  cases hcut : cutBound? cs with
  | none => simp
  | some pieces =>
    obtain ⟨piece, behind⟩ := pieces
    simp only [bind_eq_ok, pure_eq_ok, Except.ok.injEq, Prod.mk.injEq, Option.some.injEq]
    constructor
    · rintro ⟨token, htoken, rfl, rfl⟩
      exact ⟨piece, ⟨rfl, rfl⟩, htoken⟩
    · rintro ⟨piece, ⟨rfl, rfl⟩, htoken⟩
      exact ⟨token, htoken, rfl, rfl⟩

/-- A text is cut where two bounds are and something remains. -/
theorem ofText_eq_ok_iff {t : RuleTokens} :
    ofText text = .ok t ↔ ∃ lower middle upper result,
      cutBound? (text.toList.drop 1) = some (lower, middle) ∧ Token.ofChars lower = .ok t.lower ∧
      cutBound? middle = some (upper, result) ∧ Token.ofChars upper = .ok t.upper ∧
      result ≠ [] ∧ t.kind = String.ofList (text.toList.take 1) ∧
      t.result = String.ofList result := by
  unfold ofText
  simp only [bind_eq_ok, Prod.exists, bound_eq_ok_iff]
  constructor
  · rintro ⟨lowerToken, middle, ⟨lower, hlower, hlowerToken⟩, upperToken, result,
      ⟨upper, hupper, hupperToken⟩, h⟩
    split_ifs at h with hempty
    · cases h
    · cases h
      exact ⟨lower, middle, upper, result, hlower, hlowerToken, hupper, hupperToken,
        by simpa using hempty, rfl, rfl⟩
  · rintro ⟨lower, middle, upper, result, hlower, hlowerToken, hupper, hupperToken, hne, hkind,
      hresult⟩
    refine ⟨t.lower, middle, ⟨lower, hlower, hlowerToken⟩, t.upper, result,
      ⟨upper, hupper, hupperToken⟩, ?_⟩
    rw [if_neg (by simpa using hne), ← hkind, ← hresult]
    rfl

end RuleTokens

theorem Token.ofChars_toDigits {n : Nat} (h : n < 10 ^ digitLimit) :
    Token.ofChars (Nat.toDigits 10 n) = .ok (.number n) := by
  have hlength : (Nat.toDigits 10 n).length ≤ digitLimit :=
    (Nat.length_toDigits_le_iff (by decide) (by decide)).mpr h
  rw [Token.ofChars, ofChars?_toDigits]
  simp [not_lt.mpr hlength, IntegerText.value]

theorem Token.ofChars_mark (units : List Char) :
    Token.ofChars ('P' :: units) = .ok (.text (String.ofList ('P' :: units))) := by
  have hletter : isDigit 'P' = false := by decide
  simp [Token.ofChars, IntegerText.ofChars?, IntegerText.ofChars?.ofDigits?, hletter]

theorem Token.ofChars_signed_mark (units : List Char) :
    Token.ofChars ('-' :: 'P' :: units) = .ok (.text (String.ofList ('-' :: 'P' :: units))) := by
  have hletter : isDigit 'P' = false := by decide
  simp [Token.ofChars, IntegerText.ofChars?, IntegerText.ofChars?.ofDigits?, hletter]

namespace Duration

/-- Neither mark stands behind the `P` of a plain duration. -/
theorem not_mem_units {units : List Char} (h : UnitChars units) :
    '-' ∉ units ∧ 'P' ∉ units :=
  ⟨fun hmem => absurd (h _ hmem) (by decide), fun hmem => absurd (h _ hmem) (by decide)⟩

end Duration

/-! ## Plain rules -/

namespace Interval

/-- Bounds that are short whole numbers or plain durations. -/
def IsPlain : Interval → Prop
  | .category lower upper .. => lower < 10 ^ digitLimit ∧ upper < 10 ^ digitLimit
  | .duration lower upper .. => lower.IsPlain ∧ upper.IsPlain

/-- Plain bounds can be written. -/
theorem IsPlain.isWritable {interval : Interval} (h : interval.IsPlain) :
    interval.isWritable = true := by
  cases interval with
  | category => rfl
  | duration =>
    rw [Interval.isWritable, h.1.isWritable, h.2.isWritable]
    rfl

/-- Two intervals of one kind with numerically the same bounds. -/
def SameParts : Interval → Interval → Prop
  | .category lower upper .., .category lower' upper' .. => lower = lower' ∧ upper = upper'
  | .duration lower upper .., .duration lower' upper' .. =>
    lower.SameParts lower' ∧ upper.SameParts upper'
  | _, _ => False

theorem SameParts.kind_eq {a b : Interval} (h : a.SameParts b) : a.kind = b.kind := by
  cases a with
  | category =>
    cases b with
    | category => rfl
    | duration => exact h.elim
  | duration =>
    cases b with
    | category => exact h.elim
    | duration => rfl

/-- The bounds as the compact form is cut. -/
def tokens : Interval → Token × Token
  | .category lower upper .. => (.number lower, .number upper)
  | .duration lower upper .. => (.text lower.format, .text upper.format)

end Interval

namespace Rule

/-- A rule with plain bounds and a plain result. -/
structure IsPlain (r : Rule) : Prop where
  interval : r.interval.IsPlain
  result : r.result.IsPlain

/-- A plain rule can be written. -/
theorem IsPlain.isWritable {r : Rule} (h : r.IsPlain) : r.isWritable = true := by
  rw [Rule.isWritable, h.interval.isWritable, h.result.isWritable]
  rfl

/-- Two rules of one kind with numerically the same bounds and the same result.  Ids are
debugging tokens and may differ. -/
structure SameParts (r s : Rule) : Prop where
  kind : r.kind = s.kind
  interval : r.interval.SameParts s.interval
  result : r.result.SameParts s.result

/-- What a written form gives back: a plain rule with the same parts that is written in the same
way and equal. -/
structure RestoredBy (r s : Rule) : Prop where
  parts : r.SameParts s
  plain : s.IsPlain
  compact : s.compact = r.compact
  key : ∃ key, r.key = .ok key ∧ s.key = .ok key

end Rule

/-! ## Cutting a compact form -/

/-- A whole number ends at the `-` behind it. -/
theorem cutBound?_toDigits_dash (n : Nat) (rest : List Char) :
    cutBound? (Nat.toDigits 10 n ++ '-' :: rest) = some (Nat.toDigits 10 n, rest) := by
  have hdigits := asciiDigits_toDigits n
  obtain ⟨first, digits, hcons⟩ := List.exists_cons_of_ne_nil (l := Nat.toDigits 10 n)
    Nat.toDigits_ne_nil
  rw [hcons] at hdigits ⊢
  exact cutBound?_dash (fun hmem =>
    not_mem_of_asciiDigits hdigits (by decide) (List.mem_cons_of_mem _ hmem)) rest

/-- A whole number ends at a written duration behind it. -/
theorem cutBound?_toDigits_mark (n : Nat) {units : List Char} (h : Duration.UnitChars units) :
    cutBound? (Nat.toDigits 10 n ++ 'P' :: units) = some (Nat.toDigits 10 n, 'P' :: units) := by
  have hdigits := asciiDigits_toDigits n
  obtain ⟨first, digits, hcons⟩ := List.exists_cons_of_ne_nil (l := Nat.toDigits 10 n)
    Nat.toDigits_ne_nil
  rw [hcons] at hdigits ⊢
  have hnot {c : Char} (hc : isAsciiDigit c = false) : c ∉ digits := fun hmem =>
    not_mem_of_asciiDigits hdigits hc (List.mem_cons_of_mem _ hmem)
  apply cutBound?_mark _ (hnot (by decide))
  simp [hnot (c := '-') (by decide), (Duration.not_mem_units h).1]

/-- A written duration ends at the `-` behind it. -/
theorem cutBound?_units_dash {units : List Char} (h : Duration.UnitChars units)
    (rest : List Char) : cutBound? ('P' :: units ++ '-' :: rest) = some ('P' :: units, rest) :=
  cutBound?_dash (Duration.not_mem_units h).1 rest

/-- A written duration ends at the next one, where no `-` follows. -/
theorem cutBound?_units_mark {units rest : List Char} (h : Duration.UnitChars units)
    (hrest : '-' ∉ rest) :
    cutBound? ('P' :: units ++ 'P' :: rest) = some ('P' :: units, 'P' :: rest) := by
  apply cutBound?_mark _ (Duration.not_mem_units h).2
  simp [(Duration.not_mem_units h).1, hrest]

/-- The bounds of a plain interval are cut off in front of a written duration. -/
private theorem cut_compactChars {interval : Interval} (h : interval.IsPlain)
    {result : List Char} (hresult : Duration.UnitChars result) :
    ∃ lower upper middle,
      cutBound? (interval.compactChars ++ 'P' :: result) = some (lower, middle) ∧
      cutBound? middle = some (upper, 'P' :: result) ∧
      Token.ofChars lower = .ok interval.tokens.1 ∧
      Token.ofChars upper = .ok interval.tokens.2 := by
  have hresultDash := (Duration.not_mem_units hresult).1
  cases interval with
  | category lower upper lower_pos ordered =>
    refine ⟨Nat.toDigits 10 lower, Nat.toDigits 10 upper, Nat.toDigits 10 upper ++ 'P' :: result,
      ?_, cutBound?_toDigits_mark upper hresult, Token.ofChars_toDigits h.1,
      Token.ofChars_toDigits h.2⟩
    rw [Interval.compactChars, List.append_assoc, List.cons_append]
    exact cutBound?_toDigits_dash lower _
  | duration lower upper lower_valid upper_valid ordered =>
    obtain ⟨lowerUnits, hlower, -, hlowerChars, -⟩ := h.1.formatChars_eq
    obtain ⟨upperUnits, hupper, -, hupperChars, -⟩ := h.2.formatChars_eq
    refine ⟨'P' :: lowerUnits, 'P' :: upperUnits, 'P' :: upperUnits ++ 'P' :: result, ?_,
      cutBound?_units_mark hupperChars hresultDash, ?_, ?_⟩
    · rw [Interval.compactChars, hlower, hupper, List.append_assoc]
      apply cutBound?_units_mark hlowerChars
      simp [(Duration.not_mem_units hupperChars).1, hresultDash]
    · rw [Token.ofChars_mark, Interval.tokens, Duration.format, hlower]
    · rw [Token.ofChars_mark, Interval.tokens, Duration.format, Duration.format, hupper]

/-- Plain bounds and the amounts of any duration behind them are cut into the kind, the bounds and
the duration. -/
theorem RuleTokens.ofText_units {interval : Interval} (h : interval.IsPlain) {units : List Char}
    (hunits : Duration.UnitChars units) :
    ofText (String.ofList (interval.kind.tag :: (interval.compactChars ++ 'P' :: units))) = .ok
      { kind := interval.kind.tagText
        lower := interval.tokens.1
        upper := interval.tokens.2
        result := String.ofList ('P' :: units) } := by
  obtain ⟨lower, upper, middle, hlower, hupper, hlowerToken, hupperToken⟩ :=
    cut_compactChars h hunits
  have hkind : String.ofList [interval.kind.tag] = interval.kind.tagText := by
    cases interval.kind <;> decide
  generalize htext :
    String.ofList (interval.kind.tag :: (interval.compactChars ++ 'P' :: units)) = text
  have hchars : text.toList = interval.kind.tag :: (interval.compactChars ++ 'P' :: units) := by
    rw [← htext, String.toList_ofList]
  have hfirst : bound text 1 (text.toList.drop 1) = .ok (interval.tokens.1, middle) := by
    rw [bound, hchars, List.drop_one, List.tail_cons, hlower]
    simp [hlowerToken]
  have hsecond : bound text 2 middle = .ok (interval.tokens.2, 'P' :: units) := by
    rw [bound, hupper]
    simp [hupperToken]
  simp only [ofText, hfirst, hsecond, ok_bind]
  rw [hchars, ← hkind]
  rfl

/-! ## Building what was cut -/

/-- The argument of a text is the duration that the text gives. -/
theorem durationArgument_text [StandIns] (ordinal : String) {s : String} {d : Duration}
    (hread : Duration.read s = .ok d) (hvalid : d.isNegative = false) :
    durationArgument ordinal (.text s) = .ok ⟨d, hvalid⟩ := by
  have hgiven : givenText (.text s) = .ok ("(str) " ++ quoted s) := rfl
  rw [durationArgument, hgiven]
  simp [Value.asDuration?, Value.asText?, hread, hvalid]

/-- What a written form gives back of an interval: plain bounds, numerically the same, that are
written in the same way and compared in the same way. -/
structure Interval.RestoredBy (a b : Interval) : Prop where
  parts : a.SameParts b
  plain : b.IsPlain
  compactChars : b.compactChars = a.compactChars
  key : ∃ key, a.key = .ok key ∧ b.key = .ok key

namespace Rule

/-- The bounds of a plain interval are built again from its tokens. -/
private theorem intervalOf_tokens [StandIns] {interval : Interval} (h : interval.IsPlain) :
    ∃ restored, intervalOf interval.kind interval.tokens.1.toValue interval.tokens.2.toValue =
        .ok restored ∧ interval.RestoredBy restored := by
  cases interval with
  | category lower upper lower_pos ordered =>
    refine ⟨.category lower upper lower_pos ordered, ?_, ⟨rfl, rfl⟩, h, rfl, _, rfl, rfl⟩
    simp [intervalOf, Interval.kind, Interval.tokens, Token.toValue, lowerCategory, upperCategory,
      Value.asCategory?, lower_pos, ordered]
  | duration lower upper lower_valid upper_valid ordered =>
    obtain ⟨hlower, hupper⟩ := h
    have hlowerValid : lower.reread.isNegative = false := by
      rwa [hlower.isNegative_reread]
    have hupperValid : upper.reread.isNegative = false := by
      rwa [hupper.isNegative_reread]
    have hordered : upper.reread.isZero = true ∨ upper.reread.below lower.reread = false := by
      rwa [hupper.isZero_reread, hupper.below_reread hlower]
    obtain ⟨lowerMillis, hlowerMillis, hlowerMillis'⟩ := hlower.milliseconds_reread
    obtain ⟨upperMillis, hupperMillis, hupperMillis'⟩ := hupper.milliseconds_reread
    refine ⟨.duration lower.reread upper.reread hlowerValid hupperValid hordered, ?_,
      ⟨lower.sameParts_reread, upper.sameParts_reread⟩,
      ⟨Duration.isPlain_reread hlower, Duration.isPlain_reread hupper⟩, ?_,
      (lowerMillis, upperMillis), ?_, ?_⟩
    · have hlowerArgument :=
        durationArgument_text "second" (Duration.read_format hlower) hlowerValid
      have hupperArgument := durationArgument_text "third" (Duration.read_format hupper) hupperValid
      simp [intervalOf, Interval.kind, Interval.tokens, Token.toValue, hlowerArgument,
        hupperArgument, hordered]
    · rw [Interval.compactChars, Interval.compactChars, hlower.formatChars_reread,
        hupper.formatChars_reread]
    · simp [Interval.key, hlowerMillis, hupperMillis]
    · simp [Interval.key, hlowerMillis', hupperMillis']

/-- A rule of plain bounds is read with the duration that its last amounts give, plain or not. -/
theorem parse_units [StandIns] (id : Option String) {interval : Interval} (h : interval.IsPlain)
    {units : List Char} (hunits : Duration.UnitChars units) {d : Duration}
    (hread : Duration.read (String.ofList ('P' :: units)) = .ok d) (hvalid : d.isNegative = false) :
    ∃ restored, interval.RestoredBy restored ∧
      parse id (String.ofList (interval.kind.tag :: (interval.compactChars ++ 'P' :: units))) =
        .ok ⟨restored, d, id, hvalid⟩ := by
  obtain ⟨restored, hbuilt, hrestored⟩ := intervalOf_tokens h
  refine ⟨restored, hrestored, ?_⟩
  have hresult := durationArgument_text "fourth" hread hvalid
  rw [parse, RuleTokens.ofText_units h hunits, ok_bind, ofTokens, build]
  generalize String.ofList ('P' :: units) = result at hresult
  simp [kindArgument, hbuilt, hresult]

/-- The compact form of a plain rule is its bounds and amounts behind them. -/
theorem IsPlain.compactChars_eq {r : Rule} (h : r.IsPlain) :
    ∃ units, Duration.UnitChars units ∧ r.result.formatChars = 'P' :: units ∧
      r.compactChars = r.interval.kind.tag :: (r.interval.compactChars ++ 'P' :: units) := by
  obtain ⟨units, hformat, -, hchars, -⟩ := h.result.formatChars_eq
  refine ⟨units, hchars, hformat, ?_⟩
  rw [compactChars, hformat]
  rfl

/-- The compact form of a plain rule is read back. -/
theorem parse_compact [StandIns] (id : Option String) {r : Rule} (h : r.IsPlain) :
    ∃ s, parse id r.compact = .ok s ∧ r.RestoredBy s := by
  obtain ⟨units, hchars, hformat, hcompact⟩ := h.compactChars_eq
  have hread : Duration.read (String.ofList ('P' :: units)) = .ok r.result.reread := by
    rw [← hformat]
    exact Duration.read_format h.result
  have hvalid : r.result.reread.isNegative = false := by
    rw [h.result.isNegative_reread, r.result_valid]
  obtain ⟨interval, hrestored, hparse⟩ := parse_units id h.interval hchars hread hvalid
  obtain ⟨key, hkey, hkey'⟩ := hrestored.key
  obtain ⟨millis, hmillis, hmillis'⟩ := h.result.milliseconds_reread
  have hkind : r.interval.kind = interval.kind := hrestored.parts.kind_eq
  refine ⟨⟨interval, r.result.reread, id, hvalid⟩, ?_,
    ⟨hkind, hrestored.parts, r.result.sameParts_reread⟩,
    ⟨hrestored.plain, Duration.isPlain_reread h.result⟩, ?_,
    ⟨r.kind, key.1, key.2, millis⟩, ?_, ?_⟩
  · rw [compact, hcompact]
    exact hparse
  · rw [compact, compact, compactChars, compactChars, hrestored.compactChars,
      h.result.formatChars_reread, Rule.kind, Rule.kind, hkind]
  · simp [Rule.key, hkey, hmillis]
  · simp [Rule.key, hkey', hmillis', Rule.kind, hkind]

/-! ## The characters of compact forms -/

/-- Whether a character lies where those of compact forms do. -/
def isCompactChar (c : Char) : Bool :=
  '-' ≤ c && c ≤ 'Y'

theorem toNat_of_isCompactChar {c : Char} (h : isCompactChar c = true) :
    45 ≤ c.toNat ∧ c.toNat ≤ 89 := by
  simp only [isCompactChar, Bool.and_eq_true, decide_eq_true_eq, Char.le_def,
    UInt32.le_iff_toNat_le] at h
  exact h

theorem isCompactChar_of_isUnitChar {c : Char} (h : Duration.isUnitChar c = true) :
    isCompactChar c = true := by
  rw [Duration.isUnitChar, Bool.or_eq_true] at h
  rcases h with hdigit | hletter
  · obtain ⟨hlow, hhigh⟩ := toNat_of_isAsciiDigit hdigit
    simp only [isCompactChar, Bool.and_eq_true, decide_eq_true_eq, Char.le_def,
      UInt32.le_iff_toNat_le]
    change 45 ≤ c.toNat ∧ c.toNat ≤ 89
    omega
  · simp only [List.contains_eq_mem, List.mem_cons, List.not_mem_nil, or_false,
      decide_eq_true_eq] at hletter
    rcases hletter with rfl | rfl | rfl | rfl | rfl | rfl | rfl <;> decide

theorem isCompactChar_formatChars {d : Duration} (h : d.IsPlain) :
    ∀ c ∈ d.formatChars, isCompactChar c = true := by
  obtain ⟨units, hformat, -, hchars, -⟩ := h.formatChars_eq
  rw [hformat, List.forall_mem_cons]
  exact ⟨by decide, fun c hc => isCompactChar_of_isUnitChar (hchars c hc)⟩

theorem isCompactChar_toDigits (n : Nat) :
    ∀ c ∈ Nat.toDigits 10 n, isCompactChar c = true :=
  fun c hc => isCompactChar_of_isUnitChar
    (Duration.unitChars_of_asciiDigits (asciiDigits_toDigits n) c hc)

private theorem isCompactChar_interval {interval : Interval} (h : interval.IsPlain) :
    ∀ c ∈ interval.compactChars, isCompactChar c = true := by
  cases interval with
  | category lower upper lower_pos ordered =>
    rw [Interval.compactChars, List.forall_mem_append, List.forall_mem_cons]
    exact ⟨isCompactChar_toDigits lower, by decide, isCompactChar_toDigits upper⟩
  | duration lower upper lower_valid upper_valid ordered =>
    rw [Interval.compactChars, List.forall_mem_append]
    exact ⟨isCompactChar_formatChars h.1, isCompactChar_formatChars h.2⟩

/-- No comma, no blank and no quote stands in plain bounds and amounts behind them. -/
theorem isCompactChar_units {interval : Interval} (h : interval.IsPlain) {units : List Char}
    (hunits : Duration.UnitChars units) :
    ∀ c ∈ interval.kind.tag :: (interval.compactChars ++ 'P' :: units), isCompactChar c = true := by
  rw [List.forall_mem_cons, List.forall_mem_append, List.forall_mem_cons]
  exact ⟨by cases interval.kind <;> decide, isCompactChar_interval h, by decide,
    fun c hc => isCompactChar_of_isUnitChar (hunits c hc)⟩

theorem IsPlain.isCompactChar {r : Rule} (h : r.IsPlain) :
    ∀ c ∈ r.compactChars, Rule.isCompactChar c = true := by
  obtain ⟨units, hunits, -, hcompact⟩ := h.compactChars_eq
  rw [hcompact]
  exact isCompactChar_units h.interval hunits

end Rule

end TieredTerms
