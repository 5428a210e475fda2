import TieredTerms.Proofs.Rule.Checks
import TieredTerms.Proofs.Rule.Pieces

/-!
# The grammar of category rules

A category rule is written as `C`, two whole numbers with a `-` between them and a duration, which
starts with a `P` and holds no `-`, or else stands behind a `-` of its own.  Reading looks for marks
only; that it accepts just these texts is because a whole number holds no mark behind its first
character, and does not start with a `P`.

* `IntegerText.Writes` are the texts of whole numbers.
* `CategoryForm` are the texts that two bounds and a result are joined to, `WritesCategory` those of
  category rules.
* `RuleTokens.ofText_category_iff` is cutting, forth and back.
* `Rule.parse_category` is reading.
-/

namespace TieredTerms

/-! ## Whole numbers -/

/-- The characters are a whole number: digits of any script, perhaps behind a sign. -/
inductive IntegerText.Writes : List Char → Int → Prop
  | unsigned {ds : List Char} (hne : ds ≠ []) (hdigits : ds.all isDigit = true) :
      Writes ds (digitsValue ds)
  | plus {ds : List Char} (hne : ds ≠ []) (hdigits : ds.all isDigit = true) :
      Writes ('+' :: ds) (digitsValue ds)
  | minus {ds : List Char} (hne : ds ≠ []) (hdigits : ds.all isDigit = true) :
      Writes ('-' :: ds) (-(digitsValue ds))

namespace IntegerText

variable {cs : List Char} {n : Int}

private theorem ofDigits?_eq_some_iff {negative : Bool} {ds : List Char} {t : IntegerText} :
    ofChars?.ofDigits? negative ds = some t ↔
      (ds ≠ [] ∧ ds.all isDigit = true) ∧ ⟨negative, ds⟩ = t := by
  rw [ofChars?.ofDigits?, Option.ite_none_left_eq_some, Option.some_inj]
  cases ds <;> simp

/-- What is read as a whole number is one. -/
theorem writes_of_ofChars? {t : IntegerText} (h : ofChars? cs = some t) : Writes cs t.value := by
  unfold ofChars? at h
  split at h
  · obtain ⟨⟨hne, hdigits⟩, rfl⟩ := ofDigits?_eq_some_iff.mp h
    exact .minus hne hdigits
  · obtain ⟨⟨hne, hdigits⟩, rfl⟩ := ofDigits?_eq_some_iff.mp h
    exact .plus hne hdigits
  · obtain ⟨⟨hne, hdigits⟩, rfl⟩ := ofDigits?_eq_some_iff.mp h
    exact .unsigned hne hdigits

/-- A whole number is read as such. -/
theorem Writes.ofChars? (h : Writes cs n) : ∃ t, ofChars? cs = some t ∧ t.value = n := by
  cases h with
  | unsigned hne hdigits => exact ⟨_, ofChars?_of_digits hne hdigits, rfl⟩
  | plus hne hdigits => exact ⟨_, ofDigits?_eq_some_iff.mpr ⟨⟨hne, hdigits⟩, rfl⟩, rfl⟩
  | minus hne hdigits => exact ⟨_, ofDigits?_eq_some_iff.mpr ⟨⟨hne, hdigits⟩, rfl⟩, rfl⟩

/-- Behind the first character of a whole number there are digits only, and the first one is no
`P`. -/
theorem Writes.eq_cons (h : Writes cs n) :
    ∃ first ds, cs = first :: ds ∧ first ≠ 'P' ∧ ds.all isDigit = true := by
  cases h with
  | @unsigned ds hne hdigits =>
    obtain ⟨first, ds, rfl⟩ := List.exists_cons_of_ne_nil hne
    rw [List.all_cons, Bool.and_eq_true] at hdigits
    refine ⟨first, ds, rfl, ?_, hdigits.2⟩
    rintro rfl
    exact absurd hdigits.1 (by decide)
  | @plus ds hne hdigits => exact ⟨'+', ds, rfl, by decide, hdigits⟩
  | @minus ds hne hdigits => exact ⟨'-', ds, rfl, by decide, hdigits⟩

end IntegerText

/-- No mark is among digits. -/
theorem not_mem_of_all_isDigit {c : Char} {ds : List Char} (h : ds.all isDigit = true)
    (hc : isDigit c = false) : c ∉ ds := by
  intro hmem
  rw [List.all_eq_true] at h
  simp [h c hmem] at hc

/-- A token is a number where a whole number is written, if its digits are not too many. -/
theorem Token.ofChars_eq_number_iff {cs : List Char} {n : Int}
    (hshort : ∀ count, ¬HasLongRun cs count) :
    Token.ofChars cs = .ok (.number n) ↔ IntegerText.Writes cs n := by
  constructor
  · intro h
    unfold Token.ofChars at h
    split at h
    · next written hwritten =>
      split_ifs at h
      cases h
      exact IntegerText.writes_of_ofChars? hwritten
    · cases h
  · intro h
    obtain ⟨written, hwritten, rfl⟩ := h.ofChars?
    have hlimit : ¬digitLimit < written.digits.length :=
      fun hlong => hshort _ (hasLongRun_of_ofChars? hwritten hlong)
    rw [Token.ofChars, hwritten]
    exact if_neg hlimit

/-! ## Texts of category rules -/

/-- The characters of two bounds and a result: the result follows the upper bound at once if it
starts with a `P` and holds no `-`, and any result may follow it behind another `-`. -/
inductive CategoryForm (lower upper : List Char) : List Char → List Char → Prop
  | joined {units : List Char} (hdash : '-' ∉ units) :
      CategoryForm lower upper ('P' :: units) ('C' :: (lower ++ '-' :: (upper ++ 'P' :: units)))
  | parted (result : List Char) :
      CategoryForm lower upper result ('C' :: (lower ++ '-' :: (upper ++ '-' :: result)))

/-- The characters are a category rule: two whole numbers, the first of which is positive and the
second zero or not below it, and a duration that is not negative. -/
structure WritesCategory (cs : List Char) (n m : Int) (d : Duration) : Prop where
  form : ∃ lower upper result, CategoryForm lower upper result cs ∧
    IntegerText.Writes lower n ∧ IntegerText.Writes upper m ∧
    Duration.read (String.ofList result) = .ok d
  lower_pos : 1 ≤ n
  ordered : m = 0 ∨ n ≤ m
  result_valid : (Binary64.zero false).le d.seconds = true

/-! ## Cutting -/

/-- A whole number is cut off in front of a `-`, or in front of a `P` that no `-` follows. -/
theorem IntegerText.Writes.cutBound?_iff {piece cs rest : List Char} {n : Int}
    (h : IntegerText.Writes piece n) :
    cutBound? cs = some (piece, rest) ↔ cs = piece ++ '-' :: rest ∨
      ∃ units, '-' ∉ units ∧ rest = 'P' :: units ∧ cs = piece ++ 'P' :: units := by
  obtain ⟨first, ds, rfl, -, hdigits⟩ := h.eq_cons
  have hdash : '-' ∉ ds := not_mem_of_all_isDigit hdigits (by decide)
  have hmark : 'P' ∉ ds := not_mem_of_all_isDigit hdigits (by decide)
  constructor
  · intro hcut
    obtain ⟨first, before, hpiece, hends⟩ := endsBound_of_cutBound? hcut
    obtain ⟨rfl, rfl⟩ := List.cons.inj hpiece
    cases hends with
    | dash => exact .inl rfl
    | @mark units hnone =>
      refine .inr ⟨units, fun hmem => hnone ?_, rfl, rfl⟩
      exact List.mem_append_right _ (List.mem_cons_of_mem _ hmem)
  · rintro (rfl | ⟨units, hunits, rfl, rfl⟩)
    · exact cutBound?_dash hdash rest
    · refine cutBound?_mark ?_ hmark
      simp [hdash, hunits]

/-- Two whole numbers are cut off, one after the other, where they and what remains are joined to
the text of a category rule. -/
theorem cutBounds_iff {lower upper result cs : List Char} {n m : Int}
    (hlower : IntegerText.Writes lower n) (hupper : IntegerText.Writes upper m) :
    (∃ middle, cutBound? cs = some (lower, middle) ∧ cutBound? middle = some (upper, result)) ↔
      CategoryForm lower upper result ('C' :: cs) := by
  constructor
  · rintro ⟨middle, hcutLower, hcutUpper⟩
    rcases hlower.cutBound?_iff.mp hcutLower with rfl | ⟨units, -, rfl, -⟩
    · rcases hupper.cutBound?_iff.mp hcutUpper with rfl | ⟨units, hunits, rfl, rfl⟩
      · exact .parted result
      · exact .joined hunits
    -- the upper bound would start with the `P` that the lower one ends at
    · obtain ⟨first, ds, rfl, hfirst, -⟩ := hupper.eq_cons
      rcases hupper.cutBound?_iff.mp hcutUpper with heq | ⟨units', -, -, heq⟩
      · exact absurd (List.cons.inj heq).1.symm hfirst
      · exact absurd (List.cons.inj heq).1.symm hfirst
  · intro hform
    cases hform with
    | @joined units hdash =>
      exact ⟨upper ++ 'P' :: units, hlower.cutBound?_iff.mpr (.inl rfl),
        hupper.cutBound?_iff.mpr (.inr ⟨units, hdash, rfl, rfl⟩)⟩
    | parted =>
      exact ⟨upper ++ '-' :: result, hlower.cutBound?_iff.mpr (.inl rfl),
        hupper.cutBound?_iff.mpr (.inl rfl)⟩

/-- A text is cut into `C`, two numbers and a result where two whole numbers and the result are
joined to it. -/
theorem RuleTokens.ofText_category_iff {text : String}
    (hshort : ∀ count, ¬HasLongRun text.toList count) {n m : Int} {result : List Char} :
    ofText text = .ok ⟨"C", .number n, .number m, String.ofList result⟩ ↔
      result ≠ [] ∧ ∃ lower upper, CategoryForm lower upper result text.toList ∧
        IntegerText.Writes lower n ∧ IntegerText.Writes upper m := by
  have hnumber {piece : List Char} (h : piece <:+: text.toList.drop 1) (k : Int) :
      Token.ofChars piece = .ok (.number k) ↔ IntegerText.Writes piece k :=
    Token.ofChars_eq_number_iff fun count hlong =>
      hshort count (hlong.mono (h.trans (List.drop_suffix 1 _).isInfix))
  rw [ofText_eq_ok_iff]
  constructor
  · rintro ⟨lower, middle, upper, rest, hcutLower, hlower, hcutUpper, hupper, hne, hkind, hresult⟩
    obtain rfl : result = rest := String.ofList_injective hresult
    obtain ⟨hlowerPart, hmiddlePart⟩ := prefix_and_suffix_of_cutBound? hcutLower
    have hupperPart :=
      (prefix_and_suffix_of_cutBound? hcutUpper).1.isInfix.trans hmiddlePart.isInfix
    have hlower := (hnumber hlowerPart.isInfix n).mp hlower
    have hupper := (hnumber hupperPart m).mp hupper
    refine ⟨hne, lower, upper, ?_, hlower, hupper⟩
    have hfirst : ['C'] = text.toList.take 1 := String.ofList_injective hkind
    rw [← List.take_append_drop 1 text.toList, ← hfirst]
    exact (cutBounds_iff hlower hupper).mp ⟨middle, hcutLower, hcutUpper⟩
  · rintro ⟨hne, lower, upper, hform, hlower, hupper⟩
    obtain ⟨cs, hcs⟩ : ∃ cs, text.toList = 'C' :: cs := by
      cases h : text.toList with
      | nil => rw [h] at hform; cases hform
      | cons first cs => rw [h] at hform; cases hform <;> exact ⟨_, rfl⟩
    rw [hcs] at hform
    obtain ⟨middle, hcutLower, hcutUpper⟩ := (cutBounds_iff hlower hupper).mpr hform
    rw [hcs] at hnumber ⊢
    obtain ⟨hlowerPart, hmiddlePart⟩ := prefix_and_suffix_of_cutBound? hcutLower
    have hupperPart :=
      (prefix_and_suffix_of_cutBound? hcutUpper).1.isInfix.trans hmiddlePart.isInfix
    exact ⟨lower, middle, upper, result, hcutLower, (hnumber hlowerPart.isInfix n).mpr hlower,
      hcutUpper, (hnumber hupperPart m).mpr hupper, hne, rfl, rfl⟩

/-! ## Reading -/

/-- A value that is cut out of a text without long rows of digits is of ordinary size. -/
theorem Value.StandsIn.isOrdinary {cs : List Char} {v : Value} (h : v.StandsIn cs)
    (hshort : ∀ count, ¬HasLongRun cs count) : v.IsOrdinary := by
  cases h with
  | int h =>
    rw [IsOrdinary]
    exact h
  | text h =>
    rw [IsOrdinary]
    exact fun count hlong => hshort count (hlong.mono h)

/-- The rule is one of categories with these bounds and this result. -/
structure Rule.HasCategories (r : Rule) (n m : Int) (d : Duration) : Prop where
  kind : r.kind = .category
  lower : r.interval.lower = .category n
  upper : r.interval.upper = .category m
  result : r.result = d

namespace RuleTokens

variable {text : String} {t : RuleTokens}

/-- The values that a rule of the pieces is built of. -/
def arguments (t : RuleTokens) : Arguments :=
  ⟨.text t.kind, t.lower.toValue, t.upper.toValue, .text t.result⟩

/-- The pieces of a text without long rows of digits are of ordinary size. -/
theorem arguments_isOrdinary [StandIns] (hshort : ∀ count, ¬HasLongRun text.toList count)
    (h : ofText text = .ok t) : t.arguments.IsOrdinary := by
  have hstands := Rule.yields_ofText text
  rw [h] at hstands
  obtain ⟨hlower, hupper, hresult⟩ := hstands
  refine ⟨?_, hlower.isOrdinary hshort, hupper.isOrdinary hshort,
    (Value.StandsIn.text hresult).isOrdinary hshort⟩
  obtain ⟨-, -, -, -, -, -, -, -, -, hkind, -⟩ := ofText_eq_ok_iff.mp h
  refine Value.StandsIn.isOrdinary (.text ?_) hshort
  rw [hkind, String.toList_ofList]
  exact (List.take_prefix 1 _).isInfix

end RuleTokens

namespace Rule

/-- A rule whose kind is given by the letter `C` is built of two numbers and the text of its
result, which fit. -/
theorem IsOf.hasCategories {r : Rule} {t : RuleTokens} (h : r.IsOf t.arguments)
    (hkind : t.kind = "C") : ∃ n m, t.lower = .number n ∧ t.upper = .number m ∧
      Duration.read t.result = .ok r.result ∧ 1 ≤ n ∧ (m = 0 ∨ n ≤ m) ∧
      r.HasCategories n m r.result := by
  obtain ⟨hgivesKind, hlower, hupper, hresult⟩ := h
  have hcategory : r.kind = .category := by
    rw [RuleTokens.arguments, hkind] at hgivesKind
    exact hgivesKind.unique (.letter .category)
  rw [hcategory] at hlower hupper
  obtain ⟨n, hn, hlower⟩ := Value.givesBound_category_iff.mp hlower
  obtain ⟨m, hm, hupper⟩ := Value.givesBound_category_iff.mp hupper
  refine ⟨n, m, Token.eq_number hn, Token.eq_number hm, ?_, ?_, ?_, hcategory, hlower, hupper, rfl⟩
  · cases hresult with
    | written hread => exact hread
  all_goals
    rw [Rule.kind] at hcategory
    cases hinterval : r.interval with
    | duration => simp [hinterval, Interval.kind] at hcategory
    | category lower upper lower_pos ordered =>
      rw [hinterval] at hlower hupper
      cases hlower
      cases hupper
      omega

/-- Two numbers that are ordered and a text that gives a duration pass the checks. -/
theorem passes_category {n m : Int} {result : String} {d : Duration} (hpos : 1 ≤ n)
    (hordered : m = 0 ∨ n ≤ m) (hread : Duration.read result = .ok d)
    (hvalid : (Binary64.zero false).le d.seconds = true) (c : Check) :
    c.Passes (RuleTokens.arguments ⟨"C", .number n, .number m, result⟩) := by
  have hkind : (Value.text "C").GivesKind .category := .letter .category
  cases c with
  | kind => exact ⟨_, hkind⟩
  | lower => exact ⟨_, _, hkind, .category n, show 0 < n by omega⟩
  | upper => exact ⟨_, _, hkind, .category m, show 0 ≤ m by omega⟩
  | order => exact ⟨_, _, _, hkind, .category n, .category m, hordered⟩
  | result => exact ⟨d, .written hread, hvalid⟩

variable {text : String}

/-- Reading goes by the checks of the pieces that a text is cut into. -/
theorem parse_gives [StandIns] (hshort : ∀ count, ¬HasLongRun text.toList count) {t : RuleTokens}
    (h : RuleTokens.ofText text = .ok t) (id : Option String) :
    Yields (fun r => r.IsOf t.arguments) t.arguments.Rejected (parse id text) := by
  rw [parse, h, ok_bind]
  exact build_gives (RuleTokens.arguments_isOrdinary hshort h) id

/-- A text of a category rule is read as that rule. -/
theorem parse_of_writesCategory [StandIns] (hshort : ∀ count, ¬HasLongRun text.toList count)
    {n m : Int} {d : Duration} (h : WritesCategory text.toList n m d) (id : Option String) :
    ∃ r, parse id text = .ok r ∧ r.HasCategories n m d := by
  obtain ⟨⟨lower, upper, result, hform, hlower, hupper, hread⟩, hpos, hordered, hvalid⟩ := h
  have hne : result ≠ [] := by
    rintro rfl
    cases hread
  have htokens := (RuleTokens.ofText_category_iff hshort).mpr ⟨hne, lower, upper, hform, hlower,
    hupper⟩
  have hgives := parse_gives hshort htokens id
  cases hparse : parse id text with
  | ok r =>
    rw [hparse] at hgives
    obtain ⟨n', m', hn, hm, hread', -, -, hr⟩ := hgives.hasCategories rfl
    cases hn
    cases hm
    obtain rfl := Except.ok.inj (hread.symm.trans hread')
    exact ⟨r, rfl, hr⟩
  | error fault =>
    rw [hparse] at hgives
    obtain ⟨c, -, hfirst, -⟩ := hgives
    exact absurd (passes_category hpos hordered hread hvalid c) hfirst.violated

/-- What is read of a text that starts with `C` is a category rule of that text. -/
theorem writesCategory_of_parse [StandIns] (hkind : text.toList.head? = some 'C')
    (hshort : ∀ count, ¬HasLongRun text.toList count) {id : Option String} {r : Rule}
    (h : parse id text = .ok r) : ∃ n m d, WritesCategory text.toList n m d := by
  obtain ⟨t, htokens, -⟩ := bind_eq_ok.mp h
  obtain ⟨-, -, -, result, -, -, -, -, -, htag, hresult⟩ := RuleTokens.ofText_eq_ok_iff.mp htokens
  have hletter : t.kind = "C" := by
    rw [htag]
    cases hchars : text.toList with
    | nil => simp [hchars] at hkind
    | cons first cs =>
      rw [hchars] at hkind
      cases hkind
      rfl
  have hof := parse_gives hshort htokens id
  rw [h] at hof
  obtain ⟨n, m, hn, hm, hread, hpos, hordered, -⟩ := hof.hasCategories hletter
  have heq : t = ⟨"C", .number n, .number m, String.ofList result⟩ := by
    rw [← hletter, ← hn, ← hm, ← hresult]
  rw [heq] at htokens hread
  obtain ⟨-, lower, upper, hform, hlower, hupper⟩ :=
    (RuleTokens.ofText_category_iff hshort).mp htokens
  refine ⟨n, m, r.result, ⟨lower, upper, result, hform, hlower, hupper, hread⟩, hpos, hordered, ?_⟩
  exact (Duration.isNegative_eq_false_iff
    (Duration.hasProjection_of_parse? (Duration.parse?_of_read hread))).mp r.result_valid

/-- A text that starts with `C` is read just where it is a category rule, as the rule of the whole
numbers and the duration in it.  Any other such text is a fault of its form or of validation. -/
theorem parse_category [StandIns] (hkind : text.toList.head? = some 'C')
    (hshort : ∀ count, ¬HasLongRun text.toList count) (id : Option String) :
    ((∃ r, parse id text = .ok r) ↔ ∃ n m d, WritesCategory text.toList n m d) ∧
      (∀ r n m d, parse id text = .ok r → WritesCategory text.toList n m d →
        r.HasCategories n m d) ∧
      ∀ fault, parse id text = .error fault →
        fault.faultClass = .format ∨ fault.faultClass = .validation := by
  refine ⟨⟨?_, ?_⟩, ?_, ?_⟩
  · rintro ⟨r, hr⟩
    exact writesCategory_of_parse hkind hshort hr
  · rintro ⟨n, m, d, hwrites⟩
    obtain ⟨r, hr, -⟩ := parse_of_writesCategory hshort hwrites id
    exact ⟨r, hr⟩
  · intro r n m d hr hwrites
    obtain ⟨r', hr', hcategories⟩ := parse_of_writesCategory hshort hwrites id
    cases hr.symm.trans hr'
    exact hcategories
  · intro fault hfault
    cases htokens : RuleTokens.ofText text with
    | ok t =>
      have hgives := parse_gives hshort htokens id
      rw [hfault] at hgives
      obtain ⟨c, k, -, -, hnames⟩ := hgives
      exact .inr hnames.faultClass
    | error cut =>
      have hcut := yields_ofText text
      rw [parse, htokens] at hfault
      cases hfault
      rw [htokens] at hcut
      cases hcut with
      | format h => exact .inl h
      | longRun hlong => exact absurd hlong (hshort _)

/-- Signs and leading zeros are taken, and the second `-` is the sign of the upper bound. -/
theorem parse_category_signs :
    "C+07--0P1D".toList.head? = some 'C' ∧ (∀ count, ¬HasLongRun "C+07--0P1D".toList count) ∧
      ∃ r, parse none "C+07--0P1D" = .ok r ∧ r.HasCategories 7 0 (.clock oneDay) := by
  have hkind : "C+07--0P1D".toList.head? = some 'C' := by decide
  have hshort : ∀ count, ¬HasLongRun "C+07--0P1D".toList count := not_hasLongRun (by decide)
  have hwrites : WritesCategory "C+07--0P1D".toList 7 0 (.clock oneDay) := by
    refine ⟨⟨['+', '0', '7'], ['-', '0'], ['P', '1', 'D'], .joined (by decide), ?_, ?_,
      by decide +kernel⟩, by decide, .inl rfl, by decide +kernel⟩
    · exact @IntegerText.Writes.plus ['0', '7'] (by decide) (by decide)
    · exact @IntegerText.Writes.minus ['0'] (by decide) (by decide)
  obtain ⟨hreads, hparts, -⟩ := parse_category hkind hshort none
  obtain ⟨r, hr⟩ := hreads.mpr ⟨7, 0, _, hwrites⟩
  exact ⟨hkind, hshort, r, hr, hparts r 7 0 _ hr hwrites⟩

end Rule

end TieredTerms
