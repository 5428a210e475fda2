import TieredTerms.Proofs.Rule.Reloaded

/-!
# Rules whose compact forms are read

A rule that was read from a text has no signs in its written durations, so its compact form is read
again unless years or months are written with an exponent, or the bounds change their order when
years and months are cut to the precision.

* `Rule.OfText` are the rules that texts give, `Rule.IsReadable` are the rules whose compact forms
  are read.
* `Rule.OfText.exists_plain`: a readable rule is written like a plain rule.
* `Rule.isReadable_of_parse`: a rule whose compact form is read is readable.
-/

namespace TieredTerms

namespace Interval

/-- The order of the bounds stays when years and months are cut to the precision. -/
def StaysOrdered : Interval → Prop
  | .category .. => True
  | .duration lower upper .. =>
    upper.unsigned.isZero = true ∨ upper.unsigned.below lower.unsigned = false

end Interval

namespace Rule

/-- Rules that texts give. -/
def OfText [StandIns] (r : Rule) : Prop :=
  ∃ id text, parse id text = .ok r

/-- No duration is written with an exponent, and the bounds stay in order. -/
structure IsReadable (r : Rule) : Prop where
  positional : 'E' ∉ r.compactChars
  ordered : r.interval.StaysOrdered

/-! ## Rules of texts -/

private theorem lt_of_number {cs : List Char} {n : Int} (h : Token.ofChars cs = .ok (.number n)) :
    n.toNat < 10 ^ digitLimit := by
  rw [Token.ofChars] at h
  split at h
  · next written hwritten =>
    split_ifs at h with hlong
    cases h
    have hvalue := digitsValue_lt written.digits
    have hpower : 10 ^ written.digits.length ≤ 10 ^ digitLimit :=
      Nat.pow_le_pow_right (by decide) (not_lt.mp hlong)
    rw [IntegerText.value]
    split_ifs
    · have hzero : (-(digitsValue written.digits : Int)).toNat = 0 := by omega
      rw [hzero]
      positivity
    · rw [Int.toNat_natCast]
      exact lt_of_lt_of_le hvalue hpower
  · cases h

private theorem parse?_of_bound [StandIns] {ordinal : String} {token : Token} {d : BoundDuration}
    (h : durationArgument ordinal token.toValue = .ok d) :
    ∃ text, Duration.parse? text = some d.val := by
  cases token with
  | number n =>
    rcases durationArgument_eq_ok h with hstructured | ⟨s, htext, -⟩
    · cases hstructured
    · cases htext
  | text s => exact ⟨s, Duration.parse?_of_read (read_of_durationArgument h)⟩

/-- What stands in the written forms of a rule of a text: short whole numbers, and durations that
texts give. -/
theorem OfText.bounds [StandIns] {r : Rule} (h : r.OfText) :
    (match r.interval with
      | .category lower upper .. => lower < 10 ^ digitLimit ∧ upper < 10 ^ digitLimit
      | .duration lower upper .. =>
        (∃ text, Duration.parse? text = some lower) ∧ ∃ text, Duration.parse? text = some upper) ∧
      ∃ text, Duration.parse? text = some r.result := by
  obtain ⟨id, text, hparse⟩ := h
  obtain ⟨chars, lower, upper, middle, result, lowerToken, upperToken, -, -, hlower, -, hupper,
    hinterval, hresult⟩ := parse_eq_ok hparse
  refine ⟨?_, _, Duration.parse?_of_read hresult⟩
  cases hkind : r.kind with
  | category =>
    rw [hkind] at hinterval
    obtain ⟨l, u, lower_pos, ordered, hl, hu, heq⟩ := intervalOf_category_eq_ok hinterval
    rw [Token.eq_number (lowerCategory_eq_ok hl)] at hlower
    rw [Token.eq_number (upperCategory_eq_ok hu)] at hupper
    rw [heq]
    exact ⟨lt_of_number hlower, lt_of_number hupper⟩
  | duration =>
    rw [hkind] at hinterval
    obtain ⟨l, u, lower_valid, upper_valid, ordered, hl, hu, heq⟩ :=
      intervalOf_duration_eq_ok hinterval
    rw [heq]
    exact ⟨parse?_of_bound hl, parse?_of_bound hu⟩

/-! ## Plain rules with the same compact form -/

/-- A duration of a text is written like a plain one, which is not below zero. -/
private theorem plain_of_text {d : Duration} (h : ∃ text, Duration.parse? text = some d)
    (hvalid : d.isNegative = false) (hplain : 'E' ∉ d.formatChars) :
    d.unsigned.IsPlain ∧ d.unsigned.isNegative = false ∧
      d.unsigned.formatChars = d.formatChars := by
  obtain ⟨text, hparse⟩ := h
  have hunsigned := Duration.isPlain_unsigned hplain
  refine ⟨hunsigned, hunsigned.onSide.isNegative_eq_false, ?_⟩
  rw [Duration.formatChars_eq hplain, Duration.hasMinus_of_parse? hparse hvalid hplain]
  rfl

/-- A readable rule of a text is written like a plain rule. -/
theorem OfText.exists_plain [StandIns] {r : Rule} (h : r.OfText) (hreadable : r.IsReadable) :
    ∃ p : Rule, p.IsPlain ∧ p.compact = r.compact ∧ p.kind = r.kind := by
  obtain ⟨hbounds, hresultText⟩ := h.bounds
  obtain ⟨hintervalPlain, hresultPlain⟩ := not_mem_parts hreadable.positional
  obtain ⟨hresult, hresultValid, hresultForm⟩ :=
    plain_of_text hresultText r.result_valid hresultPlain
  have hordered := hreadable.ordered
  have hinterval : ∃ interval : Interval, interval.IsPlain ∧ interval.kind = r.interval.kind ∧
      interval.compactChars = r.interval.compactChars := by
    cases heq : r.interval with
    | category lower upper lower_pos ordered =>
      rw [heq] at hbounds
      exact ⟨.category lower upper lower_pos ordered, hbounds, rfl, rfl⟩
    | duration lower upper lower_valid upper_valid ordered =>
      rw [heq] at hbounds hintervalPlain hordered
      rw [Interval.compactChars, List.mem_append, not_or] at hintervalPlain
      obtain ⟨hlower, hlowerValid, hlowerForm⟩ :=
        plain_of_text hbounds.1 lower_valid hintervalPlain.1
      obtain ⟨hupper, hupperValid, hupperForm⟩ :=
        plain_of_text hbounds.2 upper_valid hintervalPlain.2
      refine ⟨.duration lower.unsigned upper.unsigned hlowerValid hupperValid hordered,
        ⟨hlower, hupper⟩, rfl, ?_⟩
      change lower.unsigned.formatChars ++ upper.unsigned.formatChars = _
      rw [hlowerForm, hupperForm, Interval.compactChars]
  obtain ⟨interval, hplain, hkind, hform⟩ := hinterval
  refine ⟨⟨interval, r.result.unsigned, none, hresultValid⟩, ⟨hplain, hresult⟩, ?_, hkind⟩
  rw [compact, compact, compactChars, compactChars, hform, hresultForm, kind, kind, hkind]

/-- The compact form of a rule of a text has no commas and no blanks, if it has no exponents. -/
theorem OfText.isCompactChar [StandIns] {r : Rule} (h : r.OfText) (hplain : 'E' ∉ r.compactChars) :
    ∀ c ∈ r.compactChars, Rule.isCompactChar c = true := by
  obtain ⟨hbounds, hresultText⟩ := h.bounds
  obtain ⟨hintervalPlain, hresultPlain⟩ := not_mem_parts hplain
  have hduration {d : Duration} (htext : ∃ text, Duration.parse? text = some d)
      (hvalid : d.isNegative = false) (hplain : 'E' ∉ d.formatChars) :
      ∀ c ∈ d.formatChars, Rule.isCompactChar c = true := by
    obtain ⟨hunsigned, -, hform⟩ := plain_of_text htext hvalid hplain
    rw [← hform]
    exact isCompactChar_formatChars hunsigned
  rw [compactChars, List.forall_mem_append, List.forall_mem_cons]
  refine ⟨⟨by cases r.kind <;> decide, ?_⟩, hduration hresultText r.result_valid hresultPlain⟩
  cases heq : r.interval with
  | category lower upper =>
    rw [Interval.compactChars, List.forall_mem_append, List.forall_mem_cons]
    exact ⟨isCompactChar_toDigits lower, by decide, isCompactChar_toDigits upper⟩
  | duration lower upper lower_valid upper_valid =>
    rw [heq] at hbounds hintervalPlain
    rw [Interval.compactChars, List.mem_append, not_or] at hintervalPlain
    rw [Interval.compactChars, List.forall_mem_append]
    exact ⟨hduration hbounds.1 lower_valid hintervalPlain.1,
      hduration hbounds.2 upper_valid hintervalPlain.2⟩

/-! ## Reading again -/

/-- Bounds that are read from the compact form of an interval stay in order. -/
private theorem staysOrdered_of_reloadedAs {a b : Interval} (h : a.ReloadedAs b)
    (hplain : 'E' ∉ a.compactChars) : a.StaysOrdered := by
  cases a with
  | category => trivial
  | duration lower upper =>
    cases b with
    | category => exact h.elim
    | duration lower' upper' lower_valid upper_valid ordered =>
      obtain ⟨rfl, rfl⟩ := h
      rw [Interval.compactChars, List.mem_append, not_or] at hplain
      have hlower := Duration.isPlain_unsigned hplain.1
      have hupper := Duration.isPlain_unsigned hplain.2
      rwa [hupper.isZero_reread, hupper.below_reread hlower] at ordered

/-- A rule whose compact form is read is readable. -/
theorem isReadable_of_parse [StandIns] {id : Option String} {r s : Rule}
    (h : parse id r.compact = .ok s) : r.IsReadable := by
  have hplain := not_mem_of_parse h
  rw [compact, String.toList_ofList] at hplain
  exact ⟨hplain, staysOrdered_of_reloadedAs (reloadedAs_of_parse h).2.interval
    (not_mem_parts hplain).1⟩

/-- A plain rule is readable. -/
theorem IsPlain.isReadable [StandIns] {r : Rule} (h : r.IsPlain) : r.IsReadable := by
  obtain ⟨s, hparse, -⟩ := Rule.parse_compact none h
  exact isReadable_of_parse hparse

end Rule

end TieredTerms
