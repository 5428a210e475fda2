import TieredTerms.Proofs.Duration.Modest
import TieredTerms.Proofs.Messages
import TieredTerms.Proofs.Rule.Building
import TieredTerms.Proofs.Rule.Written

/-!
# Faults of compact forms

What can be wrong with a compact form, whatever its characters are.  Every value that construction
is given stands in the form, so messages can show it, and a fault is one that is reported unless the
form has a row of digits or a number that is too long.

* `Fault.CausedBy` are the faults that a text can cause, `Fault.OfCut` those that it causes before
  its pieces are looked at.
* `Value.StandsIn` are the values that are cut out of a text.
* `Rule.yields_parse` is the whole form, from one lemma for each step of the construction.
-/

namespace TieredTerms

variable {cs ds : List Char}

/-- The faults of a text: what is in it does not fit, which a message tells with lone units only if
the text has some, or it has a row of digits that readers do not take, or a number that is beyond
arithmetic. -/
inductive Fault.CausedBy [StandIns] (cs : List Char) : Fault → Prop
  | misfit {fault : Fault} (h : fault.faultClass = .validation ∨ fault.faultClass = .format ∨
      fault.faultClass = .type) (hshown : IsEncodable cs → HasNoLoneUnits fault.shownTexts) :
      CausedBy cs fault
  | longRun {count : Nat} (h : HasLongRun cs count) : CausedBy cs (.tooManyDigits count)
  | manyDigits (h : ¬HasModestNumbers cs) : CausedBy cs .decimalTooLarge

/-- The faults of cutting a text: a piece is missing, or a bound has a row of digits that readers do
not take. -/
inductive Fault.OfCut [StandIns] (cs : List Char) : Fault → Prop
  | format {fault : Fault} (h : fault.faultClass = .format)
      (hshown : IsEncodable cs → HasNoLoneUnits fault.shownTexts) : OfCut cs fault
  | longRun {count : Nat} (h : HasLongRun cs count) : OfCut cs (.tooManyDigits count)

theorem Fault.OfCut.causedBy [StandIns] {fault : Fault} (h : fault.OfCut cs) :
    fault.CausedBy cs := by
  cases h with
  | format h hshown => exact .misfit (.inr (.inl h)) hshown
  | longRun h => exact .longRun h

theorem Fault.CausedBy.mono [StandIns] {fault : Fault} (h : fault.CausedBy cs)
    (hpart : cs <:+: ds) : fault.CausedBy ds := by
  cases h with
  | misfit h hshown => exact .misfit h fun hds => hshown (hds.subset hpart.subset)
  | longRun h => exact .longRun (h.mono hpart)
  | manyDigits h => exact .manyDigits fun hmodest => h (hmodest.within hpart)

/-! ## Values of a text -/

/-- A value that is cut out of a text: a piece of it, or an integer that messages can show. -/
inductive Value.StandsIn (cs : List Char) : Value → Prop
  | int {n : Int} (h : n.natAbs < 10 ^ digitLimit) : StandsIn cs (.int n)
  | text {s : String} (h : s.toList <:+: cs) : StandsIn cs (.text s)

/-- Messages show integers of so few digits. -/
theorem intShown?_of_lt {n : Int} (h : n.natAbs < 10 ^ digitLimit) :
    intShown? n = some (intText n) := by
  rw [intShown?, Nat.pow_eq, if_pos h]

/-- A value of a text is shown in a message, and without lone units. -/
theorem givenText_of_standsIn [StandIns] {v : Value} (h : v.StandsIn cs) :
    ∃ given, givenText v = .ok given ∧ IsEncodable given.toList := by
  cases h with
  | @int n h =>
    have hshown : (Value.int n).shown = .ok (intText n) := by
      rw [Value.shown_int, intShown?_of_lt h, shownNumbers]
    exact givenText_of_shown hshown (isEncodable_intText n)
  | @text s h => exact givenText_of_shown (Value.shown_text s) (isEncodable_quoted s)

/-- A number that is read has no more digits than messages can show. -/
theorem natAbs_value_lt {written : IntegerText} (h : written.digits.length ≤ digitLimit) :
    written.value.natAbs < 10 ^ digitLimit := by
  have hvalue : written.value.natAbs = digitsValue written.digits := by
    rw [IntegerText.value]
    split_ifs <;> simp
  rw [hvalue]
  exact lt_of_lt_of_le (digitsValue_lt _) (Nat.pow_le_pow_right (by decide) h)

/-- The digits of a whole number stand in its text. -/
theorem hasLongRun_of_ofChars? {written : IntegerText} (h : IntegerText.ofChars? cs = some written)
    (hlong : digitLimit < written.digits.length) : HasLongRun cs written.digits.length := by
  obtain ⟨hcs, hdigits, -⟩ := ofChars?_eq_some h
  have hsuffix : written.digits <:+ cs := by
    rcases hcs with rfl | rfl | rfl
    · exact List.suffix_rfl
    · exact List.suffix_cons _ _
    · exact List.suffix_cons _ _
  exact ⟨_, hsuffix.isInfix, hdigits, rfl, hlong⟩

/-- A bound is an integer or a piece of the text. -/
theorem yields_token [StandIns] {bound : List Char} (hbound : bound <:+: cs) :
    Yields (fun token => token.toValue.StandsIn cs) (Fault.OfCut cs) (Token.ofChars bound) := by
  unfold Token.ofChars
  split
  · next written hwritten =>
    split_ifs with hlong
    · exact .longRun ((hasLongRun_of_ofChars? hwritten hlong).mono hbound)
    · exact .int (natAbs_value_lt (not_lt.mp hlong))
  · refine .text ?_
    rwa [String.toList_ofList]

/-! ## Arguments -/

/-- A duration that a text gives can be written where the numbers of the text are modest; these are
also what keeps it within arithmetic. -/
theorem read_cases {s : String} (hs : s.toList <:+: cs) :
    Duration.read s = .error .form ∨ (Duration.read s = .error .tooLarge ∧ ¬HasModestNumbers cs) ∨
      ∃ d, Duration.read s = .ok d ∧ (HasModestNumbers cs → d.isWritable = true) := by
  unfold Duration.read
  cases hparse : Duration.parse? s with
  | none =>
    dsimp only
    split_ifs with hoverflows
    · refine .inr (.inl ⟨rfl, fun hmodest => ?_⟩)
      rw [Duration.overflows_of_hasModestNumbers (hmodest.within hs)] at hoverflows
      cases hoverflows
    · exact .inl rfl
  | some d =>
    have hwithin (hmodest : HasModestNumbers cs) : d.WithinArithmetic :=
      Duration.withinArithmetic_of_parse? (hmodest.within hs) hparse
    dsimp only
    split_ifs with hbeyond
    · refine .inr (.inl ⟨rfl, fun hmodest => ?_⟩)
      rw [(hwithin hmodest).isBeyondArithmetic] at hbeyond
      cases hbeyond
    · exact .inr (.inr ⟨d, rfl, fun hmodest => (hwithin hmodest).isWritable⟩)

theorem yields_durationArgument [StandIns] {ordinal : String}
    (hordinal : IsEncodable ordinal.toList) {v : Value} (hv : v.StandsIn cs) :
    Yields (fun d => HasModestNumbers cs → d.val.isWritable = true) (Fault.CausedBy cs)
      (durationArgument ordinal v) := by
  obtain ⟨given, hgiven, hshown⟩ := givenText_of_standsIn hv
  have hmisfit : (Fault.durationArgument ordinal given).CausedBy cs :=
    .misfit (.inl rfl) fun _ => .pair hordinal hshown
  rw [durationArgument, hgiven, ok_bind]
  cases hv with
  | int h => exact hmisfit
  | @text s h =>
    simp only [Value.asDuration?, Value.asText?]
    rcases read_cases h with hread | ⟨hread, hlarge⟩ | ⟨d, hread, hwritable⟩
    · rw [hread]
      exact hmisfit
    · rw [hread]
      exact .manyDigits hlarge
    · rw [hread]
      dsimp only
      split_ifs
      · exact hwritable
      · exact hmisfit

namespace Rule

/-- A fault that shows a value. -/
theorem yields_shown [StandIns] {α : Type} {P : α → Prop} {E : Fault → Prop} {v : Value}
    (hshown : ∃ given, givenText v = .ok given) {fault : String → Fault}
    (h : ∀ given, E (fault given)) :
    Yields P E (givenText v >>= fun given => throw (fault given)) := by
  obtain ⟨given, hgiven⟩ := hshown
  rw [hgiven, ok_bind]
  exact h given

/-- A fault of a text that shows a value and nothing else. -/
theorem yields_misfit [StandIns] {α : Type} {P : α → Prop} {v : Value}
    (hv : ∃ given, givenText v = .ok given ∧ IsEncodable given.toList) {fault : String → Fault}
    (hclass : ∀ given, (fault given).faultClass = .validation)
    (hshown : ∀ given, (fault given).shownTexts = [given]) :
    Yields P (Fault.CausedBy cs) (givenText v >>= fun given => throw (fault given)) := by
  obtain ⟨given, hgiven, hencodable⟩ := hv
  rw [hgiven, ok_bind]
  refine Fault.CausedBy.misfit (.inl (hclass given)) fun _ => ?_
  rw [hshown]
  exact .singleton hencodable

theorem yields_kindArgument [StandIns] (text : String) :
    Yields (fun _ => True) (Fault.CausedBy cs) (kindArgument (.text text)) := by
  unfold kindArgument
  dsimp only
  cases Kind.ofTag? text with
  | some kind => trivial
  | none =>
    have hgiven := givenText_of_shown (Value.shown_text text) (isEncodable_quoted text)
    exact yields_misfit hgiven (fun _ => rfl) fun _ => rfl

theorem yields_lowerCategory [StandIns] {v : Value} (hv : v.StandsIn cs) :
    Yields (fun _ => True) (Fault.CausedBy cs) (lowerCategory v) := by
  unfold lowerCategory
  split
  · split_ifs
    · trivial
    · exact yields_misfit (givenText_of_standsIn hv) (fun _ => rfl) fun _ => rfl
  · exact yields_misfit (givenText_of_standsIn hv) (fun _ => rfl) fun _ => rfl

theorem yields_upperCategory [StandIns] {v : Value} (hv : v.StandsIn cs) :
    Yields (fun _ => True) (Fault.CausedBy cs) (upperCategory v) := by
  unfold upperCategory
  split
  · split_ifs
    · trivial
    · exact yields_misfit (givenText_of_standsIn hv) (fun _ => rfl) fun _ => rfl
  · exact yields_misfit (givenText_of_standsIn hv) (fun _ => rfl) fun _ => rfl

/-- A bound is written in a message if it can be written. -/
theorem yields_written [StandIns] {d : Duration} (h : HasModestNumbers cs → d.isWritable = true) :
    Yields (fun written => written = d.format) (Fault.CausedBy cs) d.written := by
  unfold Duration.written
  split_ifs with hwritable
  · exact rfl
  · exact .manyDigits fun hmodest => hwritable (h hmodest)

theorem yields_intervalOf [StandIns] (kind : Kind) {lower upper : Value}
    (hlower : lower.StandsIn cs) (hupper : upper.StandsIn cs) :
    Yields (fun interval => HasModestNumbers cs → interval.isWritable = true) (Fault.CausedBy cs)
      (intervalOf kind lower upper) := by
  cases kind with
  | category =>
    refine (yields_lowerCategory hlower).bind fun l _ _ => ?_
    refine (yields_upperCategory hupper).bind fun u _ _ => ?_
    split_ifs
    · exact fun _ => rfl
    · exact .misfit (.inl rfl) fun _ => .pair (isEncodable_natText _) (isEncodable_natText _)
  | duration =>
    refine (yields_durationArgument (.of_all_isLow (by decide)) hlower).bind fun l _ hl => ?_
    refine (yields_durationArgument (.of_all_isLow (by decide)) hupper).bind fun u _ hu => ?_
    dsimp only
    split_ifs
    · intro hmodest
      rw [Interval.isWritable, Bool.and_eq_true]
      exact ⟨hl hmodest, hu hmodest⟩
    · refine (yields_written hl).bind fun lowerText _ hlowerText => ?_
      refine (yields_written hu).bind fun upperText _ hupperText => ?_
      refine .misfit (.inl rfl) fun _ => ?_
      rw [hlowerText, hupperText]
      exact .pair l.val.isEncodable_format u.val.isEncodable_format

/-- A rule that is built of values of a text can be written where the numbers of the text are
modest. -/
theorem yields_build [StandIns] (id : Option String) (kind : String) {lower upper result : Value}
    (hlower : lower.StandsIn cs) (hupper : upper.StandsIn cs) (hresult : result.StandsIn cs) :
    Yields (fun r => HasModestNumbers cs → r.isWritable = true) (Fault.CausedBy cs)
      (build id (.text kind) lower upper result) := by
  unfold build
  refine (yields_kindArgument kind).bind fun k _ _ => ?_
  refine (yields_intervalOf k hlower hupper).bind fun interval _ hinterval => ?_
  refine (yields_durationArgument (.of_all_isLow (by decide)) hresult).bind fun d _ hd => ?_
  intro hmodest
  rw [isWritable, Bool.and_eq_true]
  exact ⟨hinterval hmodest, hd hmodest⟩

/-! ## Compact forms -/

theorem yields_bound [StandIns] {text : String} (position : Nat) {front : List Char}
    (h : front <:+: text.toList) :
    Yields (fun read => read.1.toValue.StandsIn text.toList ∧ read.2 <:+: text.toList)
      (Fault.OfCut text.toList) (RuleTokens.bound text position front) := by
  unfold RuleTokens.bound
  split
  · exact .format rfl .singleton
  · next bound rest hcut =>
    obtain ⟨hbound, hrest⟩ := prefix_and_suffix_of_cutBound? hcut
    refine (yields_token (hbound.isInfix.trans h)).bind fun token _ htoken => ?_
    exact ⟨htoken, hrest.isInfix.trans h⟩

/-- The arguments that a text is cut into stand in it. -/
theorem yields_ofText [StandIns] (text : String) :
    Yields (fun t => t.lower.toValue.StandsIn text.toList ∧ t.upper.toValue.StandsIn text.toList ∧
      t.result.toList <:+: text.toList) (Fault.OfCut text.toList) (RuleTokens.ofText text) := by
  unfold RuleTokens.ofText
  refine (yields_bound 1 (List.drop_suffix 1 _).isInfix).bind fun lower _ hlower => ?_
  refine (yields_bound 2 hlower.2).bind fun upper _ hupper => ?_
  dsimp only
  split_ifs
  · exact .format rfl .singleton
  · refine ⟨hlower.1, hupper.1, ?_⟩
    rw [String.toList_ofList]
    exact hupper.2

/-- A compact form gives a rule that can be written where its numbers are modest, or a fault of the
form. -/
theorem yields_parse [StandIns] (id : Option String) (text : String) :
    Yields (fun r => HasModestNumbers text.toList → r.isWritable = true)
      (Fault.CausedBy text.toList) (parse id text) := by
  unfold parse
  have hcut := (yields_ofText text).imp_fault fun _ => Fault.OfCut.causedBy
  refine hcut.bind fun tokens _ htokens => ?_
  exact yields_build id tokens.kind htokens.1 htokens.2.1 (.text htokens.2.2)

end Rule

end TieredTerms
