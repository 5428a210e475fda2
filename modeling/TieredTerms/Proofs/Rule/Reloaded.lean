import TieredTerms.Proofs.Duration.OneSided
import TieredTerms.Proofs.Rule.Pieces

/-!
# Rules that are read from what was written of them

A written duration shows the sign of a part in front of all parts, and the compact form takes a `-`
for the mark between bounds.  So where the compact form of a rule is read at all, the signs of its
durations are lost, and years and months have been cut to the precision.

* `Rule.reloadedAs_of_parse`: what is read has the bounds of the rule if these are whole numbers,
  and its durations without their signs.
* `Rule.parse_compact_keeps`: it is equal to the rule, with the same projections, exactly where
  every duration without its sign has the projection that it has with it.
-/

namespace TieredTerms

/-! ## What is read -/

/-- The whole numbers of the first interval, or its durations without their signs, are the bounds
of the second. -/
def Interval.ReloadedAs : Interval → Interval → Prop
  | .category lower upper .., .category lower' upper' .. => lower' = lower ∧ upper' = upper
  | .duration lower upper .., .duration lower' upper' .. =>
    lower' = lower.unsigned.reread ∧ upper' = upper.unsigned.reread
  | _, _ => False

/-- The second rule has the bounds and the result of the first, durations without their signs. -/
structure Rule.ReloadedAs (r s : Rule) : Prop where
  interval : r.interval.ReloadedAs s.interval
  result : s.result = r.result.unsigned.reread

namespace Duration

/-- The written form without exponents: a `P` and characters of units, perhaps behind a sign. -/
private theorem signed_formatChars {d : Duration} (h : 'E' ∉ d.formatChars) :
    ∃ units, UnitChars units ∧ d.unsigned.formatChars = 'P' :: units ∧
      ((d.hasMinus = false ∧ d.formatChars = 'P' :: units) ∨
        (d.hasMinus = true ∧ d.formatChars = '-' :: 'P' :: units)) := by
  obtain ⟨units, hunits, -, hchars, -⟩ := (isPlain_unsigned h).formatChars_eq
  refine ⟨units, hchars, hunits, ?_⟩
  rw [formatChars_eq h, hunits]
  cases d.hasMinus with
  | false => exact .inl ⟨rfl, rfl⟩
  | true => exact .inr ⟨rfl, rfl⟩

/-- Without the sign, a duration is read in one way only. -/
private theorem eq_reread_of_read {d e : Duration} (h : 'E' ∉ d.formatChars) {units : List Char}
    (hunits : d.unsigned.formatChars = 'P' :: units)
    (hread : read (String.ofList ('P' :: units)) = .ok e) : e = d.unsigned.reread := by
  have hplain := read_format (isPlain_unsigned h)
  rw [format, hunits, hread] at hplain
  exact Except.ok.inj hplain

/-- With the sign, a duration is below zero. -/
private theorem isNegative_of_read_signed {d e : Duration} (h : 'E' ∉ d.formatChars)
    (hminus : d.hasMinus = true) {units : List Char}
    (hunits : d.unsigned.formatChars = 'P' :: units)
    (hread : read (String.ofList ('-' :: 'P' :: units)) = .ok e) : e.isNegative = true := by
  have hplain := isPlain_unsigned h
  have hparse := parse?_of_read hread
  rw [parse?, String.toList_ofList, ← hunits, ofChars?_signed hplain] at hparse
  refine (isPlain_reread hplain).isNegative_neg? hparse ?_
  have hne := ne_zero_of_hasMinus h hminus
  rwa [years_reread, months_reread, time_reread, Decimal.isZero_tidy, Decimal.isZero_tidy]

end Duration

namespace Rule

/-- Whole numbers are cut off in front of a written duration, whether it has a sign or not. -/
private theorem reloadedAs_category {lower upper : Nat} {units result : List Char}
    (hunits : Duration.UnitChars units)
    (hresult : result = 'P' :: units ∨ result = '-' :: 'P' :: units)
    {lowerChars upperChars middle rest : List Char} {lowerToken upperToken : Token}
    (hlowerCut : cutBound? (Nat.toDigits 10 lower ++ '-' :: (Nat.toDigits 10 upper ++ result)) =
      some (lowerChars, middle))
    (hupperCut : cutBound? middle = some (upperChars, rest))
    (hlower : Token.ofChars lowerChars = .ok lowerToken)
    (hupper : Token.ofChars upperChars = .ok upperToken) :
    lowerToken = .number lower ∧ upperToken = .number upper ∧ rest = 'P' :: units := by
  rw [cutBound?_toDigits_dash] at hlowerCut
  cases hlowerCut
  have hnumber {n : Nat} {token : Token} (h : Token.ofChars (Nat.toDigits 10 n) = .ok token) :
      token = .number n := by
    rw [Token.ofChars, ofChars?_toDigits] at h
    dsimp only at h
    split_ifs at h
    cases h
    simp [IntegerText.value]
  rcases hresult with rfl | rfl
  · rw [cutBound?_toDigits_mark upper hunits] at hupperCut
    cases hupperCut
    exact ⟨hnumber hlower, hnumber hupper, rfl⟩
  · rw [cutBound?_toDigits_dash] at hupperCut
    cases hupperCut
    exact ⟨hnumber hlower, hnumber hupper, rfl⟩

/-- No bound is cut off of a single written duration. -/
private theorem cutBound?_units {units : List Char} (h : Duration.UnitChars units) :
    cutBound? ('P' :: units) = none := by
  obtain ⟨hdash, hmark⟩ := Duration.not_mem_units h
  rw [cutBound?, cutBefore?_of_not_mem hdash, cutBefore?_of_not_mem hmark]
  rfl

/-- Three written durations, each with a sign or without one, are cut between them, or else after a
sign in front of all.  A sign behind the first bound is taken for the mark between bounds. -/
private theorem cut_durations {l u r : List Char} (hl : Duration.UnitChars l)
    (hu : Duration.UnitChars u) (hr : Duration.UnitChars r) {lower upper result : List Char}
    (hlower : lower = 'P' :: l ∨ lower = '-' :: 'P' :: l)
    (hupper : upper = 'P' :: u ∨ upper = '-' :: 'P' :: u)
    (hresult : result = 'P' :: r ∨ result = '-' :: 'P' :: r)
    {lowerChars middle upperChars rest : List Char}
    (hlowerCut : cutBound? (lower ++ (upper ++ result)) = some (lowerChars, middle))
    (hupperCut : cutBound? middle = some (upperChars, rest)) :
    lowerChars = ['-'] ∨ (lowerChars = lower ∧ upperChars = 'P' :: u ∧ rest = 'P' :: r) := by
  obtain ⟨hlDash, hlMark⟩ := Duration.not_mem_units hl
  obtain ⟨huDash, huMark⟩ := Duration.not_mem_units hu
  obtain ⟨hrDash, -⟩ := Duration.not_mem_units hr
  have hdash {first : Char} {bound : List Char} (hbound : '-' ∉ bound)
      (hsigned : upper = '-' :: 'P' :: u) (hfirst : lower = first :: bound) :
      lowerChars = lower ∧ upperChars = 'P' :: u ∧ rest = 'P' :: r := by
    rw [hsigned, hfirst] at hlowerCut
    cases (cutBound?_dash hbound ('P' :: u ++ result)).symm.trans hlowerCut
    rcases hresult with rfl | rfl
    · rw [cutBound?_units_mark hu hrDash] at hupperCut
      cases hupperCut
      exact ⟨hfirst.symm, rfl, rfl⟩
    · rw [cutBound?_units_dash hu] at hupperCut
      cases hupperCut
      exact ⟨hfirst.symm, rfl, rfl⟩
  have hmissing {first : Char} {bound : List Char} (hbound : '-' ∉ bound)
      (hfirst : lower ++ upper = first :: bound) : result ≠ '-' :: 'P' :: r := by
    rintro rfl
    rw [← List.append_assoc, hfirst, cutBound?_dash hbound] at hlowerCut
    cases hlowerCut
    rw [cutBound?_units hr] at hupperCut
    cases hupperCut
  have hbounds : '-' ∉ l ++ 'P' :: u := by simp [hlDash, huDash]
  have hlSign : '-' ∉ 'P' :: l := by simp [hlDash]
  rcases hlower with rfl | rfl
  · rcases hupper with rfl | rfl
    · have hunsigned := hresult.resolve_right (hmissing hbounds rfl)
      subst hunsigned
      have hfirst : '-' ∉ u ++ 'P' :: r := by simp [huDash, hrDash]
      cases (cutBound?_units_mark hl hfirst).symm.trans hlowerCut
      cases (cutBound?_units_mark hu hrDash).symm.trans hupperCut
      exact .inr ⟨rfl, rfl, rfl⟩
    · exact .inr (hdash hlDash rfl rfl)
  · rcases hupper with rfl | rfl
    · have hboundsSign : '-' ∉ 'P' :: l ++ 'P' :: u := by simp [hlDash, huDash]
      have hunsigned := hresult.resolve_right (hmissing hboundsSign rfl)
      subst hunsigned
      left
      have hdashes : '-' ∉ [] ++ 'P' :: (l ++ ('P' :: u ++ 'P' :: r)) := by
        simp [hlDash, huDash, hrDash]
      have hcut : cutBound? ('-' :: [] ++ 'P' :: (l ++ ('P' :: u ++ 'P' :: r))) =
          some (['-'], 'P' :: (l ++ ('P' :: u ++ 'P' :: r))) :=
        cutBound?_mark hdashes (by simp)
      cases hcut.symm.trans hlowerCut
      rfl
    · exact .inr (hdash hlSign rfl rfl)

/-- The text of a sign alone gives no duration. -/
private theorem read_sign (d : Duration) : Duration.read (String.ofList ['-']) ≠ .ok d := by
  have hread : Duration.read (String.ofList ['-']) = .error .form := by decide
  rw [hread]
  exact fun h => nomatch h

/-- Without exponents in its compact form, no duration of a rule is written with one. -/
theorem not_mem_parts {r : Rule} (h : 'E' ∉ r.compactChars) :
    'E' ∉ r.interval.compactChars ∧ 'E' ∉ r.result.formatChars := by
  rw [compactChars, List.mem_append, List.mem_cons, not_or, not_or] at h
  exact ⟨h.1.2, h.2⟩

/-- Where the compact form of a rule is read, what is read has the bounds and the result of the
rule, durations without their signs. -/
theorem reloadedAs_of_parse [StandIns] {id : Option String} {r s : Rule}
    (h : parse id r.compact = .ok s) : r.kind = s.kind ∧ r.ReloadedAs s := by
  have hplain := not_mem_of_parse h
  obtain ⟨chars, lowerChars, upperChars, middle, rest, lowerToken, upperToken, htext, hlowerCut,
    hlower, hupperCut, hupper, hinterval, hresult⟩ := parse_eq_ok h
  rw [compact, String.toList_ofList] at hplain htext
  have hchars : chars = r.interval.compactChars ++ r.result.formatChars := by
    rw [compactChars] at htext
    exact (List.cons.inj htext).2.symm
  have hkind : r.kind = s.kind := by
    rw [compactChars] at htext
    have htag := (List.cons.inj htext).1
    revert htag
    cases r.kind <;> cases s.kind <;> decide
  obtain ⟨hintervalPlain, hresultPlain⟩ := not_mem_parts hplain
  obtain ⟨units, hunits, hunsigned, hsigned⟩ := Duration.signed_formatChars hresultPlain
  have hresultForm := hsigned.imp And.right And.right
  rw [hchars] at hlowerCut
  have hkindInterval : r.interval.kind = s.kind := hkind
  refine ⟨hkind, ?_⟩
  cases hbounds : r.interval with
  | category lower upper lower_pos ordered =>
    rw [hbounds] at hlowerCut hkindInterval
    rw [Interval.compactChars, List.append_assoc, List.cons_append] at hlowerCut
    obtain ⟨rfl, rfl, rfl⟩ :=
      reloadedAs_category hunits hresultForm hlowerCut hupperCut hlower hupper
    rw [← hkindInterval] at hinterval
    obtain ⟨l, u, l_pos, ordered', hlowerArgument, hupperArgument, hrestored⟩ :=
      intervalOf_category_eq_ok hinterval
    have hlowerSame := lowerCategory_eq_ok hlowerArgument
    have hupperSame := upperCategory_eq_ok hupperArgument
    cases hlowerSame
    cases hupperSame
    refine ⟨?_, Duration.eq_reread_of_read hresultPlain hunsigned hresult⟩
    rw [hbounds, hrestored]
    exact ⟨rfl, rfl⟩
  | duration lower upper lower_valid upper_valid ordered =>
    rw [hbounds] at hlowerCut hkindInterval hintervalPlain
    rw [Interval.compactChars, List.append_assoc] at hlowerCut
    rw [Interval.compactChars, List.mem_append, not_or] at hintervalPlain
    obtain ⟨lowerUnits, hlowerUnits, hlowerUnsigned, hlowerSigned⟩ :=
      Duration.signed_formatChars hintervalPlain.1
    obtain ⟨upperUnits, hupperUnits, hupperUnsigned, hupperSigned⟩ :=
      Duration.signed_formatChars hintervalPlain.2
    rw [← hkindInterval] at hinterval
    obtain ⟨l, u, l_valid, u_valid, ordered', hlowerArgument, hupperArgument, hrestored⟩ :=
      intervalOf_duration_eq_ok hinterval
    have hcut := cut_durations hlowerUnits hupperUnits hunits (hlowerSigned.imp And.right And.right)
      (hupperSigned.imp And.right And.right) hresultForm hlowerCut hupperCut
    rcases hcut with rfl | ⟨rfl, rfl, rfl⟩
    · cases hlower
      exact absurd (read_of_durationArgument hlowerArgument) (read_sign l)
    · rw [Token.ofChars_mark] at hupper
      cases hupper
      have hu := Duration.eq_reread_of_read hintervalPlain.2 hupperUnsigned
        (read_of_durationArgument hupperArgument)
      rcases hlowerSigned with ⟨-, hform⟩ | ⟨hminus, hform⟩
      · rw [hform, Token.ofChars_mark] at hlower
        cases hlower
        have hl := Duration.eq_reread_of_read hintervalPlain.1 hlowerUnsigned
          (read_of_durationArgument hlowerArgument)
        refine ⟨?_, Duration.eq_reread_of_read hresultPlain hunsigned hresult⟩
        rw [hbounds, hrestored]
        exact ⟨hl, hu⟩
      · -- A lower bound with its sign would be below zero.
        rw [hform, Token.ofChars_signed_mark] at hlower
        cases hlower
        have hneg := Duration.isNegative_of_read_signed hintervalPlain.1 hminus hlowerUnsigned
          (read_of_durationArgument hlowerArgument)
        rw [l_valid] at hneg
        cases hneg

end Rule

/-! ## What is kept -/

/-- The durations among the bounds have the same projections with their signs and without them. -/
def Interval.KeepsProjections : Interval → Prop
  | .category .. => True
  | .duration lower upper .. => lower.KeepsProjection ∧ upper.KeepsProjection

/-- Two intervals of one kind with the same whole numbers or projections as bounds. -/
def Interval.SameProjections : Interval → Interval → Prop
  | .category lower upper .., .category lower' upper' .. => lower = lower' ∧ upper = upper'
  | .duration lower upper .., .duration lower' upper' .. =>
    lower.seconds.same lower'.seconds = true ∧ upper.seconds.same upper'.seconds = true
  | _, _ => False

namespace Interval

/-- The projections of bounds that are read are those of the interval where signs do not count. -/
private theorem ReloadedAs.sameProjections_iff {a b : Interval} (h : a.ReloadedAs b)
    (hplain : 'E' ∉ a.compactChars) : a.SameProjections b ↔ a.KeepsProjections := by
  cases a with
  | category =>
    cases b with
    | category => exact ⟨fun _ => trivial, fun _ => ⟨h.1.symm, h.2.symm⟩⟩
    | duration => exact h.elim
  | duration lower upper =>
    cases b with
    | category => exact h.elim
    | duration =>
      obtain ⟨rfl, rfl⟩ := h
      rw [compactChars, List.mem_append, not_or] at hplain
      rw [SameProjections, KeepsProjections, Duration.keepsProjection_iff hplain.1,
        Duration.keepsProjection_iff hplain.2]

/-- Where the projections are kept, bounds that are read are compared in the same way. -/
private theorem ReloadedAs.key {a b : Interval} (h : a.ReloadedAs b)
    (hplain : 'E' ∉ a.compactChars) (hkeeps : a.KeepsProjections) :
    ∃ key, a.key = .ok key ∧ b.key = .ok key := by
  cases a with
  | category =>
    cases b with
    | category =>
      obtain ⟨rfl, rfl⟩ := h
      exact ⟨_, rfl, rfl⟩
    | duration => exact h.elim
  | duration lower upper =>
    cases b with
    | category => exact h.elim
    | duration =>
      obtain ⟨rfl, rfl⟩ := h
      rw [compactChars, List.mem_append, not_or] at hplain
      obtain ⟨lowerMillis, hlower, hlower'⟩ := hkeeps.1.milliseconds hplain.1
      obtain ⟨upperMillis, hupper, hupper'⟩ := hkeeps.2.milliseconds hplain.2
      exact ⟨(lowerMillis, upperMillis), by simp [Interval.key, hlower, hupper],
        by simp [Interval.key, hlower', hupper']⟩

end Interval

namespace Rule

/-- Every duration of the rule has the same projection with its sign and without it. -/
structure KeepsProjections (r : Rule) : Prop where
  interval : r.interval.KeepsProjections
  result : r.result.KeepsProjection

/-- Two rules of one kind with the same projections. -/
structure SameProjections (r s : Rule) : Prop where
  kind : r.kind = s.kind
  interval : r.interval.SameProjections s.interval
  result : r.result.seconds.same s.result.seconds = true

/-- A plain rule has no signs to lose. -/
theorem IsPlain.keepsProjections {r : Rule} (h : r.IsPlain) : r.KeepsProjections := by
  have hinterval := h.interval
  refine ⟨?_, h.result.keepsProjection⟩
  cases hbounds : r.interval with
  | category => trivial
  | duration =>
    rw [hbounds] at hinterval
    exact ⟨hinterval.1.keepsProjection, hinterval.2.keepsProjection⟩

/-- The projections of what is read are those of the rule where signs do not count. -/
private theorem sameProjections_iff {r s : Rule} (hplain : 'E' ∉ r.compactChars)
    (hkind : r.kind = s.kind) (h : r.ReloadedAs s) : r.SameProjections s ↔ r.KeepsProjections := by
  obtain ⟨hintervalPlain, hresultPlain⟩ := not_mem_parts hplain
  have hresult : r.result.seconds.same s.result.seconds = true ↔ r.result.KeepsProjection := by
    rw [h.result, Duration.keepsProjection_iff hresultPlain]
  have hinterval := h.interval.sameProjections_iff hintervalPlain
  exact ⟨fun hsame => ⟨hinterval.mp hsame.interval, hresult.mp hsame.result⟩,
    fun hkeeps => ⟨hkind, hinterval.mpr hkeeps.interval, hresult.mpr hkeeps.result⟩⟩

/-- Where the projections are kept, what is read is equal to the rule. -/
private theorem equal_of_keepsProjections {r s : Rule} (hplain : 'E' ∉ r.compactChars)
    (hkind : r.kind = s.kind) (h : r.ReloadedAs s) (hkeeps : r.KeepsProjections) :
    r.equal s = .ok true := by
  obtain ⟨hintervalPlain, hresultPlain⟩ := not_mem_parts hplain
  obtain ⟨millis, hmillis, hmillis'⟩ := hkeeps.result.milliseconds hresultPlain
  obtain ⟨key, hkey, hkey'⟩ := h.interval.key hintervalPlain hkeeps.interval
  rw [← h.result] at hmillis'
  simp [equal, Rule.key, hkey, hkey', hmillis, hmillis', hkind]

/-- Where the compact form of a rule is read, what is read has the bounds and the result of the
rule, durations without their signs.  So it is equal to the rule, of the same kind and with the same
projections, exactly where every duration of the rule has the projection of its magnitude.  A plain
rule is of that sort. -/
theorem parse_compact_keeps [StandIns] (id : Option String) {r s : Rule}
    (h : parse id r.compact = .ok s) : r.ReloadedAs s ∧
      ((r.equal s = .ok true ∧ r.SameProjections s) ↔ r.KeepsProjections) ∧
      (r.IsPlain → r.KeepsProjections) := by
  obtain ⟨hkind, hreloaded⟩ := reloadedAs_of_parse h
  have hplain := not_mem_of_parse h
  rw [compact, String.toList_ofList] at hplain
  have hsame := sameProjections_iff hplain hkind hreloaded
  refine ⟨hreloaded, ⟨fun hequal => hsame.mp hequal.2, fun hkeeps => ?_⟩, IsPlain.keepsProjections⟩
  exact ⟨equal_of_keepsProjections hplain hkind hreloaded hkeeps, hsame.mpr hkeeps⟩

/-- Categories from four on give a year and four hundred days. -/
def yearAhead : Rule where
  interval := .category 4 0 (by decide) (by decide)
  result := .calendar (Decimal.ofInt 1) (Decimal.ofInt 0)
    ⟨400 * microsPerDay, by decide, by decide⟩
  id := none
  result_valid := by decide +kernel

theorem parse_compact_keeps_yearAhead :
    parse none yearAhead.compact = .ok yearAhead ∧ yearAhead.IsPlain ∧
      yearAhead.ReloadedAs yearAhead ∧
      yearAhead.equal yearAhead = .ok true ∧ yearAhead.SameProjections yearAhead := by
  have hparse : parse none yearAhead.compact = .ok yearAhead := by decide +kernel
  have hplain : yearAhead.IsPlain :=
    ⟨⟨by decide +kernel, by decide +kernel⟩,
      ⟨by decide, by decide, by decide⟩, ⟨by decide, by decide, by decide⟩, by decide⟩
  obtain ⟨hreloaded, hkeeps, hsufficient⟩ := parse_compact_keeps none hparse
  exact ⟨hparse, hplain, hreloaded, hkeeps.mpr (hsufficient hplain)⟩

/-- Categories from four on give four hundred days less a year. -/
def yearBack : Rule where
  interval := .category 4 0 (by decide) (by decide)
  result := .calendar (Decimal.ofInt (-1)) (Decimal.ofInt 0)
    ⟨400 * microsPerDay, by decide, by decide⟩
  id := none
  result_valid := by decide +kernel

/-- A rule that is read from its compact form is not always equal to the rule: a year back becomes a
year ahead. -/
theorem parse_compact_yearBack :
    build none (.text "C") (.int 4) (.int 0) (.duration yearBack.result) = .ok yearBack ∧
      parse none yearBack.compact = .ok yearAhead ∧ yearBack.equal yearAhead = .ok false := by
  decide +kernel

end Rule

end TieredTerms
