import TieredTerms.Proofs.Rule.CategoryGrammar

/-!
# Segments of compact forms

A compact form is one character, two bounds and a result, joined to one text.  Behind each bound
stands a `-`, or nothing where the next piece shows by a `P` that it starts there.  Cutting looks
for these marks from left to right; that the pieces are those of the text, and of no other reading
of it, is because a bound holds no mark that could have ended it before.

* `Segments` are the pieces with what stands between them, `Segments.Joins` tells which texts they
  make up.
* `Segment.Ends` tells where a bound ends, and `cutBound?_eq_some_iff` that cutting ends it there.
* `Token.Denotes` is what a bound is understood as.
* `Segments.Joins.unique` and `RuleTokens.ofText_segments` are the two parts of the result: there is
  one way at most, and cutting finds it.
-/

namespace TieredTerms

/-! ## Segments -/

/-- A bound ends in front of what follows: at a `-`, which is in none of its characters but perhaps
the first; or, where no `-` is left, at a `P`, which then is in none of them either. -/
structure Segment.Ends (bound mark rest : List Char) : Prop where
  nonempty : bound ≠ []
  dash : '-' ∉ bound.tail
  mark : mark = ['-'] ∨ mark = [] ∧ '-' ∉ rest ∧ 'P' ∉ bound.tail ∧ rest.head? = some 'P'

/-- The pieces of a compact form, and what stands behind each bound. -/
structure Segments where
  kind : Char
  lower : List Char
  lowerMark : List Char
  upper : List Char
  upperMark : List Char
  result : List Char

/-- The text is made up of a first character and two bounds, each with its end, before a result,
which may still be empty. -/
structure Segments.Bounds (s : Segments) (cs : List Char) : Prop where
  join : cs = s.kind :: (s.lower ++ s.lowerMark ++ (s.upper ++ s.upperMark ++ s.result))
  lower : Segment.Ends s.lower s.lowerMark (s.upper ++ s.upperMark ++ s.result)
  upper : Segment.Ends s.upper s.upperMark s.result

/-- The text is made up of these pieces. -/
structure Segments.Joins (s : Segments) (cs : List Char) : Prop extends s.Bounds cs where
  result : s.result ≠ []

/-! ## Cutting one bound off -/

/-- A bound is cut off where it ends. -/
theorem cutBound?_eq_some_iff {cs bound rest : List Char} :
    cutBound? cs = some (bound, rest) ↔
      ∃ mark, cs = bound ++ mark ++ rest ∧ Segment.Ends bound mark rest := by
  constructor
  · intro h
    obtain ⟨first, before, rfl, hends⟩ := endsBound_of_cutBound? h
    cases hends with
    | dash hdash => exact ⟨['-'], by simp, by simp, hdash, .inl rfl⟩
    | @mark units hdash hmark =>
      rw [List.mem_append, not_or] at hdash
      exact ⟨[], by simp, by simp, hdash.1, .inr ⟨rfl, hdash.2, hmark, rfl⟩⟩
  · rintro ⟨mark, rfl, hne, hdash, hmark⟩
    obtain ⟨first, before, rfl⟩ := List.exists_cons_of_ne_nil hne
    rw [List.tail_cons] at hdash hmark
    rcases hmark with rfl | ⟨rfl, hrest, hbefore, hhead⟩
    · rw [List.append_assoc]
      exact cutBound?_dash hdash rest
    · obtain ⟨units, rfl⟩ := List.head?_eq_some_iff.mp hhead
      rw [List.append_nil]
      exact cutBound?_mark (by simpa [hdash] using hrest) hbefore

/-- Nothing is cut off where neither mark stands behind the first character. -/
theorem cutBound?_eq_none_iff {cs : List Char} :
    cutBound? cs = none ↔ '-' ∉ cs.drop 1 ∧ 'P' ∉ cs.drop 1 := by
  cases cs with
  | nil => simp [cutBound?]
  | cons first cs =>
    rw [List.drop_one, List.tail_cons, cutBound?]
    by_cases hdash : '-' ∈ cs
    · obtain ⟨before, rest, rfl, hbefore⟩ := List.eq_append_cons_of_mem hdash
      simp [cutBefore?_append hbefore]
    · rw [cutBefore?_of_not_mem hdash]
      by_cases hmark : 'P' ∈ cs
      · obtain ⟨before, rest, rfl, hbefore⟩ := List.eq_append_cons_of_mem hmark
        simp [cutBefore?_append hbefore]
      · simp [cutBefore?_of_not_mem hmark, hdash, hmark]

/-! ## Cutting a text -/

/-- Two bounds are cut off a text where pieces make it up. -/
theorem Segments.bounds_iff {cs lower upper result : List Char} :
    (∃ middle, cutBound? (cs.drop 1) = some (lower, middle) ∧
        cutBound? middle = some (upper, result)) ↔
      ∃ s : Segments, s.Bounds cs ∧ s.lower = lower ∧ s.upper = upper ∧ s.result = result := by
  simp only [cutBound?_eq_some_iff]
  constructor
  · rintro ⟨middle, ⟨lowerMark, hlower, hlowerEnds⟩, upperMark, rfl, hupperEnds⟩
    cases cs with
    | nil => exact absurd hlower (by simp [hlowerEnds.nonempty])
    | cons kind cs =>
      obtain rfl : cs = _ := hlower
      exact ⟨⟨kind, lower, lowerMark, upper, upperMark, result⟩, ⟨rfl, hlowerEnds, hupperEnds⟩,
        rfl, rfl, rfl⟩
  · rintro ⟨s, ⟨rfl, hlowerEnds, hupperEnds⟩, rfl, rfl, rfl⟩
    exact ⟨_, ⟨s.lowerMark, rfl, hlowerEnds⟩, s.upperMark, rfl, hupperEnds⟩

/-- A bound ends in one place. -/
theorem Segment.Ends.unique {bound mark rest bound' mark' rest' : List Char}
    (h : Segment.Ends bound mark rest) (h' : Segment.Ends bound' mark' rest')
    (hsame : bound ++ mark ++ rest = bound' ++ mark' ++ rest') :
    bound = bound' ∧ mark = mark' ∧ rest = rest' := by
  have hcut := cutBound?_eq_some_iff.mpr ⟨mark, rfl, h⟩
  have hcut' := cutBound?_eq_some_iff.mpr ⟨mark', hsame, h'⟩
  cases hcut.symm.trans hcut'
  exact ⟨rfl, List.append_cancel_left (List.append_cancel_right hsame), rfl⟩

/-- There is one way at most to make a text up of pieces. -/
theorem Segments.Bounds.unique {s s' : Segments} {cs : List Char} (h : s.Bounds cs)
    (h' : s'.Bounds cs) : s = s' := by
  obtain ⟨kind, lower, lowerMark, upper, upperMark, result⟩ := s
  obtain ⟨kind', lower', lowerMark', upper', upperMark', result'⟩ := s'
  obtain ⟨rfl, hrest⟩ := List.cons.inj (h.join.symm.trans h'.join)
  obtain ⟨rfl, rfl, hmiddle⟩ := h.lower.unique h'.lower hrest
  obtain ⟨rfl, rfl, rfl⟩ := h.upper.unique h'.upper hmiddle
  rfl

/-- Behind the first bound of a text there is a mark. -/
theorem Segments.Bounds.exists_mark {s : Segments} {cs : List Char} (h : s.Bounds cs) :
    ¬('-' ∉ cs.drop 2 ∧ 'P' ∉ cs.drop 2) := by
  obtain ⟨middle, hlower, -⟩ := bounds_iff.mpr ⟨s, h, rfl, rfl, rfl⟩
  rw [← List.drop_drop (i := 1) (j := 1), ← cutBound?_eq_none_iff, hlower]
  exact Option.some_ne_none _

/-- The bounds of a text are pieces of it. -/
theorem Segments.Bounds.infix {s : Segments} {cs : List Char} (h : s.Bounds cs) :
    s.lower <:+: cs ∧ s.upper <:+: cs := by
  rw [h.join]
  exact ⟨⟨[s.kind], s.lowerMark ++ (s.upper ++ s.upperMark ++ s.result), by simp⟩,
    ⟨s.kind :: (s.lower ++ s.lowerMark), s.upperMark ++ s.result, by simp⟩⟩

/-! ## Understanding bounds -/

/-- What a bound is understood as: the whole number that it writes, or its text if it writes
none. -/
inductive Token.Denotes (bound : List Char) : Token → Prop
  | number {n : Int} (h : IntegerText.Writes bound n) : Denotes bound (.number n)
  | text (h : ∀ n, ¬IntegerText.Writes bound n) : Denotes bound (.text (String.ofList bound))

/-- A bound without too many digits is understood. -/
theorem Token.exists_denotes {bound : List Char} (hshort : ∀ count, ¬HasLongRun bound count) :
    ∃ token, Token.ofChars bound = .ok token ∧ Token.Denotes bound token := by
  by_cases hnumber : ∃ n, IntegerText.Writes bound n
  · obtain ⟨n, hn⟩ := hnumber
    exact ⟨.number n, (Token.ofChars_eq_number_iff hshort).mpr hn, .number hn⟩
  · rw [not_exists] at hnumber
    refine ⟨.text (String.ofList bound), ?_, .text hnumber⟩
    cases hread : IntegerText.ofChars? bound with
    | none => rw [Token.ofChars, hread]
    | some written => exact absurd (IntegerText.writes_of_ofChars? hread) (hnumber _)

/-! ## Cutting a text into segments -/

namespace RuleTokens

variable {text : String} {s : Segments}

/-- Where both bounds are found, what is missing can only be the result. -/
theorem ofText_of_bounds (hshort : ∀ count, ¬HasLongRun text.toList count)
    (h : s.Bounds text.toList) :
    ∃ lower upper, Token.Denotes s.lower lower ∧ Token.Denotes s.upper upper ∧
      ofText text = if s.result = [] then .error (.resultMissing text)
        else .ok ⟨String.singleton s.kind, lower, upper, String.ofList s.result⟩ := by
  obtain ⟨hlowerPart, hupperPart⟩ := h.infix
  obtain ⟨lower, hlower, hlowerDenotes⟩ :=
    Token.exists_denotes fun count hlong => hshort count (hlong.mono hlowerPart)
  obtain ⟨upper, hupper, hupperDenotes⟩ :=
    Token.exists_denotes fun count hlong => hshort count (hlong.mono hupperPart)
  obtain ⟨middle, hlowerCut, hupperCut⟩ := Segments.bounds_iff.mpr ⟨s, h, rfl, rfl, rfl⟩
  refine ⟨lower, upper, hlowerDenotes, hupperDenotes, ?_⟩
  have hkind : text.toList.take 1 = [s.kind] := by
    rw [h.join]
    rfl
  simp only [ofText, bound, hlowerCut, hupperCut, hlower, hupper, hkind, ok_bind, pure_eq_ok,
    throw_eq_error, List.isEmpty_iff]
  split_ifs <;> rfl

/-- Where a bound is not found, it is the first one exactly if there is no mark at all. -/
theorem ofText_of_not_bounds (hshort : ∀ count, ¬HasLongRun text.toList count)
    (h : ¬∃ s : Segments, s.Bounds text.toList) :
    ofText text = .error (.boundMissing
      (if '-' ∉ text.toList.drop 2 ∧ 'P' ∉ text.toList.drop 2 then 1 else 2) text) := by
  have hmarks : cutBound? (text.toList.drop 1) = none ↔
      '-' ∉ text.toList.drop 2 ∧ 'P' ∉ text.toList.drop 2 := by
    rw [cutBound?_eq_none_iff, List.drop_drop]
  cases hlowerCut : cutBound? (text.toList.drop 1) with
  | none =>
    rw [if_pos (hmarks.mp hlowerCut)]
    simp only [ofText, bound, hlowerCut, error_bind]
  | some cut =>
    obtain ⟨lower, middle⟩ := cut
    have hfirst := hmarks.not.mp (hlowerCut ▸ Option.some_ne_none _)
    have hpart := (prefix_and_suffix_of_cutBound? hlowerCut).1.isInfix.trans
      (List.drop_suffix 1 _).isInfix
    obtain ⟨token, htoken, -⟩ :=
      Token.exists_denotes fun count hlong => hshort count (hlong.mono hpart)
    cases hupperCut : cutBound? middle with
    | none =>
      rw [if_neg hfirst]
      simp only [ofText, bound, hlowerCut, hupperCut, htoken, ok_bind, error_bind, pure_eq_ok]
    | some cut =>
      obtain ⟨upper, result⟩ := cut
      obtain ⟨s, hs, -⟩ := Segments.bounds_iff.mp ⟨middle, hlowerCut, hupperCut⟩
      exact absurd ⟨s, hs⟩ h

/-- A text that is made up of pieces gives them. -/
theorem ofText_of_joins (hshort : ∀ count, ¬HasLongRun text.toList count)
    (h : s.Joins text.toList) :
    ∃ lower upper, Token.Denotes s.lower lower ∧ Token.Denotes s.upper upper ∧
      ofText text = .ok ⟨String.singleton s.kind, lower, upper, String.ofList s.result⟩ := by
  obtain ⟨lower, upper, hlower, hupper, heq⟩ := ofText_of_bounds hshort h.toBounds
  exact ⟨lower, upper, hlower, hupper, heq.trans (if_neg h.result)⟩

/-- A text is cut only where pieces make it up. -/
theorem exists_joins_of_ofText (hshort : ∀ count, ¬HasLongRun text.toList count) {t : RuleTokens}
    (h : ofText text = .ok t) : ∃ s : Segments, s.Joins text.toList := by
  by_cases hbounds : ∃ s : Segments, s.Bounds text.toList
  · obtain ⟨s, hs⟩ := hbounds
    obtain ⟨lower, upper, -, -, heq⟩ := ofText_of_bounds hshort hs
    refine ⟨s, hs, fun hresult => ?_⟩
    rw [h, if_pos hresult] at heq
    cases heq
  · rw [ofText_of_not_bounds hshort hbounds] at h
    cases h

/-- The result is missing where a text ends behind its bounds. -/
theorem ofText_eq_resultMissing_iff (hshort : ∀ count, ¬HasLongRun text.toList count) :
    ofText text = .error (.resultMissing text) ↔
      ∃ s : Segments, s.Bounds text.toList ∧ s.result = [] := by
  constructor
  · intro h
    by_cases hbounds : ∃ s : Segments, s.Bounds text.toList
    · obtain ⟨s, hs⟩ := hbounds
      obtain ⟨lower, upper, -, -, heq⟩ := ofText_of_bounds hshort hs
      by_contra hnone
      rw [h, if_neg fun hresult => hnone ⟨s, hs, hresult⟩] at heq
      cases heq
    · rw [ofText_of_not_bounds hshort hbounds] at h
      cases h
  · rintro ⟨s, hs, hresult⟩
    obtain ⟨lower, upper, -, -, heq⟩ := ofText_of_bounds hshort hs
    rw [heq, if_pos hresult]

/-- The first bound is missing where there is no mark behind the second character. -/
theorem ofText_eq_boundMissing_iff (hshort : ∀ count, ¬HasLongRun text.toList count) :
    ofText text = .error (.boundMissing 1 text) ↔
      '-' ∉ text.toList.drop 2 ∧ 'P' ∉ text.toList.drop 2 := by
  by_cases hbounds : ∃ s : Segments, s.Bounds text.toList
  · obtain ⟨s, hs⟩ := hbounds
    obtain ⟨lower, upper, -, -, heq⟩ := ofText_of_bounds hshort hs
    refine iff_of_false ?_ hs.exists_mark
    rw [heq]
    split_ifs <;> simp
  · rw [ofText_of_not_bounds hshort hbounds]
    split_ifs with hmarks
    · exact iff_of_true rfl hmarks
    · exact iff_of_false (by simp) hmarks

/-- Cutting finds the segments.  A text is cut where pieces make it up, which they do in one way,
and gives these pieces, with bounds that write whole numbers as numbers.  Any other text is of the
wrong format: without marks behind its second character it has no lower bound, and it has no result
where it ends behind two bounds. -/
theorem ofText_segments (hshort : ∀ count, ¬HasLongRun text.toList count) :
    ((∃ t, ofText text = .ok t) ↔ ∃ s : Segments, s.Joins text.toList) ∧
    (∀ s s' : Segments, s.Joins text.toList → s'.Joins text.toList → s = s') ∧
    (∀ s : Segments, s.Joins text.toList →
      ∃ lower upper, Token.Denotes s.lower lower ∧ Token.Denotes s.upper upper ∧
        ofText text = .ok ⟨String.singleton s.kind, lower, upper, String.ofList s.result⟩) ∧
    ((¬∃ s : Segments, s.Joins text.toList) →
      ∃ fault ∈ [.boundMissing 1 text, .boundMissing 2 text, .resultMissing text],
        ofText text = .error fault ∧ fault.faultClass = .format) ∧
    (ofText text = .error (.boundMissing 1 text) ↔
      '-' ∉ text.toList.drop 2 ∧ 'P' ∉ text.toList.drop 2) ∧
    (ofText text = .error (.resultMissing text) ↔
      ∃ s : Segments, s.Bounds text.toList ∧ s.result = []) := by
  refine ⟨⟨fun ⟨t, ht⟩ => exists_joins_of_ofText hshort ht, ?_⟩,
    fun s s' hs hs' => hs.toBounds.unique hs'.toBounds, fun s hs => ofText_of_joins hshort hs, ?_,
    ofText_eq_boundMissing_iff hshort, ofText_eq_resultMissing_iff hshort⟩
  · rintro ⟨s, hs⟩
    obtain ⟨lower, upper, -, -, heq⟩ := ofText_of_joins hshort hs
    exact ⟨_, heq⟩
  · intro hnone
    by_cases hbounds : ∃ s : Segments, s.Bounds text.toList
    · obtain ⟨s, hs⟩ := hbounds
      have hresult : s.result = [] := by
        by_contra hne
        exact hnone ⟨s, hs, hne⟩
      exact ⟨.resultMissing text, by simp,
        (ofText_eq_resultMissing_iff hshort).mpr ⟨s, hs, hresult⟩, rfl⟩
    · refine ⟨_, ?_, ofText_of_not_bounds hshort hbounds, rfl⟩
      split_ifs <;> simp

/-- A lower bound that starts with a `-` and holds a `P`, an upper bound in digits of another
script, and a result that starts with a `-`. -/
def signedSegments : Segments :=
  ⟨'D', ['-', 'P', '1', 'D'], ['-'], ['٣'], ['-'], ['-', 'P', '2', 'D']⟩

theorem ofText_segments_signed :
    (∀ count, ¬HasLongRun "D-P1D-٣--P2D".toList count) ∧
    signedSegments.Joins "D-P1D-٣--P2D".toList ∧
    (∀ s : Segments, s.Joins "D-P1D-٣--P2D".toList → s = signedSegments) ∧
    Token.Denotes signedSegments.lower (.text "-P1D") ∧
    Token.Denotes signedSegments.upper (.number 3) ∧
    ofText "D-P1D-٣--P2D" = .ok ⟨"D", .text "-P1D", .number 3, "-P2D"⟩ := by
  have hshort : ∀ count, ¬HasLongRun "D-P1D-٣--P2D".toList count := not_hasLongRun (by decide)
  have hjoins : signedSegments.Joins "D-P1D-٣--P2D".toList :=
    ⟨⟨by decide, ⟨by decide, by decide, .inl rfl⟩, ⟨by decide, by decide, .inl rfl⟩⟩, by decide⟩
  have hcut : ofText "D-P1D-٣--P2D" = .ok ⟨"D", .text "-P1D", .number 3, "-P2D"⟩ := by decide
  obtain ⟨-, hunique, hpieces, -⟩ := ofText_segments hshort
  obtain ⟨lower, upper, hlower, hupper, heq⟩ := hpieces _ hjoins
  obtain ⟨-, rfl, rfl, -⟩ := RuleTokens.mk.inj (Except.ok.inj (hcut.symm.trans heq))
  exact ⟨hshort, hjoins, fun s hs => hunique s _ hs hjoins, hlower, hupper, hcut⟩

end RuleTokens

end TieredTerms
