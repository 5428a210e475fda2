import Mathlib.Algebra.Group.Nat.Defs
import Mathlib.Data.List.GetD
import TieredTerms.Proofs.Screen.Unaltered
import TieredTerms.Proofs.Text.Characters
import TieredTerms.Text.Quoted

/-!
# Texts without lone units

An encoding takes every text that has no lone units.  Wherever a text is shown between quotes, its
lone units are escaped, so that an encoding takes what is shown whatever the text is.

* `IsEncodable` are the characters without lone units, `HasNoLoneUnits` the texts without them.
* `isSome_loneUnit?_of_isPrintable` tells that no lone unit is printable.
* `isEncodable_quoted` is about a text between quotes.
-/

namespace TieredTerms

/-- Characters none of which stands for a lone unit. -/
def IsEncodable [StandIns] (cs : List Char) : Prop :=
  ∀ c ∈ cs, (loneUnit? c).isSome = false

instance [StandIns] (cs : List Char) : Decidable (IsEncodable cs) :=
  List.decidableBAll (fun c => (loneUnit? c).isSome = false) cs

/-- No character that a stream takes as it is stands for a lone unit. -/
theorem Unaltered.isSome_loneUnit? [StandIns] {cs : List Char} (h : Unaltered cs) :
    ∀ c ∈ cs, (loneUnit? c).isSome = false := by
  intro c hc
  have hchar := h c hc
  rw [isUnaltered, Bool.and_eq_true] at hchar
  simpa using hchar.2

theorem isSome_loneUnit?_of_isLow [StandIns] {c : Char} (h : isLow c = true) :
    (loneUnit? c).isSome = false :=
  Unaltered.isSome_loneUnit? (Unaltered.cons_iff.mpr ⟨isUnaltered_of_isLow h, .nil⟩) c
    List.mem_cons_self

theorem Unaltered.isEncodable [StandIns] {cs : List Char} (h : Unaltered cs) : IsEncodable cs :=
  h.isSome_loneUnit?

namespace IsEncodable

variable {cs ds : List Char}

@[simp] theorem nil [StandIns] : IsEncodable [] := by
  simp [IsEncodable]

@[simp] theorem cons_iff [StandIns] {c : Char} :
    IsEncodable (c :: cs) ↔ (loneUnit? c).isSome = false ∧ IsEncodable cs :=
  List.forall_mem_cons

@[simp] theorem append_iff [StandIns] : IsEncodable (cs ++ ds) ↔ IsEncodable cs ∧ IsEncodable ds :=
  List.forall_mem_append

theorem of_all_isLow [StandIns] (h : cs.all isLow = true) : IsEncodable cs :=
  (Unaltered.of_all_isLow h).isEncodable

theorem subset [StandIns] (h : IsEncodable cs) (hsub : ds ⊆ cs) : IsEncodable ds :=
  fun c hc => h c (hsub hc)

theorem flatMap [StandIns] {α : Type} {f : α → List Char} {items : List α}
    (h : ∀ item ∈ items, IsEncodable (f item)) : IsEncodable (items.flatMap f) := by
  intro c hc
  obtain ⟨item, hitem, hmem⟩ := List.mem_flatMap.mp hc
  exact h item hitem c hmem

theorem toList_append [StandIns] {s t : String} :
    IsEncodable (s ++ t).toList ↔ IsEncodable s.toList ∧ IsEncodable t.toList := by
  rw [String.toList_append, append_iff]

/-- The characters of a text that is written out. -/
theorem toList_ofList [StandIns] {cs : List Char} (h : IsEncodable cs) :
    IsEncodable (String.ofList cs).toList := by
  rwa [String.toList_ofList]

/-- Texts with a separator between them. -/
theorem intercalate [StandIns] {separator : String} (hseparator : IsEncodable separator.toList)
    {texts : List String} (h : ∀ s ∈ texts, IsEncodable s.toList) :
    IsEncodable (separator.intercalate texts).toList := by
  rw [String.toList_intercalate]
  exact forall_mem_intercalate hseparator (List.forall_mem_map.mpr h)

end IsEncodable

/-- Texts without lone units. -/
def HasNoLoneUnits [StandIns] (texts : List String) : Prop :=
  ∀ s ∈ texts, ∀ c ∈ s.toList, (loneUnit? c).isSome = false

namespace HasNoLoneUnits

variable {texts texts' : List String}

theorem nil [StandIns] : HasNoLoneUnits [] := by
  simp [HasNoLoneUnits]

theorem cons_iff [StandIns] {s : String} :
    HasNoLoneUnits (s :: texts) ↔ IsEncodable s.toList ∧ HasNoLoneUnits texts :=
  List.forall_mem_cons

theorem append_iff [StandIns] :
    HasNoLoneUnits (texts ++ texts') ↔ HasNoLoneUnits texts ∧ HasNoLoneUnits texts' :=
  List.forall_mem_append

theorem singleton [StandIns] {s : String} (h : IsEncodable s.toList) : HasNoLoneUnits [s] :=
  cons_iff.mpr ⟨h, nil⟩

theorem pair [StandIns] {s t : String} (hs : IsEncodable s.toList) (ht : IsEncodable t.toList) :
    HasNoLoneUnits [s, t] :=
  cons_iff.mpr ⟨hs, .singleton ht⟩

theorem of_unaltered [StandIns] (h : ∀ s ∈ texts, Unaltered s.toList) : HasNoLoneUnits texts :=
  fun s hs => (h s hs).isSome_loneUnit?

end HasNoLoneUnits

/-! ## Digits -/

theorem unaltered_toDigits [StandIns] {base : Nat} (hbase : 1 < base) (hsmall : base ≤ 16)
    (n : Nat) : Unaltered (Nat.toDigits base n) := by
  have hmarks : Unaltered numeralChars := .of_all_isLow (by decide)
  exact forall_mem_toDigits hmarks hbase hsmall n

/-! ## Printable characters -/

/-- A search among ranges of which all but the last lie below a number comes to the last. -/
theorem inRanges_last {ranges : Array (Nat × Nat)} {before : List (Nat × Nat)} {last : Nat × Nat}
    {n : Nat} (hranges : ranges.toList = before ++ [last])
    (hbefore : ∀ range ∈ before, range.1 ≤ n ∧ range.2 < n) (hn : last.1 ≤ n ∧ n ≤ last.2)
    (fuel low : Nat) (hlow : low ≤ before.length) (hfuel : before.length + 1 - low < 2 ^ fuel) :
    inRanges ranges n fuel low ranges.size = true := by
  have hsize : ranges.size = before.length + 1 := by
    rw [← Array.length_toList, hranges, List.length_append, List.length_singleton]
  have hget (i : Nat) : ranges.getD i (0, 0) = (before ++ [last]).getD i (0, 0) := by
    rw [← hranges, Array.getD_eq_getD_getElem?, List.getD_eq_getElem?_getD, Array.getElem?_toList]
  induction fuel generalizing low with
  | zero => omega
  | succ fuel ih =>
    rw [inRanges, if_pos (by omega)]
    show (if n < (ranges.getD ((low + ranges.size) / 2) (0, 0)).1 then _
      else if (ranges.getD ((low + ranges.size) / 2) (0, 0)).2 < n then _ else true) = true
    rw [hget]
    by_cases hmiddle : (low + ranges.size) / 2 = before.length
    · rw [hmiddle, List.getD_append_right _ _ _ _ le_rfl, Nat.sub_self, List.getD_cons_zero,
        if_neg (not_lt.mpr hn.1), if_neg (not_lt.mpr hn.2)]
    · have hmem : (low + ranges.size) / 2 < before.length := by omega
      rw [List.getD_append _ _ _ _ hmem, List.getD_eq_getElem _ _ hmem]
      obtain ⟨hfirst, hbelow⟩ := hbefore _ (List.getElem_mem hmem)
      rw [if_neg (not_lt.mpr hfirst), if_pos hbelow]
      exact ih _ (by omega) (by omega)

/-- The characters of the last planes are not printable. -/
theorem isPrintable_of_le {c : Char} (h : 0xe01f0 ≤ c.toNat) : isPrintable c = false := by
  have hbefore : ∀ range ∈ unprintableRanges.toList.dropLast,
      range.1 ≤ 0xe01f0 ∧ range.2 < 0xe01f0 := by
    decide +kernel
  have hranges : unprintableRanges.toList =
      unprintableRanges.toList.dropLast ++ [(0xe01f0, 0x10ffff)] := by
    decide +kernel
  have hlength : unprintableRanges.toList.dropLast.length = 700 := by decide +kernel
  have hmost : c.toNat ≤ 0x10ffff := by
    have hvalid := c.valid
    simp only [UInt32.isValidChar, Nat.isValidChar] at hvalid
    show c.val.toNat ≤ _
    omega
  have hfound := inRanges_last hranges (n := c.toNat)
    (fun range hrange => ⟨(hbefore range hrange).1.trans h, (hbefore range hrange).2.trans_le h⟩)
    ⟨h, hmost⟩ 16 0 (Nat.zero_le _) (by rw [hlength]; decide)
  rw [isPrintable, if_neg (by omega), hfound]
  rfl

/-- No lone unit is printable. -/
theorem isSome_loneUnit?_of_isPrintable [StandIns] {c : Char} (h : isPrintable c = true) :
    (loneUnit? c).isSome = false := by
  by_contra hlone
  rw [Bool.not_eq_false] at hlone
  have hle : privatePlanes ≤ c.toNat := by
    by_contra hlt
    rw [loneUnit?_eq_none_of_lt (not_le.mp hlt)] at hlone
    cases hlone
  rw [isPrintable_of_le (le_trans (by decide) hle)] at h
  cases h

/-! ## Quotes -/

theorem isEncodable_paddedHex [StandIns] (width n : Nat) : IsEncodable (paddedHex width n) := by
  rw [paddedHex, IsEncodable.append_iff]
  exact ⟨(Unaltered.replicate (isUnaltered_of_isLow (by decide)) _).isEncodable,
    (unaltered_toDigits (by decide) (by decide) n).isEncodable⟩

theorem isEncodable_codePointEscape [StandIns] (n : Nat) : IsEncodable (codePointEscape n) := by
  unfold codePointEscape
  split_ifs
  all_goals
    rw [IsEncodable.cons_iff, IsEncodable.cons_iff]
    exact ⟨isSome_loneUnit?_of_isLow (by decide), isSome_loneUnit?_of_isLow (by decide),
      isEncodable_paddedHex _ _⟩

theorem isSome_loneUnit?_quoteFor [StandIns] (cs : List Char) :
    (loneUnit? (quoteFor cs)).isSome = false := by
  unfold quoteFor
  split_ifs <;> exact isSome_loneUnit?_of_isLow (by decide)

/-- A text between quotes has no lone units. -/
theorem isEncodable_quoted [StandIns] (s : String) : IsEncodable (quoted s).toList := by
  have hquote := isSome_loneUnit?_quoteFor s.toList
  have hchar (c : Char) : IsEncodable (quotedChar (quoteFor s.toList) c) := by
    unfold quotedChar
    split_ifs with hmark _ _ _ hprintable
    · rw [IsEncodable.cons_iff, IsEncodable.cons_iff]
      refine ⟨isSome_loneUnit?_of_isLow (by decide), ?_, .nil⟩
      rcases hmark with rfl | rfl
      · exact hquote
      · exact isSome_loneUnit?_of_isLow (by decide)
    · exact .of_all_isLow (by decide)
    · exact .of_all_isLow (by decide)
    · exact .of_all_isLow (by decide)
    · exact IsEncodable.cons_iff.mpr ⟨isSome_loneUnit?_of_isPrintable hprintable, .nil⟩
    · exact isEncodable_codePointEscape _
  unfold quoted
  dsimp only
  rw [String.toList_ofList, List.cons_append, IsEncodable.cons_iff, IsEncodable.append_iff,
    IsEncodable.cons_iff]
  exact ⟨hquote, .flatMap fun c _ => hchar c, hquote, .nil⟩

end TieredTerms
