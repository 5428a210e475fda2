import Mathlib.Data.List.Basic
import Mathlib.Tactic.SplitIfs
import TieredTerms.Number.Shortest
import TieredTerms.Text.Digit

/-!
# Characters of written texts

What holds of all characters that a text is put together from holds of all characters of the text.

* `forall_mem_intercalate` is about texts with a separator between them.
* `numeralChars` are the characters that numbers are written in; `forall_mem_toDigits`,
  `forall_mem_intText` and `FloatLayout.forall_mem_write` are about written numbers.
-/

namespace TieredTerms

variable {p : Char → Prop}

theorem forall_mem_intercalate {separator : List Char} (hseparator : ∀ c ∈ separator, p c)
    {parts : List (List Char)} (hparts : ∀ part ∈ parts, ∀ c ∈ part, p c) :
    ∀ c ∈ separator.intercalate parts, p c := by
  induction parts with
  | nil => simp
  | cons first parts ih =>
    obtain ⟨hfirst, hparts⟩ := List.forall_mem_cons.mp hparts
    cases parts with
    | nil => simpa using hfirst
    | cons next parts =>
      rw [List.intercalate_cons_cons, List.forall_mem_append, List.forall_mem_append]
      exact ⟨⟨hfirst, hseparator⟩, ih hparts⟩

/-! ## Numbers -/

/-- The characters that numbers are written in. -/
def numeralChars : List Char :=
  ['0', '1', '2', '3', '4', '5', '6', '7', '8', '9', 'a', 'b', 'c', 'd', 'e', 'f', '+', '-', '.']

variable (hp : ∀ c ∈ numeralChars, p c)

include hp

theorem forall_mem_toDigits {base : Nat} (hbase : 1 < base) (hsmall : base ≤ 16) (n : Nat) :
    ∀ c ∈ Nat.toDigits base n, p c := by
  have hdigit {d : Nat} (hd : d < base) : p (Nat.digitChar d) := by
    have hmem : ∀ d < 16, Nat.digitChar d ∈ numeralChars := by decide
    exact hp _ (hmem d (Nat.lt_of_lt_of_le hd hsmall))
  induction n using Nat.strongRecOn with
  | ind n ih =>
    by_cases hn : n < base
    · rw [Nat.toDigits_of_lt_base hn, List.forall_mem_singleton]
      exact hdigit hn
    · rw [Nat.toDigits_of_base_le hbase (Nat.le_of_not_lt hn), List.forall_mem_append,
        List.forall_mem_singleton]
      exact ⟨ih _ (Nat.div_lt_self (by omega) hbase), hdigit (Nat.mod_lt n (by omega))⟩

theorem forall_mem_zeros (n : Nat) : ∀ c ∈ List.replicate n '0', p c := by
  intro c hc
  rw [List.eq_of_mem_replicate hc]
  exact hp '0' (by decide)

theorem forall_mem_intText (n : Int) : ∀ c ∈ (intText n).toList, p c := by
  have hdigits : ∀ c ∈ (natText n.natAbs).toList, p c := by
    rw [natText, String.toList_ofList]
    exact forall_mem_toDigits hp (by decide) (by decide) _
  rw [intText]
  split_ifs
  · rw [String.toList_append, List.forall_mem_append]
    exact ⟨List.forall_mem_singleton.mpr (hp '-' (by decide)), hdigits⟩
  · exact hdigits

namespace FloatLayout

theorem forall_mem_exponentText (layout : FloatLayout) (exponent : Int) :
    ∀ c ∈ (layout.exponentText exponent).toList, p c := by
  have hmark {c : Char} (h : c ∈ numeralChars) : ∀ d ∈ [c], p d :=
    List.forall_mem_singleton.mpr (hp c h)
  unfold exponentText
  dsimp only
  simp only [String.toList_append, String.toList_ofList, List.forall_mem_append]
  refine ⟨⟨hmark (by decide), ?_⟩, forall_mem_zeros hp _,
    forall_mem_toDigits hp (by decide) (by decide) _⟩
  split_ifs
  · exact hmark (by decide)
  · exact hmark (by decide)
  · simp

theorem forall_mem_positional {digits : List Char} (h : ∀ c ∈ digits, p c) (point : Int) :
    ∀ c ∈ positional digits point, p c := by
  have hzero := hp '0' (by decide)
  have hpoint := hp '.' (by decide)
  unfold positional
  dsimp only
  split_ifs
  · simp only [List.forall_mem_cons, List.forall_mem_append]
    exact ⟨hzero, hpoint, forall_mem_zeros hp _, h⟩
  · simp only [List.forall_mem_cons, List.forall_mem_append]
    exact ⟨⟨h, forall_mem_zeros hp _⟩, hpoint, hzero, by simp⟩
  · simp only [List.forall_mem_cons, List.forall_mem_append]
    exact ⟨fun c hc => h c (List.mem_of_mem_take hc), hpoint,
      fun c hc => h c (List.mem_of_mem_drop hc)⟩

theorem forall_mem_digitsText (layout : FloatLayout) (d : DecimalDigits) :
    ∀ c ∈ (layout.digitsText d).toList, p c := by
  have hdigits : ∀ c ∈ Nat.toDigits 10 d.digits, p c :=
    forall_mem_toDigits hp (by decide) (by decide) _
  unfold digitsText
  dsimp only
  split_ifs
  · rw [String.toList_ofList]
    exact forall_mem_positional hp hdigits _
  · split
    · simp
    · next first rest hfirst =>
      rw [hfirst, List.forall_mem_cons] at hdigits
      rw [String.toList_append, String.toList_ofList, List.forall_mem_append, List.forall_mem_cons]
      refine ⟨⟨hdigits.1, ?_⟩, forall_mem_exponentText hp layout _⟩
      split_ifs
      · simp
      · exact List.forall_mem_cons.mpr ⟨hp '.' (by decide), hdigits.2⟩

/-- A double is written with digits, a point, signs and the mark of an exponent. -/
theorem forall_mem_write (layout : FloatLayout) (hinfinity : ∀ c ∈ layout.infinity.toList, p c)
    (hnan : ∀ c ∈ layout.nan.toList, p c) (x : Binary64) :
    ∀ c ∈ (layout.write x).toList, p c := by
  have hsign (negative : Bool) : ∀ c ∈ (if negative then "-" else "").toList, p c := by
    cases negative
    · simp
    · exact List.forall_mem_singleton.mpr (hp '-' (by decide))
  have hzero : ∀ c ∈ "0.0".toList, p c := by
    have hdigit := hp '0' (by decide)
    have hpoint := hp '.' (by decide)
    exact List.forall_mem_cons.mpr ⟨hdigit, List.forall_mem_cons.mpr
      ⟨hpoint, List.forall_mem_singleton.mpr hdigit⟩⟩
  unfold write
  split
  · exact hnan
  · rw [String.toList_append, List.forall_mem_append]
    exact ⟨hsign _, hinfinity⟩
  · next significand _ =>
    dsimp only
    by_cases hsignificand : significand = 0
    · rw [if_pos hsignificand, String.toList_append, List.forall_mem_append]
      exact ⟨hsign _, hzero⟩
    · rw [if_neg hsignificand, String.toList_append, List.forall_mem_append]
      exact ⟨hsign _, forall_mem_digitsText hp layout _⟩

end FloatLayout

end TieredTerms
