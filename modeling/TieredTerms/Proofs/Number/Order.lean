import TieredTerms.Proofs.Number.Sides

/-!
# The order of doubles

The laws of the comparisons of doubles, and what rounding does to an order.

* `Binary64.le_trans`, `Binary64.lt_of_le_of_lt` and `Binary64.lt_eq_false_of_le` hold for all
  doubles, infinities and what is no number among them.
* `Binary64.rounded_mono`: rounding keeps the order of rationals.
* `Binary64.toRat?_ofRat_eq`: a rational gives a finite double where it is rounded to less than
  `Binary64.valueBound`.  So a rational between two such gives one, too
  (`Binary64.toRat?_ofRat_between`).
-/

namespace TieredTerms

/-- Rounding keeps the order. -/
theorem nearestEven_mono {q r : Rat} (h : q ≤ r) : nearestEven q ≤ nearestEven r := by
  by_contra hlt
  have hq := abs_le.mp (abs_nearestEven_sub_le q)
  have hr := abs_le.mp (abs_nearestEven_sub_le r)
  have hstep : (nearestEven r : Rat) + 1 ≤ nearestEven q := by exact_mod_cast not_le.mp hlt
  -- Only a rational in the middle of two integers can be that near to both of them.
  have heq : q = r := by linarith
  exact hlt (heq ▸ le_rfl)

namespace Binary64

/-! ## Comparisons -/

variable {x y z : Binary64}

protected theorem le_trans (hxy : x.le y = true) (hyz : y.le z = true) : x.le z = true := by
  cases x <;> cases y <;> cases z
  all_goals grind [le, lt, same]

protected theorem lt_of_le_of_lt (hxy : x.le y = true) (hyz : y.lt z = true) : x.lt z = true := by
  cases x <;> cases y <;> cases z
  all_goals grind [le, lt, same]

protected theorem lt_of_lt_of_le (hxy : x.lt y = true) (hyz : y.le z = true) : x.lt z = true := by
  cases x <;> cases y <;> cases z
  all_goals grind [le, lt, same]

theorem lt_eq_false_of_le (h : x.le y = true) : y.lt x = false := by
  cases x <;> cases y
  all_goals grind [le, lt, same]

/-- What is compared with success is a number. -/
theorem ne_nan_of_le (h : x.le y = true) : x ≠ nan ∧ y ≠ nan := by
  cases x <;> cases y
  all_goals grind [le, lt, same]

protected theorem le_of_lt (h : x.lt y = true) : x.le y = true := by
  rw [le, h, Bool.true_or]

protected theorem lt_irrefl (x : Binary64) : x.lt x = false := by
  cases x
  all_goals grind [lt]

protected theorem le_refl (h : x ≠ nan) : x.le x = true :=
  le_of_lt_eq_false h h (Binary64.lt_irrefl x)

protected theorem le_iff {a b : Rat} (hx : x.toRat? = some a) (hy : y.toRat? = some b) :
    x.le y = true ↔ a ≤ b := by
  rw [le, lt_eq_decide hx hy, same_eq_decide hx hy, Bool.or_eq_true, decide_eq_true_iff,
    decide_eq_true_iff, le_iff_lt_or_eq]

/-- A double between two finite ones is finite. -/
theorem toRat?_between {a b : Rat} (hx : x.toRat? = some a) (hz : z.toRat? = some b)
    (hxy : x.le y = true) (hyz : y.le z = true) :
    ∃ c, y.toRat? = some c ∧ a ≤ c ∧ c ≤ b := by
  have hfinite : ∃ c, y.toRat? = some c := by
    cases y with
    | finite => exact ⟨_, rfl⟩
    | infinite => cases x <;> cases z <;> grind [le, lt, same, toRat?]
    | nan => exact absurd rfl (ne_nan_of_le hyz).1
  obtain ⟨c, hc⟩ := hfinite
  exact ⟨c, hc, (Binary64.le_iff hx hc).mp hxy, (Binary64.le_iff hc hz).mp hyz⟩

/-! ## Rounding -/

/-- Rounding keeps a power of two above a magnitude above it. -/
theorem roundedMagnitude_le_two_pow {q : Rat} {k : Int} (h : q ≤ 2 ^ k) (hk : minExponent ≤ k) :
    roundedMagnitude q ≤ 2 ^ k := by
  by_cases hq : q ≤ 0
  · rw [roundedMagnitude, if_pos hq]
    positivity
  have hpos := not_le.mp hq
  have hspace := spacing_pos q
  have hlog : floorLog2 q ≤ k :=
    (zpow_le_zpow_iff_right₀ (by norm_num : (1 : Rat) < 2)).mp
      ((two_pow_floorLog2_le hpos).trans h)
  -- The power is on the grid of the doubles around the magnitude.
  have hgrid : (2 : Rat) ^ k =
      ((2 ^ (k - max (floorLog2 q - 52) minExponent).toNat : Int) : Rat) * spacing q := by
    rw [spacing]
    push_cast
    rw [← zpow_natCast, ← zpow_add₀ (by norm_num)]
    congr 1
    omega
  rw [roundedMagnitude, if_neg hq]
  rw [hgrid] at h ⊢
  gcongr
  exact_mod_cast nearestEven_le ((div_le_iff₀ hspace).mpr h)

theorem roundedMagnitude_mono {q r : Rat} (h : q ≤ r) :
    roundedMagnitude q ≤ roundedMagnitude r := by
  by_cases hq : q ≤ 0
  · rw [roundedMagnitude, if_pos hq]
    exact roundedMagnitude_nonneg r
  have hqpos := not_le.mp hq
  have hrpos := lt_of_lt_of_le hqpos h
  have hlog : floorLog2 q ≤ floorLog2 r := by
    have hlt := floorLog2_lt hqpos (lt_of_le_of_lt h (lt_two_pow_floorLog2_succ hrpos))
    omega
  by_cases hsame : spacing q = spacing r
  · rw [roundedMagnitude, roundedMagnitude, if_neg hq, if_neg (not_le.mpr hrpos), hsame]
    have hspace := spacing_pos r
    gcongr
    exact_mod_cast nearestEven_mono (div_le_div_of_nonneg_right h hspace.le)
  · -- A power of two lies between both, and neither is rounded across it.
    have hlt : floorLog2 q + 1 ≤ floorLog2 r := by
      rcases hlog.eq_or_lt with heq | hlt
      · exact absurd (by rw [spacing, spacing, heq]) hsame
      · omega
    have hk : minExponent ≤ floorLog2 r := by
      by_contra hlow
      apply hsame
      rw [spacing, spacing]
      congr 1
      omega
    calc roundedMagnitude q
        ≤ 2 ^ floorLog2 r := by
          refine roundedMagnitude_le_two_pow ?_ hk
          exact (lt_two_pow_floorLog2_succ hqpos).le.trans
            (zpow_le_zpow_right₀ (by norm_num) hlt)
      _ ≤ roundedMagnitude r := two_pow_le_roundedMagnitude (two_pow_floorLog2_le hrpos) hk

theorem rounded_neg (q : Rat) : rounded (-q) = -rounded q := by
  rcases lt_trichotomy q 0 with hq | rfl | hq
  · rw [rounded, rounded, if_neg (by linarith), if_pos hq, abs_neg, neg_neg]
  · simp
  · rw [rounded, rounded, if_pos (by linarith), if_neg (by linarith), abs_neg]

theorem rounded_mono {q r : Rat} (h : q ≤ r) : rounded q ≤ rounded r := by
  have hnonneg {s t : Rat} (hs : 0 ≤ s) (hst : s ≤ t) : rounded s ≤ rounded t := by
    rw [rounded_of_nonneg hs, rounded_of_nonneg (hs.trans hst)]
    exact roundedMagnitude_mono hst
  rcases le_total 0 q with hq | hq
  · exact hnonneg hq h
  · rcases le_total 0 r with hr | hr
    · have hlow : rounded q ≤ 0 := by
        have hopposite := hnonneg le_rfl (neg_nonneg.mpr hq)
        rw [rounded_neg, rounded_zero] at hopposite
        linarith
      have hhigh := hnonneg le_rfl hr
      rw [rounded_zero] at hhigh
      exact hlow.trans hhigh
    · have hopposite := hnonneg (neg_nonneg.mpr hr) (neg_le_neg h)
      rw [rounded_neg, rounded_neg] at hopposite
      linarith

/-! ## Finite doubles -/

/-- The first power of two that is above every finite double. -/
def valueBound : Rat := 2 ^ (1024 : Int)

/-- A significand with an exponent is a finite double where it is below the bound. -/
private theorem toRat?_pack (negative : Bool) {significand : Nat} {exponent : Int} {q : Rat}
    (hvalue : q = significand * 2 ^ exponent) (hrange : q < valueBound ↔ exponent ≤ maxExponent) :
    (pack negative significand exponent).toRat? =
      if q < valueBound then some (if negative then -q else q) else none := by
  by_cases hhigh : maxExponent < exponent
  · rw [pack, if_pos hhigh, if_neg (hrange.not.mpr (not_le.mpr hhigh))]
    rfl
  · rw [pack, if_neg hhigh, if_pos (hrange.mpr (not_lt.mp hhigh)), hvalue]
    rfl

/-- A magnitude gives a finite double where it is rounded to less than the bound. -/
theorem toRat?_ofMagnitude_eq (negative : Bool) (q : Rat) :
    (ofMagnitude negative q).toRat? = if roundedMagnitude q < valueBound then
      some (if negative then -roundedMagnitude q else roundedMagnitude q) else none := by
  by_cases hq : q ≤ 0
  · have hzero : roundedMagnitude q = 0 := by rw [roundedMagnitude, if_pos hq]
    have hbound : (0 : Rat) < valueBound := by
      rw [valueBound]
      positivity
    rw [hzero, if_pos hbound, ofMagnitude, if_pos hq, toRat?_zero]
    simp
  have hpos := not_le.mp hq
  obtain ⟨significand, hvalue, hle, heq⟩ := ofMagnitude_cases negative hpos
  generalize hgrid : max (floorLog2 q - 52) minExponent = grid at heq
  rw [spacing, hgrid] at hvalue
  have htop : (significandBound : Rat) * 2 ^ grid = 2 ^ (grid + 53) := by
    rw [zpow_add₀ (by norm_num), significandBound, mul_comm]
    norm_num
  split_ifs at heq with hcarry
  · rw [heq]
    apply toRat?_pack
    · rw [hvalue, hcarry, zpow_add₀ (by norm_num)]
      norm_num [significandBound]
      ring
    · rw [hvalue, hcarry, htop, valueBound, zpow_lt_zpow_iff_right₀ (by norm_num), maxExponent]
      omega
  · rw [heq]
    refine toRat?_pack negative hvalue ⟨fun hbound => ?_, fun hrange => ?_⟩
    · -- A magnitude whose grid is out of range is rounded to at least the bound.
      by_contra hhigh
      rw [maxExponent, minExponent] at *
      have hpower : (2 : Rat) ^ (1024 : Int) ≤ q :=
        (zpow_le_zpow_right₀ (by norm_num) (by omega)).trans (two_pow_floorLog2_le hpos)
      exact absurd hbound (not_lt.mpr (two_pow_le_roundedMagnitude hpower (by decide)))
    · have hlt : (significand : Rat) < significandBound := by
        exact_mod_cast lt_of_le_of_ne hle hcarry
      calc roundedMagnitude q
          = significand * 2 ^ grid := hvalue
        _ < significandBound * 2 ^ grid := by gcongr
        _ = 2 ^ (grid + 53) := htop
        _ ≤ valueBound := by
          rw [maxExponent] at hrange
          exact zpow_le_zpow_right₀ (by norm_num) (by omega)

/-- A rational gives a finite double where it is rounded to less than the bound. -/
theorem toRat?_ofRat_eq (q : Rat) :
    (ofRat q).toRat? = if |rounded q| < valueBound then some (rounded q) else none := by
  have habs : |rounded q| = roundedMagnitude |q| := by
    rw [rounded]
    split_ifs
    · rw [abs_neg, abs_of_nonneg (roundedMagnitude_nonneg _)]
    · rw [abs_of_nonneg (roundedMagnitude_nonneg _)]
  rw [ofRat, ratAbs_eq, toRat?_ofMagnitude_eq, habs, rounded]
  simp

/-- Between two rationals that give finite doubles, every rational does. -/
theorem toRat?_ofRat_between {q r s : Rat} (hqr : q ≤ r) (hrs : r ≤ s) {a b : Rat}
    (ha : (ofRat q).toRat? = some a) (hb : (ofRat s).toRat? = some b) :
    (ofRat r).toRat? = some (rounded r) ∧ a ≤ rounded r ∧ rounded r ≤ b := by
  rw [toRat?_ofRat_eq] at ha hb
  split_ifs at ha hb with hq hs
  cases ha
  cases hb
  have hlow := rounded_mono hqr
  have hhigh := rounded_mono hrs
  have hbound : |rounded r| < valueBound := by
    rw [abs_lt] at *
    exact ⟨hq.1.trans_le hlow, hhigh.trans_lt hs.2⟩
  rw [toRat?_ofRat_eq, if_pos hbound]
  exact ⟨rfl, hlow, hhigh⟩

end Binary64

end TieredTerms
