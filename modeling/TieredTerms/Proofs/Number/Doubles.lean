import TieredTerms.Number.Binary64
import TieredTerms.Proofs.Number.Nearest
import Mathlib.Tactic.Ring

/-!
# The values of doubles

What the operations on doubles do to exact values.

* `roundedMagnitude` is the rational that a magnitude is rounded to.  It is near
  (`abs_roundedMagnitude_sub_le`), representable, and a representable magnitude is left alone.
* `toRat?_ofMagnitude` and `toRat?_ofRat` say that the doubles built from a rational have that
  value.
* `toRat?_add` and `toRat?_mul` give the value of a sum and of a product, whatever the signs of the
  zeros.
-/

namespace TieredTerms.Binary64

/-! ## Rounding a magnitude -/

/-- The distance of the doubles around a positive rational. -/
def spacing (q : Rat) : Rat :=
  2 ^ max (floorLog2 q - 52) minExponent

/-- The value of the double nearest to a magnitude. -/
def roundedMagnitude (q : Rat) : Rat :=
  if q ≤ 0 then 0 else nearestEven (q / spacing q) * spacing q

/-- A magnitude that a double holds exactly, if it is in range. -/
def Representable (q : Rat) : Prop :=
  ∃ (significand : Nat) (exponent : Int),
    significand < significandBound ∧ minExponent ≤ exponent ∧ q = significand * 2 ^ exponent

theorem spacing_pos (q : Rat) : 0 < spacing q := by
  unfold spacing
  positivity

/-- The spacing is small against a power of two above the rational. -/
theorem spacing_le {q : Rat} (hq : 0 < q) {k : Int} (h : q < 2 ^ k) (hk : -1021 ≤ k) :
    spacing q ≤ 2 ^ (k - 53) := by
  have hlog := floorLog2_lt hq h
  unfold spacing minExponent
  apply zpow_le_zpow_right₀ (by norm_num)
  omega

theorem roundedMagnitude_nonneg (q : Rat) : 0 ≤ roundedMagnitude q := by
  unfold roundedMagnitude
  split_ifs with h
  · exact le_rfl
  · have hquot : (0 : Rat) ≤ q / spacing q := div_nonneg (not_le.mp h).le (spacing_pos q).le
    have hround : 0 ≤ nearestEven (q / spacing q) := le_nearestEven (by exact_mod_cast hquot)
    have hcast : (0 : Rat) ≤ nearestEven (q / spacing q) := by exact_mod_cast hround
    exact mul_nonneg hcast (spacing_pos q).le

/-- A rounded magnitude is at most half a spacing away. -/
theorem abs_roundedMagnitude_sub_le {q : Rat} (hq : 0 ≤ q) {k : Int} (h : q < 2 ^ k)
    (hk : -1021 ≤ k) : |roundedMagnitude q - q| ≤ 2 ^ (k - 54) := by
  rcases hq.eq_or_lt with rfl | hpos
  · simp [roundedMagnitude]
    positivity
  have hspace := spacing_pos q
  have hfactor : roundedMagnitude q - q =
      (nearestEven (q / spacing q) - q / spacing q) * spacing q := by
    rw [roundedMagnitude, if_neg (not_le.mpr hpos), sub_mul, div_mul_cancel₀ _ hspace.ne']
  have hhalf : (2 : Rat) ^ (k - 54) = 1 / 2 * 2 ^ (k - 53) := by
    rw [show k - 53 = (k - 54) + 1 by omega, zpow_add₀ (by norm_num)]
    ring
  rw [hfactor, abs_mul, abs_of_pos hspace, hhalf]
  exact mul_le_mul (abs_nearestEven_sub_le _) (spacing_le hpos h hk) hspace.le (by norm_num)

/-- The quotient by the spacing stays at or below the first significand out of reach. -/
private theorem quotient_lt {q : Rat} (hq : 0 < q) : q / spacing q < significandBound := by
  have hlog := lt_two_pow_floorLog2_succ hq
  rw [div_lt_iff₀ (spacing_pos q)]
  have hbound : (significandBound : Rat) * 2 ^ (floorLog2 q - 52) = 2 ^ (floorLog2 q + 1) := by
    rw [significandBound, show floorLog2 q + 1 = 53 + (floorLog2 q - 52) by omega,
      zpow_add₀ (by norm_num)]
    norm_num
  calc q < 2 ^ (floorLog2 q + 1) := hlog
    _ = significandBound * 2 ^ (floorLog2 q - 52) := hbound.symm
    _ ≤ significandBound * spacing q := by
      unfold spacing
      gcongr
      · norm_num
      · exact le_max_left _ _

/-- A positive magnitude is rounded to a significand on the grid around it.  The first significand
out of reach goes into the exponent. -/
theorem ofMagnitude_cases (negative : Bool) {q : Rat} (hq : 0 < q) :
    ∃ significand : Nat, roundedMagnitude q = significand * spacing q ∧
      significand ≤ significandBound ∧
      ofMagnitude negative q =
        if significand = significandBound then
          pack negative (significandBound / 2) (max (floorLog2 q - 52) minExponent + 1)
        else pack negative significand (max (floorLog2 q - 52) minExponent) := by
  have hround : 0 ≤ nearestEven (q / spacing q) :=
    le_nearestEven (by exact_mod_cast (div_pos hq (spacing_pos q)).le)
  have hle : nearestEven (q / spacing q) ≤ significandBound :=
    nearestEven_le (by exact_mod_cast (quotient_lt hq).le)
  refine ⟨(nearestEven (q / spacing q)).toNat, ?_, by omega, ?_⟩
  · rw [roundedMagnitude, if_neg (not_le.mpr hq), ← Int.cast_natCast, Int.toNat_of_nonneg hround]
  · rw [ofMagnitude, if_neg (not_le.mpr hq)]
    rfl

/-- What a positive magnitude is rounded to is some significand on the grid of doubles. -/
theorem ofMagnitude_eq_pack (negative : Bool) {q : Rat} (hq : 0 < q) :
    ∃ (significand : Nat) (exponent : Int),
      ofMagnitude negative q = pack negative significand exponent ∧
      significand < significandBound ∧ minExponent ≤ exponent ∧
      exponent ≤ max (floorLog2 q - 52) minExponent + 1 ∧
      roundedMagnitude q = significand * 2 ^ exponent := by
  obtain ⟨significand, hvalue, hle, heq⟩ := ofMagnitude_cases negative hq
  split_ifs at heq with h
  · refine ⟨significandBound / 2, max (floorLog2 q - 52) minExponent + 1, heq, by decide,
      by omega, le_rfl, ?_⟩
    rw [hvalue, h, spacing, zpow_add₀ (by norm_num)]
    norm_num [significandBound]
    ring
  · exact ⟨significand, max (floorLog2 q - 52) minExponent, heq, lt_of_le_of_ne hle h,
      le_max_right _ _, by omega, by rw [hvalue, spacing]⟩

theorem representable_roundedMagnitude (q : Rat) : Representable (roundedMagnitude q) := by
  by_cases hq : q ≤ 0
  · exact ⟨0, 0, by decide, by decide, by simp [roundedMagnitude, hq]⟩
  · obtain ⟨significand, exponent, -, hbound, hlow, -, hvalue⟩ :=
      ofMagnitude_eq_pack false (not_le.mp hq)
    exact ⟨significand, exponent, hbound, hlow, hvalue⟩

/-- A magnitude on the grid of doubles is rounded to itself. -/
theorem roundedMagnitude_of_representable {q : Rat} (h : Representable q) :
    roundedMagnitude q = q := by
  obtain ⟨significand, exponent, hbound, hlow, rfl⟩ := h
  rcases Nat.eq_zero_or_pos significand with rfl | hpos
  · simp [roundedMagnitude]
  have hsig : (0 : Rat) < significand := by exact_mod_cast hpos
  have hq : (0 : Rat) < significand * 2 ^ exponent := by positivity
  have hlt : (significand : Rat) * 2 ^ exponent < 2 ^ (exponent + 53) := by
    rw [zpow_add₀ (by norm_num), mul_comm]
    gcongr
    exact_mod_cast hbound
  have hlog := floorLog2_lt hq hlt
  generalize hgrid : max (floorLog2 ((significand : Rat) * 2 ^ exponent) - 52) minExponent = grid
  have hle : grid ≤ exponent := by omega
  -- The exponent is at or above the grid, so the quotient is an integer.
  have hquot : (significand : Rat) * 2 ^ exponent / 2 ^ grid =
      ((significand * 2 ^ (exponent - grid).toNat : Nat) : Int) := by
    have hsplit : (2 : Rat) ^ exponent = 2 ^ (exponent - grid).toNat * 2 ^ grid := by
      rw [← zpow_natCast, Int.toNat_of_nonneg (by omega), ← zpow_add₀ (by norm_num)]
      congr 1
      omega
    rw [hsplit]
    push_cast
    field_simp
  rw [roundedMagnitude, if_neg (not_le.mpr hq), spacing, hgrid, hquot, nearestEven_intCast,
    ← hquot]
  field_simp

/-- Rounding keeps a power of two below a magnitude below it. -/
theorem two_pow_le_roundedMagnitude {q : Rat} {k : Int} (h : 2 ^ k ≤ q) (hk : minExponent ≤ k) :
    2 ^ k ≤ roundedMagnitude q := by
  have hq : 0 < q := lt_of_lt_of_le (by positivity) h
  have hspace := spacing_pos q
  have hlog : k < floorLog2 q + 1 :=
    (zpow_lt_zpow_iff_right₀ (by norm_num : (1 : Rat) < 2)).mp
      (lt_of_le_of_lt h (lt_two_pow_floorLog2_succ hq))
  have hkeep {n : Int} {x : Rat} (hx : x = n * spacing q) (hle : x ≤ q) :
      x ≤ roundedMagnitude q := by
    rw [hx, ← le_div_iff₀ hspace] at hle
    rw [roundedMagnitude, if_neg (not_le.mpr hq), hx]
    gcongr
    exact_mod_cast le_nearestEven hle
  rcases le_total (max (floorLog2 q - 52) minExponent) k with hgrid | hgrid
  · -- The power is on the grid.
    refine hkeep (n := 2 ^ (k - max (floorLog2 q - 52) minExponent).toNat) ?_ h
    rw [spacing]
    push_cast
    rw [← zpow_natCast, ← zpow_add₀ (by norm_num)]
    congr 1
    omega
  · -- The power is below the first point of the grid, which is at most the magnitude.
    have hfirst : spacing q ≤ q := by
      refine le_trans ?_ (two_pow_floorLog2_le hq)
      exact zpow_le_zpow_right₀ (by norm_num) (by omega)
    calc (2 : Rat) ^ k ≤ spacing q := zpow_le_zpow_right₀ (by norm_num) hgrid
      _ ≤ roundedMagnitude q := hkeep (n := 1) (by simp) hfirst

/-! ## The value of a built double -/

@[simp] theorem toRat?_zero (negative : Bool) : (zero negative).toRat? = some 0 := by
  cases negative <;> simp [zero, toRat?]

theorem ofMagnitude_ne_nan (negative : Bool) (q : Rat) : ofMagnitude negative q ≠ nan := by
  by_cases hq : q ≤ 0
  · rw [ofMagnitude, if_pos hq, zero]
    simp
  · obtain ⟨significand, exponent, heq, -⟩ := ofMagnitude_eq_pack negative (not_le.mp hq)
    rw [heq, pack]
    split_ifs <;> simp

/-- The double built from a magnitude that is not too large has the rounded value. -/
theorem toRat?_ofMagnitude (negative : Bool) {q : Rat} {k : Int} (h : q < 2 ^ k) (hk : k ≤ 1023) :
    (ofMagnitude negative q).toRat? =
      some (if negative then -roundedMagnitude q else roundedMagnitude q) := by
  by_cases hq : q ≤ 0
  · simp [ofMagnitude, roundedMagnitude, hq]
  · obtain ⟨significand, exponent, heq, -, -, hhigh, hvalue⟩ :=
      ofMagnitude_eq_pack negative (not_le.mp hq)
    have hlog := floorLog2_lt (not_le.mp hq) h
    have hrange : ¬ maxExponent < exponent := by
      unfold maxExponent minExponent at *
      omega
    rw [heq, pack, if_neg hrange, toRat?, ← hvalue]

/-- The rational that the double nearest to `q` stands for. -/
def rounded (q : Rat) : Rat :=
  if q < 0 then -roundedMagnitude |q| else roundedMagnitude |q|

theorem ratAbs_eq (q : Rat) : q.abs = |q| := by
  unfold Rat.abs
  split_ifs with h
  · exact (abs_of_nonneg h).symm
  · exact (abs_of_neg (not_le.mp h)).symm

theorem toRat?_ofRat {q : Rat} {k : Int} (h : |q| < 2 ^ k) (hk : k ≤ 1023) :
    (ofRat q).toRat? = some (rounded q) := by
  rw [ofRat, ratAbs_eq, toRat?_ofMagnitude _ h hk, rounded]
  simp

theorem ofRat_ne_nan (q : Rat) : ofRat q ≠ nan :=
  ofMagnitude_ne_nan _ _

theorem rounded_of_nonneg {q : Rat} (h : 0 ≤ q) : rounded q = roundedMagnitude q := by
  rw [rounded, if_neg (not_lt.mpr h), abs_of_nonneg h]

@[simp] theorem rounded_zero : rounded 0 = 0 := by
  simp [rounded, roundedMagnitude]

/-- Rounding is near for rationals of either sign. -/
theorem abs_rounded_sub_le {q : Rat} {k : Int} (h : |q| < 2 ^ k) (hk : -1021 ≤ k) :
    |rounded q - q| ≤ 2 ^ (k - 54) := by
  have hmag := abs_roundedMagnitude_sub_le (abs_nonneg q) h hk
  unfold rounded
  split_ifs with hneg
  · rw [abs_of_neg hneg] at hmag ⊢
    rw [show -roundedMagnitude (-q) - q = -(roundedMagnitude (-q) - -q) by ring, abs_neg]
    exact hmag
  · rwa [abs_of_nonneg (not_lt.mp hneg)] at hmag ⊢

/-- What is representable up to its sign is rounded to itself. -/
theorem rounded_of_representable {q : Rat} (h : Representable |q|) : rounded q = q := by
  rw [rounded, roundedMagnitude_of_representable h]
  split_ifs with hneg
  · rw [abs_of_neg hneg, neg_neg]
  · exact abs_of_nonneg (not_lt.mp hneg)

/-- Rounding twice is rounding once. -/
@[simp] theorem rounded_rounded (q : Rat) : rounded (rounded q) = rounded q := by
  apply rounded_of_representable
  rw [rounded]
  split_ifs
  · rw [abs_neg, abs_of_nonneg (roundedMagnitude_nonneg _)]
    exact representable_roundedMagnitude _
  · rw [abs_of_nonneg (roundedMagnitude_nonneg _)]
    exact representable_roundedMagnitude _

/-- A natural number below the first significand out of reach is representable. -/
theorem representable_natCast {n : Nat} (h : n < significandBound) : Representable n :=
  ⟨n, 0, h, by decide, by simp⟩

/-- A natural number of few bits is a double. -/
theorem toRat?_ofInt {n : Nat} (h : n < significandBound) :
    (ofInt n).toRat? = some (n : Rat) := by
  have hbound : |((n : Int) : Rat)| < 2 ^ (53 : Int) := by
    rw [abs_of_nonneg (by positivity)]
    exact_mod_cast h
  rw [ofInt, toRat?_ofRat hbound (by norm_num)]
  congr 1
  apply rounded_of_representable
  rw [abs_of_nonneg (by positivity)]
  exact_mod_cast representable_natCast h

/-! ## Sums and products -/

private theorem toRat?_finite (negative : Bool) (significand : Nat) (exponent : Int) :
    (finite negative significand exponent).toRat? =
      some (if negative then -((significand : Rat) * 2 ^ exponent)
        else (significand : Rat) * 2 ^ exponent) := rfl

/-- The value of a sum is the exact sum, rounded once. -/
theorem toRat?_add {x y : Binary64} {a b : Rat} (hx : x.toRat? = some a) (hy : y.toRat? = some b) :
    (x + y).toRat? = (ofRat (a + b)).toRat? := by
  change (add x y).toRat? = _
  cases x with
  | finite negative significand exponent =>
    cases y with
    | finite negative' significand' exponent' =>
      simp only [add, hx, hy, Option.getD_some]
      split_ifs with hsum
      · rw [hsum, toRat?_zero]
        simp [ofRat, ofMagnitude, Rat.abs]
      · rfl
    | infinite => simp [toRat?] at hy
    | nan => simp [toRat?] at hy
  | infinite => simp [toRat?] at hx
  | nan => simp [toRat?] at hx

/-- The value of a product is the exact product, rounded once. -/
theorem toRat?_mul {x y : Binary64} {a b : Rat} (hx : x.toRat? = some a) (hy : y.toRat? = some b) :
    (x * y).toRat? = (ofRat (a * b)).toRat? := by
  change (mul x y).toRat? = _
  cases x with
  | finite s m e =>
    cases y with
    | finite s' m' e' =>
      rw [toRat?_finite, Option.some.injEq] at hx hy
      have hm : (0 : Rat) ≤ m * 2 ^ e := by positivity
      have hm' : (0 : Rat) ≤ m' * 2 ^ e' := by positivity
      simp only [mul]
      generalize (m : Rat) * 2 ^ e = u at *
      generalize (m' : Rat) * 2 ^ e' = v at *
      have habs : (a * b).abs = u * v := by
        rw [ratAbs_eq, abs_mul, ← hx, ← hy]
        congr 1 <;> split_ifs <;> simp [hm, hm']
      rcases (mul_nonneg hm hm').eq_or_lt with hzero | hpos
      · rw [ofRat, habs, ← hzero]
        simp [ofMagnitude]
      · have hu : 0 < u := hm.lt_of_ne (fun h => by simp [← h] at hpos)
        have hv : 0 < v := hm'.lt_of_ne (fun h => by simp [← h] at hpos)
        have hsign : decide (a * b < 0) = (s != s') := by
          rw [← hx, ← hy]
          cases s <;> cases s' <;> simp [hpos, hpos.le]
        rw [ofRat, habs, hsign]
    | infinite => simp [toRat?] at hy
    | nan => simp [toRat?] at hy
  | infinite => simp [toRat?] at hx
  | nan => simp [toRat?] at hx

/-- What gives a finite product is finite. -/
theorem exists_toRat?_of_mul {x y : Binary64} {q : Rat} (h : (x * y).toRat? = some q) :
    ∃ a, x.toRat? = some a := by
  change (mul x y).toRat? = some q at h
  cases x with
  | finite => exact ⟨_, rfl⟩
  | infinite => cases y <;> grind [mul, toRat?]
  | nan => cases h

/-! ## Doubles within a power of two -/

/-- A finite double whose magnitude is below a power of two. -/
def Within (k : Int) (x : Binary64) : Prop :=
  ∃ a, x.toRat? = some a ∧ |a| < 2 ^ k

theorem Within.mono {j k : Int} {x : Binary64} (h : Within j x) (hle : j ≤ k) : Within k x := by
  obtain ⟨a, ha, hlt⟩ := h
  exact ⟨a, ha, lt_of_lt_of_le hlt (zpow_le_zpow_right₀ (by norm_num) hle)⟩

theorem Within.abs_lt {k : Int} {x : Binary64} (h : Within k x) {a : Rat}
    (hx : x.toRat? = some a) : |a| < 2 ^ k := by
  obtain ⟨b, hb, hlt⟩ := h
  rw [hx, Option.some.injEq] at hb
  rwa [hb]

/-- Rounding at most doubles a bound. -/
theorem within_ofRat {q : Rat} {k : Int} (h : |q| < 2 ^ k) (hlow : -1021 ≤ k) (hhigh : k ≤ 1023) :
    Within (k + 1) (ofRat q) := by
  refine ⟨rounded q, toRat?_ofRat h hhigh, ?_⟩
  have hnear := abs_rounded_sub_le h hlow
  have hstep : (2 : Rat) ^ (k - 54) ≤ 2 ^ k := zpow_le_zpow_right₀ (by norm_num) (by omega)
  have hdouble : (2 : Rat) ^ (k + 1) = 2 ^ k + 2 ^ k := by
    rw [zpow_add₀ (by norm_num)]
    ring
  calc |rounded q| = |rounded q - q + q| := by rw [sub_add_cancel]
    _ ≤ |rounded q - q| + |q| := abs_add_le _ _
    _ < 2 ^ (k + 1) := by linarith

private theorem abs_add_lt_two_pow {k : Int} {a b : Rat} (ha : |a| < 2 ^ k) (hb : |b| < 2 ^ k) :
    |a + b| < 2 ^ (k + 1) := by
  have hdouble : (2 : Rat) ^ (k + 1) = 2 ^ k + 2 ^ k := by
    rw [zpow_add₀ (by norm_num)]
    ring
  have htriangle := abs_add_le a b
  linarith

private theorem abs_mul_lt_two_pow {j k : Int} {a b : Rat} (ha : |a| < 2 ^ j) (hb : |b| < 2 ^ k) :
    |a * b| < 2 ^ (j + k) := by
  rw [abs_mul, zpow_add₀ (by norm_num)]
  exact mul_lt_mul'' ha hb (abs_nonneg a) (abs_nonneg b)

/-- A sum within range is the exact one, rounded. -/
theorem toRat?_add_of_within {k : Int} {x y : Binary64} (hx : Within k x) (hy : Within k y)
    (hhigh : k ≤ 1022) {a b : Rat} (ha : x.toRat? = some a) (hb : y.toRat? = some b) :
    (x + y).toRat? = some (rounded (a + b)) := by
  rw [toRat?_add ha hb]
  exact toRat?_ofRat (abs_add_lt_two_pow (hx.abs_lt ha) (hy.abs_lt hb)) (by omega)

/-- A product within range is the exact one, rounded. -/
theorem toRat?_mul_of_within {j k : Int} {x y : Binary64} (hx : Within j x) (hy : Within k y)
    (hhigh : j + k ≤ 1023) {a b : Rat} (ha : x.toRat? = some a) (hb : y.toRat? = some b) :
    (x * y).toRat? = some (rounded (a * b)) := by
  rw [toRat?_mul ha hb]
  exact toRat?_ofRat (abs_mul_lt_two_pow (hx.abs_lt ha) (hy.abs_lt hb)) hhigh

theorem Within.add {k : Int} {x y : Binary64} (hx : Within k x) (hy : Within k y) (hlow : 0 ≤ k)
    (hhigh : k ≤ 1022) : Within (k + 2) (x + y) := by
  obtain ⟨a, ha, hla⟩ := hx
  obtain ⟨b, hb, hlb⟩ := hy
  have hround := within_ofRat (abs_add_lt_two_pow hla hlb) (by omega) (by omega)
  rw [Within, ← toRat?_add ha hb, add_assoc] at hround
  exact hround

theorem Within.mul {j k : Int} {x y : Binary64} (hx : Within j x) (hy : Within k y)
    (hlow : -1021 ≤ j + k) (hhigh : j + k ≤ 1023) : Within (j + k + 1) (x * y) := by
  obtain ⟨a, ha, hla⟩ := hx
  obtain ⟨b, hb, hlb⟩ := hy
  have hround := within_ofRat (abs_mul_lt_two_pow hla hlb) hlow hhigh
  rw [Within, ← toRat?_mul ha hb] at hround
  exact hround

/-! ## Comparisons -/

theorem lt_eq_decide {x y : Binary64} {a b : Rat} (hx : x.toRat? = some a)
    (hy : y.toRat? = some b) : x.lt y = decide (a < b) := by
  cases x with
  | finite =>
    cases y with
    | finite => simp only [lt, hx, hy, Option.getD_some]
    | infinite => simp [toRat?] at hy
    | nan => simp [toRat?] at hy
  | infinite => simp [toRat?] at hx
  | nan => simp [toRat?] at hx

theorem same_eq_decide {x y : Binary64} {a b : Rat} (hx : x.toRat? = some a)
    (hy : y.toRat? = some b) : x.same y = decide (a = b) := by
  cases x with
  | finite =>
    cases y with
    | finite => simp only [same, hx, hy, Option.getD_some]
    | infinite => simp [toRat?] at hy
    | nan => simp [toRat?] at hy
  | infinite => simp [toRat?] at hx
  | nan => simp [toRat?] at hx

/-- What is the same as a finite double has its value. -/
theorem same_iff {x y : Binary64} {b : Rat} (hy : y.toRat? = some b) :
    x.same y = true ↔ x.toRat? = some b := by
  cases hx : x.toRat? with
  | some a =>
    rw [same_eq_decide hx hy, decide_eq_true_iff, Option.some.injEq]
  | none =>
    cases x with
    | finite => cases hx
    | infinite => cases y <;> simp_all [same, toRat?]
    | nan => simp [same]

theorem same_comm (x y : Binary64) : x.same y = y.same x := by
  cases x <;> cases y
  all_goals grind [same]

end TieredTerms.Binary64
