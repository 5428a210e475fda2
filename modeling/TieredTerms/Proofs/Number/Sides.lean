import TieredTerms.Proofs.Number.Doubles

/-!
# Doubles on one side of zero

A sum of doubles is no number only where infinities of both signs meet.  Doubles on one side of
zero, infinities of that sign among them, stay there under sums and under products with positive
factors, so they never meet.

* `Binary64.OnSide` is the property, kept by `OnSide.add` and `OnSide.mul_ofInt`.
* `Binary64.Beyond` are the doubles on a side that are not below a power of two, which sums and
  products keep, too.
* `Binary64.le_of_lt_eq_false` is what order means for doubles that are numbers.
-/

namespace TieredTerms.Binary64

/-- A double of the given sign, or a zero of any sign. -/
def OnSide (negative : Bool) : Binary64 → Prop
  | .finite sign significand _ => sign = negative ∨ significand = 0
  | .infinite sign => sign = negative
  | .nan => False

theorem OnSide.ne_nan {negative : Bool} {x : Binary64} (h : x.OnSide negative) : x ≠ nan := by
  rintro rfl
  exact h

theorem onSide_ofMagnitude (negative : Bool) (q : Rat) :
    (ofMagnitude negative q).OnSide negative := by
  have hpack (significand : Nat) (exponent : Int) :
      (pack negative significand exponent).OnSide negative := by
    rw [pack]
    split_ifs
    · rfl
    · exact .inl rfl
  rw [ofMagnitude]
  split_ifs
  · exact .inl rfl
  · dsimp only
    split_ifs
    · exact hpack _ _
    · exact hpack _ _

/-- A finite double on a side has a value on that side. -/
theorem OnSide.value {negative sign : Bool} {significand : Nat} {exponent : Int}
    (h : (finite sign significand exponent).OnSide negative) :
    ∃ a, (finite sign significand exponent).toRat? = some a ∧
      if negative then a ≤ 0 else 0 ≤ a := by
  have hmagnitude : (0 : Rat) ≤ significand * 2 ^ exponent := by positivity
  refine ⟨_, rfl, ?_⟩
  rcases h with rfl | rfl
  · cases sign
    · simpa using hmagnitude
    · simpa using hmagnitude
  · cases negative <;> cases sign <;> simp

/-- A double on the positive side is not below zero. -/
theorem OnSide.not_lt_zero {x : Binary64} (h : x.OnSide false) : x.lt (zero false) = false := by
  cases x with
  | nan => exact h.elim
  | infinite => exact h
  | finite =>
    obtain ⟨a, hax, ha⟩ := h.value
    rw [if_neg (by simp)] at ha
    rw [lt_eq_decide hax (toRat?_zero false)]
    exact decide_eq_false (not_lt.mpr ha)

/-- A sum of doubles on one side stays there. -/
theorem OnSide.add {negative : Bool} {x y : Binary64} (hx : x.OnSide negative)
    (hy : y.OnSide negative) : (x + y).OnSide negative := by
  change (Binary64.add x y).OnSide negative
  cases x with
  | nan => exact hx.elim
  | infinite s =>
    cases y with
    | nan => exact hy.elim
    | infinite t =>
      rw [OnSide] at hx hy
      subst hx hy
      simp [Binary64.add, OnSide]
    | finite => exact hx
  | finite s m e =>
    cases y with
    | nan => exact hy.elim
    | infinite => exact hy
    | finite t n f =>
      obtain ⟨a, hax, ha⟩ := hx.value
      obtain ⟨b, hby, hb⟩ := hy.value
      rw [Binary64.add]
      simp only [hax, hby, Option.getD_some]
      split_ifs with hsum
      · exact .inr rfl
      · have hsign : decide (a + b < 0) = negative := by
          cases negative with
          | true =>
            rw [if_pos rfl] at ha hb
            exact decide_eq_true (lt_of_le_of_ne (by linarith) hsum)
          | false =>
            rw [if_neg (by simp)] at ha hb
            exact decide_eq_false (by linarith)
        rw [ofRat, hsign]
        exact onSide_ofMagnitude negative _

/-- A positive whole number of few bits is a positive double. -/
theorem ofInt_eq_finite {n : Nat} (hpos : 0 < n) (h : n < significandBound) :
    ∃ significand exponent, ofInt n = finite false significand exponent ∧ significand ≠ 0 ∧
      (significand : Rat) * 2 ^ exponent = n := by
  have hvalue := toRat?_ofInt h
  have hside : (ofInt n).OnSide false := by
    have hnot : decide ((((n : Int) : Rat)) < 0) = false := by simp
    rw [ofInt, ofRat, hnot]
    exact onSide_ofMagnitude false _
  cases hn : ofInt n with
  | nan => simp [hn, toRat?] at hvalue
  | infinite => simp [hn, toRat?] at hvalue
  | finite t significand exponent =>
    rw [hn] at hvalue hside
    have hne : significand ≠ 0 := by
      rintro rfl
      have hzero : (n : Rat) = 0 := by simpa [toRat?] using hvalue.symm
      exact absurd (Nat.cast_eq_zero.mp hzero) hpos.ne'
    have hpositive : t = false := hside.resolve_right hne
    subst hpositive
    exact ⟨significand, exponent, rfl, hne, by simpa [toRat?] using hvalue⟩

/-- A product with a positive whole number of few bits stays on its side. -/
theorem OnSide.mul_ofInt {negative : Bool} {x : Binary64} (hx : x.OnSide negative) {n : Nat}
    (hpos : 0 < n) (h : n < significandBound) : (x * ofInt n).OnSide negative := by
  change (Binary64.mul x (ofInt n)).OnSide negative
  obtain ⟨significand, exponent, hn, hne, -⟩ := ofInt_eq_finite hpos h
  rw [hn]
  cases x with
  | nan => exact hx.elim
  | infinite s =>
    rw [Binary64.mul, if_neg hne]
    simpa [OnSide] using hx
  | finite s m e =>
    rw [Binary64.mul]
    rcases hx with rfl | rfl
    · have hsign : (s != false) = s := by simp
      rw [hsign]
      exact onSide_ofMagnitude s _
    · rw [ofMagnitude, if_pos (by simp)]
      exact .inr rfl

/-! ## Doubles away from zero -/

/-- A double of the given sign whose magnitude is at least a power of two. -/
def Beyond (negative : Bool) (k : Int) : Binary64 → Prop
  | .finite sign significand exponent =>
    sign = negative ∧ 2 ^ k ≤ (significand : Rat) * 2 ^ exponent
  | .infinite sign => sign = negative
  | .nan => False

theorem beyond_ofMagnitude (negative : Bool) {q : Rat} {k : Int} (h : 2 ^ k ≤ q)
    (hk : minExponent ≤ k) : (ofMagnitude negative q).Beyond negative k := by
  have hq : 0 < q := lt_of_lt_of_le (by positivity) h
  obtain ⟨significand, exponent, heq, -, -, -, hvalue⟩ := ofMagnitude_eq_pack negative hq
  have hround := two_pow_le_roundedMagnitude h hk
  rw [hvalue] at hround
  rw [heq, pack]
  split_ifs
  · rfl
  · exact ⟨rfl, hround⟩

/-- A finite double away from zero has a value there. -/
private theorem Beyond.value {negative sign : Bool} {k : Int} {significand : Nat} {exponent : Int}
    (h : (finite sign significand exponent).Beyond negative k) :
    ∃ a, (finite sign significand exponent).toRat? = some a ∧
      if negative then a ≤ -2 ^ k else 2 ^ k ≤ a := by
  obtain ⟨rfl, hle⟩ := h
  refine ⟨_, rfl, ?_⟩
  cases sign
  · simpa using hle
  · simpa using hle

/-- A sum of doubles on one side is as far from zero as the first of them. -/
theorem Beyond.add {negative : Bool} {k : Int} (hk : minExponent ≤ k) {x y : Binary64}
    (hx : x.Beyond negative k) (hy : y.OnSide negative) : (x + y).Beyond negative k := by
  change (Binary64.add x y).Beyond negative k
  cases x with
  | nan => exact hx.elim
  | infinite s =>
    cases y with
    | nan => exact hy.elim
    | infinite t =>
      rw [Beyond] at hx
      rw [OnSide] at hy
      subst hx hy
      simp [Binary64.add, Beyond]
    | finite => exact hx
  | finite s m e =>
    cases y with
    | nan => exact hy.elim
    | infinite => exact hy
    | finite t n f =>
      obtain ⟨a, hax, ha⟩ := hx.value
      obtain ⟨b, hby, hb⟩ := hy.value
      have hpower : (0 : Rat) < 2 ^ k := by positivity
      rw [Binary64.add]
      simp only [hax, hby, Option.getD_some]
      cases negative with
      | true =>
        rw [if_pos rfl] at ha hb
        rw [if_neg (by linarith), ofRat, decide_eq_true (by linarith), ratAbs_eq,
          abs_of_neg (by linarith)]
        exact beyond_ofMagnitude true (by linarith) hk
      | false =>
        rw [if_neg (by simp)] at ha hb
        rw [if_neg (by linarith), ofRat, decide_eq_false (by linarith), ratAbs_eq,
          abs_of_pos (by linarith)]
        exact beyond_ofMagnitude false (by linarith) hk

/-- The terms of a sum can be exchanged. -/
theorem add_comm (x y : Binary64) : x + y = y + x := by
  change Binary64.add x y = Binary64.add y x
  cases x <;> cases y
  all_goals grind [Binary64.add]

/-- A product with a positive whole number of few bits is as far from zero as its factor. -/
theorem Beyond.mul_ofInt {negative : Bool} {k : Int} (hk : minExponent ≤ k) {x : Binary64}
    (hx : x.Beyond negative k) {n : Nat} (hpos : 0 < n) (h : n < significandBound) :
    (x * ofInt n).Beyond negative k := by
  change (Binary64.mul x (ofInt n)).Beyond negative k
  obtain ⟨significand, exponent, hn, hne, hvalue⟩ := ofInt_eq_finite hpos h
  rw [hn]
  cases x with
  | nan => exact hx.elim
  | infinite s =>
    rw [Binary64.mul, if_neg hne]
    simpa [Beyond] using hx
  | finite s m e =>
    obtain ⟨rfl, hle⟩ := hx
    have hone : (1 : Rat) ≤ n := by exact_mod_cast hpos
    have hmagnitude : (2 : Rat) ^ k ≤ m * 2 ^ e * (significand * 2 ^ exponent) := by
      rw [hvalue]
      calc (2 : Rat) ^ k ≤ m * 2 ^ e := hle
        _ ≤ m * 2 ^ e * n := le_mul_of_one_le_right (by positivity) hone
    have hsign : (s != false) = s := by simp
    rw [Binary64.mul, hsign]
    exact beyond_ofMagnitude s hmagnitude hk

/-- A double away from zero on the negative side is below zero. -/
theorem Beyond.lt_zero {k : Int} {x : Binary64} (h : x.Beyond true k) :
    x.lt (zero false) = true := by
  cases x with
  | nan => exact h.elim
  | infinite => exact h
  | finite s m e =>
    obtain ⟨a, hax, ha⟩ := h.value
    have hpower : (0 : Rat) < 2 ^ k := by positivity
    rw [if_pos rfl] at ha
    rw [lt_eq_decide hax (toRat?_zero false)]
    exact decide_eq_true (by linarith)

/-! ## Sums and products that are numbers -/

/-- A sum with a finite double is a number. -/
theorem add_ne_nan {x y : Binary64} (hx : x ≠ nan) {b : Rat} (hy : y.toRat? = some b) :
    x + y ≠ nan := by
  change Binary64.add x y ≠ nan
  cases y with
  | nan => cases hy
  | infinite => cases hy
  | finite t n f =>
    cases x with
    | nan => exact absurd rfl hx
    | infinite => simp [Binary64.add]
    | finite s m e =>
      rw [Binary64.add]
      split_ifs
      · simp [zero]
      · exact ofRat_ne_nan _

/-- A product of finite doubles is a number. -/
theorem mul_ne_nan {x y : Binary64} {a b : Rat} (hx : x.toRat? = some a)
    (hy : y.toRat? = some b) : x * y ≠ nan := by
  change Binary64.mul x y ≠ nan
  cases x with
  | nan => cases hx
  | infinite => cases hx
  | finite =>
    cases y with
    | nan => cases hy
    | infinite => cases hy
    | finite => exact ofMagnitude_ne_nan _ _

/-! ## Order -/

/-- Of two doubles that are numbers, one is at most the other where the other is not below it. -/
theorem le_of_lt_eq_false {x y : Binary64} (hx : x ≠ nan) (hy : y ≠ nan) (h : y.lt x = false) :
    x.le y = true := by
  cases x with
  | nan => exact absurd rfl hx
  | infinite s =>
    cases y with
    | nan => exact absurd rfl hy
    | infinite t => cases s <;> cases t <;> simp_all [le, lt, same]
    | finite => cases s <;> simp_all [le, lt, same]
  | finite s m e =>
    cases y with
    | nan => exact absurd rfl hy
    | infinite t => cases t <;> simp_all [le, lt, same]
    | finite t n f =>
      simp only [le, lt, same, Bool.or_eq_true, decide_eq_true_eq, decide_eq_false_iff_not,
        not_lt] at h ⊢
      exact h.lt_or_eq

end TieredTerms.Binary64
