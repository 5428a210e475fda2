import TieredTerms.Number.Rounding
import TieredTerms.Text.Digit
import Mathlib.Data.List.Basic
import Mathlib.Data.List.TakeWhile
import Mathlib.Tactic.Linarith
import Mathlib.Tactic.Positivity
import Mathlib.Tactic.Ring

/-!
# Written digits

The digits that numbers are written with are read back.

* `digitsValue_toDigits`: the digits of a natural number have its value.
* `digitsValue_append` and `digitsValue_lt`: the value of a row of digits by its parts, and its
  bound.
* `decimalLength_eq`: the count of digits is the length of the row; `decimalLength_le_iff` and
  `lt_decimalLength_iff` compare it by powers of ten.
* `ofChars?_toDigits`: the digits of a natural number are the text of an integer.
* `exists_eq_append_zeros`: what is left of a row of digits without the zeros at its end.
* `HasLongRun`: a row of digits that readers do not take.
-/

namespace TieredTerms

/-! ## ASCII digits -/

theorem isAsciiDigit_eq_isDigit (c : Char) : isAsciiDigit c = c.isDigit := by
  rfl

/-- The characters of a row of ASCII digits. -/
def AsciiDigits (cs : List Char) : Prop :=
  ∀ c ∈ cs, isAsciiDigit c = true

theorem asciiDigits_append {as bs : List Char} :
    AsciiDigits (as ++ bs) ↔ AsciiDigits as ∧ AsciiDigits bs := by
  simp only [AsciiDigits, List.forall_mem_append]

theorem asciiDigits_toDigits (n : Nat) : AsciiDigits (Nat.toDigits 10 n) := by
  intro c hc
  rw [isAsciiDigit_eq_isDigit]
  exact Nat.isDigit_of_mem_toDigits (by decide) (by decide) hc

theorem toNat_of_isAsciiDigit {c : Char} (h : isAsciiDigit c = true) :
    48 ≤ c.toNat ∧ c.toNat ≤ 57 := by
  simp only [isAsciiDigit, Bool.and_eq_true, decide_eq_true_eq, Char.le_def,
    UInt32.le_iff_toNat_le] at h
  exact h

theorem digitValue?_of_isAsciiDigit {c : Char} (h : isAsciiDigit c = true) :
    digitValue? c = some (c.toNat - 48) := by
  obtain ⟨hlow, hhigh⟩ := toNat_of_isAsciiDigit h
  have hzero : '0'.toNat = 48 := rfl
  have hnine : '9'.toNat = 57 := rfl
  rw [digitValue?, if_pos (by omega), if_pos (by omega), hzero]

theorem isDigit_of_isAsciiDigit {c : Char} (h : isAsciiDigit c = true) : isDigit c = true := by
  rw [isDigit, digitValue?_of_isAsciiDigit h]
  rfl

/-- A character that is no digit is outside every row of digits. -/
theorem not_mem_of_asciiDigits {cs : List Char} (h : AsciiDigits cs) {c : Char}
    (hc : isAsciiDigit c = false) : c ∉ cs := by
  intro hmem
  rw [h c hmem] at hc
  cases hc

/-! ## Values of rows -/

/-- One digit more makes ten times the number and the digit, whether or not it is kept apart. -/
theorem DigitSum.value_push (s : DigitSum) (c : Char) :
    (s.push c).value = 10 * s.value + (digitValue? c).getD 0 := by
  have hnext : s.whole * 10 ^ (s.count + 1) + (10 * s.part + (digitValue? c).getD 0) =
      10 * s.value + (digitValue? c).getD 0 := by
    rw [value, Nat.pow_eq, pow_succ]
    ring
  rw [push]
  split_ifs
  · exact hnext
  · rw [value, Nat.pow_eq, pow_zero, Nat.mul_one, Nat.add_zero]
    exact hnext

private theorem value_foldl_push (cs : List Char) (s : DigitSum) :
    (cs.foldl DigitSum.push s).value =
      cs.foldl (fun n c => 10 * n + (digitValue? c).getD 0) s.value := by
  induction cs generalizing s with
  | nil => rfl
  | cons c cs ih => rw [List.foldl_cons, List.foldl_cons, ih, DigitSum.value_push]

/-- The number of a row of digits is formed digit by digit. -/
theorem digitsValue_eq_foldl (cs : List Char) :
    digitsValue cs = cs.foldl (fun n c => 10 * n + (digitValue? c).getD 0) 0 := by
  rw [digitsValue, value_foldl_push]
  rfl

private theorem digitsValue_foldl (cs : List Char) (start : Nat) :
    cs.foldl (fun n c => 10 * n + (digitValue? c).getD 0) start =
      start * 10 ^ cs.length + digitsValue cs := by
  induction cs generalizing start with
  | nil => simp [digitsValue_eq_foldl]
  | cons c cs ih =>
    rw [digitsValue_eq_foldl, List.foldl_cons, List.foldl_cons, ih, ih (10 * 0 + _),
      List.length_cons]
    ring_nf

theorem digitsValue_append (as bs : List Char) :
    digitsValue (as ++ bs) = digitsValue as * 10 ^ bs.length + digitsValue bs := by
  rw [digitsValue_eq_foldl, List.foldl_append, digitsValue_foldl bs, ← digitsValue_eq_foldl]

theorem digitsValue_cons (c : Char) (cs : List Char) :
    digitsValue (c :: cs) = (digitValue? c).getD 0 * 10 ^ cs.length + digitsValue cs := by
  rw [← List.singleton_append, digitsValue_append]
  simp [digitsValue_eq_foldl]

@[simp] theorem digitsValue_replicate_zero (count : Nat) :
    digitsValue (List.replicate count '0') = 0 := by
  induction count with
  | zero => rfl
  | succ count ih =>
    rw [List.replicate_succ, digitsValue_cons, ih]
    have hzero : (digitValue? '0').getD 0 = 0 := by decide
    rw [hzero]
    omega

theorem digitsValue_eq_ofDigitChars {cs : List Char} (h : AsciiDigits cs) :
    digitsValue cs = Nat.ofDigitChars 10 cs 0 := by
  rw [digitsValue_eq_foldl, Nat.ofDigitChars]
  apply List.foldl_ext
  intro n c hc
  rw [digitValue?_of_isAsciiDigit (h c hc), Option.getD_some]
  rfl

/-- The digits of a number have its value. -/
@[simp] theorem digitsValue_toDigits (n : Nat) : digitsValue (Nat.toDigits 10 n) = n := by
  rw [digitsValue_eq_ofDigitChars (asciiDigits_toDigits n), Nat.ofDigitChars_ten_toDigits]

private theorem digitValue_lt (c : Char) : (digitValue? c).getD 0 < 10 := by
  rw [digitValue?]
  split_ifs with hbelow hascii
  · have hlast : '9'.toNat = 57 := by decide
    have hzero : '0'.toNat = 48 := by decide
    rw [Option.getD_some]
    omega
  · exact Nat.zero_lt_succ _
  · cases hfind : digitZeros.find? fun first => first ≤ c.toNat ∧ c.toNat < first + 10 with
    | none => exact Nat.zero_lt_succ _
    | some first =>
      have hrange : first ≤ c.toNat ∧ c.toNat < first + 10 := by
        simpa using List.find?_some hfind
      rw [Option.map_some, Option.getD_some]
      omega

/-- A row of characters has a value below the power of ten of its length. -/
theorem digitsValue_lt (cs : List Char) : digitsValue cs < 10 ^ cs.length := by
  induction cs with
  | nil => decide
  | cons c cs ih =>
    have hdigit := digitValue_lt c
    rw [digitsValue_cons, List.length_cons, pow_succ]
    nlinarith [Nat.mul_le_mul_right (10 ^ cs.length) (Nat.le_of_lt_succ hdigit)]

/-! ## Counts of digits -/

/-- A number that is cut at a power of ten has the digits of both parts. -/
theorem length_toDigits_div_pow {n m : Nat} (h : 10 ^ m ≤ n) :
    (Nat.toDigits 10 n).length = m + (Nat.toDigits 10 (n / 10 ^ m)).length := by
  induction m with
  | zero => simp
  | succ m ih =>
    have hten : 10 ≤ n / 10 ^ m := by
      rw [Nat.le_div_iff_mul_le (by positivity)]
      rwa [pow_succ, Nat.mul_comm] at h
    rw [ih ((Nat.pow_le_pow_right (by decide) (Nat.le_succ m)).trans h),
      Nat.toDigits_of_base_le (by decide) hten, List.length_append, Nat.div_div_eq_div_mul,
      ← pow_succ, List.length_singleton]
    omega

theorem decimalLengthBelow_eq {k n : Nat} (h : n < 10 ^ 2 ^ k) :
    decimalLengthBelow k n = (Nat.toDigits 10 n).length := by
  induction k generalizing n with
  | zero =>
    rw [decimalLengthBelow, Nat.toDigits_of_lt_base (by simpa using h)]
    rfl
  | succ k ih =>
    rw [decimalLengthBelow, Nat.pow_eq, Nat.pow_eq]
    split_ifs with hlow
    · exact ih hlow
    · rw [length_toDigits_div_pow (Nat.le_of_not_lt hlow), ih]
      rw [pow_succ, Nat.mul_two, pow_add] at h
      exact Nat.div_lt_of_lt_mul h

/-- The number of digits of a number is the length of the row of its digits. -/
theorem decimalLength_eq (n : Nat) : decimalLength n = (Nat.toDigits 10 n).length := by
  apply decimalLengthBelow_eq
  calc n < 2 ^ (n.log2 + 1) := Nat.lt_log2_self
    _ ≤ 10 ^ (n.log2 + 1) := Nat.pow_le_pow_left (by decide) _
    _ ≤ 10 ^ 2 ^ ((n.log2 + 1).log2 + 1) :=
      Nat.pow_le_pow_right (by decide) Nat.lt_log2_self.le

/-- The number of digits of a number, by the powers of ten around it. -/
theorem decimalLength_le_iff {n k : Nat} (hk : 0 < k) : decimalLength n ≤ k ↔ n < 10 ^ k := by
  rw [decimalLength_eq]
  exact Nat.length_toDigits_le_iff (by decide) hk

theorem decimalLength_pos (n : Nat) : 0 < decimalLength n := by
  rw [decimalLength_eq]
  exact Nat.length_toDigits_pos

theorem lt_pow_decimalLength (n : Nat) : n < 10 ^ decimalLength n :=
  (decimalLength_le_iff (decimalLength_pos n)).mp le_rfl

theorem lt_decimalLength_iff {n k : Nat} (hn : n ≠ 0) : k < decimalLength n ↔ 10 ^ k ≤ n := by
  rcases Nat.eq_zero_or_pos k with rfl | hk
  · rw [pow_zero]
    exact iff_of_true (decimalLength_pos n) (Nat.one_le_iff_ne_zero.mpr hn)
  · rw [← not_le, decimalLength_le_iff hk, not_lt]

/-- A number between two powers of ten has as many digits as the lower one. -/
theorem decimalLength_eq_succ {n k : Nat} (hlow : 10 ^ k ≤ n) (hhigh : n < 10 ^ (k + 1)) :
    decimalLength n = k + 1 := by
  have hpos : 0 < 10 ^ k := by positivity
  have hle := (decimalLength_le_iff (Nat.succ_pos k)).mpr hhigh
  have hlt := (lt_decimalLength_iff (by omega)).mpr hlow
  omega

/-! ## Cutting a row off a text -/

theorem takeWhile_asciiDigits {ds rest : List Char} (h : AsciiDigits ds) {c : Char}
    (hc : isAsciiDigit c = false) : (ds ++ c :: rest).takeWhile isAsciiDigit = ds := by
  rw [List.takeWhile_append_of_pos h, List.takeWhile_cons_of_neg (by rw [hc]; simp),
    List.append_nil]

theorem dropWhile_asciiDigits {ds rest : List Char} (h : AsciiDigits ds) {c : Char}
    (hc : isAsciiDigit c = false) : (ds ++ c :: rest).dropWhile isAsciiDigit = c :: rest := by
  rw [List.dropWhile_append_of_pos h, List.dropWhile_cons_of_neg (by rw [hc]; simp)]

/-! ## Integers -/

/-- A row of digits of any script is the text of a number without a sign. -/
theorem ofChars?_of_digits {cs : List Char} (hne : cs ≠ []) (h : cs.all isDigit = true) :
    IntegerText.ofChars? cs = some ⟨false, cs⟩ := by
  have hdigits : IntegerText.ofChars?.ofDigits? false cs = some ⟨false, cs⟩ := by
    rw [IntegerText.ofChars?.ofDigits?, h]
    simp [hne]
  cases cs with
  | nil => exact absurd rfl hne
  | cons c cs =>
    have hc : isDigit c = true := by
      rw [List.all_cons, Bool.and_eq_true] at h
      exact h.1
    have hminus : c ≠ '-' := by
      rintro rfl
      exact absurd hc (by decide)
    have hplus : c ≠ '+' := by
      rintro rfl
      exact absurd hc (by decide)
    rw [IntegerText.ofChars?]
    · exact hdigits
    · exact fun cs' heq => hminus (List.cons.inj heq).1
    · exact fun cs' heq => hplus (List.cons.inj heq).1

/-- The text of a whole number is its digits, perhaps behind a sign. -/
theorem ofChars?_eq_some {cs : List Char} {t : IntegerText} (h : IntegerText.ofChars? cs = some t) :
    (cs = t.digits ∨ cs = '-' :: t.digits ∨ cs = '+' :: t.digits) ∧
      t.digits.all isDigit = true ∧ t.digits ≠ [] := by
  have hdigits {negative : Bool} {ds : List Char}
      (h : IntegerText.ofChars?.ofDigits? negative ds = some t) :
      ds = t.digits ∧ t.digits.all isDigit = true ∧ t.digits ≠ [] := by
    rw [IntegerText.ofChars?.ofDigits?] at h
    split_ifs at h with hempty
    cases h
    rw [Bool.or_eq_true, not_or, List.isEmpty_iff] at hempty
    exact ⟨rfl, by simpa using hempty.2, hempty.1⟩
  unfold IntegerText.ofChars? at h
  split at h
  · obtain ⟨rfl, hrest⟩ := hdigits h
    exact ⟨.inr (.inl rfl), hrest⟩
  · obtain ⟨rfl, hrest⟩ := hdigits h
    exact ⟨.inr (.inr rfl), hrest⟩
  · obtain ⟨rfl, hrest⟩ := hdigits h
    exact ⟨.inl rfl, hrest⟩

/-- The digits of a natural number are the text of it. -/
theorem ofChars?_toDigits (n : Nat) :
    IntegerText.ofChars? (Nat.toDigits 10 n) = some ⟨false, Nat.toDigits 10 n⟩ := by
  apply ofChars?_of_digits Nat.toDigits_ne_nil
  rw [List.all_eq_true]
  exact fun c hc => isDigit_of_isAsciiDigit (asciiDigits_toDigits n c hc)

/-! ## Zeros at the end -/

/-- A row without the zeros at its end, and so many zeros, make up the row. -/
theorem exists_eq_append_zeros (cs : List Char) :
    ∃ count, cs = (cs.reverse.dropWhile (· == '0')).reverse ++ List.replicate count '0' := by
  refine ⟨(cs.reverse.takeWhile (· == '0')).length, ?_⟩
  have hzeros : cs.reverse.takeWhile (· == '0') =
      List.replicate (cs.reverse.takeWhile (· == '0')).length '0' := by
    rw [List.eq_replicate_iff]
    refine ⟨rfl, fun c hc => ?_⟩
    have hpred := List.mem_takeWhile_imp hc
    simpa using hpred
  have hsplit := congrArg List.reverse
    (List.takeWhile_append_dropWhile (p := (· == '0')) (l := cs.reverse))
  rw [List.reverse_append, List.reverse_reverse] at hsplit
  rw [← List.reverse_replicate, ← hzeros, hsplit]

/-! ## Rows of digits that are too long -/

/-- A row of so many digits among the characters, which are more than readers take. -/
def HasLongRun (cs : List Char) (count : Nat) : Prop :=
  ∃ run, run <:+: cs ∧ run.all isDigit = true ∧ run.length = count ∧ digitLimit < count

theorem HasLongRun.mono {cs ds : List Char} {count : Nat} (h : HasLongRun cs count)
    (hpart : cs <:+: ds) : HasLongRun ds count := by
  obtain ⟨run, hrun, hdigits, hlength, hlong⟩ := h
  exact ⟨run, hrun.trans hpart, hdigits, hlength, hlong⟩

/-- Among characters with few digits no row is too long. -/
theorem not_hasLongRun {cs : List Char} (h : cs.countP isDigit ≤ digitLimit) (count : Nat) :
    ¬HasLongRun cs count := by
  rintro ⟨run, hrun, hdigits, rfl, hlong⟩
  have hall : run.countP isDigit = run.length :=
    List.countP_eq_length.mpr fun c hc => List.all_eq_true.mp hdigits c hc
  have hle := hrun.sublist.countP_le (p := isDigit)
  omega

end TieredTerms
