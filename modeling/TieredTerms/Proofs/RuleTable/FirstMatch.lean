import Mathlib.Data.List.Basic
import TieredTerms.RuleTable.Lookup
import TieredTerms.Proofs.Outcome

/-!
# The first rule that holds

A look-up reads its value first, so a value that is no lookup value is a fault even of an empty
table.  After that the answer is the first rule that holds: all rules are of one kind, so the first
one refuses a value of the other kind before any is asked further.

* `Denotes` says which target a value stands for.
* `Rule.holdsFor_of_kind` and `Rule.holdsFor_of_other_kind` are one rule,
  `RuleTable.firstMatch_spec` is the search.
* `RuleTable.find_first_match` is the whole look-up.
-/

namespace TieredTerms

/-- The target as a value. -/
def Target.value : Target → Value
  | .category n => .int n
  | .duration d => .duration d

/-- The target in messages, if it has a form. -/
def Target.shown? : Target → Option String
  | .category n => intShown? n
  | .duration d => d.shown?

theorem Target.shown_value [StandIns] (w : Target) : w.value.shown = shownNumbers w.shown? := by
  cases w with
  | category n => exact Value.shown_int n
  | duration d => exact Value.shown_duration d

@[simp] theorem Target.shown?_value [StandIns] (w : Target) : w.value.shown? = w.shown? := by
  rw [Value.shown?, w.shown_value]
  cases w.shown? <;> rfl

/-- A value stands for a target: a text for its duration, an integer or a duration for itself. -/
inductive Denotes : Value → Target → Prop
  | text {v : Value} {s : String} {d : Duration} (hs : v.asText? = some s)
      (hd : Duration.read s = .ok d) : Denotes v (.duration d)
  | category (n : Int) : Denotes (.int n) (.category n)
  | duration (d : Duration) : Denotes (.duration d) (.duration d)

/-! ## One rule -/

namespace Rule

/-- A rule compares a target of its kind. -/
theorem holdsFor_of_kind [StandIns] {r : Rule} {w : Target} (h : r.kind = w.kind) :
    r.holdsFor w.value = .ok (r.interval.holds w) := by
  cases w with
  | category n =>
    rw [holdsFor, h]
    rfl
  | duration d =>
    rw [holdsFor, h]
    rfl

/-- The fault of a target that is given to a rule of the other kind. -/
def mismatch [StandIns] (w : Target) : Fault :=
  match givenText w.value with
  | .ok given =>
    match w with
    | .category _ => .durationMatch given
    | .duration _ => .categoryMatch given
  | .error fault => fault

/-- A rule refuses a target of the other kind, whatever its bounds. -/
theorem holdsFor_of_other_kind [StandIns] {r : Rule} {w : Target} (h : r.kind ≠ w.kind) :
    r.holdsFor w.value = .error (mismatch w) := by
  cases w with
  | category n =>
    have hkind : r.kind = .duration := by
      cases hr : r.kind with
      | category => exact absurd hr h
      | duration => rfl
    have htarget : target .duration (.int n) =
        givenText (.int n) >>= fun given => .error (.durationMatch given) := rfl
    rw [Target.value, holdsFor, hkind, htarget, mismatch, Target.value]
    cases givenText (.int n) <;> rfl
  | duration d =>
    have hkind : r.kind = .category := by
      cases hr : r.kind with
      | category => rfl
      | duration => exact absurd hr h
    have htarget : target .category (.duration d) =
        givenText (.duration d) >>= fun given => .error (.categoryMatch given) := rfl
    rw [Target.value, holdsFor, hkind, htarget, mismatch, Target.value]
    cases givenText (.duration d) <;> rfl

/-- The fault is one of types just where messages can show the target. -/
theorem faultClass_mismatch [StandIns] (w : Target) :
    ((mismatch w).faultClass = .type ↔ w.value.shown?.isSome) ∧
      (w.value.shown? = none → mismatch w = .numberTooLong) := by
  rw [Target.shown?_value, mismatch, givenText, w.shown_value]
  cases w.shown? with
  | none => simp [shownNumbers, Unshown.fault, Fault.faultClass]
  | some shown => cases w <;> simp [shownNumbers, Fault.faultClass]

end Rule

namespace RuleTable

/-! ## The search -/

/-- Where every rule answers, the search stops at the first that holds. -/
theorem firstMatch_spec [StandIns] {v : Value} {p : Rule → Bool} {rules : List Rule}
    (h : ∀ r ∈ rules, r.holdsFor v = .ok (p r)) (start : Nat) :
    ∃ found, firstMatch v start rules = .ok found ∧
      (found = none → ∀ r ∈ rules, p r = false) ∧
      ∀ f, found = some f → ∃ before after, rules = before ++ f.rule :: after ∧
        f.index = start + before.length ∧ p f.rule = true ∧ ∀ r ∈ before, p r = false := by
  induction rules generalizing start with
  | nil => exact ⟨none, rfl, by simp, by simp⟩
  | cons r rules ih =>
    rw [List.forall_mem_cons] at h
    cases hr : p r with
    | true =>
      refine ⟨some ⟨start, r⟩, ?_, by simp, ?_⟩
      · rw [firstMatch, h.1, hr]
        rfl
      · rintro f ⟨⟩
        exact ⟨[], rules, rfl, rfl, hr, by simp⟩
    | false =>
      obtain ⟨found, hfound, hnone, hsome⟩ := ih h.2 (start + 1)
      refine ⟨found, ?_, ?_, ?_⟩
      · rw [firstMatch, h.1, hr, ← hfound]
        rfl
      · intro hf
        rw [List.forall_mem_cons]
        exact ⟨hr, hnone hf⟩
      · intro f hf
        obtain ⟨before, after, hsplit, hindex, hholds, hbefore⟩ := hsome f hf
        refine ⟨r :: before, after, by rw [hsplit, List.cons_append], ?_, hholds, ?_⟩
        · rw [hindex, List.length_cons]
          omega
        · rw [List.forall_mem_cons]
          exact ⟨hr, hbefore⟩

/-- A rule of the table that holds for a value, none before it holding. -/
structure IsFirstMatch [StandIns] (t : RuleTable) (v : Value) (f : Found) : Prop where
  stored : t.rules[f.index]? = some f.rule
  holds : f.rule.holdsFor v = .ok true
  first : ∀ j < f.index, ∀ r, t.rules[j]? = some r → r.holdsFor v = .ok false

/-- No two rules are the first. -/
theorem IsFirstMatch.unique [StandIns] {t : RuleTable} {v : Value} {f g : Found}
    (hf : t.IsFirstMatch v f) (hg : t.IsFirstMatch v g) : f = g := by
  have hle {f g : Found} (hf : t.IsFirstMatch v f) (hg : t.IsFirstMatch v g) :
      g.index ≤ f.index := by
    by_contra hlt
    cases (hg.first f.index (Nat.not_le.mp hlt) f.rule hf.stored).symm.trans hf.holds
  have hindex : f.index = g.index := Nat.le_antisymm (hle hg hf) (hle hf hg)
  have hrule : f.rule = g.rule :=
    Option.some.inj (hf.stored.symm.trans (by rw [hindex]; exact hg.stored))
  cases f
  cases g
  cases hindex
  cases hrule
  rfl

/-! ## Look-ups -/

theorem lookupValue_of_denotes [StandIns] {v : Value} {w : Target} (h : Denotes v w) :
    lookupValue v = .ok w.value := by
  cases h with
  | text hs hd =>
    rw [lookupValue, hs]
    simp [parseDuration, hd, Target.value]
  | category n => rfl
  | duration d => rfl

/-- A target of the kind of the table is answered by the first rule that holds. -/
theorem find_of_kind [StandIns] {t : RuleTable} {v : Value} {w : Target} (hv : Denotes v w)
    (hkind : t.kind? = some w.kind) :
    ∃ found, t.find v = .ok found ∧ (∀ f, found = some f → t.IsFirstMatch w.value f) ∧
      (found = none ↔ ∀ r ∈ t.rules, r.holdsFor w.value = .ok false) := by
  have hanswers : ∀ r ∈ t.rules, r.holdsFor w.value = .ok (r.interval.holds w) := by
    intro r hr
    apply Rule.holdsFor_of_kind
    rw [kind?_of_mem hr, Option.some.injEq] at hkind
    exact hkind
  obtain ⟨found, hfound, hnone, hsome⟩ := firstMatch_spec hanswers 0
  refine ⟨found, ?_, ?_, ?_⟩
  · rw [find, lookupValue_of_denotes hv, ok_bind, hfound]
  · intro f hf
    obtain ⟨before, after, hsplit, hindex, hholds, hbefore⟩ := hsome f hf
    rw [Nat.zero_add] at hindex
    refine ⟨?_, ?_, ?_⟩
    · rw [hsplit, hindex, List.getElem?_append_right (Nat.le_refl _), Nat.sub_self]
      rfl
    · rw [hanswers f.rule (by simp [hsplit]), hholds]
    · intro j hj r hr
      rw [hindex] at hj
      have hmem : r ∈ before := by
        rw [hsplit, List.getElem?_append_left hj] at hr
        exact List.mem_of_getElem? hr
      rw [hanswers r (by simp [hsplit, hmem]), hbefore r hmem]
  · constructor
    · intro hf r hr
      rw [hanswers r hr, hnone hf r hr]
    · intro hall
      cases hf : found with
      | none => rfl
      | some f =>
        obtain ⟨before, after, hsplit, -, hholds, -⟩ := hsome f hf
        have hmem : f.rule ∈ t.rules := by simp [hsplit]
        have hfalse := hall f.rule hmem
        rw [hanswers f.rule hmem, hholds] at hfalse
        cases hfalse

/-- A target of the other kind is refused by the first rule. -/
theorem find_of_other_kind [StandIns] {t : RuleTable} {v : Value} {w : Target} (hv : Denotes v w)
    {kind : Kind}
    (hkind : t.kind? = some kind) (h : kind ≠ w.kind) : t.find v = .error (Rule.mismatch w) := by
  rw [find, lookupValue_of_denotes hv, ok_bind]
  cases hrules : t.rules with
  | nil =>
    rw [kind?, hrules] at hkind
    cases hkind
  | cons first rest =>
    rw [kind?, hrules] at hkind
    have hfirst : first.kind = kind := Option.some.inj hkind
    rw [firstMatch, Rule.holdsFor_of_other_kind (by rwa [hfirst]), error_bind]

/-- A search finds a rule of the list at its place. -/
theorem stored_of_firstMatch [StandIns] {v : Value} {rules : List Rule} {start : Nat} {f : Found}
    (h : firstMatch v start rules = .ok (some f)) :
    ∃ k, f.index = start + k ∧ rules[k]? = some f.rule := by
  induction rules generalizing start with
  | nil => cases h
  | cons r rules ih =>
    obtain ⟨holds, -, hrest⟩ := bind_eq_ok.mp h
    cases holds with
    | true =>
      cases hrest
      exact ⟨0, rfl, rfl⟩
    | false =>
      obtain ⟨k, hindex, hstored⟩ := ih hrest
      exact ⟨k + 1, by omega, hstored⟩

/-- A look-up finds a rule of the table at its place. -/
theorem stored_of_find [StandIns] {t : RuleTable} {v : Value} {f : Found}
    (h : t.find v = .ok (some f)) : t.rules[f.index]? = some f.rule := by
  obtain ⟨w, -, hfirst⟩ := bind_eq_ok.mp h
  obtain ⟨k, hindex, hstored⟩ := stored_of_firstMatch hfirst
  rw [hindex, Nat.zero_add]
  exact hstored

/-- What a look-up answers, for every table and every value: a text that is no duration is refused
even by an empty table, and so are a text whose years or months are beyond arithmetic and what is no
lookup value; an empty table holds no match; a target of the other kind is refused whatever the
rules are, with a fault of types where messages can show the target; and else the answer is the
first rule that holds. -/
theorem find_first_match [StandIns] (t : RuleTable) (v : Value) :
    (∀ s, v.asText? = some s → Duration.parse? s = none → Duration.overflows s = false →
      ∃ fault, t.find v = .error fault ∧ fault.faultClass = .validation) ∧
    (∀ s, v.asText? = some s → Duration.read s = .error .tooLarge →
      t.find v = .error .decimalTooLarge) ∧
    (v.asText? = none → v.asCategory? = none → v.asDuration? = none →
      ∃ fault, t.find v = .error fault ∧ fault.faultClass = .type) ∧
    ∀ w, Denotes v w →
      (t.rules = [] → t.find v = .ok none) ∧
      (∀ kind, t.kind? = some kind → kind ≠ w.kind →
        ∃ fault, t.find v = .error fault ∧
          (fault.faultClass = .type ↔ w.value.shown?.isSome) ∧
          (w.value.shown? = none → fault = .numberTooLong)) ∧
      (t.kind? = some w.kind →
        ∃ found, t.find v = .ok found ∧ (∀ f, found = some f → t.IsFirstMatch w.value f) ∧
          (found = none ↔ ∀ r ∈ t.rules, r.holdsFor w.value = .ok false)) := by
  refine ⟨?_, ?_, ?_, ?_⟩
  · intro s hs hparse hwithin
    refine ⟨.durationText (v.textShown s), ?_, rfl⟩
    rw [find, lookupValue, hs]
    simp [parseDuration, Duration.read, hparse, hwithin]
  · intro s hs hread
    rw [find, lookupValue, hs]
    simp [parseDuration, hread]
  · intro hs hn hd
    refine ⟨.lookupValue v.typeName, ?_, rfl⟩
    rw [find, lookupValue, hs]
    simp [Value.isCategory, Value.isDuration, hn, hd]
  · intro w hw
    refine ⟨?_, ?_, find_of_kind hw⟩
    · intro hempty
      rw [find, lookupValue_of_denotes hw, hempty]
      rfl
    · intro kind hkind hne
      obtain ⟨hclass, hlong⟩ := Rule.faultClass_mismatch w
      exact ⟨Rule.mismatch w, find_of_other_kind hw hkind hne, hclass, hlong⟩

/-- One to three of a category give a day. -/
def oneToThree : Rule where
  interval := .category 1 3 (by decide) (by decide)
  result := .clock ⟨microsPerDay, by decide, by decide⟩
  id := none
  result_valid := by decide +kernel

/-- Two to five of a category give two days. -/
def twoToFive : Rule where
  interval := .category 2 5 (by decide) (by decide)
  result := .clock ⟨2 * microsPerDay, by decide, by decide⟩
  id := none
  result_valid := by decide +kernel

/-- Two rules that both hold for two and for three. -/
def overlapping : RuleTable where
  rules := [oneToThree, twoToFive]
  uniform := by simp [Rule.kind, Interval.kind, oneToThree, twoToFive]

/-- A number for which both rules hold gets the first, one beyond the first gets the second, and one
beyond both gets none. -/
theorem find_first_match_overlapping :
    overlapping.kind? = some .category ∧ (∀ n, Denotes (.int n) (.category n)) ∧
      (∀ r ∈ overlapping.rules, r.holdsFor (.int 2) = .ok true) ∧
      Option.map Found.index <$> overlapping.find (.int 2) = .ok (some 0) ∧
      Option.map Found.index <$> overlapping.find (.int 4) = .ok (some 1) ∧
      Option.map Found.index <$> overlapping.find (.int 6) = .ok none := by
  have hsearch (n : Int) := ((find_first_match overlapping (.int n)).2.2.2 _ (.category n)).2.2 rfl
  have hplace {n : Int} {f : Found} (hf : overlapping.IsFirstMatch (.int n) f) :
      Option.map Found.index <$> overlapping.find (.int n) = .ok (some f.index) := by
    obtain ⟨found, hfound, hfirst, hnone⟩ := hsearch n
    rw [hfound]
    cases found with
    | none =>
      have hfalse := hnone.mp rfl f.rule (List.mem_of_getElem? hf.stored)
      cases hfalse.symm.trans hf.holds
    | some g => rw [(hfirst g rfl).unique hf]; rfl
  refine ⟨rfl, .category, by decide, ?_, ?_, ?_⟩
  · exact hplace (f := ⟨0, oneToThree⟩) ⟨rfl, by decide, nofun⟩
  · refine hplace (f := ⟨1, twoToFive⟩) ⟨rfl, by decide, fun j hj r hr => ?_⟩
    obtain rfl : j = 0 := by simpa using hj
    cases hr
    decide
  · obtain ⟨found, hfound, -, hnone⟩ := hsearch 6
    rw [hfound, hnone.mpr (by decide)]
    rfl

/-- One and two of a category give a day. -/
def oneToTwo : RuleTable :=
  singleton
    { interval := .category 1 2 (by decide) (by decide)
      result := .clock ⟨microsPerDay, by decide, by decide⟩
      id := none
      result_valid := by decide +kernel }

/-- A duration whose years have one digit more than messages can show. -/
def manyYears : Duration :=
  .calendar ⟨false, 1, digitLimit⟩ (Decimal.ofInt 0) Clock.zero

/-- A target of the other kind is not always refused with a fault of types: the one for a duration
that messages cannot show is a fault of numbers. -/
theorem find_manyYears :
    oneToTwo.kind? = some .category ∧ Denotes (.duration manyYears) (.duration manyYears) ∧
      (Target.duration manyYears).kind ≠ .category ∧
      ¬∃ fault, oneToTwo.find (.duration manyYears) = .error fault ∧ fault.faultClass = .type := by
  have hshown : (Value.duration manyYears).shown? = none := by decide +kernel
  have hfind : oneToTwo.find (.duration manyYears) = .error .numberTooLong := by
    rw [find_of_other_kind (.duration manyYears) rfl (by decide),
      (Rule.faultClass_mismatch (.duration manyYears)).2 hshown]
  refine ⟨rfl, .duration manyYears, by decide, ?_⟩
  rintro ⟨fault, hfault, hclass⟩
  rw [hfind] at hfault
  cases hfault
  cases hclass

end RuleTable

end TieredTerms
