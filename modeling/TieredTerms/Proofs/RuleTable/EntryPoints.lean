import TieredTerms.Proofs.Rule.Pieces
import TieredTerms.Proofs.RuleTable.Readable

/-!
# One rule through every entry point

The text of one rule makes a table in four ways: as a value, as the only item of a list, as the only
text of a JSON array, and as the text of a table.  The last one is cut at commas first, and a comma
in the text of a rule is the mark of a fraction.  So it fails where there is a comma, and else all
four give the same table.

* `RuleTable.EntryPoint.read` are the four ways.
* `RuleTable.not_mem_comma_of_parse`: the text of a table has no comma that is in a rule.
* `RuleTable.entryPoints_agree` puts the four together.
-/

namespace TieredTerms.RuleTable

/-- The ways to a table from the text of one rule. -/
inductive EntryPoint where
  | value
  | list
  | json
  | text
  deriving DecidableEq

/-- The table of a text by one of the ways. -/
def EntryPoint.read [StandIns] (e : EntryPoint) (ids : IdSource) (text : String) :
    Except Fault RuleTable :=
  match e with
  | .value => create (ids 0) (.text text)
  | .list => ofItems ids (.list [.text text])
  | .json => parseJson ids (Json.compactText (.array [.text text]))
  | .text => parse ids text

/-- Three of the ways take the text of a rule as it is. -/
theorem EntryPoint.read_whole [StandIns] {e : EntryPoint} (he : e ≠ .text) (ids : IdSource)
    {text : String} (htext : Unaltered text.toList) :
    e.read ids text = singleton <$> Rule.parse (some (ids 0)) text := by
  have hlist : ofItems ids (.list [.text text]) = singleton <$> Rule.parse (some (ids 0)) text := by
    rw [← pushForms_single]
    exact pushItems_texts ids 0 empty [text]
  cases e with
  | value =>
    have hrule : ruleOf (ids 0) (.text text) = Rule.parse (some (ids 0)) text := rfl
    rw [EntryPoint.read, create, push, hrule]
    cases Rule.parse (some (ids 0)) text with
    | error fault => rfl
    | ok r => rfl
  | list => exact hlist
  | json =>
    rw [← hlist]
    have hunsplit : ∀ form ∈ [text], Json.IsUnsplit form.toList := by
      rw [List.forall_mem_singleton]
      exact Json.isUnsplit_of_unaltered htext
    have hjson := parseJson_unsplit ids hunsplit
    rwa [List.map_singleton, List.map_singleton] at hjson
  | text => exact absurd rfl he

/-! ## Texts of tables -/

/-- A text without commas is one form, blanks around it apart. -/
theorem parse_of_not_mem [StandIns] (ids : IdSource) {text : String} (hcomma : ',' ∉ text.toList)
    (hblank : text.toList.all isBlank = false) :
    parse ids text = singleton <$> Rule.parse (some (ids 0)) (strip text) := by
  have hsegments : segments text = [strip text] := by
    rw [segments, List.splitOn_eq_singleton hcomma]
    rfl
  rw [parse, hblank, if_neg (by simp), hsegments, pushForms_single]

/-- Behind a comma with a digit behind it a form begins with this digit. -/
private theorem exists_segment {text : String} {front behind : List Char} {c : Char}
    (htext : text.toList = front ++ ',' :: c :: behind) (hc : isAsciiDigit c = true) :
    ∃ form ∈ segments text, ∃ rest, form.toList = c :: rest := by
  have hcomma : c ≠ ',' := by
    rintro rfl
    exact absurd hc (by decide)
  have hpiece : ∃ piece, c :: piece ∈ text.toList.splitOn ',' := by
    rw [htext, List.splitOn, List.splitOnP_append_cons _ _ (by simp),
      List.splitOnP_cons_eq_if_modifyHead, if_neg (by simpa using hcomma)]
    cases hrest : behind.splitOnP (· == ',') with
    | nil => exact absurd hrest (List.splitOn_ne_nil ',' behind)
    | cons piece pieces => exact ⟨piece, by simp⟩
  have hblank : isBlank c = false := by
    refine Rule.isBlank_of_isSpelling (Duration.isSpelling_of_isFree ?_) ?_
    · exact Duration.isFree_of_isAsciiDigit hc
    · rintro rfl
      exact absurd hc (by decide)
  obtain ⟨piece, hpiece⟩ := hpiece
  refine ⟨_, List.mem_map_of_mem hpiece, stripEndChars piece, ?_⟩
  rw [String.toList_ofList, stripChars_cons hblank, stripEndChars_cons hblank]

/-- No rule begins with a digit. -/
private theorem parse_of_digit [StandIns] {id : Option String} {form : String} {c : Char}
    {rest : List Char} (hform : form.toList = c :: rest) (hc : isAsciiDigit c = true) (s : Rule) :
    Rule.parse id form ≠ .ok s := by
  intro h
  obtain ⟨chars, -, -, -, -, -, -, htext, -⟩ := Rule.parse_eq_ok h
  rw [hform] at htext
  obtain ⟨rfl, -⟩ := List.cons.inj htext
  revert hc
  cases s.kind <;> decide

variable {id : Option String} {text : String} {r : Rule}

private theorem not_all_isBlank [StandIns] (h : Rule.parse id text = .ok r) :
    text.toList.all isBlank = false := by
  obtain ⟨chars, -, -, -, -, -, -, htext, -⟩ := Rule.parse_eq_ok h
  have htag : isBlank r.kind.tag = false := by cases r.kind <;> decide
  rw [htext, List.all_cons, htag, Bool.false_and]

/-- The text of a rule with a comma is no text of a table: what stands behind the comma is read as
a rule of its own. -/
theorem not_mem_comma_of_parse [StandIns] (h : Rule.parse id text = .ok r) {ids : IdSource}
    {t : RuleTable} (ht : parse ids text = .ok t) : ',' ∉ text.toList := by
  intro hcomma
  obtain ⟨front, behind, htext⟩ := List.append_of_mem hcomma
  obtain ⟨c, behind, rfl, hc⟩ := Rule.commasInNumbers_of_parse h front behind htext
  obtain ⟨form, hmem, rest, hform⟩ := exists_segment htext hc
  rw [parse, not_all_isBlank h, if_neg (by simp)] at ht
  have hempty : empty.ReadBy ids := by simp [ReadBy, empty]
  obtain ⟨-, hforms⟩ := readBy_pushForms hempty ht
  obtain ⟨id', s, hs⟩ := hforms form hmem
  exact parse_of_digit hform hc s hs

/-- By every way a table of this rule alone is made, with the first id of the source. -/
theorem EntryPoint.read_of_parse [StandIns] (h : Rule.parse id text = .ok r) (e : EntryPoint)
    (ids : IdSource) (hcomma : e = .text → ',' ∉ text.toList) :
    e.read ids text = .ok (singleton { r with id := some (ids 0) }) := by
  by_cases he : e = .text
  · subst he
    rw [EntryPoint.read, parse_of_not_mem ids (hcomma rfl) (not_all_isBlank h),
      Rule.parse_with_id (Rule.parse_strip h) (some (ids 0))]
    rfl
  · rw [e.read_whole he ids (Rule.unaltered_of_parse h), Rule.parse_with_id h (some (ids 0))]
    rfl

/-- Tables of one rule that differ in its id are equal where the rule can be compared. -/
theorem equal_singleton {key : RuleKey} (hkey : r.key = .ok key) (i j : Option String) :
    (singleton { r with id := i }).equal (singleton { r with id := j }) = .ok true := by
  have hrule (i : Option String) : ({ r with id := i } : Rule).key = .ok key := hkey
  rw [equal, if_pos (by rfl)]
  exact all_zip (.cons (sameOrEqual_of_key (hrule i) (hrule j)) .nil)

/-- Tables of one rule that cannot be compared are not compared where the ids differ. -/
theorem equal_singleton_of_error {fault : NotFinite} (hkey : r.key = .error fault)
    {i j : Option String} (hij : i ≠ j) :
    (singleton { r with id := i }).equal (singleton { r with id := j }) = .error fault := by
  have hne : ({ r with id := i } : Rule) ≠ { r with id := j } := fun h => hij (congrArg Rule.id h)
  have hrule : ({ r with id := i } : Rule).key = .error fault := hkey
  have hpair : ({ r with id := i } : Rule).sameOrEqual { r with id := j } = .error fault := by
    rw [Rule.sameOrEqual, if_neg hne, Rule.equal, hrule, error_bind]
  rw [equal, if_pos (by rfl)]
  show equal.all [(_, _)] = _
  rw [equal.all, hpair, error_bind]

/-- The text of a rule makes a table in all four ways, except that a text with a comma is no text
of a table.  Each table holds this rule alone, and if the rule can be compared, the tables are
equal. -/
theorem entryPoints_agree [StandIns] (h : Rule.parse id text = .ok r) :
    (∀ (e : EntryPoint) ids, (∃ t, e.read ids text = .ok t) ↔ (e = .text → ',' ∉ text.toList)) ∧
      (∀ (e : EntryPoint) ids t, e.read ids text = .ok t →
        t.rules = [{ r with id := some (ids 0) }]) ∧
      ∀ key, r.key = .ok key → ∀ (e e' : EntryPoint) ids ids' t t', e.read ids text = .ok t →
        e'.read ids' text = .ok t' → t.equal t' = .ok true := by
  have hcomma {e : EntryPoint} {ids : IdSource} {t : RuleTable} (ht : e.read ids text = .ok t)
      (he : e = .text) : ',' ∉ text.toList := by
    subst he
    exact not_mem_comma_of_parse h ht
  have hread {e : EntryPoint} {ids : IdSource} {t : RuleTable} (ht : e.read ids text = .ok t) :
      t = singleton { r with id := some (ids 0) } :=
    Except.ok.inj (ht.symm.trans (e.read_of_parse h ids (hcomma ht)))
  refine ⟨fun e ids => ⟨?_, fun he => ⟨_, e.read_of_parse h ids he⟩⟩, ?_, ?_⟩
  · rintro ⟨t, ht⟩
    exact hcomma ht
  · intro e ids t ht
    rw [hread ht]
    rfl
  · intro key hkey e e' ids ids' t t' ht ht'
    rw [hread ht, hread ht']
    exact equal_singleton hkey _ _

/-- A line end behind the text is taken by every way. -/
theorem entryPoints_agree_lineEnd :
    ∃ r, Rule.parse none "C1-2P1.5D\n" = .ok r ∧
      ∀ (e : EntryPoint) ids, ∃ t, e.read ids "C1-2P1.5D\n" = .ok t ∧
        t.rules = [{ r with id := some (ids 0) }] := by
  have hparse : (Rule.parse none "C1-2P1.5D\n").toOption.any (fun _ => true) = true := by
    decide +kernel
  obtain ⟨r, hr, -⟩ := exists_ok_of_any hparse
  obtain ⟨hreads, hrules, -⟩ := entryPoints_agree hr
  refine ⟨r, hr, fun e ids => ?_⟩
  obtain ⟨t, ht⟩ := (hreads e ids).mpr fun _ => by decide
  exact ⟨t, ht, hrules e ids t ht⟩

/-- So many years that their seconds are beyond every double. -/
def endlessYears : List Char :=
  'P' :: List.replicate 310 '9' ++ ['Y']

/-- The text of a rule with these years. -/
def endlessText : String :=
  String.ofList (['C', '1', '-', '2'] ++ endlessYears)

/-- The text gives a rule that cannot be compared. -/
theorem parse_endlessText [StandIns] :
    ∃ r fault, Rule.parse none endlessText = .ok r ∧ r.key = .error fault := by
  have htest : (Duration.ofChars? endlessYears).any (fun d =>
      !d.isBeyondArithmetic && !d.isNegative && d.milliseconds.toOption.isNone) = true := by
    decide +kernel
  obtain ⟨d, hd, hsorts⟩ := (Option.any_eq_true _ _).mp htest
  simp only [Bool.and_eq_true, Bool.not_eq_true'] at hsorts
  obtain ⟨⟨hwithin, hvalid⟩, hmillis⟩ := hsorts
  have hread : Duration.read (String.ofList endlessYears) = .ok d := by
    rw [Duration.read, Duration.parse?, String.toList_ofList, hd]
    exact if_neg (by rw [hwithin]; decide)
  let r : Rule := ⟨.category 1 2 (by decide) (by decide), d, none, hvalid⟩
  have hlower : cutBound? ('1' :: '-' :: '2' :: endlessYears) = some (['1'], '2' :: endlessYears) :=
    by decide +kernel
  have hupper : cutBound? ('2' :: endlessYears) = some (['2'], endlessYears) := by decide +kernel
  have hparse : Rule.parse none endlessText = .ok r :=
    @Rule.parse_of_parts _ none endlessText r _ _ _ _ _ (.number 1) (.number 2) String.toList_ofList
      hlower (by decide +kernel) hupper (by decide +kernel) (by rfl) hread
  cases hkey : d.milliseconds with
  | ok millis =>
    rw [hkey] at hmillis
    cases hmillis
  | error fault =>
    refine ⟨_, fault, hparse, ?_⟩
    show (d.milliseconds >>= fun result => _) = .error fault
    rw [hkey]
    rfl

/-- A fraction behind a comma is taken by the other ways, but not by the text of a table.  A rule
that cannot be compared makes tables of which no one can tell whether they are equal. -/
theorem entryPoints_disagree :
    ((∃ r, Rule.parse none "C1-2P1,5D" = .ok r) ∧
      (∃ t, EntryPoint.value.read ruleIdOf "C1-2P1,5D" = .ok t) ∧
      ¬∃ t, EntryPoint.text.read ruleIdOf "C1-2P1,5D" = .ok t) ∧
    (∃ r, Rule.parse none endlessText = .ok r) ∧
      ∃ t t', EntryPoint.value.read (fun _ => "a") endlessText = .ok t ∧
        EntryPoint.list.read (fun _ => "b") endlessText = .ok t' ∧
        ¬∃ b, t.equal t' = .ok b := by
  constructor
  · have hrule : (Rule.parse none "C1-2P1,5D").toOption.any (fun _ => true) = true := by
      decide +kernel
    have hvalue : (EntryPoint.value.read ruleIdOf "C1-2P1,5D").toOption.any (fun _ => true) =
        true := by decide +kernel
    have htext : (EntryPoint.text.read ruleIdOf "C1-2P1,5D").toOption.isNone = true := by
      decide +kernel
    obtain ⟨r, hr, -⟩ := exists_ok_of_any hrule
    obtain ⟨t, ht, -⟩ := exists_ok_of_any hvalue
    refine ⟨⟨r, hr⟩, ⟨t, ht⟩, ?_⟩
    rintro ⟨u, hu⟩
    rw [hu] at htext
    cases htext
  · obtain ⟨r, fault, hr, hkey⟩ := parse_endlessText
    refine ⟨⟨r, hr⟩, _, _, EntryPoint.read_of_parse hr .value _ nofun,
      EntryPoint.read_of_parse hr .list _ nofun, ?_⟩
    rw [equal_singleton_of_error hkey (by decide)]
    rintro ⟨b, ⟨⟩⟩

end TieredTerms.RuleTable
