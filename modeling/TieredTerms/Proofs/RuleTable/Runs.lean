import TieredTerms.Proofs.Rule.Building
import TieredTerms.Proofs.RuleTable.Pushing

/-!
# Runs of table operations

A run starts without tables.  Each command makes a table, copies one or puts a rule into one, and a
command that fails changes nothing.

* `RuleTable.Command` and `RuleTable.run` are the operations and what they lead to.
* `RuleTable.Sound` is the invariant: one kind, ordered bounds, results that are not below zero.
* `RuleTable.step_keeps_made` is the step, `RuleTable.run_keeps_invariants` the whole run with the
  law of insertions.
-/

namespace TieredTerms

/-- The rules that a value hands in: itself, or those of its items that are rules. -/
def Value.givenRules : Value → List Rule
  | .rule r => [r]
  | .list items | .tuple items => items.filterMap fun
    | .rule r => some r
    | _ => Option.none
  | _ => []

namespace RuleTable

/-! ## Commands -/

/-- An operation on tables.  Tables that are held already are named by their places. -/
inductive Command where
  | new
  | create (id : String) (v : Value)
  | parse (ids : IdSource) (v : Value)
  | ofItems (ids : IdSource) (v : Value)
  | ofJson (ids : IdSource) (v : Value)
  | clone (ids : IdSource) (place : Nat)
  | push (id : String) (place : Nat) (v index : Value)

namespace Command

/-- The tables after a command, or its fault.  A command for a table that is not held does
nothing. -/
def apply [StandIns] (held : List RuleTable) : Command → Except Fault (List RuleTable)
  | .new => .ok (held ++ [empty])
  | .create id v => do return held ++ [← RuleTable.create id v]
  | .parse ids v => do return held ++ [← ofTextValue ids v]
  | .ofItems ids v => do return held ++ [← RuleTable.ofItems ids v]
  | .ofJson ids v => do return held ++ [← ofJsonValue ids v]
  | .clone ids place =>
    match held[place]? with
    | some t => do return held ++ [← t.clone ids]
    | none => .ok held
  | .push id place v index =>
    match held[place]? with
    | some t => do return held.set place (← t.push id v index)
    | none => .ok held

/-- The rules that a command hands in. -/
def givenRules : Command → List Rule
  | .create _ v | .ofItems _ v | .push _ _ v _ => v.givenRules
  | _ => []

end Command

/-- The tables after a command that may fail. -/
def step [StandIns] (held : List RuleTable) (command : Command) : List RuleTable :=
  match command.apply held with
  | .ok next => next
  | .error _ => held

/-- The tables after a run. -/
def run [StandIns] (commands : List Command) : List RuleTable :=
  commands.foldl step []

/-! ## What operations put into tables -/

/-- A table of rules that the constructors give. -/
def OfMade [StandIns] (t : RuleTable) : Prop :=
  ∀ r ∈ t.rules, r.Made

theorem ofMade_empty [StandIns] : empty.OfMade := by
  simp [OfMade, empty]

theorem OfMade.pushRule [StandIns] {t u : RuleTable} {index : Value} {r : Rule} (ht : t.OfMade)
    (hr : r.Made) (h : t.pushRule index r = .ok u) : u.OfMade := by
  obtain ⟨-, place, -, hrules⟩ := pushRule_eq_ok.mp h
  intro s hs
  rw [hrules, List.mem_append, List.mem_cons] at hs
  rcases hs with hs | rfl | hs
  · exact ht s (List.mem_of_mem_take hs)
  · exact hr
  · exact ht s (List.mem_of_mem_drop hs)

/-- A rule that is pushed is handed in or read from a compact form. -/
private theorem made_ruleOf [StandIns] {id : String} {v : Value} {r : Rule}
    (hv : ∀ s, v = .rule s → s.Made) (h : ruleOf id v = .ok r) : r.Made := by
  cases v with
  | rule s =>
    cases h
    exact hv _ rfl
  | text s => exact .parsed h
  | kind k => exact .parsed h
  | _ => cases h

theorem OfMade.push [StandIns] {t u : RuleTable} {id : String} {v index : Value} (ht : t.OfMade)
    (hv : ∀ s, v = .rule s → s.Made) (h : t.push id v index = .ok u) : u.OfMade := by
  obtain ⟨r, hr, hpush⟩ := bind_eq_ok.mp h
  exact ht.pushRule (made_ruleOf hv hr) hpush

private theorem made_of_givenRules [StandIns] {v : Value} (h : ∀ s ∈ v.givenRules, s.Made) :
    ∀ s, v = .rule s → s.Made := by
  rintro s rfl
  exact h s (List.mem_singleton.mpr rfl)

private theorem OfMade.pushForms [StandIns] {ids : IdSource} {forms : List String} {position : Nat}
    {t u : RuleTable} (ht : t.OfMade) (h : pushForms ids position t forms = .ok u) : u.OfMade := by
  induction forms generalizing position t with
  | nil =>
    cases h
    exact ht
  | cons form forms ih =>
    rw [RuleTable.pushForms] at h
    obtain ⟨r, hr, h⟩ := bind_eq_ok.mp h
    obtain ⟨next, hnext, h⟩ := bind_eq_ok.mp h
    exact ih (ht.pushRule (.parsed hr) hnext) h

private theorem OfMade.pushItems [StandIns] {ids : IdSource} {items : List Value} {position : Nat}
    {t u : RuleTable} (ht : t.OfMade) (hitems : ∀ item ∈ items, ∀ s, item = .rule s → s.Made)
    (h : pushItems ids position t items = .ok u) : u.OfMade := by
  induction items generalizing position t with
  | nil =>
    cases h
    exact ht
  | cons item items ih =>
    rw [List.forall_mem_cons] at hitems
    obtain ⟨next, hnext, h⟩ := pushItems_cons_eq_ok h
    exact ih (ht.push hitems.1 hnext) hitems.2 h

private theorem OfMade.cloneRules [StandIns] {ids : IdSource} {rules : List Rule} {position : Nat}
    {t u : RuleTable} (ht : t.OfMade) (hrules : ∀ r ∈ rules, r.Made)
    (h : cloneRules ids position t rules = .ok u) : u.OfMade := by
  induction rules generalizing position t with
  | nil =>
    cases h
    exact ht
  | cons r rules ih =>
    rw [List.forall_mem_cons] at hrules
    rw [RuleTable.cloneRules] at h
    obtain ⟨s, hs, h⟩ := bind_eq_ok.mp h
    obtain ⟨next, hnext, h⟩ := bind_eq_ok.mp h
    exact ih (ht.pushRule (.cloned hrules.1 hs) hnext) hrules.2 h

theorem ofMade_ofItems [StandIns] {ids : IdSource} {v : Value} {u : RuleTable}
    (hv : ∀ s ∈ v.givenRules, s.Made) (h : ofItems ids v = .ok u) : u.OfMade := by
  have hitems {items : List Value} (hgiven : ∀ s ∈ (Value.list items).givenRules, s.Made) :
      ∀ item ∈ items, ∀ s, item = .rule s → s.Made := by
    rintro item hitem s rfl
    exact hgiven s (List.mem_filterMap.mpr ⟨.rule s, hitem, rfl⟩)
  cases v with
  | list items => exact ofMade_empty.pushItems (hitems hv) h
  | tuple items => exact ofMade_empty.pushItems (hitems hv) h
  | _ => cases h

theorem ofMade_ofTextValue [StandIns] {ids : IdSource} {v : Value} {u : RuleTable}
    (h : ofTextValue ids v = .ok u) : u.OfMade := by
  rw [ofTextValue] at h
  split at h
  · rw [parse] at h
    split_ifs at h
    · cases h
      exact ofMade_empty
    · exact ofMade_empty.pushForms h
  · cases h

/-- A document holds no rules. -/
private theorem givenRules_ofDatum (d : Datum) : (Value.ofDatum d).givenRules = [] := by
  have hitems (items : List Datum) : (Value.list (Value.ofItems items)).givenRules = [] := by
    rw [Value.givenRules, List.filterMap_eq_nil_iff]
    induction items with
    | nil => simp [Value.ofItems]
    | cons item items ih =>
      rw [Value.ofItems, List.forall_mem_cons]
      refine ⟨?_, ih⟩
      cases item <;> simp [Value.ofDatum]
  cases d with
  | array items =>
    rw [Value.ofDatum]
    exact hitems items
  | _ => simp [Value.ofDatum, Value.givenRules]

theorem ofMade_ofJsonValue [StandIns] {ids : IdSource} {v : Value} {u : RuleTable}
    (h : ofJsonValue ids v = .ok u) : u.OfMade := by
  rw [ofJsonValue] at h
  split at h
  · obtain ⟨document, -, h⟩ := bind_eq_ok.mp h
    exact ofMade_ofItems (by simp [givenRules_ofDatum]) h
  · cases h

/-! ## Steps -/

/-- Every operation leaves tables of rules that the constructors give. -/
theorem apply_keeps_made [StandIns] {held next : List RuleTable} {command : Command}
    (hheld : ∀ t ∈ held, t.OfMade) (hgiven : ∀ r ∈ command.givenRules, r.Made)
    (h : command.apply held = .ok next) : ∀ t ∈ next, t.OfMade := by
  have happend {u : RuleTable} (hu : u.OfMade) : ∀ t ∈ held ++ [u], t.OfMade := by
    rw [List.forall_mem_append, List.forall_mem_singleton]
    exact ⟨hheld, hu⟩
  cases command with
  | new =>
    cases h
    exact happend ofMade_empty
  | create id v =>
    obtain ⟨u, hu, rfl⟩ := map_eq_ok.mp h
    exact happend (ofMade_empty.push (made_of_givenRules hgiven) hu)
  | parse ids v =>
    obtain ⟨u, hu, rfl⟩ := map_eq_ok.mp h
    exact happend (ofMade_ofTextValue hu)
  | ofItems ids v =>
    obtain ⟨u, hu, rfl⟩ := map_eq_ok.mp h
    exact happend (ofMade_ofItems hgiven hu)
  | ofJson ids v =>
    obtain ⟨u, hu, rfl⟩ := map_eq_ok.mp h
    exact happend (ofMade_ofJsonValue hu)
  | clone ids place =>
    rw [Command.apply] at h
    cases hplace : held[place]? with
    | none =>
      rw [hplace] at h
      cases h
      exact hheld
    | some t =>
      rw [hplace] at h
      obtain ⟨u, hu, rfl⟩ := map_eq_ok.mp h
      exact happend (ofMade_empty.cloneRules (hheld t (List.mem_of_getElem? hplace)) hu)
  | push id place v index =>
    rw [Command.apply] at h
    cases hplace : held[place]? with
    | none =>
      rw [hplace] at h
      cases h
      exact hheld
    | some t =>
      rw [hplace] at h
      obtain ⟨u, hu, rfl⟩ := map_eq_ok.mp h
      have hpushed := (hheld t (List.mem_of_getElem? hplace)).push (made_of_givenRules hgiven) hu
      intro s hs
      rcases List.mem_or_eq_of_mem_set hs with hs | rfl
      · exact hheld s hs
      · exact hpushed

/-- A step, failing or not, keeps tables of rules that the constructors give. -/
theorem step_keeps_made [StandIns] {held : List RuleTable} {command : Command}
    (hheld : ∀ t ∈ held, t.OfMade) (hgiven : ∀ r ∈ command.givenRules, r.Made) :
    ∀ t ∈ step held command, t.OfMade := by
  rw [step]
  split
  · next happly => exact apply_keeps_made hheld hgiven happly
  · exact hheld

/-! ## Runs -/

/-- Every table of a run holds rules that the constructors give. -/
theorem run_keeps_made [StandIns] {commands : List Command}
    (h : ∀ c ∈ commands, ∀ r ∈ c.givenRules, r.Made) : ∀ t ∈ run commands, t.OfMade := by
  have hfrom (held : List RuleTable) (hheld : ∀ t ∈ held, t.OfMade) :
      ∀ t ∈ commands.foldl step held, t.OfMade := by
    induction commands generalizing held with
    | nil => exact hheld
    | cons c commands ih =>
      rw [List.forall_mem_cons] at h
      exact ih h.2 (step held c) (step_keeps_made hheld h.1)
  exact hfrom [] (by simp)

/-- The invariant of tables: the kind reported is the kind of every rule, and there is none just
where there is no rule; bounds are ordered and no result is below zero. -/
structure Sound (t : RuleTable) : Prop where
  kind : ∀ r ∈ t.rules, t.kind? = some r.kind
  empty : t.kind? = none ↔ t.rules = []
  ordered : ∀ r ∈ t.rules, r.IsOrdered

theorem OfMade.sound [StandIns] {t : RuleTable} (h : t.OfMade) : t.Sound := by
  refine ⟨fun r hr => kind?_of_mem hr, ?_, fun r hr => (h r hr).hasProjections.isOrdered⟩
  rw [kind?, Option.map_eq_none_iff, List.head?_eq_none_iff]

/-- The place that an index names in a list of the given length: a negative index counts from the
end, what is beyond an end is cut to it, and no index is the end. -/
def placeOf (length : Nat) (index : Value) : Nat :=
  match index.asIndex? with
  | none => length
  | some n => (max 0 (min (length : Int) (if n < 0 then n + length else n))).toNat

private theorem placeOf_of_placeAt {t : RuleTable} {index : Value} {place : Nat}
    (h : t.placeAt index = .ok place) : placeOf t.size index = place := by
  unfold placeAt at h
  split at h
  · cases h
    rfl
  · next n _ hindex =>
    split_ifs at h
    cases h
    rw [placeOf, hindex, insertionPlace]
    dsimp only
    split_ifs <;> omega
  · cases h

/-- Over any run, every table ever held is sound, and its rules may be handed in again.  A
successful insertion puts one rule between two parts of the old table, and a failing one changes
nothing. -/
theorem run_keeps_invariants [StandIns] (commands : List Command)
    (h : ∀ c ∈ commands, ∀ r ∈ c.givenRules, r.Made) :
    (∀ t ∈ run commands, t.Sound ∧ t.OfMade) ∧
      ∀ (id : String) (place : Nat) (v index : Value) (t : RuleTable),
        (run commands)[place]? = some t →
        (∀ u, t.push id v index = .ok u →
          run (commands ++ [.push id place v index]) = (run commands).set place u ∧
          ∃ r, ruleOf id v = .ok r ∧
            u.rules = t.rules.take (placeOf t.size index) ++
              r :: t.rules.drop (placeOf t.size index)) ∧
        ∀ fault, t.push id v index = .error fault →
          run (commands ++ [.push id place v index]) = run commands := by
  have hstep (command : Command) : run (commands ++ [command]) = step (run commands) command := by
    simp [run]
  refine ⟨fun t ht => ⟨(run_keeps_made h t ht).sound, run_keeps_made h t ht⟩, ?_⟩
  intro id place v index t hplace
  constructor
  · intro u hu
    refine ⟨?_, ?_⟩
    · rw [hstep, step, Command.apply]
      simp [hplace, hu]
    · obtain ⟨r, hr, hpush⟩ := bind_eq_ok.mp hu
      obtain ⟨-, i, hi, hrules⟩ := pushRule_eq_ok.mp hpush
      rw [placeOf_of_placeAt hi]
      exact ⟨r, hr, hrules⟩
  · intro fault hfault
    rw [hstep, step, Command.apply]
    simp [hplace, hfault]

/-- A year and six months. -/
def yearAndHalf : Duration :=
  .calendar (Decimal.ofInt 1) (Decimal.ofInt 6) Clock.zero

theorem isNegative_yearAndHalf : yearAndHalf.isNegative = false := by
  decide +kernel

/-- A rule that gives a year and six months for a range of categories. -/
def stage (lower upper : Nat) (lower_pos : 0 < lower) (ordered : upper = 0 ∨ lower ≤ upper) :
    Rule where
  interval := .category lower upper lower_pos ordered
  result := yearAndHalf
  id := none
  result_valid := isNegative_yearAndHalf

/-- A rule of the other kind, which holds for a year and six months alone. -/
def sameSpan : Rule where
  interval := .duration yearAndHalf yearAndHalf isNegative_yearAndHalf isNegative_yearAndHalf
    (by decide +kernel)
  result := yearAndHalf
  id := none
  result_valid := isNegative_yearAndHalf

/-- The rules of the first twelve categories, of the next twelve, and of all after them. -/
def early : Rule :=
  stage 1 12 Nat.one_pos (by decide)

def middle : Rule :=
  stage 13 24 (by decide) (by decide)

def late : Rule :=
  stage 25 0 (by decide) (by decide)

/-- Two of the rules are put into a table, and one of the other kind is not. -/
def stageCommands : List Command :=
  [.new, .push "0000" 0 (.rule early) .none, .push "0001" 0 (.rule sameSpan) .none,
    .push "0002" 0 (.rule late) .none]

theorem stageCommands_given : ∀ c ∈ stageCommands, ∀ r ∈ c.givenRules, r.Made := by
  have hsmall (n : Nat) (h : n < 10) : (Decimal.ofInt n).IsModerate := by
    have hpower : (10 : Rat) ^ (1 : Int) ≤ 10 ^ (300 : Int) :=
      zpow_le_zpow_right₀ (by norm_num) (by decide)
    have hvalue : |(Decimal.ofInt n).toRat| = (n : Rat) := by
      rw [Decimal.abs_toRat]
      simp [Decimal.ofInt]
    rw [Decimal.IsModerate, hvalue]
    exact lt_of_lt_of_le (by exact_mod_cast h) hpower
  have hwhole (n : Int) : (Value.int n).IsModerate := by
    intro d hd
    cases hd
  have hspan : (Value.duration yearAndHalf).IsModerate := by
    rintro d ⟨⟩
    exact ⟨hsmall 1 (by decide), hsmall 6 (by decide)⟩
  have hearly : Rule.build none (.kind .category) (.int 1) (.int 12) (.duration yearAndHalf) =
      .ok early := by decide +kernel
  have hlate : Rule.build none (.kind .category) (.int 25) (.int 0) (.duration yearAndHalf) =
      .ok late := by decide +kernel
  have hsame : Rule.build none (.kind .duration) (.duration yearAndHalf) (.duration yearAndHalf)
      (.duration yearAndHalf) = .ok sameSpan := by decide +kernel
  simp only [stageCommands, Command.givenRules, Value.givenRules, List.forall_mem_cons,
    List.not_mem_nil, false_implies, implies_true, and_true, true_and]
  exact ⟨.built (hwhole 1) (hwhole 12) hspan hearly, .built hspan hspan hspan hsame,
    .built (hwhole 25) (hwhole 0) hspan hlate⟩

/-- A rule is put between two others, and one of the other kind leaves the run as it is. -/
theorem run_keeps_invariants_stages :
    (∀ c ∈ stageCommands, ∀ r ∈ c.givenRules, r.Made) ∧
      (∀ t ∈ run stageCommands, t.Sound ∧ t.OfMade) ∧
      (run stageCommands).map rules = [[early, late]] ∧
      (run (stageCommands ++ [.push "0003" 0 (.rule middle) (.int 1)])).map rules =
        [[early, middle, late]] ∧
      run (stageCommands ++ [.push "0003" 0 (.rule sameSpan) (.int 1)]) = run stageCommands := by
  obtain ⟨hsound, hpush⟩ := run_keeps_invariants stageCommands stageCommands_given
  have hrules : (run stageCommands).map rules = [[early, late]] := by rfl
  obtain ⟨t, hrun, ht⟩ := List.map_eq_singleton_iff.mp hrules
  have hplace : (run stageCommands)[0]? = some t := by
    rw [hrun]
    rfl
  have hkind : t.kind? = some .category := by
    rw [kind?, ht]
    rfl
  have hother : t.push "0003" (.rule sameSpan) (.int 1) =
      .error (.kindMismatch .category .duration) :=
    pushRule_of_other (.int 1) hkind (by decide)
  have hfits : ∃ u, t.push "0003" (.rule middle) (.int 1) = .ok u :=
    ⟨_, pushRule_of_fits (.int 1) (r := middle) (by rw [hkind]; rintro _ ⟨⟩; rfl)⟩
  refine ⟨stageCommands_given, hsound, hrules, ?_, (hpush _ 0 _ _ t hplace).2 _ hother⟩
  obtain ⟨u, hu⟩ := hfits
  obtain ⟨hnext, r, hr, hinserted⟩ := (hpush "0003" 0 _ _ t hplace).1 u hu
  cases hr
  have hsize : t.size = 2 := congrArg List.length ht
  rw [hnext, hrun, List.set_cons_zero, List.map_singleton, hinserted, hsize, ht]
  rfl

end RuleTable

end TieredTerms
