import TieredTerms.Proofs.Rule.Checks

/-!
# Rules that are built anew

What values give decides what is built of them, not the form in which they give it.  So a rule whose
numbers are short is built again of every four values that give its kind, its bounds and its result:
its own parts, or texts in their place.

* `Rule.IsShort` are the rules whose numbers can be shown in messages.
* `Rule.isOf_of_build` and `Rule.build_of_isOf` are the two directions of construction.
* `Value.Replaces` are the changes of form that keep what a value gives.
-/

namespace TieredTerms

/-! ## Short rules -/

/-- Bounds of no more digits than readers take. -/
def Interval.IsShort : Interval → Prop
  | .category lower upper .. => lower < 10 ^ digitLimit ∧ upper < 10 ^ digitLimit
  | .duration lower upper .. => lower.IsShort ∧ upper.IsShort

/-- A rule with short bounds and a short result. -/
structure Rule.IsShort (r : Rule) : Prop where
  interval : r.interval.IsShort
  result : r.result.IsShort

/-- A short rule can be written. -/
theorem Rule.IsShort.isWritable {r : Rule} (h : r.IsShort) : r.isWritable = true := by
  have hinterval : r.interval.isWritable = true := by
    have hbounds := h.interval
    cases hinterval : r.interval with
    | category => rfl
    | duration =>
      rw [hinterval] at hbounds
      rw [Interval.isWritable, hbounds.1.isWritable, hbounds.2.isWritable]
      rfl
  rw [Rule.isWritable, hinterval, h.result.isWritable]
  rfl

/-! ## Arguments -/

/-- An argument that is taken gives the duration. -/
theorem givesDuration_of_durationArgument [StandIns] {ordinal : String} {v : Value}
    {d : BoundDuration} (h : durationArgument ordinal v = .ok d) : v.GivesDuration d.val := by
  rcases durationArgument_eq_ok h with hstructured | ⟨s, htext, hread⟩
  · exact Value.givesDuration_iff.mpr (.inl hstructured)
  · cases v <;> cases htext
    · exact .written hread
    · rw [Duration.read_tagText] at hread
      cases hread

/-- What gives a short duration that is not below zero is taken. -/
theorem durationArgument_of_gives [StandIns] (ordinal : String) {v : Value} {d : Duration}
    (h : v.GivesDuration d) (hshort : d.IsShort) (hvalid : d.isNegative = false) :
    durationArgument ordinal v = .ok ⟨d, hvalid⟩ := by
  cases h with
  | structured =>
    obtain ⟨shown, hshown⟩ := Option.isSome_iff_exists.mp hshort.isSome_shown?
    exact durationArgument_duration ordinal hshown hvalid
  | written hread => exact durationArgument_text ordinal hread hvalid

namespace Rule

variable {a b : Arguments} {r : Rule}

theorem givesKind_of_kindArgument [StandIns] {v : Value} {k : Kind} (h : kindArgument v = .ok k) :
    v.GivesKind k := by
  unfold kindArgument at h
  split at h
  · cases h
    exact .kind k
  · split at h
    · next hkind =>
      cases h
      rw [Kind.eq_tagText_of_ofTag? hkind]
      exact .letter k
    · cases h
  · obtain ⟨given, -, h⟩ := bind_eq_ok.mp h
    cases h

theorem kindArgument_of_gives [StandIns] {v : Value} {k : Kind} (h : v.GivesKind k) :
    kindArgument v = .ok k := by
  cases h with
  | kind => rfl
  | letter => simp [kindArgument]

/-- The arguments give the bounds of the interval that is made of them. -/
theorem givesBounds_of_intervalOf [StandIns] {k : Kind} {lower upper : Value} {i : Interval}
    (h : intervalOf k lower upper = .ok i) :
    Value.GivesBound k lower i.lower ∧ Value.GivesBound k upper i.upper := by
  cases k with
  | category =>
    obtain ⟨l, u, lower_pos, ordered, hlower, hupper, rfl⟩ := intervalOf_category_eq_ok h
    exact ⟨Value.givesBound_category_iff.mpr ⟨l, lowerCategory_eq_ok hlower, rfl⟩,
      Value.givesBound_category_iff.mpr ⟨u, upperCategory_eq_ok hupper, rfl⟩⟩
  | duration =>
    obtain ⟨l, u, lower_valid, upper_valid, ordered, hlower, hupper, rfl⟩ :=
      intervalOf_duration_eq_ok h
    exact ⟨.duration (givesDuration_of_durationArgument hlower),
      .duration (givesDuration_of_durationArgument hupper)⟩

/-- Arguments that give the bounds of a short interval make it again. -/
theorem intervalOf_of_gives [StandIns] {i : Interval} {lower upper : Value}
    (hlower : Value.GivesBound i.kind lower i.lower)
    (hupper : Value.GivesBound i.kind upper i.upper) (hshort : i.IsShort) :
    intervalOf i.kind lower upper = .ok i := by
  cases i with
  | category l u lower_pos ordered =>
    cases hlower
    cases hupper
    simp [intervalOf, Interval.kind, lowerCategory, upperCategory, Value.asCategory?, lower_pos,
      ordered]
  | duration l u lower_valid upper_valid ordered =>
    cases hlower with
    | duration hl =>
      cases hupper with
      | duration hu =>
        simp [intervalOf, Interval.kind, durationArgument_of_gives "second" hl hshort.1 lower_valid,
          durationArgument_of_gives "third" hu hshort.2 upper_valid, ordered]

/-- A rule is of the values that it is built of. -/
theorem isOf_of_build [StandIns] {id : Option String}
    (h : build id a.kind a.lower a.upper a.result = .ok r) : r.IsOf a := by
  obtain ⟨k, hkind, hinterval, hresult, -⟩ := build_eq_ok h
  have hsame : r.kind = k := kind_of_intervalOf hinterval
  obtain ⟨hlower, hupper⟩ := givesBounds_of_intervalOf hinterval
  subst hsame
  exact ⟨givesKind_of_kindArgument hkind, hlower, hupper, givesDuration_of_durationArgument hresult⟩

/-- Of the values that a short rule is of, this rule is built. -/
theorem build_of_isOf [StandIns] (h : r.IsOf a) (hshort : r.IsShort) (id : Option String) :
    build id a.kind a.lower a.upper a.result = .ok { r with id := id } := by
  have hinterval : intervalOf r.kind a.lower a.upper = .ok r.interval :=
    intervalOf_of_gives h.lower h.upper hshort.interval
  have hresult := durationArgument_of_gives "fourth" h.result hshort.result r.result_valid
  rw [build, kindArgument_of_gives h.kind, ok_bind, hinterval, ok_bind, hresult, ok_bind]
  rfl

/-- A rule is of its own parts. -/
theorem isOf_self (r : Rule) :
    r.IsOf ⟨.kind r.kind, r.lowerValue, r.upperValue, .duration r.result⟩ := by
  refine ⟨.kind _, ?_, ?_, .structured _⟩
  · rw [lowerValue, kind]
    cases r.interval with
    | category => exact .category _
    | duration => exact .duration (.structured _)
  · rw [upperValue, kind]
    cases r.interval with
    | category => exact .category _
    | duration => exact .duration (.structured _)

/-- A short rule is built anew of its own parts. -/
theorem IsShort.build_parts [StandIns] (h : r.IsShort) (id : Option String) :
    build id (.kind r.kind) r.lowerValue r.upperValue (.duration r.result) =
      .ok { r with id := id } :=
  build_of_isOf r.isOf_self h id

theorem IsShort.clone [StandIns] (h : r.IsShort) (id : Option String) :
    r.clone id = .ok { r with id := id } :=
  h.build_parts id

end Rule

/-! ## Other forms of the same values -/

/-- Changes of form: a text becomes the duration that is read of it, and a kind its letter. -/
inductive Value.Replaces : Value → Value → Prop
  | same (v : Value) : Replaces v v
  | read {s : String} {d : Duration} (h : Duration.read s = .ok d) :
      Replaces (.text s) (.duration d)
  | letter (k : Kind) : Replaces (.kind k) (.text k.tagText)

namespace Value.Replaces

variable {v w : Value}

theorem givesKind (h : v.Replaces w) {k : Kind} (hk : v.GivesKind k) : w.GivesKind k := by
  cases h with
  | same => exact hk
  | read hread =>
    cases hk with
    | letter =>
      rw [Duration.read_tagText] at hread
      cases hread
  | letter l =>
    cases hk
    exact .letter k

theorem givesDuration (h : v.Replaces w) {d : Duration} (hd : v.GivesDuration d) :
    w.GivesDuration d := by
  cases h with
  | same => exact hd
  | read hread =>
    cases hd with
    | written hread' =>
      obtain rfl := Except.ok.inj (hread.symm.trans hread')
      exact .structured _
  | letter => cases hd

theorem givesBound (h : v.Replaces w) {k : Kind} {t : Target} (ht : GivesBound k v t) :
    GivesBound k w t := by
  cases ht with
  | category n =>
    cases h
    exact .category n
  | duration hd => exact .duration (h.givesDuration hd)

end Value.Replaces

/-- Every value of the first four is replaced by the value in its place. -/
structure Arguments.Replaces (a b : Arguments) : Prop where
  kind : a.kind.Replaces b.kind
  lower : a.lower.Replaces b.lower
  upper : a.upper.Replaces b.upper
  result : a.result.Replaces b.result

/-- A rule is of values in another form if it is of the values. -/
theorem Rule.IsOf.replace {r : Rule} {a b : Arguments} (h : r.IsOf a) (hab : a.Replaces b) :
    r.IsOf b :=
  ⟨hab.kind.givesKind h.kind, hab.lower.givesBound h.lower, hab.upper.givesBound h.upper,
    hab.result.givesDuration h.result⟩

end TieredTerms
