import TieredTerms.Proofs.Rule.Pieces
import TieredTerms.Proofs.RuleTable.Decoding
import TieredTerms.Proofs.RuleTable.Ids

/-!
# Readings of lists

A list is read from its front.  The first item that does not fit decides the fault, and nothing
behind it is looked at; a list without such an item gives a rule for each of its items.  A text with
commas, the list of its pieces and the JSON array of its pieces are read in the same way.

* `RuleTable.StandsFor` is the rule of an item, `RuleTable.Offends` what is wrong with an item.
* `RuleTable.pushItems_append` cuts a reading in two.  `RuleTable.HoldsUpTo` is what is kept from
  item to item, and `RuleTable.pushItems_take` reads all items in front of a place.
* `RuleTable.ofItems_cases` is the whole list.
* `RuleTable.parse_eq_ofItems` leads a text with commas to the list of its pieces.
* `RuleTable.loaders_agree` puts these together.
-/

namespace TieredTerms.RuleTable

variable {ids : IdSource} {items : List Value}

/-! ## Items -/

/-- The item at a place stands for a rule: it is this rule, or a text that is read as it. -/
inductive StandsFor [StandIns] (ids : IdSource) (items : List Value) (i : Nat) : Rule → Prop
  | rule {r : Rule} (hitem : items[i]? = some (.rule r)) : StandsFor ids items i r
  | text {item : Value} {text : String} {r : Rule} (hitem : items[i]? = some item)
      (htext : item.asText? = some text) (hread : Rule.parse (some (ids i)) text = .ok r) :
      StandsFor ids items i r

/-- What is wrong with the item at a place: it is neither a rule nor a text, it is a text that is
not read, or it stands for a rule of another kind than the first item. -/
inductive Offends [StandIns] (ids : IdSource) (items : List Value) (i : Nat) : Fault → Prop
  | noRule {item : Value} (hitem : items[i]? = some item) (hrule : ∀ r, item ≠ .rule r)
      (htext : item.asText? = none) : Offends ids items i (.tableItem item.typeName i)
  | unread {item : Value} {text : String} {fault : Fault} (hitem : items[i]? = some item)
      (htext : item.asText? = some text)
      (hread : Rule.parse (some (ids i)) text = .error fault) : Offends ids items i fault
  | otherKind {r first : Rule} (hitem : StandsFor ids items i r)
      (hfirst : StandsFor ids items 0 first) (hkind : r.kind ≠ first.kind) :
      Offends ids items i (.kindMismatch first.kind r.kind)

/-- The item at a place is the first one with something wrong. -/
def FirstOffends [StandIns] (ids : IdSource) (items : List Value) (i : Nat) (fault : Fault) :
    Prop :=
  Offends ids items i fault ∧ ∀ j < i, ∀ earlier, ¬Offends ids items j earlier

/-! ## One item after the other -/

/-- The rule that an item at a place stands for, or what is wrong with the item alone. -/
def readItem [StandIns] (ids : IdSource) (i : Nat) (item : Value) : Except Fault Rule :=
  match item, item.asText? with
  | .rule r, _ => .ok r
  | _, some text => Rule.parse (some (ids i)) text
  | _, none => .error (.tableItem item.typeName i)

/-- The next item of a list is read and put at the end. -/
theorem pushItems_cons [StandIns] (ids : IdSource) (position : Nat) (t : RuleTable) (item : Value)
    (rest : List Value) :
    pushItems ids position t (item :: rest) = (do
      let r ← readItem ids position item
      let u ← t.pushRule .none r
      pushItems ids (position + 1) u rest) := by
  cases item with
  | rule r => rfl
  | text s => exact bind_assoc _ _ _
  | kind k => exact bind_assoc _ _ _
  | _ => rfl

/-- A list is read up to a place and then from there on. -/
theorem pushItems_append [StandIns] (ids : IdSource) (before rest : List Value) (position : Nat)
    (t : RuleTable) :
    pushItems ids position t (before ++ rest) = (do
      let u ← pushItems ids position t before
      pushItems ids (position + before.length) u rest) := by
  induction before generalizing position t with
  | nil => rfl
  | cons item before ih =>
    rw [List.cons_append, pushItems_cons, pushItems_cons, bind_assoc]
    cases readItem ids position item with
    | error fault => rfl
    | ok r =>
      rw [ok_bind, ok_bind, bind_assoc]
      cases t.pushRule .none r with
      | error fault => rfl
      | ok u => rw [ok_bind, ok_bind, ih, List.length_cons, Nat.add_right_comm, Nat.add_assoc]

theorem standsFor_iff [StandIns] {i : Nat} {item : Value} (hitem : items[i]? = some item)
    {r : Rule} : StandsFor ids items i r ↔ readItem ids i item = .ok r := by
  constructor
  · intro h
    cases h with
    | rule hrule =>
      cases hitem.symm.trans hrule
      rfl
    | @text item' text _ hitem' htext hread =>
      cases hitem.symm.trans hitem'
      cases item with
      | text s =>
        cases htext
        exact hread
      | kind k =>
        cases htext
        exact hread
      | _ => cases htext
  · intro h
    cases item with
    | rule s =>
      cases h
      exact .rule hitem
    | text s => exact .text hitem rfl h
    | kind k => exact .text hitem rfl h
    | _ => cases h

/-- An item with something wrong is not read, or is of another kind than the first. -/
theorem offends_iff [StandIns] {i : Nat} {item : Value} (hitem : items[i]? = some item)
    {fault : Fault} : Offends ids items i fault ↔ readItem ids i item = .error fault ∨
      ∃ r first, readItem ids i item = .ok r ∧ StandsFor ids items 0 first ∧
        r.kind ≠ first.kind ∧ fault = .kindMismatch first.kind r.kind := by
  constructor
  · intro h
    cases h with
    | @noRule item' hitem' hrule htext =>
      cases hitem.symm.trans hitem'
      cases item with
      | rule r => exact absurd rfl (hrule r)
      | text s => cases htext
      | kind k => cases htext
      | _ => exact .inl rfl
    | @unread item' text _ hitem' htext hread =>
      cases hitem.symm.trans hitem'
      cases item with
      | text s =>
        cases htext
        exact .inl hread
      | kind k =>
        cases htext
        exact .inl hread
      | _ => cases htext
    | otherKind hr hfirst hkind =>
      exact .inr ⟨_, _, (standsFor_iff hitem).mp hr, hfirst, hkind, rfl⟩
  · rintro (h | ⟨r, first, hr, hfirst, hkind, rfl⟩)
    · cases item with
      | rule r => cases h
      | text s => exact .unread hitem rfl h
      | kind k => exact .unread hitem rfl h
      | _ =>
        cases h
        exact .noRule hitem (fun _ hrule => nomatch hrule) rfl
    · exact .otherKind ((standsFor_iff hitem).mpr hr) hfirst hkind

/-- An item stands for one rule at most. -/
theorem StandsFor.unique [StandIns] {i : Nat} {r s : Rule} (hr : StandsFor ids items i r)
    (hs : StandsFor ids items i s) : r = s := by
  have hitem : ∃ item, items[i]? = some item := by
    cases hr with
    | rule hitem => exact ⟨_, hitem⟩
    | text hitem _ _ => exact ⟨_, hitem⟩
  obtain ⟨item, hitem⟩ := hitem
  rw [standsFor_iff hitem] at hr hs
  exact Except.ok.inj (hr.symm.trans hs)

/-- Only an item of the list can be wrong. -/
theorem Offends.exists_item [StandIns] {i : Nat} {fault : Fault} (h : Offends ids items i fault) :
    ∃ item, items[i]? = some item := by
  cases h with
  | noRule hitem _ _ => exact ⟨_, hitem⟩
  | unread hitem _ _ => exact ⟨_, hitem⟩
  | otherKind hitem _ _ =>
    cases hitem with
    | rule hitem => exact ⟨_, hitem⟩
    | text hitem _ _ => exact ⟨_, hitem⟩

/-! ## Up to the first fault -/

/-- A table holds the rules of the items in front of a place, in their order. -/
structure HoldsUpTo [StandIns] (ids : IdSource) (items : List Value) (n : Nat) (t : RuleTable) :
    Prop where
  size : t.size = n
  rules : ∀ i r, t.rules[i]? = some r → StandsFor ids items i r

/-- The kind of the table is that of the first item. -/
theorem HoldsUpTo.kind? [StandIns] {n : Nat} {t : RuleTable} (ht : HoldsUpTo ids items n t)
    (hn : 0 < n)
    {first : Rule} (hfirst : StandsFor ids items 0 first) : t.kind? = some first.kind := by
  cases hrules : t.rules with
  | nil =>
    have hsize := ht.size
    rw [RuleTable.size, hrules, List.length_nil] at hsize
    omega
  | cons r rest =>
    have hr := ht.rules 0 r (by rw [hrules]; rfl)
    rw [RuleTable.kind?, hrules, hfirst.unique hr]
    rfl

/-- The item behind the ones that were read is refused for what is wrong with it, whatever follows
it. -/
theorem HoldsUpTo.pushItems_of_offends [StandIns] {n : Nat} {t : RuleTable}
    (ht : HoldsUpTo ids items n t) {item : Value} (hitem : items[n]? = some item) {fault : Fault}
    (h : Offends ids items n fault) (later : List Value) :
    pushItems ids n t (item :: later) = .error fault := by
  rw [pushItems_cons]
  rcases (offends_iff hitem).mp h with hread | ⟨r, first, hread, hfirst, hkind, rfl⟩
  · rw [hread, error_bind]
  · have hn : 0 < n := by
      rcases Nat.eq_zero_or_pos n with rfl | hn
      · exact absurd (congrArg Rule.kind (((standsFor_iff hitem).mpr hread).unique hfirst)) hkind
      · exact hn
    rw [hread, ok_bind, pushRule_of_other .none (ht.kind? hn hfirst) hkind, error_bind]

/-- The item behind the ones that were read is put at the end where nothing is wrong with it. -/
theorem HoldsUpTo.pushItems_of_not_offends [StandIns] {n : Nat} {t : RuleTable}
    (ht : HoldsUpTo ids items n t) {item : Value} (hitem : items[n]? = some item)
    (h : ∀ fault, ¬Offends ids items n fault) :
    ∃ u, pushItems ids n t [item] = .ok u ∧ HoldsUpTo ids items (n + 1) u := by
  obtain ⟨r, hread⟩ : ∃ r, readItem ids n item = .ok r := by
    cases hread : readItem ids n item with
    | ok r => exact ⟨r, rfl⟩
    | error fault => exact absurd ((offends_iff hitem).mpr (.inl hread)) (h fault)
  have hr := (standsFor_iff hitem).mpr hread
  have hkinds : ∀ s ∈ t.rules, s.kind = r.kind := by
    intro s hs
    obtain ⟨i, hi, -⟩ := List.mem_iff_getElem.mp hs
    have hfirst := ht.rules 0 _ (List.getElem?_eq_getElem (Nat.zero_lt_of_lt hi))
    by_contra hne
    have hkind : r.kind ≠ (t.rules.get ⟨0, Nat.zero_lt_of_lt hi⟩).kind := by
      rw [t.uniform _ (List.get_mem ..) s hs]
      exact Ne.symm hne
    exact h _ ((offends_iff hitem).mpr (.inr ⟨r, _, hread, hfirst, hkind, rfl⟩))
  obtain ⟨u, hu, hrules⟩ := pushRule_none hkinds
  refine ⟨u, ?_, ?_, ?_⟩
  · rw [pushItems_cons, hread, ok_bind, hu, ok_bind]
    rfl
  · rw [RuleTable.size, hrules, List.length_append, List.length_singleton]
    exact congrArg (· + 1) ht.size
  · intro i s hs
    rw [hrules, List.getElem?_append] at hs
    split_ifs at hs with hi
    · exact ht.rules i s hs
    · have hsize : t.rules.length = n := ht.size
      rw [List.getElem?_singleton] at hs
      split_ifs at hs with hzero
      cases hs
      have hin : i = n := by omega
      rwa [hin]

/-- The items in front of a place are read where nothing is wrong with them. -/
theorem pushItems_take [StandIns] {n : Nat} (hn : n ≤ items.length)
    (h : ∀ j < n, ∀ fault, ¬Offends ids items j fault) :
    ∃ t, pushItems ids 0 empty (items.take n) = .ok t ∧ HoldsUpTo ids items n t := by
  induction n with
  | zero => exact ⟨empty, rfl, rfl, fun i r hr => nomatch hr⟩
  | succ n ih =>
    obtain ⟨t, ht, hholds⟩ := ih (by omega) fun j hj => h j (by omega)
    have hitem := List.getElem?_eq_getElem (show n < items.length by omega)
    obtain ⟨u, hu, hholds'⟩ := hholds.pushItems_of_not_offends hitem (h n (by omega))
    refine ⟨u, ?_, hholds'⟩
    have hlength : (items.take n).length = n := List.length_take_of_le (by omega)
    rw [List.take_succ_eq_append_getElem (by omega), pushItems_append, ht, ok_bind, hlength,
      Nat.zero_add, hu]

/-- The first item with something wrong decides, whatever follows it. -/
theorem ofItems_of_firstOffends [StandIns] {i : Nat} {fault : Fault}
    (h : FirstOffends ids items i fault) (later : List Value) :
    ofItems ids (.list (items.take (i + 1) ++ later)) = .error fault := by
  obtain ⟨item, hitem⟩ := h.1.exists_item
  obtain ⟨hi, hget⟩ := List.getElem?_eq_some_iff.mp hitem
  obtain ⟨t, ht, hholds⟩ := pushItems_take hi.le h.2
  have hlength : (items.take i).length = i := List.length_take_of_le hi.le
  rw [ofItems, List.take_succ_eq_append_getElem hi, List.append_assoc, pushItems_append, ht,
    ok_bind, hlength, Nat.zero_add, List.singleton_append, hget]
  exact hholds.pushItems_of_offends hitem h.1 later

theorem FirstOffends.ofItems_eq [StandIns] {i : Nat} {fault : Fault}
    (h : FirstOffends ids items i fault) : ofItems ids (.list items) = .error fault := by
  have hfault := ofItems_of_firstOffends h (items.drop (i + 1))
  rwa [List.take_append_drop] at hfault

/-- Where something is wrong with an item, there is a first such item. -/
theorem Offends.exists_first [StandIns] {i : Nat} {fault : Fault} (h : Offends ids items i fault) :
    ∃ j fault, FirstOffends ids items j fault := by
  classical
  have hexists : ∃ j, ∃ fault, Offends ids items j fault := ⟨i, fault, h⟩
  obtain ⟨fault, hfirst⟩ := Nat.find_spec hexists
  exact ⟨Nat.find hexists, fault, hfirst,
    fun j hj earlier hearlier => Nat.find_min hexists hj ⟨earlier, hearlier⟩⟩

/-- A list is read where nothing is wrong with its items, and gives one rule for each. -/
theorem ofItems_cases [StandIns] (ids : IdSource) (items : List Value) :
    (∃ t, ofItems ids (.list items) = .ok t ∧ HoldsUpTo ids items items.length t ∧
        ∀ i fault, ¬Offends ids items i fault) ∨
      ∃ i fault, FirstOffends ids items i fault ∧ ofItems ids (.list items) = .error fault := by
  by_cases h : ∃ i fault, Offends ids items i fault
  · obtain ⟨i, fault, h⟩ := h
    obtain ⟨j, first, hfirst⟩ := h.exists_first
    exact .inr ⟨j, first, hfirst, hfirst.ofItems_eq⟩
  · push Not at h
    obtain ⟨t, ht, hholds⟩ := pushItems_take le_rfl fun j _ => h j
    rw [List.take_length] at ht
    exact .inl ⟨t, ht, hholds, h⟩

/-- A list is refused just where something is wrong with one of its items. -/
theorem exists_fault_iff [StandIns] (ids : IdSource) (items : List Value) :
    (∃ fault, ofItems ids (.list items) = .error fault) ↔ ∃ i fault, Offends ids items i fault := by
  rcases ofItems_cases ids items with ⟨t, ht, -, hnone⟩ | ⟨i, fault, hfirst, hfault⟩
  · constructor
    · rintro ⟨fault, hfault⟩
      rw [ht] at hfault
      cases hfault
    · rintro ⟨i, fault, h⟩
      exact absurd h (hnone i fault)
  · exact ⟨fun _ => ⟨i, fault, hfirst.1⟩, fun _ => ⟨fault, hfault⟩⟩

/-- A list that is read gives one rule for each of its items. -/
theorem holdsUpTo_of_ofItems [StandIns] {t : RuleTable} (ht : ofItems ids (.list items) = .ok t) :
    HoldsUpTo ids items items.length t := by
  rcases ofItems_cases ids items with ⟨u, hu, hholds, -⟩ | ⟨i, fault, -, hfault⟩
  · rw [ht] at hu
    cases hu
    exact hholds
  · rw [ht] at hfault
    cases hfault

/-! ## The three readings -/

/-- A text that is not blank is read as the list of its pieces. -/
theorem parse_eq_ofItems [StandIns] (ids : IdSource) {text : String}
    (h : text.toList.all isBlank = false) :
    parse ids text = ofItems ids (.list ((segments text).map .text)) := by
  rw [parse, if_neg (by simp [h]), ofItems, pushItems_texts]

/-- Lists are read in the same way whatever the ids are. -/
theorem withoutIds_ofItems [StandIns] (ids ids' : IdSource) (items : List Value) :
    withoutIds <$> ofItems ids (.list items) = withoutIds <$> ofItems ids' (.list items) :=
  withoutIds_pushItems ids ids' items 0 rfl

/-- A piece that nothing is wrong with is a rule, so that there are no halves of pairs in it. -/
theorem isUnsplit_of_not_offends [StandIns] {forms : List String} {i : Nat} {form : String}
    (hform : forms[i]? = some form) (h : ∀ fault, ¬Offends ids (forms.map .text) i fault) :
    Json.IsUnsplit form.toList := by
  have hitem : (forms.map Value.text)[i]? = some (.text form) := by
    rw [List.getElem?_map, hform]
    rfl
  cases hread : Rule.parse (some (ids i)) form with
  | ok r => exact Json.isUnsplit_of_unaltered (Rule.unaltered_of_parse hread)
  | error fault => exact absurd (.unread hitem rfl hread) (h fault)

/-- Where the first piece with something wrong has no halves of a pair next to each other, the JSON
array of the pieces is refused for it. -/
theorem parseJson_of_firstOffends [StandIns] {forms : List String} {i : Nat} {fault : Fault}
    (h : FirstOffends ids (forms.map .text) i fault)
    (hunsplit : ∀ form, forms[i]? = some form → Json.IsUnsplit form.toList) :
    parseJson ids (Json.compactText (.array (forms.map .text))) = .error fault := by
  have hforms : ∀ form ∈ forms.take (i + 1), Json.joinedText form = form := by
    intro form hmem
    obtain ⟨j, hj⟩ := List.mem_iff_getElem?.mp hmem
    rw [List.getElem?_take] at hj
    split_ifs at hj with hle
    refine Json.joinedText_of_isUnsplit ?_
    rcases Nat.lt_or_eq_of_le (Nat.lt_succ_iff.mp hle) with hlt | rfl
    · exact isUnsplit_of_not_offends hj (h.2 j hlt)
    · exact hunsplit form hj
  have hjoined : forms.map Json.joinedText =
      forms.take (i + 1) ++ (forms.drop (i + 1)).map Json.joinedText := by
    have hcut : (forms.take (i + 1) ++ forms.drop (i + 1)).map Json.joinedText = _ :=
      List.map_append
    rwa [List.take_append_drop, List.map_congr_left hforms, List.map_id'] at hcut
  rw [parseJson_texts, hjoined, List.map_append, List.map_take]
  exact ofItems_of_firstOffends h _

/-- A text that is not blank and the list of the pieces between its commas are read to the same
rules, one for each piece, or are refused for the first piece that does not fit.  The JSON array of
the pieces is read in the same way, unless this piece has halves of a pair next to each other: in
JSON they are joined.  A list of any values is refused exactly where something is wrong with one of
its items; the first of these decides the fault, and nothing behind it counts. -/
theorem loaders_agree [StandIns] (ids ids' ids'' : IdSource) :
    (∀ text : String, text.toList.all isBlank = false →
      (∃ t u v, parse ids text = .ok t ∧
        ofItems ids' (.list ((segments text).map .text)) = .ok u ∧
        parseJson ids'' (Json.compactText (.array ((segments text).map .text))) = .ok v ∧
        u.withoutIds = t.withoutIds ∧ v.withoutIds = t.withoutIds ∧
        t.size = (segments text).length ∧
        ∀ i r, t.rules[i]? = some r →
          ∃ form, (segments text)[i]? = some form ∧ Rule.parse (some (ids i)) form = .ok r) ∨
      ∃ i fault, FirstOffends ids ((segments text).map .text) i fault ∧
        parse ids text = .error fault ∧
        ofItems ids' (.list ((segments text).map .text)) = .error fault ∧
        ((∀ form, (segments text)[i]? = some form → Json.IsUnsplit form.toList) →
          parseJson ids'' (Json.compactText (.array ((segments text).map .text))) =
            .error fault)) ∧
    (∀ forms : List String, parseJson ids (Json.compactText (.array (forms.map .text))) =
      ofItems ids (.list ((forms.map Json.joinedText).map .text))) ∧
    ∀ items : List Value,
      ofItems ids (.tuple items) = ofItems ids (.list items) ∧
      ((∃ fault, ofItems ids (.list items) = .error fault) ↔
        ∃ i fault, Offends ids items i fault) ∧
      (∀ t, ofItems ids (.list items) = .ok t → HoldsUpTo ids items items.length t) ∧
      ∀ i fault, FirstOffends ids items i fault →
        ofItems ids (.list items) = .error fault ∧
          ∀ later, ofItems ids (.list (items.take (i + 1) ++ later)) = .error fault := by
  refine ⟨fun text htext => ?_, parseJson_texts ids, fun items => ?_⟩
  · have hlist := withoutIds_ofItems ids' ids ((segments text).map .text)
    rw [parse_eq_ofItems ids htext]
    rcases ofItems_cases ids ((segments text).map .text) with
      ⟨t, ht, hholds, hnone⟩ | ⟨i, fault, hfirst, hfault⟩
    · have hunsplit : ∀ form ∈ segments text, Json.IsUnsplit form.toList := by
        intro form hmem
        obtain ⟨i, hi⟩ := List.mem_iff_getElem?.mp hmem
        exact isUnsplit_of_not_offends hi (hnone i)
      have hjson := withoutIds_ofItems ids'' ids ((segments text).map .text)
      rw [ht, ok_map, map_eq_ok] at hlist hjson
      obtain ⟨u, hu, hut⟩ := hlist
      obtain ⟨v, hv, hvt⟩ := hjson
      rw [parseJson_unsplit ids'' hunsplit]
      refine .inl ⟨t, u, v, ht, hu, hv, hut, hvt, by simpa using hholds.size, fun i r hr => ?_⟩
      cases hholds.rules i r hr with
      | rule hitem => simp at hitem
      | text hitem htext hread =>
        rw [List.getElem?_map, Option.map_eq_some_iff] at hitem
        obtain ⟨form, hform, rfl⟩ := hitem
        cases htext
        exact ⟨_, hform, hread⟩
    · rw [hfault, error_map] at hlist
      refine .inr ⟨i, fault, hfirst, hfault, map_eq_error.mp hlist, fun hunsplit => ?_⟩
      have hjson := withoutIds_ofItems ids'' ids (((segments text).map Json.joinedText).map .text)
      rw [← parseJson_texts, ← parseJson_texts, parseJson_of_firstOffends hfirst hunsplit,
        error_map] at hjson
      exact map_eq_error.mp hjson
  · exact ⟨rfl, exists_fault_iff ids items, fun _ => holdsUpTo_of_ofItems,
      fun _ _ hfirst => ⟨hfirst.ofItems_eq, ofItems_of_firstOffends hfirst⟩⟩

/-- A text whose second piece is of another kind than the first, and whose third is no rule. -/
def mixedText : String := "C1-2P1D, DP1DP2DP1Y,x"

theorem loaders_agree_mixed :
    mixedText.toList.all isBlank = false ∧
      parse ruleIdOf mixedText = .error (.kindMismatch .category .duration) ∧
      ∃ i, FirstOffends ruleIdOf ((segments mixedText).map .text) i
          (.kindMismatch .category .duration) ∧
        parseJson ruleIdOf (Json.compactText (.array ((segments mixedText).map .text))) =
          .error (.kindMismatch .category .duration) ∧
        ∀ later, ofItems ruleIdOf (.list (((segments mixedText).map .text).take (i + 1) ++ later)) =
          .error (.kindMismatch .category .duration) := by
  have hblank : mixedText.toList.all isBlank = false := by decide
  have hparse : parse ruleIdOf mixedText = .error (.kindMismatch .category .duration) := by
    decide +kernel
  have hlow : ∀ form ∈ segments mixedText, form.toList.all isLow = true := by decide +kernel
  obtain ⟨htexts, -, hlists⟩ := loaders_agree ruleIdOf ruleIdOf ruleIdOf
  refine ⟨hblank, hparse, ?_⟩
  rcases htexts mixedText hblank with ⟨t, u, v, ht, -⟩ | ⟨i, fault, hfirst, hfault, -, hjson⟩
  · rw [hparse] at ht
    cases ht
  · rw [hparse] at hfault
    cases hfault
    refine ⟨i, hfirst, hjson fun form hform => ?_, ((hlists _).2.2.2 i _ hfirst).2⟩
    exact Json.isUnsplit_of_unaltered (.of_all_isLow (hlow form (List.mem_of_getElem? hform)))

/-- A text in which two characters stand for the halves of a digit. -/
def splitDigit : String :=
  String.ofList ['C', standIn 0xd835, standIn 0xdfcf, '-', '2', 'P', '1', 'D']

/-- The halves of the digit are no number, and in JSON they are joined to one. -/
theorem loaders_disagree_splitDigit :
    splitDigit.toList.all isBlank = false ∧ segments splitDigit = [splitDigit] ∧
      (∃ fault, parse ruleIdOf splitDigit = .error fault ∧
        ofItems ruleIdOf (.list [.text splitDigit]) = .error fault) ∧
      ∃ t, parseJson ruleIdOf (Json.compactText (.array [.text splitDigit])) = .ok t := by
  have hread : (parseJson ruleIdOf (Json.compactText (.array [.text splitDigit]))).toOption.any
      (fun _ => true) = true := by decide +kernel
  obtain ⟨t, ht, -⟩ := exists_ok_of_any hread
  exact ⟨by decide, by decide +kernel, ⟨.lowerArgument "(str) '\\ud835\\udfcf'", by decide +kernel,
    by decide +kernel⟩, t, ht⟩

end TieredTerms.RuleTable
