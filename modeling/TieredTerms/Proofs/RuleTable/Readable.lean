import TieredTerms.Proofs.Rule.Readable
import TieredTerms.Proofs.RuleTable.Decoding

/-!
# Tables whose compact forms are read

A table that was read from a text is written without signs, so its compact form is read again
exactly where every rule is readable.  What is read is then written in the same way.

* `RuleTable.OfTexts` are the tables that texts give, `RuleTable.ReadBy` tells of their ids as well;
  `RuleTable.readBy_parse` and `RuleTable.readBy_parseJson` are the two readers.
* `RuleTable.OfTexts.parse_compact_iff` is the equivalence, `RuleTable.OfTexts.parse_compact` what
  is read.
-/

namespace TieredTerms.RuleTable

/-- Every rule was read from a text. -/
def OfTexts [StandIns] (t : RuleTable) : Prop :=
  ∀ r ∈ t.rules, r.OfText

/-- The compact form of every rule is read. -/
def IsReadable (t : RuleTable) : Prop :=
  ∀ r ∈ t.rules, r.IsReadable

/-! ## Tables of texts -/

/-- Every rule was read from a text, with an id of the source. -/
def ReadBy [StandIns] (ids : IdSource) (t : RuleTable) : Prop :=
  ∀ r ∈ t.rules, ∃ n text, Rule.parse (some (ids n)) text = .ok r

variable {ids : IdSource}

theorem ReadBy.ofTexts [StandIns] {t : RuleTable} (h : t.ReadBy ids) : t.OfTexts := by
  intro r hr
  obtain ⟨n, text, hparse⟩ := h r hr
  exact ⟨_, text, hparse⟩

/-- The rules of texts have the ids of the source. -/
theorem ReadBy.id [StandIns] {t : RuleTable} (h : t.ReadBy ids) {r : Rule} (hr : r ∈ t.rules) :
    ∃ n, r.id = some (ids n) := by
  obtain ⟨n, text, hparse⟩ := h r hr
  exact ⟨n, Rule.id_of_parse hparse⟩

/-- A rule that goes to the end of a table of texts is one of a text. -/
private theorem readBy_pushRule [StandIns] {t u : RuleTable} (ht : t.ReadBy ids) {r : Rule}
    (hr : ∃ n text, Rule.parse (some (ids n)) text = .ok r) (h : t.pushRule .none r = .ok u) :
    u.ReadBy ids := by
  obtain ⟨-, place, -, hrules⟩ := pushRule_eq_ok.mp h
  intro s hs
  rw [hrules, List.mem_append, List.mem_cons] at hs
  rcases hs with hs | rfl | hs
  · exact ht s (List.mem_of_mem_take hs)
  · exact hr
  · exact ht s (List.mem_of_mem_drop hs)

/-- Compact forms that extend a table are all read, and extend it with rules of texts. -/
theorem readBy_pushForms [StandIns] {forms : List String} {position : Nat} {t u : RuleTable}
    (ht : t.ReadBy ids) (h : pushForms ids position t forms = .ok u) :
    u.ReadBy ids ∧ ∀ form ∈ forms, ∃ id s, Rule.parse id form = .ok s := by
  induction forms generalizing position t with
  | nil =>
    cases h
    exact ⟨ht, by simp⟩
  | cons form forms ih =>
    obtain ⟨r, hr, h⟩ := bind_eq_ok.mp h
    obtain ⟨next, hnext, h⟩ := bind_eq_ok.mp h
    obtain ⟨hu, hforms⟩ := ih (readBy_pushRule ht ⟨_, _, hr⟩ hnext) h
    exact ⟨hu, List.forall_mem_cons.mpr ⟨⟨_, r, hr⟩, hforms⟩⟩

private theorem readBy_empty [StandIns] : empty.ReadBy ids := by
  simp [ReadBy, empty]

theorem readBy_parse [StandIns] {text : String} {t : RuleTable} (h : parse ids text = .ok t) :
    t.ReadBy ids := by
  rw [parse] at h
  split_ifs at h
  · cases h
    exact readBy_empty
  · exact (readBy_pushForms readBy_empty h).1

/-- No document is a rule. -/
private theorem ofDatum_ne_rule (d : Datum) (r : Rule) : Value.ofDatum d ≠ .rule r := by
  cases d <;> simp [Value.ofDatum]

private theorem ofItems_ne_rule (items : List Datum) (r : Rule) :
    ∀ v ∈ Value.ofItems items, v ≠ .rule r := by
  induction items with
  | nil => simp [Value.ofItems]
  | cons d items ih =>
    rw [Value.ofItems, List.forall_mem_cons]
    exact ⟨ofDatum_ne_rule d r, ih⟩

/-- Values other than rules extend a table with rules of texts. -/
private theorem readBy_pushItems [StandIns] {items : List Value} {position : Nat} {t u : RuleTable}
    (hitems : ∀ r, ∀ v ∈ items, v ≠ .rule r) (ht : t.ReadBy ids)
    (h : pushItems ids position t items = .ok u) : u.ReadBy ids := by
  induction items generalizing position t with
  | nil =>
    cases h
    exact ht
  | cons item items ih =>
    obtain ⟨next, hnext, h⟩ := pushItems_cons_eq_ok h
    have hrest : ∀ r, ∀ v ∈ items, v ≠ .rule r :=
      fun r v hv => hitems r v (List.mem_cons_of_mem _ hv)
    refine ih hrest ?_ h
    obtain ⟨r, hr, hpush⟩ := bind_eq_ok.mp hnext
    refine readBy_pushRule ht ?_ hpush
    unfold ruleOf at hr
    split at hr
    · exact ⟨_, _, hr⟩
    · next s _ => exact absurd rfl (hitems s _ List.mem_cons_self)
    · cases hr

theorem readBy_parseJson [StandIns] {text : String} {t : RuleTable}
    (h : parseJson ids text = .ok t) : t.ReadBy ids := by
  obtain ⟨document, -, h⟩ := bind_eq_ok.mp h
  cases document with
  | array items =>
    rw [Value.ofDatum, ofItems] at h
    exact readBy_pushItems (fun r v hv => ofItems_ne_rule items r v hv) readBy_empty h
  | _ => cases h

/-! ## The characters of texts -/

/-- What stands between marks stands in one of the pieces, marks apart. -/
private theorem mem_of_intercalate {mark c : Char} (hc : c ≠ mark) {pieces : List (List Char)}
    (h : c ∈ [mark].intercalate pieces) : ∃ piece ∈ pieces, c ∈ piece := by
  induction pieces with
  | nil => simp at h
  | cons piece pieces ih =>
    cases pieces with
    | nil =>
      rw [List.intercalate_singleton] at h
      exact ⟨piece, List.mem_singleton_self piece, h⟩
    | cons next pieces =>
      rw [List.intercalate_cons_cons, List.mem_append, List.mem_append, List.mem_singleton] at h
      rcases h with (h | h) | h
      · exact ⟨piece, List.mem_cons_self, h⟩
      · exact absurd h hc
      · obtain ⟨found, hfound, hmem⟩ := ih h
        exact ⟨found, List.mem_cons_of_mem _ hfound, hmem⟩

/-- Only blanks are stripped. -/
theorem mem_stripChars {c : Char} (hc : isBlank c = false) {cs : List Char} (h : c ∈ cs) :
    c ∈ stripChars cs := by
  have hdrop {ds : List Char} (h : c ∈ ds) : c ∈ ds.dropWhile isBlank := by
    rw [← List.takeWhile_append_dropWhile (p := isBlank) (l := ds), List.mem_append] at h
    refine h.resolve_left fun htake => ?_
    rw [List.mem_takeWhile_imp htake] at hc
    cases hc
  rw [stripChars, stripEndChars, List.mem_reverse]
  exact hdrop (List.mem_reverse.mpr (hdrop h))

/-- A text that gives a table holds no mark of an exponent. -/
theorem not_mem_of_parse [StandIns] {ids : IdSource} {text : String} {t : RuleTable}
    (h : parse ids text = .ok t) : 'E' ∉ text.toList := by
  have hblank : isBlank 'E' = false := by decide
  intro hmem
  rw [parse] at h
  split_ifs at h with hall
  · rw [List.all_eq_true.mp hall 'E' hmem] at hblank
    cases hblank
  · have hforms := (readBy_pushForms readBy_empty h).2
    rw [segments, List.forall_mem_map] at hforms
    have hjoined : [','].intercalate (text.toList.splitOn ',') = text.toList :=
      List.intercalate_splitOn ','
    rw [← hjoined] at hmem
    obtain ⟨piece, hpiece, hmem⟩ := mem_of_intercalate (by decide) hmem
    obtain ⟨id, s, hparse⟩ := hforms piece hpiece
    have hnot := Rule.not_mem_of_parse hparse
    rw [String.toList_ofList] at hnot
    exact hnot (mem_stripChars hblank hmem)

/-! ## Reading again -/

/-- Where each member of a list has a counterpart, there is a list of counterparts. -/
private theorem exists_forall₂ {P : Rule → Rule → Prop} {rules : List Rule}
    (h : ∀ r ∈ rules, ∃ p, P r p) : ∃ plain, List.Forall₂ P rules plain := by
  induction rules with
  | nil => exact ⟨[], .nil⟩
  | cons r rules ih =>
    rw [List.forall_mem_cons] at h
    obtain ⟨⟨p, hp⟩, hrest⟩ := h
    obtain ⟨plain, hplain⟩ := ih hrest
    exact ⟨p :: plain, .cons hp hplain⟩

private theorem map_eq_of_forall₂ {α : Type} {P : Rule → Rule → Prop} {f : Rule → α}
    (hf : ∀ r s, P r s → f r = f s) {rules others : List Rule} (h : List.Forall₂ P rules others) :
    rules.map f = others.map f := by
  rw [← List.forall₂_eq_eq_eq, List.forall₂_map_left_iff, List.forall₂_map_right_iff]
  exact h.imp hf

private theorem kind?_eq_head? (t : RuleTable) : t.kind? = (t.rules.map Rule.kind).head? := by
  rw [kind?, List.head?_map]

/-- A readable table of texts is written like a plain table. -/
theorem OfTexts.exists_plain [StandIns] {t : RuleTable} (h : t.OfTexts) (hreadable : t.IsReadable) :
    ∃ p : RuleTable, p.IsPlain ∧ p.compact = t.compact ∧ p.kind? = t.kind? ∧ p.size = t.size := by
  obtain ⟨plain, hplain⟩ := exists_forall₂ fun r hr => (h r hr).exists_plain (hreadable r hr)
  have hkinds : t.rules.map Rule.kind = plain.map Rule.kind :=
    map_eq_of_forall₂ (fun _ _ hp => hp.2.2.symm) hplain
  have hforms : t.rules.map Rule.compact = plain.map Rule.compact :=
    map_eq_of_forall₂ (fun _ _ hp => hp.2.1.symm) hplain
  have huniform : ∀ a ∈ plain, ∀ b ∈ plain, a.kind = b.kind := by
    have hfrom : ∀ a ∈ plain, ∃ r ∈ t.rules, r.kind = a.kind := by
      intro a ha
      have hkind : a.kind ∈ t.rules.map Rule.kind := by
        rw [hkinds]
        exact List.mem_map_of_mem ha
      exact List.mem_map.mp hkind
    intro a ha b hb
    obtain ⟨r, hr, hra⟩ := hfrom a ha
    obtain ⟨s, hs, hsb⟩ := hfrom b hb
    rw [← hra, ← hsb]
    exact t.uniform r hr s hs
  refine ⟨⟨plain, huniform⟩, ?_, ?_, ?_, hplain.length_eq.symm⟩
  · intro p hp
    obtain ⟨i, hi, rfl⟩ := List.mem_iff_getElem.mp hp
    exact (hplain.get (by rwa [hplain.length_eq]) hi).1
  · rw [compact, compact, compactForms, compactForms, hforms]
  · rw [kind?_eq_head?, kind?_eq_head?, hkinds]

/-- The compact form of a readable table of texts gives a table of the same kind and size that is
written in the same way. -/
theorem OfTexts.parse_compact [StandIns] {t : RuleTable} (h : t.OfTexts) (hreadable : t.IsReadable)
    (ids : IdSource) :
    ∃ u, parse ids t.compact = .ok u ∧ u.isWritable = true ∧ u.compact = t.compact ∧
      u.kind? = t.kind? ∧ u.size = t.size := by
  obtain ⟨p, hplain, hcompact, hkind, hsize⟩ := h.exists_plain hreadable
  obtain ⟨u, hparse, hrestored⟩ := RuleTable.parse_compact ids hplain
  have hkinds : p.rules.map Rule.kind = u.rules.map Rule.kind :=
    map_eq_of_forall₂ (fun _ _ hparts => hparts.kind) hrestored.rules
  refine ⟨u, by rw [← hcompact, hparse], hrestored.writable, by rw [hrestored.compact, hcompact],
    ?_, ?_⟩
  · rw [← hkind, kind?_eq_head?, kind?_eq_head?, hkinds]
  · rw [← hsize, size, size, hrestored.rules.length_eq]

/-- The compact form of a table of texts is read exactly where the table is readable. -/
theorem OfTexts.parse_compact_iff [StandIns] {t : RuleTable} (h : t.OfTexts) (ids : IdSource) :
    (∃ u, parse ids t.compact = .ok u) ↔ t.IsReadable := by
  constructor
  · rintro ⟨u, hparse⟩
    have hnot := not_mem_of_parse hparse
    rw [toList_compact] at hnot
    have hpositional : ∀ r ∈ t.rules, 'E' ∉ r.compactChars := by
      intro r hr hmem
      exact hnot ((infix_intercalate (List.mem_map_of_mem hr)).subset hmem)
    rw [parse_compactForms ids fun r hr => (h r hr).isCompactChar (hpositional r hr)] at hparse
    have hforms := (readBy_pushForms readBy_empty hparse).2
    rw [compactForms, List.forall_mem_map] at hforms
    intro r hr
    obtain ⟨id, s, hs⟩ := hforms r hr
    exact Rule.isReadable_of_parse hs
  · intro hreadable
    obtain ⟨u, hparse, -⟩ := h.parse_compact hreadable ids
    exact ⟨u, hparse⟩

end TieredTerms.RuleTable
