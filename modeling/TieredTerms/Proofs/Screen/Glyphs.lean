import TieredTerms.Proofs.Rule.Characters

/-!
# Glyphs

The printable characters of ASCII, the space among them, take one cell of a screen each.  A text of
them is one line without tabs, on which nothing is dropped, and no two of them stand as one.

* `isGlyph` are the characters, `Glyphs` the rows of them.
* `Glyphs.raw` is about a text whose lines are not broken.
* `Glyphs.cellLength` and `Glyphs.clusters` count and divide such characters one by one.
-/

namespace TieredTerms

/-- Whether a character is printable ASCII or the space. -/
def isGlyph (c : Char) : Bool :=
  ' ' ≤ c && c ≤ '~'

/-- Characters that take a cell each. -/
def Glyphs (cs : List Char) : Prop :=
  ∀ c ∈ cs, isGlyph c = true

instance (cs : List Char) : Decidable (Glyphs cs) :=
  List.decidableBAll (fun c => isGlyph c = true) cs

theorem toNat_of_isGlyph {c : Char} (h : isGlyph c = true) : 32 ≤ c.toNat ∧ c.toNat ≤ 126 := by
  simp only [isGlyph, Bool.and_eq_true, decide_eq_true_eq, Char.le_def,
    UInt32.le_iff_toNat_le] at h
  exact h

theorem isGlyph_of_toNat {c : Char} (hlow : 32 ≤ c.toNat) (hhigh : c.toNat ≤ 126) :
    isGlyph c = true := by
  simp only [isGlyph, Bool.and_eq_true, decide_eq_true_eq, Char.le_def, UInt32.le_iff_toNat_le]
  exact ⟨hlow, hhigh⟩

theorem isGlyph_of_isRuleChar {c : Char} (h : isRuleChar c = true) : isGlyph c = true := by
  obtain ⟨hlow, hhigh, -⟩ := toNat_of_isRuleChar h
  exact isGlyph_of_toNat (by omega) (by omega)

theorem isGlyph_of_isListChar {c : Char} (h : Json.isListChar c = true) : isGlyph c = true := by
  have hmarks : Glyphs ['"', '[', ']', ' '] := by decide
  rw [Json.isListChar, Bool.or_eq_true, List.contains_iff_mem] at h
  rcases h with hrule | hmark
  · exact isGlyph_of_isRuleChar hrule
  · exact hmarks c hmark

theorem cellWidth_of_isGlyph {c : Char} (h : isGlyph c = true) : cellWidth c = 1 := by
  obtain ⟨hlow, hhigh⟩ := toNat_of_isGlyph h
  rw [cellWidth, if_pos]
  omega

/-- A glyph neither joins its neighbours nor asks for a picture. -/
theorem ne_of_isGlyph {c d : Char} (h : isGlyph c = true) (hd : isGlyph d = false) : c ≠ d := by
  rintro rfl
  rw [h] at hd
  cases hd

/-- A glyph that stands alone. -/
def Cluster.ofGlyph (c : Char) : Cluster := ⟨[c], 1⟩

@[simp] theorem Cluster.cells_ofGlyph (c : Char) : (ofGlyph c).cells = 1 := rfl

theorem RuleChars.glyphs {cs : List Char} (h : RuleChars cs) : Glyphs cs :=
  fun c hc => isGlyph_of_isRuleChar (h c hc)

theorem RuleTable.glyphs_toJson [StandIns] (t : RuleTable) : Glyphs t.toJson.toList :=
  fun c hc => isGlyph_of_isListChar (List.all_eq_true.mp t.all_isListChar_toJson c hc)

namespace Glyphs

variable {cs ds : List Char}

@[simp] theorem nil : Glyphs [] := by
  simp [Glyphs]

@[simp] theorem cons_iff {c : Char} : Glyphs (c :: cs) ↔ isGlyph c = true ∧ Glyphs cs :=
  List.forall_mem_cons

@[simp] theorem append_iff : Glyphs (cs ++ ds) ↔ Glyphs cs ∧ Glyphs ds :=
  List.forall_mem_append

theorem not_mem (h : Glyphs cs) {c : Char} (hc : isGlyph c = false) : c ∉ cs :=
  fun hmem => ne_of_isGlyph (h c hmem) hc rfl

/-! ## Lines -/

/-- All glyphs reach a screen. -/
theorem visible {text : String} (h : Glyphs text.toList) : Screen.visible text = text.toList := by
  rw [Screen.visible, List.filter_eq_self]
  intro c hc
  have hne (d : Char) (hd : isGlyph d = false) : c ≠ d := ne_of_isGlyph (h c hc) hd
  simp [Screen.isControl, hne '\x07' (by decide), hne '\x08' (by decide), hne '\x0b' (by decide),
    hne '\x0c' (by decide), hne '\r' (by decide)]

theorem expandTabs (h : Glyphs cs) : expandTabs cs = cs := by
  rw [TieredTerms.expandTabs, if_neg]
  rw [List.contains_iff_mem]
  exact h.not_mem (by decide)

/-- Glyphs make one line. -/
theorem splitOn (h : Glyphs cs) : cs.splitOn '\n' = [cs] :=
  List.splitOn_eq_singleton (h.not_mem (by decide))

/-- A text of glyphs whose lines are not broken is written as it is. -/
theorem raw {text : String} (h : Glyphs text.toList) : Screen.raw text = text.toList ++ ['\n'] := by
  rw [Screen.raw, h.visible, h.splitOn, List.map_singleton, h.expandTabs, Screen.ofLines,
    List.flatMap_singleton]

/-- A text of glyphs that is wrapped is one line that is broken. -/
theorem wrapped {text : String} (h : Glyphs text.toList) (width : Nat) :
    Screen.wrapped width text = Screen.ofLines (wrapLine width text.toList) := by
  rw [Screen.wrapped, h.visible, wrapText, h.splitOn, List.flatMap_singleton, h.expandTabs]

/-! ## Cells -/

/-- Glyphs take as many cells as there are. -/
theorem cellLength (h : Glyphs cs) : cellLength cs = cs.length := by
  have hfrom (measured : Option Char) : cellLengthFrom measured cs = cs.length := by
    induction cs generalizing measured with
    | nil => rfl
    | cons c cs ih =>
      obtain ⟨hc, hcs⟩ := cons_iff.mp h
      unfold cellLengthFrom
      rw [if_neg (ne_of_isGlyph hc (by decide)), if_neg (ne_of_isGlyph hc (by decide)),
        cellWidth_of_isGlyph hc, if_neg Nat.one_ne_zero, ih hcs, List.length_cons, Nat.add_comm]
  exact hfrom none

/-- Every glyph stands alone. -/
theorem clusters (h : Glyphs cs) : clusters cs = cs.map .ofGlyph := by
  have hformed (s : Clusters) (hjoining : s.joining = false) :
      (cs.foldl Clusters.add s).formed = (cs.map Cluster.ofGlyph).reverse ++ s.formed := by
    induction cs generalizing s with
    | nil => rfl
    | cons c cs ih =>
      obtain ⟨hc, hcs⟩ := cons_iff.mp h
      have hstart : s.add c = s.start c := by
        rw [Clusters.add]
        split
        · rfl
        · simp [hjoining, ne_of_isGlyph hc (d := joiner) (by decide),
            ne_of_isGlyph hc (d := pictureSelector) (by decide), cellWidth_of_isGlyph hc]
      rw [List.foldl_cons, ih hcs _ (by rw [hstart]; rfl), hstart, Clusters.start,
        cellWidth_of_isGlyph hc, List.map_cons, List.reverse_cons, List.append_assoc,
        List.singleton_append, Cluster.ofGlyph]
  rw [TieredTerms.clusters, hformed .empty rfl]
  simp [Clusters.empty, Cluster.ofGlyph, Function.comp_def]

end Glyphs

end TieredTerms
