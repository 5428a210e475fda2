import Mathlib.Data.List.TakeWhile
import TieredTerms.Screen
import TieredTerms.Text.LoneUnit

/-!
# Characters that reach a stream unaltered

A stream takes style codes away and cannot encode lone units; it takes all other characters as they
are.  What a screen lays out consists of the characters of the text, blanks and line ends, so a text
of such characters stays one.

* `isUnaltered` are the characters, `Unaltered` the rows of them.
* `Unaltered.dropStyles` tells that such a text keeps all of itself.
* `Unaltered.wrapped` and `Unaltered.raw` are about the two layouts of a text.
-/

namespace TieredTerms

/-- Whether a stream takes a character as it is: it starts no style code and stands for no lone
unit. -/
def isUnaltered [StandIns] (c : Char) : Bool :=
  c != '\x1b' && (loneUnit? c).isNone

/-- Characters that a stream takes as they are. -/
def Unaltered [StandIns] (cs : List Char) : Prop :=
  ∀ c ∈ cs, isUnaltered c = true

instance [StandIns] (cs : List Char) : Decidable (Unaltered cs) :=
  List.decidableBAll (fun c => isUnaltered c = true) cs

/-- Characters below the private planes are no lone units. -/
theorem isUnaltered_of_lt [StandIns] {c : Char} (hescape : c ≠ '\x1b')
    (h : c.toNat < privatePlanes) : isUnaltered c = true := by
  simp [isUnaltered, hescape, loneUnit?_eq_none_of_lt h]

/-- Whether a stream takes a character as it is, whatever stands in for lone units. -/
def isLow (c : Char) : Bool :=
  c != '\x1b' && c.toNat < privatePlanes

theorem isUnaltered_of_isLow [StandIns] {c : Char} (h : isLow c = true) : isUnaltered c = true := by
  rw [isLow, Bool.and_eq_true, bne_iff_ne, decide_eq_true_eq] at h
  exact isUnaltered_of_lt h.1 h.2

theorem Unaltered.of_all_isLow [StandIns] {cs : List Char} (h : cs.all isLow = true) :
    Unaltered cs :=
  fun c hc => isUnaltered_of_isLow (List.all_eq_true.mp h c hc)

theorem Unaltered.of_all_all_isLow [StandIns] {texts : List String}
    (h : (texts.all fun s => s.toList.all isLow) = true) : ∀ s ∈ texts, Unaltered s.toList :=
  fun s hs => .of_all_isLow (List.all_eq_true.mp h s hs)

namespace Unaltered

variable {cs ds : List Char}

@[simp] theorem nil [StandIns] : Unaltered [] := by
  simp [Unaltered]

@[simp] theorem cons_iff [StandIns] {c : Char} :
    Unaltered (c :: cs) ↔ isUnaltered c = true ∧ Unaltered cs :=
  List.forall_mem_cons

@[simp] theorem append_iff [StandIns] : Unaltered (cs ++ ds) ↔ Unaltered cs ∧ Unaltered ds :=
  List.forall_mem_append

theorem subset [StandIns] (h : Unaltered cs) (hsub : ds ⊆ cs) : Unaltered ds :=
  fun c hc => h c (hsub hc)

theorem replicate [StandIns] {c : Char} (h : isUnaltered c = true) (n : Nat) :
    Unaltered (List.replicate n c) :=
  fun _ hd => List.eq_of_mem_replicate hd ▸ h

theorem blanks [StandIns] (n : Nat) : Unaltered (List.replicate n ' ') :=
  replicate (isUnaltered_of_isLow (by decide)) n

theorem flatMap [StandIns] {α : Type} {f : α → List Char} {items : List α}
    (h : ∀ item ∈ items, Unaltered (f item)) : Unaltered (items.flatMap f) := by
  intro c hc
  obtain ⟨item, hitem, hmem⟩ := List.mem_flatMap.mp hc
  exact h item hitem c hmem

/-- Parts with a mark between them. -/
theorem intercalate_iff [StandIns] {mark : Char} (hmark : isUnaltered mark = true)
    {parts : List (List Char)} :
    Unaltered ([mark].intercalate parts) ↔ ∀ part ∈ parts, Unaltered part := by
  induction parts with
  | nil => simp
  | cons first parts ih =>
    cases parts with
    | nil => simp
    | cons next parts =>
      rw [List.intercalate_cons_cons, List.forall_mem_cons]
      simp [hmark, ih]

/-- The parts of a text between marks are parts of the text. -/
theorem splitOn [StandIns] (h : Unaltered cs) {mark : Char} (hmark : isUnaltered mark = true) :
    ∀ part ∈ cs.splitOn mark, Unaltered part := by
  rw [← intercalate_iff hmark, List.intercalate_splitOn]
  exact h

/-! ## Style codes -/

/-- No style code starts in such a text. -/
theorem styleLength [StandIns] (h : Unaltered cs) : Screen.styleLength cs = 0 := by
  unfold Screen.styleLength
  split
  · exact absurd (h '\x1b' (List.mem_cons_self ..)) (by simp [isUnaltered])
  · rfl

/-- Such a text has no style codes. -/
theorem dropStyles [StandIns] (h : Unaltered cs) : Screen.dropStyles cs = cs := by
  unfold Screen.dropStyles
  induction cs with
  | nil => rfl
  | cons c cs ih =>
    rw [Screen.dropStylesAfter, h.styleLength]
    dsimp only
    rw [ih (cons_iff.mp h).2]

/-! ## Clusters -/

/-- A character that is added to clusters is all that is added. -/
private theorem add [StandIns] {s : Clusters} (h : ∀ k ∈ s.formed, Unaltered k.chars) {c : Char}
    (hc : isUnaltered c = true) : ∀ k ∈ (s.add c).formed, Unaltered k.chars := by
  have hstart : ∀ k ∈ (s.start c).formed, Unaltered k.chars := by
    rw [Clusters.start, List.forall_mem_cons]
    exact ⟨by simp [hc], h⟩
  unfold Clusters.add
  split
  · exact hstart
  · next last before hformed =>
    rw [hformed, List.forall_mem_cons] at h
    have hjoined : Unaltered (c :: last.chars) := cons_iff.mpr ⟨hc, h.1⟩
    dsimp only
    split_ifs
    all_goals first
      | exact hstart
      | exact List.forall_mem_cons.mpr ⟨hjoined, h.2⟩

/-- Clusters consist of the characters that they are formed of. -/
theorem clusters [StandIns] (h : Unaltered cs) : ∀ k ∈ clusters cs, Unaltered k.chars := by
  have hformed (s : Clusters) (hs : ∀ k ∈ s.formed, Unaltered k.chars) (ds : List Char)
      (hds : Unaltered ds) : ∀ k ∈ (ds.foldl Clusters.add s).formed, Unaltered k.chars := by
    induction ds generalizing s with
    | nil => exact hs
    | cons c ds ih =>
      obtain ⟨hc, hds⟩ := cons_iff.mp hds
      exact ih _ (add hs hc) hds
  intro k hk
  rw [TieredTerms.clusters, List.mem_map] at hk
  obtain ⟨formed, hmem, rfl⟩ := hk
  have hall := hformed .empty (by simp [Clusters.empty]) cs h formed (List.mem_reverse.mp hmem)
  exact hall.subset (List.reverse_subset.mpr (List.Subset.refl _))

private theorem cutClusters [StandIns] {total : Nat} {ks : List Cluster}
    (h : ∀ k ∈ ks, Unaltered k.chars) : Unaltered (cutClusters total ks) := by
  fun_induction TieredTerms.cutClusters total ks with
  | case1 => exact nil
  | case2 => exact nil
  | case3 total k ks _ hcells ih =>
    obtain ⟨hk, hks⟩ := List.forall_mem_cons.mp h
    exact append_iff.mpr ⟨hk, ih hks⟩
  | case4 => exact blanks 1

theorem fitCells [StandIns] (h : Unaltered cs) (total : Nat) : Unaltered (fitCells cs total) := by
  unfold TieredTerms.fitCells
  dsimp only
  split_ifs
  · exact h
  · exact append_iff.mpr ⟨h, blanks _⟩
  · exact cutClusters h.clusters

/-! ## Lines -/

theorem divideAt [StandIns] (h : Unaltered cs) (start : Nat) (places : List Nat) :
    ∀ piece ∈ divideAt start places cs, Unaltered piece := by
  induction places generalizing start cs with
  | nil => simpa [TieredTerms.divideAt] using h
  | cons place places ih =>
    rw [TieredTerms.divideAt, List.forall_mem_cons]
    exact ⟨h.subset (List.take_subset ..), ih (h.subset (List.drop_subset ..)) place⟩

theorem trimBeyond [StandIns] (h : Unaltered cs) (width : Nat) : Unaltered (trimBeyond width cs) :=
  h.subset (List.take_subset ..)

theorem breakLine [StandIns] (h : Unaltered cs) (width : Nat) (fold : Bool) :
    ∀ line ∈ breakLine width fold cs, Unaltered line := by
  intro line hline
  rw [TieredTerms.breakLine, List.mem_map] at hline
  obtain ⟨piece, hpiece, rfl⟩ := hline
  exact (h.divideAt _ _ piece hpiece).trimBeyond width

theorem wrapLine [StandIns] (h : Unaltered cs) (width : Nat) :
    ∀ line ∈ wrapLine width cs, Unaltered line := by
  intro line hline
  rw [TieredTerms.wrapLine, List.mem_map] at hline
  obtain ⟨piece, hpiece, rfl⟩ := hline
  have hall := h.breakLine width true piece hpiece
  split_ifs
  · exact hall.fitCells width
  · exact hall

theorem expandParts [StandIns] {parts : List (List Char)} (h : ∀ part ∈ parts, Unaltered part)
    (used : Nat) : Unaltered (expandParts used parts) := by
  fun_induction TieredTerms.expandParts used parts with
  | case1 => exact nil
  | case2 => exact h _ (List.mem_cons_self ..)
  | case3 used part parts _ length padding ih =>
    obtain ⟨hpart, hparts⟩ := List.forall_mem_cons.mp h
    simp only [append_iff, cons_iff]
    exact ⟨⟨hpart, isUnaltered_of_isLow (by decide), blanks _⟩, ih hparts⟩

theorem expandTabs [StandIns] (h : Unaltered cs) : Unaltered (expandTabs cs) := by
  unfold TieredTerms.expandTabs
  split_ifs
  · exact expandParts (h.splitOn (isUnaltered_of_isLow (by decide))) 0
  · exact h

theorem wrapText [StandIns] (h : Unaltered cs) (width : Nat) :
    ∀ line ∈ wrapText width cs, Unaltered line := by
  intro line hline
  rw [TieredTerms.wrapText, List.mem_flatMap] at hline
  obtain ⟨part, hpart, hline⟩ := hline
  have hexpanded := (h.splitOn (isUnaltered_of_isLow (by decide)) part hpart).expandTabs
  exact hexpanded.wrapLine width line hline

/-! ## Screens -/

theorem visible [StandIns] {text : String} (h : Unaltered text.toList) :
    Unaltered (Screen.visible text) :=
  h.subset List.filter_sublist.subset

theorem ofLines [StandIns] {lines : List (List Char)} (h : ∀ line ∈ lines, Unaltered line) :
    Unaltered (Screen.ofLines lines) := by
  refine flatMap fun line hline => append_iff.mpr ⟨h line hline, .of_all_isLow (by decide)⟩

/-- A text that is wrapped to a screen keeps its characters. -/
theorem wrapped [StandIns] {text : String} (h : Unaltered text.toList) (width : Nat) :
    Unaltered (Screen.wrapped width text) :=
  ofLines (h.visible.wrapText width)

/-- A text whose lines are not broken keeps its characters. -/
theorem raw [StandIns] {text : String} (h : Unaltered text.toList) :
    Unaltered (Screen.raw text) := by
  refine ofLines fun line hline => ?_
  obtain ⟨part, hpart, rfl⟩ := List.mem_map.mp hline
  exact (h.visible.splitOn (isUnaltered_of_isLow (by decide)) part hpart).expandTabs

end Unaltered

end TieredTerms
