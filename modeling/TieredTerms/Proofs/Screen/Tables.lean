import TieredTerms.Proofs.Screen.Unaltered
import TieredTerms.Screen.Table

/-!
# The characters of tables

A table on a screen consists of the characters of its texts, blanks, ellipses and the box.

* `Unaltered.drawn`: where the texts reach a stream unaltered, so does the table.
-/

namespace TieredTerms

namespace BoxTable

/-- Headers and texts of the columns that a stream takes as they are. -/
def IsUnaltered [StandIns] (t : BoxTable) : Prop :=
  ∀ column ∈ t.columns, Unaltered column.header.toList ∧
    ∀ text ∈ column.texts, Unaltered text.toList

end BoxTable

namespace Unaltered

open BoxTable

variable {cs : List Char} {t : BoxTable}

theorem stripEndChars [StandIns] (h : Unaltered cs) : Unaltered (stripEndChars cs) := by
  refine h.subset fun c hc => ?_
  rw [TieredTerms.stripEndChars, List.mem_reverse] at hc
  exact List.mem_reverse.mp ((List.dropWhile_sublist _).subset hc)

theorem ellipsis [StandIns] (h : Unaltered cs) (width : Nat) : Unaltered (ellipsis width cs) := by
  unfold BoxTable.ellipsis
  split_ifs
  · exact append_iff.mpr ⟨h.fitCells _, .of_all_isLow (by decide)⟩
  · exact h

theorem aligned [StandIns] (h : Unaltered cs) (atRight : Bool) (width : Nat) :
    Unaltered (aligned atRight width cs) := by
  unfold BoxTable.aligned
  split_ifs
  · exact append_iff.mpr ⟨blanks _, h.stripEndChars.ellipsis width⟩
  · exact append_iff.mpr ⟨h.ellipsis width, blanks _⟩

theorem cellLines [StandIns] {text : String} (h : Unaltered text.toList) (column : Column)
    (width : Nat) : ∀ line ∈ cellLines column width text, Unaltered line := by
  by_cases hwidth : width = 0
  · simp [BoxTable.cellLines, hwidth]
  · rw [BoxTable.cellLines, if_neg hwidth]
    intro line hline
    obtain ⟨part, hpart, hline⟩ := List.mem_flatMap.mp hline
    obtain ⟨piece, hpiece, rfl⟩ := List.mem_map.mp hline
    have htabs := (h.visible.splitOn (isUnaltered_of_isLow (by decide)) part hpart).expandTabs
    have hpieces : Unaltered piece := by
      split_ifs at hpiece
      · exact htabs.breakLine width false piece hpiece
      · rw [List.mem_singleton.mp hpiece]
        exact htabs.trimBeyond width
    exact hpieces.aligned _ _

theorem paddedCell [StandIns] {lines : List (List Char)} (h : ∀ line ∈ lines, Unaltered line)
    (count index width height : Nat) (atBottom : Bool) :
    ∀ line ∈ paddedCell count index width height atBottom lines, Unaltered line := by
  have hfilled : ∀ line ∈ lines.map fun line => List.replicate (leftPadding index) ' ' ++ line ++
      List.replicate (rightPadding count index) ' ', Unaltered line := by
    intro line hline
    obtain ⟨inner, hinner, rfl⟩ := List.mem_map.mp hline
    simp only [append_iff]
    exact ⟨⟨blanks _, h inner hinner⟩, blanks _⟩
  have hblank : ∀ line ∈ List.replicate (height - lines.length) (List.replicate width ' '),
      Unaltered line := by
    intro line hline
    rw [List.eq_of_mem_replicate hline]
    exact blanks _
  unfold BoxTable.paddedCell
  dsimp only
  split_ifs
  · exact List.forall_mem_append.mpr ⟨hblank, hfilled⟩
  · exact List.forall_mem_append.mpr ⟨hfilled, hblank⟩

/-- A line of a row of lines, or nothing beyond the last one. -/
theorem getD [StandIns] {lines : List (List Char)} (h : ∀ line ∈ lines, Unaltered line)
    (number : Nat) : Unaltered (lines.getD number []) := by
  rw [List.getD_eq_getElem?_getD]
  cases hline : lines[number]? with
  | none => exact nil
  | some line => exact h line (List.mem_of_getElem? hline)

theorem rowLines [StandIns] {texts : List String} (h : ∀ text ∈ texts, Unaltered text.toList)
    {bar : Char}
    (hbar : isUnaltered bar = true) (t : BoxTable) (widths : List Nat) (atBottom : Bool) :
    ∀ line ∈ t.rowLines widths bar atBottom texts, Unaltered line := by
  intro line hline
  unfold BoxTable.rowLines at hline
  dsimp only at hline
  obtain ⟨number, -, rfl⟩ := List.mem_map.mp hline
  rw [List.cons_append, cons_iff, append_iff, cons_iff]
  refine ⟨hbar, (intercalate_iff hbar).mpr fun part hpart => ?_, hbar, nil⟩
  obtain ⟨padded, hpadded, rfl⟩ := List.mem_map.mp hpart
  obtain ⟨⟨index, width, inner⟩, hcell, rfl⟩ := List.mem_map.mp hpadded
  obtain ⟨⟨⟨⟨column, width'⟩, text⟩, index'⟩, hentry, hcell⟩ := List.mem_map.mp hcell
  have htext : text ∈ texts := by
    obtain ⟨-, -, hget⟩ := List.mem_zipIdx hentry
    exact (List.of_mem_zip (hget ▸ List.getElem_mem _)).2
  cases hcell
  refine getD ?_ number
  exact paddedCell ((h text htext).cellLines column _) _ _ _ _ _

theorem ruleLine [StandIns] {left line cross right : Char}
    (h : [left, line, cross, right].all isLow = true) (widths : List Nat) :
    Unaltered (ruleLine left line cross right widths) := by
  have hchars : Unaltered [left, line, cross, right] := .of_all_isLow h
  simp only [cons_iff] at hchars
  obtain ⟨hleft, hline, hcross, hright, -⟩ := hchars
  unfold BoxTable.ruleLine
  rw [List.cons_append, cons_iff, append_iff, cons_iff]
  refine ⟨hleft, (intercalate_iff hcross).mpr fun part hpart => ?_, hright, nil⟩
  obtain ⟨width, -, rfl⟩ := List.mem_map.mp hpart
  exact replicate hline width

/-- The lines of a table reach a stream unaltered where its texts do. -/
theorem drawn [StandIns] (h : t.IsUnaltered) (width : Nat) :
    ∀ line ∈ t.drawn width, Unaltered line := by
  have hheaders : ∀ text ∈ t.columns.map Column.header, Unaltered text.toList := by
    intro text htext
    obtain ⟨column, hcolumn, rfl⟩ := List.mem_map.mp htext
    exact (h column hcolumn).1
  have hrow : ∀ texts ∈ t.rows, ∀ text ∈ texts, Unaltered text.toList := by
    intro texts htexts text htext
    obtain ⟨row, -, rfl⟩ := List.mem_map.mp htexts
    obtain ⟨column, hcolumn, rfl⟩ := List.mem_map.mp htext
    rw [List.getD_eq_getElem?_getD]
    cases hget : column.texts[row]? with
    | none => exact nil
    | some cell => exact (h column hcolumn).2 cell (List.mem_of_getElem? hget)
  unfold BoxTable.drawn
  dsimp only
  rw [List.forall_mem_append, List.forall_mem_append]
  refine ⟨⟨?_, ?_⟩, ?_⟩
  · rw [List.forall_mem_cons]
    exact ⟨ruleLine (by decide) _,
      rowLines hheaders (isUnaltered_of_isLow (by decide)) t _ true⟩
  · rw [List.forall_mem_cons]
    refine ⟨ruleLine (by decide) _, fun line hline => ?_⟩
    obtain ⟨texts, htexts, hline⟩ := List.mem_flatMap.mp hline
    exact rowLines (hrow texts htexts) (isUnaltered_of_isLow (by decide)) t _ false line hline
  · rw [List.forall_mem_singleton]
    exact ruleLine (by decide) _

end Unaltered

end TieredTerms
