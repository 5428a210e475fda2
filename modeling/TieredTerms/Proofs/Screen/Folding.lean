import TieredTerms.Proofs.Screen.Glyphs

/-!
# Labels with long words

A line that is a label and one word behind it is kept where it fits.  Else the label has a line of
its own, and the word is folded: its pieces fill the lines below, with no character lost.

* `IsCutInto` tells how a word is cut into pieces, `isCutInto_chopCells` that it is.
* `IsLaidOut` is the layout of a label with a word.
* `IsLabel.isLaidOut` is about lines that are wrapped.
-/

namespace TieredTerms

variable {width : Nat} {cs ds label word : List Char}

/-! ## Pieces of one width -/

/-- Characters in consecutive pieces of one width.  The last piece may be shorter. -/
inductive IsCutInto (width : Nat) : List Char → List (List Char) → Prop where
  | last {cs : List Char} (ne_nil : cs ≠ []) (le : cs.length ≤ width) : IsCutInto width cs [cs]
  | cut {piece rest : List Char} {pieces : List (List Char)} (full : piece.length = width)
      (more : IsCutInto width rest pieces) : IsCutInto width (piece ++ rest) (piece :: pieces)

namespace IsCutInto

variable {pieces : List (List Char)}

theorem ne_nil (h : IsCutInto width cs pieces) : cs ≠ [] := by
  induction h with
  | last hne => exact hne
  | cut hfull hmore ih => exact fun hnil => ih (List.append_eq_nil_iff.mp hnil).2

/-- The pieces are all of the characters. -/
theorem flatten (h : IsCutInto width cs pieces) : pieces.flatten = cs := by
  induction h with
  | last => simp
  | cut hfull hmore ih => rw [List.flatten_cons, ih]

theorem length_le (h : IsCutInto width cs pieces) : ∀ piece ∈ pieces, piece.length ≤ width := by
  induction h with
  | last hne hle => exact List.forall_mem_singleton.mpr hle
  | cut hfull hmore ih => exact List.forall_mem_cons.mpr ⟨hfull.le, ih⟩

/-- No piece is empty. -/
theorem piece_ne_nil (hwidth : 0 < width) (h : IsCutInto width cs pieces) :
    ∀ piece ∈ pieces, piece ≠ [] := by
  induction h with
  | last hne hle => exact List.forall_mem_singleton.mpr hne
  | cut hfull hmore ih =>
    refine List.forall_mem_cons.mpr ⟨?_, ih⟩
    rintro rfl
    exact hwidth.ne hfull

/-- There is only one way to cut characters. -/
theorem unique {pieces' : List (List Char)} (h : IsCutInto width cs pieces)
    (h' : IsCutInto width cs pieces') : pieces = pieces' := by
  induction h generalizing pieces' with
  | last hne hle =>
    cases h' with
    | last => rfl
    | cut hfull hmore =>
      have hrest := List.length_pos_iff.mpr hmore.ne_nil
      rw [List.length_append] at hle
      omega
  | @cut piece rest pieces hfull hmore ih =>
    generalize hcs : piece ++ rest = cs at h'
    cases h' with
    | last hne hle =>
      have hrest := List.length_pos_iff.mpr hmore.ne_nil
      rw [← hcs, List.length_append] at hle
      omega
    | cut hfull' hmore' =>
      obtain ⟨rfl, rfl⟩ := List.append_inj hcs (hfull.trans hfull'.symm)
      rw [ih hmore']

end IsCutInto

/-- Glyphs that fit behind those of a piece make one piece. -/
theorem chopClusters_of_le {used : Nat} (hne : 0 < used + cs.length)
    (h : used + cs.length ≤ width) : chopClusters width used (cs.map .ofGlyph) = [cs] := by
  induction cs generalizing used with
  | nil =>
    rw [List.length_nil, Nat.add_zero] at hne
    rw [List.map_nil, chopClusters, if_neg (by omega)]
  | cons c cs ih =>
    rw [List.length_cons] at h
    rw [List.map_cons, chopClusters, Cluster.cells_ofGlyph, if_neg (by omega),
      ih (by omega) (by omega)]
    rfl

/-- A piece that is full ends where the next character does not fit. -/
theorem chopClusters_of_full {used : Nat} (hwidth : 0 < width) {c : Char}
    (h : used + cs.length = width) :
    chopClusters width used ((cs ++ c :: ds).map .ofGlyph) =
      cs :: chopClusters width 0 ((c :: ds).map .ofGlyph) := by
  induction cs generalizing used with
  | nil =>
    rw [List.length_nil, Nat.add_zero] at h
    rw [List.nil_append, List.map_cons, chopClusters, chopClusters, Cluster.cells_ofGlyph,
      if_pos (by omega), if_neg (by omega), Nat.zero_add]
  | cons d cs ih =>
    rw [List.length_cons] at h
    rw [List.cons_append, List.map_cons, chopClusters, Cluster.cells_ofGlyph, if_neg (by omega),
      ih (by omega)]
    rfl

/-- Glyphs are cut into pieces of the width. -/
theorem isCutInto_chopCells (hwidth : 0 < width) (h : Glyphs cs) (hne : cs ≠ []) :
    IsCutInto width cs (chopCells width cs) := by
  have hchop : chopCells width cs = chopClusters width 0 (cs.map .ofGlyph) := by
    rw [chopCells, h.clusters]
  rw [hchop]
  clear h hchop
  -- A full piece is taken off as long as there is more than one.
  induction hlength : cs.length using Nat.strong_induction_on generalizing cs with
  | _ n ih =>
    by_cases hle : cs.length ≤ width
    · have hpos := List.length_pos_iff.mpr hne
      rw [chopClusters_of_le (by omega) (by omega)]
      exact .last hne hle
    · have hfull : (cs.take width).length = width := List.length_take_of_le (by omega)
      have hrest : (cs.drop width).length = cs.length - width := List.length_drop
      obtain ⟨c, ds, hdrop⟩ := List.exists_cons_of_length_pos (l := cs.drop width) (by omega)
      have hcs : cs.take width ++ c :: ds = cs := by
        rw [← hdrop, List.take_append_drop]
      rw [← hcs, chopClusters_of_full hwidth (by omega)]
      refine .cut hfull (ih (c :: ds).length ?_ (by simp) rfl)
      rw [← hdrop]
      omega

/-! ## Words -/

/-- The first piece of characters starts with the first of them. -/
theorem pieces_cons (c : Char) (cs : List Char) :
    ∃ piece rest, pieces (c :: cs) = (c :: piece) :: rest := by
  rw [pieces]
  split
  · exact ⟨[], [], rfl⟩
  · exact ⟨[], _, rfl⟩
  · next d piece rest hpieces =>
    split_ifs
    · exact ⟨[], _, rfl⟩
    · exact ⟨d :: piece, rest, rfl⟩

/-- Characters are divided behind a blank. -/
theorem pieces_append {b c : Char} (hb : isBlank b = true) (hc : isBlank c = false) :
    pieces (cs ++ [b] ++ c :: ds) = pieces (cs ++ [b]) ++ pieces (c :: ds) := by
  obtain ⟨piece, rest, hpieces⟩ := pieces_cons c ds
  induction cs with
  | nil =>
    show pieces (b :: c :: ds) = pieces [b] ++ pieces (c :: ds)
    rw [hpieces]
    show pieces (b :: c :: ds) = [b] :: (c :: piece) :: rest
    rw [pieces, hpieces]
    simp [hb, hc]
  | cons d cs ih =>
    obtain ⟨e, es, hcs⟩ : ∃ e es, cs ++ [b] = e :: es :=
      List.exists_cons_of_ne_nil (by simp)
    obtain ⟨piece', rest', hfirst⟩ := pieces_cons e es
    show pieces (d :: (cs ++ [b] ++ c :: ds)) = pieces (d :: (cs ++ [b])) ++ pieces (c :: ds)
    rw [pieces, ih, hcs, pieces.eq_def (d :: e :: es)]
    simp only [hfirst, List.cons_append]
    split_ifs <;> rfl

/-- Characters without blanks are one piece. -/
theorem pieces_of_not_blank (hne : word ≠ []) (h : ∀ c ∈ word, isBlank c = false) :
    pieces word = [word] := by
  induction word with
  | nil => exact absurd rfl hne
  | cons c cs ih =>
    obtain ⟨hc, hcs⟩ := List.forall_mem_cons.mp h
    cases cs with
    | nil => rfl
    | cons d cs =>
      rw [pieces, ih (by simp) hcs]
      simp [hc]

/-! ## Places -/

/-- Characters are divided at the places at which their pieces start. -/
theorem divideAt_startPlaces (start : Nat) (first : List Char) (parts : List (List Char)) :
    divideAt start (startPlaces (start + first.length) parts) (first ++ parts.flatten) =
      first :: parts := by
  induction parts generalizing start first with
  | nil => simp [startPlaces, divideAt]
  | cons part parts ih =>
    rw [startPlaces, divideAt, Nat.add_sub_cancel_left, List.take_left, List.drop_left,
      List.flatten_cons, ih]

theorem startPlaces_pos {start : Nat} (h : 0 < start) (parts : List (List Char)) :
    ∀ place ∈ startPlaces start parts, place ≠ 0 := by
  induction parts generalizing start with
  | nil => simp [startPlaces]
  | cons part parts ih =>
    rw [startPlaces, List.forall_mem_cons]
    exact ⟨by omega, ih (by omega)⟩

/-- A line that fits keeps the blanks at its end. -/
theorem trimBeyond_of_le (h : cs.length ≤ width) : trimBeyond width cs = cs := by
  have hzero : cs.length - width = 0 := by omega
  rw [trimBeyond, hzero, Nat.min_zero, Nat.sub_zero, List.take_length]

theorem length_stripEndChars_le (cs : List Char) : (stripEndChars cs).length ≤ cs.length := by
  rw [stripEndChars, List.length_reverse]
  simpa using (List.dropWhile_sublist (p := isBlank) (l := cs.reverse)).length_le

theorem stripEndChars_of_not_blank (h : ∀ c ∈ cs, isBlank c = false) : stripEndChars cs = cs := by
  cases hcs : cs with
  | nil => rfl
  | cons c ds =>
    subst hcs
    rw [← stripChars_cons (h c List.mem_cons_self), stripChars_of_not_blank h]

theorem Glyphs.stripEndChars (h : Glyphs cs) : Glyphs (stripEndChars cs) := by
  intro c hc
  rw [TieredTerms.stripEndChars, List.mem_reverse] at hc
  exact h c (List.mem_reverse.mp ((List.dropWhile_sublist _).subset hc))

/-! ## Layouts -/

/-- The layout of a label and a word behind it: one line where both fit, else the label and below it
the word in pieces that fill their lines. -/
inductive IsLaidOut (width : Nat) (label word : List Char) : List (List Char) → Prop where
  | one (fits : label.length + word.length ≤ width) : IsLaidOut width label word [label ++ word]
  | more {pieces : List (List Char)} (tooLong : width < label.length + word.length)
      (cut : IsCutInto width word pieces) : IsLaidOut width label word (label :: pieces)

namespace IsLaidOut

variable {lines : List (List Char)}

/-- A layout holds all of the label and the word, and nothing else. -/
theorem flatten (h : IsLaidOut width label word lines) : lines.flatten = label ++ word := by
  cases h with
  | one => simp
  | more tooLong cut => rw [List.flatten_cons, cut.flatten]

theorem glyphs (h : IsLaidOut width label word lines) (hall : Glyphs (label ++ word)) :
    ∀ line ∈ lines, Glyphs line :=
  fun _ hline c hc => hall c (h.flatten ▸ List.mem_flatten_of_mem hline hc)

end IsLaidOut

/-- A label: glyphs that fit on a line, one word with a blank at its end. -/
structure IsLabel (width : Nat) (label : List Char) : Prop where
  glyphs : Glyphs label
  le : label.length ≤ width
  words : words label = [label]
  blank : label.getLast? = some ' '

namespace IsLabel

theorem length_pos (h : IsLabel width label) : 0 < label.length := by
  cases hlabel : label with
  | nil =>
    have hblank := h.blank
    rw [hlabel] at hblank
    cases hblank
  | cons c cs => exact Nat.succ_pos _

theorem length_line_le (h : IsLabel width label) {lines : List (List Char)}
    (hlines : IsLaidOut width label word lines) : ∀ line ∈ lines, line.length ≤ width := by
  cases hlines with
  | one fits =>
    rw [List.forall_mem_singleton, List.length_append]
    exact fits
  | more tooLong cut => exact List.forall_mem_cons.mpr ⟨h.le, cut.length_le⟩

theorem line_ne_nil (h : IsLabel width label) {lines : List (List Char)}
    (hlines : IsLaidOut width label word lines) : ∀ line ∈ lines, line ≠ [] := by
  have hlabel : label ≠ [] := List.length_pos_iff.mp h.length_pos
  cases hlines with
  | one fits =>
    exact List.forall_mem_singleton.mpr (List.append_ne_nil_of_left_ne_nil hlabel word)
  | more tooLong cut =>
    exact List.forall_mem_cons.mpr ⟨hlabel, cut.piece_ne_nil (h.length_pos.trans_le h.le)⟩

/-- A word behind a label is a word of its own. -/
theorem words_append (h : IsLabel width label) (hne : word ≠ [])
    (hword : ∀ c ∈ word, isBlank c = false) :
    TieredTerms.words (label ++ word) = [label, word] := by
  obtain ⟨front, hfront⟩ := List.getLast?_eq_some_iff.mp h.blank
  obtain ⟨c, cs, hcs⟩ := List.exists_cons_of_ne_nil hne
  have hpieces : pieces (label ++ word) = pieces label ++ [word] := by
    have hc : isBlank c = false := hword c (hcs ▸ List.mem_cons_self)
    rw [← pieces_of_not_blank hne hword, hfront, hcs]
    exact pieces_append (by decide) hc
  have hlabel := h.words
  unfold TieredTerms.words at hlabel ⊢
  rw [hpieces]
  cases hfirst : pieces label with
  | nil =>
    rw [hfirst] at hlabel
    cases hlabel
  | cons first rest =>
    rw [hfirst] at hlabel
    simp only [List.cons_append] at hlabel ⊢
    split_ifs at hlabel ⊢ with hblank
    · cases rest with
      | nil => cases hlabel
      | cons second rest =>
        obtain ⟨rfl, rfl⟩ := List.cons.inj hlabel
        rfl
    · obtain ⟨rfl, rfl⟩ := List.cons.inj hlabel
      rfl

/-- A line of a label is broken before a word that does not fit, and where the word is folded. -/
theorem breakPlaces_eq (h : IsLabel width label) (hglyphs : Glyphs word)
    (hword : ∀ c ∈ word, isBlank c = false) :
    breakPlaces width true 0 0 (TieredTerms.words (label ++ word)) =
      if label.length + word.length ≤ width then []
      else startPlaces label.length (chopCells width word) := by
  have hpos := h.length_pos
  have hlabel (rest : List (List Char)) : breakPlaces width true 0 0 (label :: rest) =
      breakPlaces width true label.length label.length rest := by
    have hfits : 0 + cellLength (TieredTerms.stripEndChars label) ≤ width := by
      rw [Nat.zero_add, h.glyphs.stripEndChars.cellLength]
      exact (length_stripEndChars_le label).trans h.le
    rw [breakPlaces.eq_def]
    dsimp only
    rw [if_pos hfits, h.glyphs.cellLength, Nat.zero_add]
  by_cases hne : word = []
  · rw [hne, List.append_nil, h.words, hlabel, List.length_nil, Nat.add_zero, if_pos h.le,
      breakPlaces]
  · rw [h.words_append hne hword, hlabel, breakPlaces.eq_def]
    dsimp only
    rw [stripEndChars_of_not_blank hword, hglyphs.cellLength]
    by_cases hfits : label.length + word.length ≤ width
    · rw [if_pos hfits, if_pos hfits, breakPlaces]
    · rw [if_neg hfits, if_neg hfits]
      by_cases hlong : width < word.length
      · rw [if_pos hlong, if_pos rfl, breakPlaces, List.append_nil, List.filter_eq_self.mpr]
        intro place hplace
        exact decide_eq_true (startPlaces_pos hpos _ place hplace)
      · have hcut : chopCells width word = [word] := by
          have hwidth : 0 < width := hpos.trans_le h.le
          exact (isCutInto_chopCells hwidth hglyphs hne).unique (.last hne (not_lt.mp hlong))
        rw [if_neg hlong, if_pos ⟨hpos.ne', hpos.ne'⟩, breakPlaces, hcut]
        rfl

/-- A label with a word is wrapped to its layout. -/
theorem isLaidOut (h : IsLabel width label) (hglyphs : Glyphs word)
    (hword : ∀ c ∈ word, isBlank c = false) :
    IsLaidOut width label word (wrapLine width (label ++ word)) := by
  -- Lines that fit stay as the division leaves them.
  have hkept (lines : List (List Char))
      (hlines : ∀ line ∈ lines, Glyphs line ∧ line.length ≤ width) :
      ((lines.map (trimBeyond width)).map fun line =>
        if width < cellLength line then fitCells line width else line) = lines := by
    rw [List.map_map]
    refine (List.map_congr_left fun line hline => ?_).trans (List.map_id lines)
    obtain ⟨hglyphs, hle⟩ := hlines line hline
    rw [Function.comp_apply, trimBeyond_of_le hle, hglyphs.cellLength, if_neg (not_lt.mpr hle)]
    rfl
  rw [wrapLine, breakLine, h.breakPlaces_eq hglyphs hword]
  by_cases hfits : label.length + word.length ≤ width
  · rw [if_pos hfits, divideAt, hkept]
    · exact .one hfits
    · rw [List.forall_mem_singleton, List.length_append]
      exact ⟨Glyphs.append_iff.mpr ⟨h.glyphs, hglyphs⟩, hfits⟩
  · have hne : word ≠ [] := by
      rintro rfl
      exact hfits h.le
    have hcut := isCutInto_chopCells (h.length_pos.trans_le h.le) hglyphs hne
    have hdivide := divideAt_startPlaces 0 label (chopCells width word)
    rw [Nat.zero_add, hcut.flatten] at hdivide
    rw [if_neg hfits, hdivide, hkept]
    · exact .more (not_le.mp hfits) hcut
    · rw [List.forall_mem_cons]
      refine ⟨⟨h.glyphs, h.le⟩, fun piece hpiece => ⟨?_, hcut.length_le piece hpiece⟩⟩
      exact fun c hc => hglyphs c (hcut.flatten ▸ List.mem_flatten_of_mem hpiece hc)

end IsLabel

end TieredTerms
