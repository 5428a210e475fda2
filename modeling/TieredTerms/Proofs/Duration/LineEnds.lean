import TieredTerms.Proofs.Duration.Spelling

/-!
# Durations with a line end behind them

A line end behind a duration is no part of it: every reader of the designator form leaves it where
it is, and the date form has none.  So the text without it gives the same duration.
-/

namespace TieredTerms

/-! ## Amounts -/

/-- An amount is read as it is without the line end, which is left. -/
theorem readAmount?_append_line (cs : List Char) :
    readAmount? (cs ++ ['\n']) = (readAmount? cs).map fun read => (read.1, read.2 ++ ['\n']) := by
  have htake (cs : List Char) :
      (cs ++ ['\n']).takeWhile isAsciiDigit = cs.takeWhile isAsciiDigit := by
    rw [List.takeWhile_append]
    split_ifs with hall
    · rw [List.takeWhile_cons_of_neg (by decide), List.append_nil]
      exact ((List.takeWhile_prefix _).eq_of_length hall).symm
    · rfl
  have hdrop (cs : List Char) :
      (cs ++ ['\n']).dropWhile isAsciiDigit = cs.dropWhile isAsciiDigit ++ ['\n'] := by
    rw [List.dropWhile_append]
    split_ifs with hall
    · rw [List.isEmpty_iff.mp hall]
      rfl
    · rfl
  rw [readAmount?, readAmount?, htake, hdrop]
  dsimp only
  split_ifs with hwhole
  · rfl
  · cases cs.dropWhile isAsciiDigit with
    | nil => rfl
    | cons mark rest =>
      rw [List.cons_append]
      dsimp only
      rw [htake, hdrop]
      split_ifs <;> rfl

theorem readUnit_append_line (unit : Char) (h : unit ≠ '\n') (cs : List Char) :
    readUnit unit (cs ++ ['\n']) = ((readUnit unit cs).1, (readUnit unit cs).2 ++ ['\n']) := by
  rw [readUnit, readUnit, readAmount?_append_line]
  rcases readAmount? cs with _ | ⟨amount, _ | ⟨c, rest⟩⟩
  · rfl
  · exact if_neg h.symm
  · dsimp only [Option.map_some, List.cons_append]
    split_ifs <;> rfl

namespace Designators

/-- The amounts of a text with a line end are those of the text without it. -/
theorem body?_of_line {negative : Bool} {cs : List Char} {d : Designators}
    (h : body? negative (cs ++ ['\n']) = some d) : body? negative cs = some d := by
  have hend {rest : List Char} {u : Unit} (h : guard (atTextEnd (rest ++ ['\n'])) = some u) :
      rest = [] := by
    cases rest with
    | nil => rfl
    | cons c rest => simp [atTextEnd, guard] at h
  simp only [body?, readUnit_append_line 'Y' (by decide),
    readUnit_append_line 'M' (by decide), readUnit_append_line 'W' (by decide),
    readUnit_append_line 'D' (by decide)] at h ⊢
  generalize (readUnit 'D' _).2 = rest at h ⊢
  split at h
  · next time hmark =>
    obtain ⟨rest, rfl, rfl⟩ : ∃ time', rest = 'T' :: time' ∧ time = time' ++ ['\n'] := by
      cases rest with
      | nil => cases hmark
      | cons c rest =>
        obtain ⟨rfl, rfl⟩ := List.cons.inj hmark
        exact ⟨rest, rfl, rfl⟩
    simp only [readUnit_append_line 'H' (by decide),
      readUnit_append_line 'M' (by decide),
      readUnit_append_line 'S' (by decide)] at h ⊢
    obtain ⟨u, hguard, h⟩ := Option.bind_eq_some_iff.mp h
    rw [hend hguard]
    exact h
  · obtain ⟨u, hguard, h⟩ := Option.bind_eq_some_iff.mp h
    rw [hend hguard]
    exact h

theorem ofChars?_of_line {cs : List Char} {d : Designators} (h : ofChars? (cs ++ ['\n']) = some d) :
    ofChars? cs = some d := by
  obtain ⟨sign, units, hcs, hsign, hend, hbody⟩ := ofChars?_eq_some_iff.mp h
  obtain ⟨units, rfl, rfl⟩ : ∃ units', cs = sign ++ 'P' :: units' ∧ units = units' ++ ['\n'] := by
    rcases List.eq_nil_or_concat units with rfl | ⟨units, last, rfl⟩
    · cases hend
    · rw [List.concat_eq_append, ← List.cons_append, ← List.append_assoc] at hcs
      obtain ⟨rfl, hlast⟩ := List.append_inj' hcs rfl
      cases hlast
      exact ⟨units, rfl, by rw [List.concat_eq_append]⟩
  have hend' : atTextEnd units = false := by
    rw [← Bool.not_eq_true, atTextEnd, Bool.or_eq_true, beq_iff_eq, beq_iff_eq]
    rintro (rfl | rfl)
    · cases hend
    · have htwo (negative : Bool) : body? negative ['\n', '\n'] = none := rfl
      cases (htwo _).symm.trans hbody
  exact ofChars?_eq_some_iff.mpr ⟨sign, units, rfl, hsign, hend', body?_of_line hbody⟩

end Designators

/-- The duration of a text with a line end behind it is that of the text without it. -/
theorem Duration.ofChars?_of_line {cs : List Char} {d : Duration}
    (h : ofChars? (cs ++ ['\n']) = some d) : ofChars? cs = some d := by
  unfold ofChars? at h
  split at h
  · next designators hdesignators =>
    unfold ofChars?
    rw [Designators.ofChars?_of_line hdesignators]
    exact h
  · split at h
    · next units hunits =>
      have hline : '\n' ∈ 'P' :: units := by
        rw [← hunits]
        exact List.mem_append_right _ List.mem_cons_self
      have hspelled := spelled_ofDateTime? h
      exact absurd ((List.mem_cons.mp hline).resolve_left (by decide)) hspelled.not_mem_line
    · cases h

/-- A text with a line end behind it is read as the text without it. -/
theorem Duration.read_of_line {cs : List Char} {d : Duration}
    (h : Duration.read (String.ofList (cs ++ ['\n'])) = .ok d) :
    Duration.read (String.ofList cs) = .ok d := by
  rw [read_eq_ok, parse?, String.toList_ofList] at h ⊢
  exact ⟨ofChars?_of_line h.1, h.2⟩

end TieredTerms
