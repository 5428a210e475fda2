import Mathlib.Data.List.Basic
import Mathlib.Tactic.SplitIfs
import TieredTerms.Json.Reader
import TieredTerms.Json.Writer
import TieredTerms.Proofs.Outcome

/-!
# Reading written strings

A written string is read back character by character: each of them stands for itself, for an escape
of its own or for its UTF-16 units.  In ASCII a lone unit is escaped as itself, and so a first half
in front of a second one is read as the character of the two.

* `hexUnit?_paddedHex` reads one unit.
* `joinHalves` is what the characters of a text are read as where every lone unit is escaped.
* `ReadsAs` is what holds of the written characters of a text:  `readsAs_plainChar` are those with
  every printable character as it is, `readsAs_asciiChar` those in ASCII.
-/

namespace TieredTerms

/-! ## Units -/

/-- One more hexadecimal digit. -/
private theorem paddedHex_succ {width : Nat} (hwidth : 0 < width) (n : Nat) :
    paddedHex (width + 1) n = paddedHex width (n / 16) ++ [Nat.digitChar (n % 16)] := by
  obtain ⟨width, rfl⟩ := Nat.exists_eq_add_of_lt hwidth
  rw [paddedHex, paddedHex]
  by_cases hsmall : n < 16
  · rw [Nat.toDigits_of_lt_base hsmall, Nat.div_eq_of_lt hsmall, Nat.mod_eq_of_lt hsmall,
      Nat.toDigits_zero]
    simp [List.replicate_succ']
  · rw [Nat.toDigits_of_base_le (b := 16) (by decide) (Nat.le_of_not_lt hsmall)]
    simp

theorem paddedHex_four {n : Nat} (h : n < 0x10000) :
    paddedHex 4 n = [Nat.digitChar (n / 4096), Nat.digitChar (n / 256 % 16),
      Nat.digitChar (n / 16 % 16), Nat.digitChar (n % 16)] := by
  have hfirst : n / 16 / 16 / 16 < 16 := by omega
  rw [paddedHex_succ (by decide), paddedHex_succ (by decide), paddedHex_succ (by decide), paddedHex,
    Nat.toDigits_of_lt_base hfirst]
  simp [Nat.div_div_eq_div_mul]

namespace Json

private theorem hexValue?_digitChar {d : Nat} (h : d < 16) :
    hexValue? (Nat.digitChar d) = some d := by
  have hall : ∀ d : Fin 16, hexValue? (Nat.digitChar d) = some d.val := by decide
  exact hall ⟨d, h⟩

/-- A written unit is read back where something follows it. -/
theorem hexUnit?_paddedHex {n : Nat} (h : n < 0x10000) {rest : List Char} (hrest : rest ≠ []) :
    hexUnit? (paddedHex 4 n ++ rest) = some (n, rest) := by
  obtain ⟨next, rest, rfl⟩ := List.exists_cons_of_ne_nil hrest
  rw [paddedHex_four h]
  simp only [List.cons_append, List.nil_append, hexUnit?]
  rw [hexValue?_digitChar (by omega), hexValue?_digitChar (by omega),
    hexValue?_digitChar (by omega), hexValue?_digitChar (by omega)]
  simp only [Option.bind_eq_bind, Option.bind_some, Option.pure_def, Option.some.injEq,
    Prod.mk.injEq, and_true]
  omega

/-! ## Characters -/

/-- No character is half of a pair. -/
private theorem toNat_not_half (c : Char) :
    isFirstHalf c.toNat = false ∧ isSecondHalf c.toNat = false := by
  have hvalid := c.valid
  have hnat : c.toNat = c.val.toNat := rfl
  simp only [UInt32.isValidChar, Nat.isValidChar] at hvalid
  simp only [isFirstHalf, isSecondHalf, Bool.and_eq_false_iff, decide_eq_false_iff_not]
  omega

private theorem isSecondHalf_of_lt {unit : Nat} (h : unit < 0xdc00) :
    isSecondHalf unit = false := by
  simp only [isSecondHalf, Bool.and_eq_false_iff, decide_eq_false_iff_not]
  omega

private theorem firstUnit_lt (c : Char) : 0xd800 + (c.toNat - 0x10000) / 0x400 < 0xdc00 := by
  have hvalid := c.valid
  have hnat : c.toNat = c.val.toNat := rfl
  simp only [UInt32.isValidChar, Nat.isValidChar] at hvalid
  omega

private theorem unitChar_toNat [StandIns] (c : Char) : unitChar c.toNat = c := by
  obtain ⟨hfirst, hsecond⟩ := toNat_not_half c
  rw [unitChar, hfirst, hsecond]
  simp

/-- The escape of a character is read as this character. -/
private theorem readUnicode_unitEscape [StandIns] (u : List Char) {c : Char} (h : c.toNat < 0x10000)
    {rest : List Char} (hrest : rest ≠ []) :
    readUnicode u (paddedHex 4 c.toNat ++ rest) = .ok (c, rest) := by
  obtain ⟨hfirst, -⟩ := toNat_not_half c
  simp only [readUnicode, hexUnit?_paddedHex h hrest, hfirst, unitChar_toNat]
  split <;> simp

/-- Two halves of a pair are joined. -/
private theorem readUnicode_halves [StandIns] (u : List Char) {first second : Nat}
    (hfirst : first < 0x10000) (hsecond : second < 0x10000) (hhalf : isFirstHalf first = true)
    (hother : isSecondHalf second = true) {rest : List Char} (hrest : rest ≠ []) :
    readUnicode u (paddedHex 4 first ++ (unitEscape second ++ rest)) =
      .ok (Char.ofNat (0x10000 + (first - 0xd800) * 0x400 + (second - 0xdc00)), rest) := by
  have hne : unitEscape second ++ rest ≠ [] := by simp [unitEscape]
  have hread := hexUnit?_paddedHex hfirst hne
  have hread' := hexUnit?_paddedHex hsecond hrest
  rw [readUnicode, hread]
  simp only [unitEscape, List.cons_append, hhalf, if_true]
  rw [hread']
  simp only [hother, if_true]

/-- The escapes of the two units of a character are read as this character. -/
private theorem readUnicode_pairEscape [StandIns] (u : List Char) {c : Char} (h : 0x10000 ≤ c.toNat)
    {rest : List Char} (hrest : rest ≠ []) :
    readUnicode u (paddedHex 4 (0xd800 + (c.toNat - 0x10000) / 0x400) ++
      (unitEscape (0xdc00 + (c.toNat - 0x10000) % 0x400) ++ rest)) = .ok (c, rest) := by
  have hvalid := c.valid
  have hnat : c.toNat = c.val.toNat := rfl
  simp only [UInt32.isValidChar, Nat.isValidChar] at hvalid
  have hjoin : 0x10000 + (0xd800 + (c.toNat - 0x10000) / 0x400 - 0xd800) * 0x400 +
      (0xdc00 + (c.toNat - 0x10000) % 0x400 - 0xdc00) = c.toNat := by
    omega
  rw [readUnicode_halves u (by omega) (by omega) _ _ hrest, hjoin, Char.ofNat_toNat]
  · simp only [isFirstHalf, Bool.and_eq_true, decide_eq_true_eq]
    omega
  · simp only [isSecondHalf, Bool.and_eq_true, decide_eq_true_eq]
    omega

/-- No escape of a second half stands in front: a first half before these characters stays alone. -/
def NoSecondHalf (cs : List Char) : Prop :=
  ∀ hex, cs = '\\' :: 'u' :: hex →
    ∃ unit rest, hexUnit? hex = some (unit, rest) ∧ isSecondHalf unit = false

/-- The escape of half of a pair is read as its stand-in, where it is not joined to what follows. -/
private theorem readUnicode_loneUnit [StandIns] (u : List Char) {unit : Nat}
    (half : isHalf unit = true)
    {rest : List Char} (hrest : rest ≠ []) (hnext : isFirstHalf unit = true → NoSecondHalf rest) :
    readUnicode u (paddedHex 4 unit ++ rest) = .ok (standIn unit, rest) := by
  have hsmall : unit < 0x10000 := by
    rw [isHalf_iff] at half
    omega
  have hchar : unitChar unit = standIn unit := if_pos half
  rw [readUnicode, hexUnit?_paddedHex hsmall hrest]
  dsimp only
  split
  · next hex =>
    split_ifs with hfirst
    · obtain ⟨second, rest, hsecond, hother⟩ := hnext hfirst hex rfl
      rw [hsecond]
      simp [hother, hchar]
    · rw [hchar]
  · rw [hchar]

private theorem escaped?_shortEscape {c e : Char} (h : shortEscape? c = some e) :
    escaped? e = some c ∧ e ≠ 'u' := by
  simp only [shortEscape?] at h
  split_ifs at h with h1 h2 h3 h4 h5 h6 h7
  all_goals
    cases h
    subst c
    decide

private theorem toNat_lt_of_shortEscape {c e : Char} (h : shortEscape? c = some e) :
    c.toNat < 0x80 := by
  simp only [shortEscape?] at h
  split_ifs at h with h1 h2 h3 h4 h5 h6 h7
  all_goals
    subst c
    decide

/-- A character without an escape of its own starts no escape and ends no string. -/
private theorem ne_of_shortEscape {c : Char} (h : shortEscape? c = none) : c ≠ '"' ∧ c ≠ '\\' := by
  constructor
  · rintro rfl
    cases h
  · rintro rfl
    cases h

/-- An escape of one letter is read as its character. -/
private theorem readString_shortEscape [StandIns] (start : List Char) (fuel : Nat) {c e : Char}
    (h : shortEscape? c = some e) (cs : List Char) :
    readString start (fuel + 1) ('\\' :: e :: cs) = do
      let (tail, rest) ← readString start fuel cs
      return (c :: tail, rest) := by
  obtain ⟨hescaped, hunit⟩ := escaped?_shortEscape h
  rw [readString]
  · simp [hescaped]
  · exact hunit

/-- A character that needs no escape stands for itself. -/
private theorem readString_self [StandIns] (start : List Char) (fuel : Nat) {c : Char}
    (h : shortEscape? c = none) (hvisible : 0x20 ≤ c.toNat) (cs : List Char) :
    readString start (fuel + 1) (c :: cs) = do
      let (tail, rest) ← readString start fuel cs
      return (c :: tail, rest) := by
  obtain ⟨hquote, hslash⟩ := ne_of_shortEscape h
  rw [readString]
  · simp [Nat.not_lt.mpr hvisible]
  · exact fun h => hquote h
  · exact fun h _ => hslash h
  · exact fun _ h _ => hslash h
  · exact fun _ _ h _ => hslash h

/-- The escapes of the units of a character are read as the character. -/
private theorem readString_unitsEscape [StandIns] (start : List Char) (fuel : Nat) (c : Char)
    {cs : List Char} (hcs : cs ≠ []) :
    readString start (fuel + 1) (unitsEscape c ++ cs) = do
      let (tail, rest) ← readString start fuel cs
      return (c :: tail, rest) := by
  rw [unitsEscape]
  split_ifs with hsmall
  · rw [unitEscape, List.cons_append, List.cons_append, readString,
      readUnicode_unitEscape _ hsmall hcs]
    rfl
  · rw [List.append_assoc, unitEscape, List.cons_append, List.cons_append, readString,
      readUnicode_pairEscape _ (Nat.le_of_not_lt hsmall) hcs]
    rfl

/-- Written characters that are read as one character, in front of given ones. -/
def ReadsChar [StandIns] (written : List Char) (c : Char) (cs : List Char) : Prop :=
  ∀ (start : List Char) (fuel : Nat),
    readString start (fuel + 1) (written ++ cs) = do
      let (tail, rest) ← readString start fuel cs
      return (c :: tail, rest)

theorem readsChar_plainChar [StandIns] (c : Char) {cs : List Char} (hcs : cs ≠ []) :
    ReadsChar (plainChar c) c cs := by
  intro start fuel
  rw [plainChar]
  cases hshort : shortEscape? c with
  | some e => exact readString_shortEscape start fuel hshort cs
  | none =>
    dsimp only
    split_ifs with hvisible
    · exact readString_self start fuel hshort hvisible cs
    · exact readString_unitsEscape start fuel c hcs

/-- The stand-in of a first half is read as itself where no second half follows. -/
theorem readsChar_asciiChar [StandIns] (c : Char) {cs : List Char} (hcs : cs ≠ [])
    (hnext : ∀ unit, loneUnit? c = some unit → isFirstHalf unit = true → NoSecondHalf cs) :
    ReadsChar (asciiChar c) c cs := by
  intro start fuel
  rw [asciiChar]
  cases hshort : shortEscape? c with
  | some e => exact readString_shortEscape start fuel hshort cs
  | none =>
    dsimp only
    split_ifs with hprintable
    · exact readString_self start fuel hshort hprintable.1 cs
    · cases hunit : loneUnit? c with
      | none => exact readString_unitsEscape start fuel c hcs
      | some unit =>
        obtain ⟨half, rfl⟩ := StandIns.loneUnit?_eq_some.mp hunit
        dsimp only
        rw [unitEscape, List.cons_append, List.cons_append, readString,
          readUnicode_loneUnit _ half hcs (hnext unit hunit)]
        rfl

private theorem unitEscape_append_ne_nil (unit : Nat) (cs : List Char) :
    unitEscape unit ++ cs ≠ [] :=
  List.cons_ne_nil _ _

private theorem noSecondHalf_unitEscape {unit : Nat} (hsmall : unit < 0x10000)
    (hother : isSecondHalf unit = false) {cs : List Char} (hcs : cs ≠ []) :
    NoSecondHalf (unitEscape unit ++ cs) := by
  intro hex hwritten
  rw [unitEscape, List.cons_append, List.cons_append, List.cons.injEq, List.cons.injEq] at hwritten
  obtain ⟨-, -, rfl⟩ := hwritten
  exact ⟨unit, cs, hexUnit?_paddedHex hsmall hcs, hother⟩

/-- No written character is an escape of a second half, but the stand-in of one. -/
theorem noSecondHalf_asciiChar [StandIns] {c : Char}
    (h : ∀ unit, loneUnit? c = some unit → isSecondHalf unit = false) {cs : List Char}
    (hcs : cs ≠ []) : NoSecondHalf (asciiChar c ++ cs) := by
  rw [asciiChar]
  split
  · next e hshort =>
    intro hex hwritten
    rw [List.cons_append, List.cons_append, List.cons.injEq, List.cons.injEq] at hwritten
    exact absurd hwritten.2.1 (escaped?_shortEscape hshort).2
  · next hshort =>
    split_ifs
    · intro hex hwritten
      rw [List.cons_append, List.cons.injEq] at hwritten
      exact absurd hwritten.1 (ne_of_shortEscape hshort).2
    · split
      · next unit hunit =>
        obtain ⟨half, -⟩ := StandIns.loneUnit?_eq_some.mp hunit
        rw [isHalf_iff] at half
        exact noSecondHalf_unitEscape (by omega) (h unit hunit) hcs
      · rw [unitsEscape]
        split_ifs with hsmall
        · exact noSecondHalf_unitEscape hsmall (toNat_not_half c).2 hcs
        · rw [List.append_assoc]
          have hfirst := firstUnit_lt c
          exact noSecondHalf_unitEscape (Nat.lt_of_lt_of_le hfirst (by decide))
            (isSecondHalf_of_lt hfirst) (unitEscape_append_ne_nil _ cs)

/-! ## Halves of pairs -/

/-- The character whose units two characters stand in for. -/
def pairOf? [StandIns] (c d : Char) : Option Char :=
  match loneUnit? c, loneUnit? d with
  | some first, some second =>
    if isFirstHalf first && isSecondHalf second then
      some (Char.ofNat (0x10000 + (first - 0xd800) * 0x400 + (second - 0xdc00)))
    else none
  | _, _ => none

/-- The characters with one character in place of each two that stand in for its units. -/
def joinHalves [StandIns] : List Char → List Char
  | c :: d :: cs =>
    match pairOf? c d with
    | some joined => joined :: joinHalves cs
    | none => c :: joinHalves (d :: cs)
  | cs => cs

/-- No two characters next to each other stand in for the units of one. -/
def IsUnsplit [StandIns] (cs : List Char) : Prop :=
  cs.IsChain fun c d => pairOf? c d = none

theorem IsUnsplit.joinHalves_eq [StandIns] {cs : List Char} (h : IsUnsplit cs) :
    joinHalves cs = cs := by
  induction cs with
  | nil => rfl
  | cons c cs ih =>
    cases cs with
    | nil => rfl
    | cons d cs =>
      obtain ⟨hpair, htail⟩ := List.isChain_cons_cons.mp h
      rw [joinHalves, hpair]
      exact congrArg (c :: ·) (ih htail)

theorem pairOf?_eq_none_of_loneUnit? [StandIns] {c : Char} (h : loneUnit? c = none) (d : Char) :
    pairOf? c d = none := by
  rw [pairOf?, h]

/-- A text without lone units is not changed. -/
theorem isUnsplit_of_loneUnit? [StandIns] {cs : List Char} (h : ∀ c ∈ cs, loneUnit? c = none) :
    IsUnsplit cs := by
  induction cs with
  | nil => exact .nil
  | cons c cs ih =>
    obtain ⟨hc, htail⟩ := List.forall_mem_cons.mp h
    cases cs with
    | nil => exact .singleton c
    | cons d cs =>
      exact List.isChain_cons_cons.mpr ⟨pairOf?_eq_none_of_loneUnit? hc d, ih htail⟩

/-! ## Strings -/

/-- The written characters of a text are read as others, up to the closing quote. -/
def ReadsAs [StandIns] (written cs : List Char) : Prop :=
  ∀ (start rest : List Char) (fuel : Nat), written.length < fuel →
    readString start fuel (written ++ '"' :: rest) = .ok (cs, rest)

namespace ReadsAs

variable [StandIns] {written cs : List Char}

theorem nil : ReadsAs [] [] := by
  intro start rest fuel hfuel
  obtain ⟨fuel, rfl⟩ := Nat.exists_eq_add_of_lt hfuel
  rfl

/-- One more character in front. -/
theorem cons {front : List Char} {c : Char} (hfront : front ≠ [])
    (hread : ∀ rest, ReadsChar front c (written ++ '"' :: rest)) (h : ReadsAs written cs) :
    ReadsAs (front ++ written) (c :: cs) := by
  intro start rest fuel hfuel
  have hpos := List.length_pos_iff.mpr hfront
  rw [List.length_append] at hfuel
  obtain ⟨fuel, rfl⟩ : ∃ k, fuel = k + 1 := ⟨fuel - 1, by omega⟩
  rw [List.append_assoc, hread rest start fuel, h start rest fuel (by omega)]
  rfl

theorem readText (h : ReadsAs written cs) (rest : List Char) {fuel : Nat}
    (hfuel : written.length < fuel) :
    readText fuel (written ++ '"' :: rest) = .ok (String.ofList cs, rest) := by
  rw [Json.readText, h _ _ _ hfuel]
  rfl

end ReadsAs

theorem unitsEscape_ne_nil (c : Char) : unitsEscape c ≠ [] := by
  rw [unitsEscape]
  split_ifs <;> exact List.cons_ne_nil _ _

theorem plainChar_ne_nil (c : Char) : plainChar c ≠ [] := by
  rw [plainChar]
  split
  · exact List.cons_ne_nil _ _
  · split_ifs
    · exact List.cons_ne_nil _ _
    · exact unitsEscape_ne_nil c

theorem asciiChar_ne_nil [StandIns] (c : Char) : asciiChar c ≠ [] := by
  rw [asciiChar]
  split
  · exact List.cons_ne_nil _ _
  · split_ifs
    · exact List.cons_ne_nil _ _
    · split
      · exact List.cons_ne_nil _ _
      · exact unitsEscape_ne_nil c

/-- A text with its characters as they are is read back. -/
theorem readsAs_plainChar [StandIns] (cs : List Char) : ReadsAs (cs.flatMap plainChar) cs := by
  induction cs with
  | nil => exact .nil
  | cons c cs ih =>
    exact ih.cons (plainChar_ne_nil c) fun rest => readsChar_plainChar c (by simp)

/-- A stand-in is escaped as its unit. -/
theorem asciiChar_of_loneUnit? [StandIns] {c : Char} {unit : Nat} (h : loneUnit? c = some unit) :
    asciiChar c = unitEscape unit := by
  obtain ⟨half, rfl⟩ := StandIns.loneUnit?_eq_some.mp h
  have hplane := StandIns.privatePlanes_le half
  have hshort : shortEscape? (standIn unit) = none := by
    cases hescape : shortEscape? (standIn unit) with
    | none => rfl
    | some e =>
      have hsmall := toNat_lt_of_shortEscape hescape
      unfold privatePlanes at hplane
      omega
  rw [asciiChar, hshort, h]
  refine if_neg fun hprintable => ?_
  unfold privatePlanes at hplane
  omega

/-- The escapes of a first and a second half next to each other are read as one character. -/
theorem readsChar_pairOf? [StandIns] {c d joined : Char} (h : pairOf? c d = some joined)
    {cs : List Char} (hcs : cs ≠ []) : ReadsChar (asciiChar c ++ asciiChar d) joined cs := by
  rw [pairOf?] at h
  split at h
  · next first second hfirst hsecond =>
    rw [Option.ite_none_right_eq_some, Bool.and_eq_true] at h
    obtain ⟨⟨hhalf, hother⟩, hjoined⟩ := h
    have hsmall {c : Char} {unit : Nat} (hunit : loneUnit? c = some unit) : unit < 0x10000 := by
      have hbounds := isHalf_iff.mp (StandIns.loneUnit?_eq_some.mp hunit).1
      omega
    intro start fuel
    rw [asciiChar_of_loneUnit? hfirst, asciiChar_of_loneUnit? hsecond, List.append_assoc,
      unitEscape, List.cons_append, List.cons_append, readString,
      readUnicode_halves _ (hsmall hfirst) (hsmall hsecond) hhalf hother hcs,
      Option.some.inj hjoined]
    rfl
  · cases h

/-- A text in ASCII is read with the halves of pairs joined. -/
theorem readsAs_asciiChar [StandIns] (cs : List Char) :
    ReadsAs (cs.flatMap asciiChar) (joinHalves cs) := by
  fun_induction joinHalves cs with
  | case1 c d cs joined hpair ih =>
    have hread := ih.cons (by simp [asciiChar_ne_nil]) fun rest => readsChar_pairOf? hpair (by simp)
    rwa [List.append_assoc] at hread
  | case2 c d cs hpair ih =>
    refine ih.cons (asciiChar_ne_nil c) fun rest => readsChar_asciiChar c (by simp) ?_
    intro first hfirst hhalf
    change NoSecondHalf ((d :: cs).flatMap asciiChar ++ _)
    rw [List.flatMap_cons, List.append_assoc]
    refine noSecondHalf_asciiChar (fun second hsecond => ?_) (by simp)
    rw [pairOf?, hfirst, hsecond] at hpair
    simpa [hhalf] using hpair
  | case3 cs hshort =>
    cases cs with
    | nil => exact .nil
    | cons c cs =>
      cases cs with
      | nil =>
        refine ReadsAs.nil.cons (asciiChar_ne_nil c) fun rest => readsChar_asciiChar c (by simp) ?_
        intro _ _ _ hex hquote
        cases hquote
      | cons d cs => exact absurd rfl (hshort c d cs)

end Json

end TieredTerms
