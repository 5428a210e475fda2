/-!
# Blank characters

The characters that count as blank at the ends of a text, and the text without them.
-/

namespace TieredTerms

/-- Whether a character is blank: the ASCII blanks, the four separators below the space, and the
spaces of the other scripts. -/
def isBlank (c : Char) : Bool :=
  let n := c.toNat
  (0x09 ≤ n && n ≤ 0x0d) || (0x1c ≤ n && n ≤ 0x20) || n == 0x85 || n == 0xa0 || n == 0x1680 ||
    (0x2000 ≤ n && n ≤ 0x200a) || n == 0x2028 || n == 0x2029 || n == 0x202f || n == 0x205f ||
    n == 0x3000

/-- The characters without the blanks at their end. -/
def stripEndChars (cs : List Char) : List Char :=
  (cs.reverse.dropWhile isBlank).reverse

/-- The characters without the blanks at both ends. -/
def stripChars (cs : List Char) : List Char :=
  stripEndChars (cs.dropWhile isBlank)

/-- The text without the blanks at both ends. -/
def strip (s : String) : String :=
  String.ofList (stripChars s.toList)

/-- No ASCII character above the space is blank. -/
theorem isBlank_eq_false {c : Char} (hlow : 0x20 < c.toNat) (hhigh : c.toNat < 0x7f) :
    isBlank c = false := by
  simp only [isBlank, Bool.or_eq_false_iff, Bool.and_eq_false_iff, decide_eq_false_iff_not,
    beq_eq_false_iff_ne]
  omega

/-- Characters without blanks keep all of themselves. -/
theorem stripChars_of_not_blank {cs : List Char} (h : ∀ c ∈ cs, isBlank c = false) :
    stripChars cs = cs := by
  have hkeep {ds : List Char} (hds : ∀ c ∈ ds, isBlank c = false) : ds.dropWhile isBlank = ds := by
    cases ds with
    | nil => rfl
    | cons c ds => rw [List.dropWhile_cons_of_neg (by simp [hds c])]
  have hreverse : ∀ c ∈ cs.reverse, isBlank c = false := by simpa using h
  rw [stripChars, stripEndChars, hkeep h, hkeep hreverse, List.reverse_reverse]

/-- Characters that do not begin with a blank lose none at their front. -/
theorem stripChars_cons {c : Char} (h : isBlank c = false) (cs : List Char) :
    stripChars (c :: cs) = stripEndChars (c :: cs) := by
  rw [stripChars, List.dropWhile_cons_of_neg (by simp [h])]

/-- The characters up to the last one that is not blank stay. -/
theorem stripEndChars_concat {c : Char} (h : isBlank c = false) (cs : List Char) :
    stripEndChars (cs ++ [c]) = cs ++ [c] := by
  rw [stripEndChars, List.reverse_append, List.reverse_singleton, List.singleton_append,
    List.dropWhile_cons_of_neg (by simp [h]), List.reverse_cons, List.reverse_reverse]

theorem stripEndChars_concat_of_isBlank {c : Char} (h : isBlank c = true) (cs : List Char) :
    stripEndChars (cs ++ [c]) = stripEndChars cs := by
  rw [stripEndChars, List.reverse_append, List.reverse_singleton, List.singleton_append,
    List.dropWhile_cons_of_pos h, stripEndChars]

/-- A first character that is not blank stays. -/
theorem stripEndChars_cons {c : Char} (h : isBlank c = false) (cs : List Char) :
    stripEndChars (c :: cs) = c :: stripEndChars cs := by
  rw [stripEndChars, stripEndChars, List.reverse_cons, List.dropWhile_append]
  cases hrest : cs.reverse.dropWhile isBlank with
  | nil => simp [h]
  | cons d rest => simp

/-- What is left without the blanks at both ends is a piece of the characters. -/
theorem infix_stripChars (cs : List Char) : stripChars cs <:+: cs := by
  have hend (ds : List Char) : stripEndChars ds <+: ds := by
    rw [stripEndChars, ← List.reverse_suffix, List.reverse_reverse]
    exact List.dropWhile_suffix _
  exact (hend _).isInfix.trans (List.dropWhile_suffix _).isInfix

end TieredTerms
