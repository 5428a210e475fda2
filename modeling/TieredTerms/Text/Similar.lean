/-!
# Similar names

A name that is not known may be a slip for one that is.  Two names are alike by the characters
that they have in common, in the same order: those of their longest common run, and, on either
side of it, those that the remainders have in common in the same way.

* `commonCharacters` counts them, `isSimilar` holds where they are at least three fifths of all
  characters of both names.
* `similarNames` are the names most like a given one.
-/

namespace TieredTerms

/-- The length of the longest common start. -/
def commonStart : List Char → List Char → Nat
  | a :: as, b :: bs => if a = b then commonStart as bs + 1 else 0
  | _, _ => 0

/-- A run that two texts have in common: where it starts in each, and its length. -/
structure CommonRun where
  first : Nat
  second : Nat
  length : Nat

/-- The longest common run.  Of several it is the one that starts first in the first text, and of
those the one that starts first in the second. -/
def longestRun (a b : List Char) : CommonRun :=
  (List.range a.length).foldl (fun best i =>
    (List.range b.length).foldl (fun best j =>
      let length := commonStart (a.drop i) (b.drop j)
      if best.length < length then ⟨i, j, length⟩ else best) best) ⟨0, 0, 0⟩

/-- The number of characters in common, run by run. -/
def commonCharacters (a b : List Char) : Nat :=
  match longestRun a b with
  | ⟨first, second, length⟩ =>
    if 0 < length ∧ first + length ≤ a.length then
      length + commonCharacters (a.take first) (b.take second) +
        commonCharacters (a.drop (first + length)) (b.drop (second + length))
    else 0
termination_by a.length
decreasing_by
  all_goals
    simp only [List.length_take, List.length_drop]
    omega

/-- How alike two names are: the characters in common and the characters of both. -/
structure Likeness where
  common : Nat
  total : Nat

namespace Likeness

/-- The likeness of a known name to a given one. -/
def of (given known : String) : Likeness :=
  { common := commonCharacters known.toList given.toList, total := known.length + given.length }

/-- Whether one likeness is at most the other: the parts in common are compared. -/
def atMost (a b : Likeness) : Bool :=
  a.common * b.total ≤ b.common * a.total

end Likeness

/-- Whether two names are alike. -/
def isSimilar (given known : String) : Bool :=
  let likeness := Likeness.of given known
  3 * likeness.total ≤ 10 * likeness.common

/-- The most names that are offered for one that is not known. -/
def mostSimilar : Nat := 3

/-- The known names most like a given one, in alphabetical order. -/
def similarNames (given : String) (known : List String) : List String :=
  let better (a b : String) : Bool :=
    let likeA := Likeness.of given a
    let likeB := Likeness.of given b
    !likeA.atMost likeB || (likeB.atMost likeA && decide (b ≤ a))
  let best := ((known.filter (isSimilar given)).mergeSort better).take mostSimilar
  best.mergeSort fun a b => decide (a ≤ b)

end TieredTerms
