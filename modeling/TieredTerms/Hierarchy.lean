/-!
# Names in a hierarchy

Folders stand in a hierarchy: a place is a list of names, from the top downwards, and the places
above it are the shorter lists that it starts with.  `ancestors` are a place and all places above
it, the nearest first.
-/

namespace TieredTerms

/-- A place and all places above it, the nearest first.  The last is the top. -/
def ancestors : List String → List (List String)
  | [] => [[]]
  | name :: names => (ancestors names).map (name :: ·) ++ [[]]

@[simp] theorem ancestors_nil : ancestors [] = [[]] := rfl

end TieredTerms
