import TieredTerms.Rule.Basic

/-!
# Rule tables

A rule table is a list of rules of one kind.  Their order is their priority: a look-up answers
with the first rule that holds.

* `RuleTable.uniform` is the invariant, kept by the type.
* `RuleTable.insert` puts a rule of the table's kind into a table.
* `RuleTable.compact` is the compact form, the rules' own forms with commas between.
-/

namespace TieredTerms

/-- Rules of one kind, in order of priority. -/
structure RuleTable where
  rules : List Rule
  uniform : ∀ r ∈ rules, ∀ s ∈ rules, r.kind = s.kind
  deriving DecidableEq

namespace RuleTable

/-- The table without rules. -/
def empty : RuleTable :=
  ⟨[], by simp⟩

instance : Inhabited RuleTable := ⟨empty⟩

/-- The table of one rule. -/
def singleton (r : Rule) : RuleTable :=
  ⟨[r], by simp⟩

/-- The number of rules. -/
def size (t : RuleTable) : Nat :=
  t.rules.length

/-- The kind of the rules; an empty table has none. -/
def kind? (t : RuleTable) : Option Kind :=
  t.rules.head?.map Rule.kind

/-- The kind of the first rule is the kind of every rule. -/
theorem kind?_of_mem {t : RuleTable} {s : Rule} (h : s ∈ t.rules) : t.kind? = some s.kind := by
  cases hrules : t.rules with
  | nil => simp [hrules] at h
  | cons first rest =>
    have hfirst := t.uniform first (by simp [hrules]) s h
    simp [kind?, hrules, hfirst]

/-- Whether an integer has few enough bits for an index. -/
def isIndex (n : Int) : Bool :=
  decide (-(Nat.pow 2 63 : Int) ≤ n) && decide (n < Nat.pow 2 63)

/-- The place that an index names for an insertion into a list of the given length.  A negative
index counts from the end, and an index beyond either end names that end. -/
def insertionPlace (length : Nat) (index : Int) : Nat :=
  if index < 0 then (length + index).toNat else min index.toNat length

/-- The table with a rule of its kind before the given place. -/
def insert (t : RuleTable) (place : Nat) (r : Rule) (h : ∀ s ∈ t.rules, s.kind = r.kind) :
    RuleTable where
  rules := t.rules.take place ++ r :: t.rules.drop place
  uniform := by
    have kinds : ∀ s ∈ t.rules.take place ++ r :: t.rules.drop place, s.kind = r.kind := by
      intro s hs
      simp only [List.mem_append, List.mem_cons] at hs
      rcases hs with hs | rfl | hs
      · exact h s (List.mem_of_mem_take hs)
      · rfl
      · exact h s (List.mem_of_mem_drop hs)
    intro a ha b hb
    rw [kinds a ha, kinds b hb]

/-- Whether every rule can be written. -/
def isWritable (t : RuleTable) : Bool :=
  t.rules.all Rule.isWritable

/-- The compact forms of the rules, in order. -/
def compactForms (t : RuleTable) : List String :=
  t.rules.map Rule.compact

/-- The compact form. -/
def compact (t : RuleTable) : String :=
  ",".intercalate t.compactForms

/-- Whether two tables hold equal rules in the same order.  Tables of different sizes differ
without a comparison; else the rules are compared in order up to the first difference, where one
and the same rule is equal to itself whether its key can be formed or not. -/
def equal (a b : RuleTable) : Except NotFinite Bool :=
  if a.size = b.size then all (a.rules.zip b.rules) else .ok false
where
  /-- Whether both rules of every pair are equal. -/
  all : List (Rule × Rule) → Except NotFinite Bool
    | [] => .ok true
    | (r, s) :: pairs => do
      if ← r.sameOrEqual s then all pairs else return false

end RuleTable

end TieredTerms
