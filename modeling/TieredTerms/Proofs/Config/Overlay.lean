import Mathlib.Data.List.Nodup
import TieredTerms.Config.Settings

/-!
# Looking up fields in layers

A layer is a list of fields whose names are distinct.  What a field of two layers is depends on
that field of each of them alone.

* `Fields.get?_put` and `Fields.ofPairs_of_nodup` look fields up in what was put together.
* `get?_overlay` looks a field up in two layers.
* `readText_overlayValue` and `readKind_overlayValue` tell that a value that is no object is read
  in the same way whether something lies below it or not.
-/

namespace TieredTerms

namespace Fields

variable {fields : Fields} {name key : String} {value : Datum}

/-- The names of fields, in their order. -/
def names (fields : Fields) : List String :=
  fields.map Prod.fst

theorem get?_nil (key : String) : get? [] key = none := rfl

theorem get?_cons (name : String) (value : Datum) (fields : Fields) (key : String) :
    get? ((name, value) :: fields) key = if name = key then some value else get? fields key := by
  by_cases h : name = key
  · simp [get?, h]
  · simp [get?, h]

theorem get?_eq_none : get? fields key = none ↔ key ∉ names fields := by
  induction fields with
  | nil => simp [get?_nil, names]
  | cons field fields ih =>
    obtain ⟨name, value⟩ := field
    rw [get?_cons]
    split_ifs with h
    · simp [names, h]
    · rw [ih]
      simp [names, Ne.symm h]

theorem get?_append (fields fields' : Fields) (key : String) :
    get? (fields ++ fields') key = (get? fields key).or (get? fields' key) := by
  induction fields with
  | nil => simp [get?_nil]
  | cons field fields ih =>
    obtain ⟨name, value⟩ := field
    rw [List.cons_append, get?_cons, get?_cons, ih]
    split_ifs <;> simp

/-! ## Setting a field -/

theorem get?_put (name : String) (value : Datum) (fields : Fields) (key : String) :
    get? (put name value fields) key = if name = key then some value else get? fields key := by
  induction fields with
  | nil => rw [put, get?_cons, get?_nil]
  | cons field fields ih =>
    obtain ⟨other, d⟩ := field
    simp only [put]
    split_ifs with hsame hkey hkey
    · rw [get?_cons, if_pos hkey]
    · rw [get?_cons, if_neg hkey, get?_cons, if_neg (hsame ▸ hkey)]
    · rw [get?_cons, if_neg fun h => hsame (h.trans hkey.symm), ih, if_pos hkey]
    · rw [get?_cons, get?_cons, ih, if_neg hkey]

/-- A field that is set has its name among the others, or behind them. -/
theorem names_put (name : String) (value : Datum) (fields : Fields) :
    names (put name value fields) =
      if name ∈ names fields then names fields else names fields ++ [name] := by
  induction fields with
  | nil => simp [names, put]
  | cons field fields ih =>
    simp only [put]
    split_ifs with h hmem hmem
    · simp [names, h]
    · exact absurd (by simp [names, h]) hmem
    · have hrest : name ∈ names fields := by
        rcases List.mem_cons.mp hmem with hname | hrest
        · exact absurd hname.symm h
        · exact hrest
      rw [if_pos hrest] at ih
      simpa [names] using ih
    · have hrest : name ∉ names fields := fun hrest => hmem (List.mem_cons_of_mem _ hrest)
      rw [if_neg hrest] at ih
      simpa [names] using ih

theorem nodup_put (h : (names fields).Nodup) (name : String) (value : Datum) :
    (names (put name value fields)).Nodup := by
  rw [names_put]
  split_ifs with hmem
  · exact h
  · exact h.append (List.nodup_singleton name) (by simpa using hmem)

/-- The fields of certain names are left alone where another one is set. -/
theorem filter_put (keep : String → Bool) (h : keep name = false) (value : Datum)
    (fields : Fields) :
    (put name value fields).filter (fun field => keep field.1) =
      fields.filter fun field => keep field.1 := by
  induction fields with
  | nil => simp [put, h]
  | cons field fields ih =>
    simp only [put]
    split_ifs with hsame
    · rw [List.filter_cons, List.filter_cons, hsame, h]
      rfl
    · rw [List.filter_cons, List.filter_cons, ih]

/-! ## Fields of pairs -/

theorem nodup_foldl_put (pairs : List (String × Datum)) (h : (names fields).Nodup) :
    (names (pairs.foldl (fun fields pair => fields.put pair.1 pair.2) fields)).Nodup := by
  induction pairs generalizing fields with
  | nil => exact h
  | cons pair pairs ih => exact ih (nodup_put h pair.1 pair.2)

/-- The fields of pairs have distinct names. -/
theorem nodup_ofPairs (pairs : List (String × Datum)) : (names (ofPairs pairs)).Nodup :=
  nodup_foldl_put pairs List.nodup_nil

theorem get?_foldl_put (pairs : List (String × Datum)) (fields : Fields) (key : String) :
    get? (pairs.foldl (fun fields pair => fields.put pair.1 pair.2) fields) key =
      (get? pairs.reverse key).or (get? fields key) := by
  induction pairs generalizing fields with
  | nil => simp [get?_nil]
  | cons pair pairs ih =>
    rw [List.foldl_cons, ih, get?_put, List.reverse_cons, get?_append, get?_cons, get?_nil]
    cases get? pairs.reverse key with
    | some d => simp
    | none => split_ifs <;> simp

/-- Of several pairs of one name the last one counts. -/
theorem get?_ofPairs (pairs : List (String × Datum)) (key : String) :
    get? (ofPairs pairs) key = get? pairs.reverse key := by
  rw [ofPairs, get?_foldl_put, get?_nil, Option.or_none]

/-- The names of fields are those of the pairs they come from. -/
theorem mem_names_ofPairs {pairs : List (String × Datum)} :
    key ∈ names (ofPairs pairs) ↔ key ∈ names pairs := by
  have hreverse : key ∈ names pairs.reverse ↔ key ∈ names pairs := by
    simp [names]
  rw [← not_iff_not, ← get?_eq_none, get?_ofPairs, get?_eq_none, hreverse]

/-- A field that is new is set behind the others. -/
theorem put_of_not_mem (h : name ∉ names fields) (value : Datum) :
    put name value fields = fields ++ [(name, value)] := by
  induction fields with
  | nil => rfl
  | cons field fields ih =>
    have hne : field.1 ≠ name := fun hsame => h (by simp [names, hsame])
    rw [put, if_neg hne, ih fun hmem => h (List.mem_cons_of_mem _ hmem)]
    rfl

theorem foldl_put_of_nodup (base pairs : Fields) (h : (names (base ++ pairs)).Nodup) :
    pairs.foldl (fun fields pair => fields.put pair.1 pair.2) base = base ++ pairs := by
  induction pairs generalizing base with
  | nil => simp
  | cons pair pairs ih =>
    have hnew : pair.1 ∉ names base := by
      have hnames := h
      rw [names, List.map_append, List.map_cons] at hnames
      have hdisjoint := List.disjoint_of_nodup_append hnames
      exact fun hmem => hdisjoint hmem (List.mem_cons_self ..)
    have hrest : (names (base ++ [pair] ++ pairs)).Nodup := by
      rw [List.append_assoc]
      exact h
    rw [List.foldl_cons, put_of_not_mem hnew]
    exact (ih (base ++ [pair]) hrest).trans (List.append_assoc base [pair] pairs)

/-- Pairs with distinct names are the fields themselves. -/
theorem ofPairs_of_nodup (h : (names fields).Nodup) : ofPairs fields = fields :=
  foldl_put_of_nodup [] fields h

end Fields

/-! ## Layers -/

/-- Names that are distinct stay so where a layer is laid over. -/
theorem nodup_overlay {base : Fields} (h : (Fields.names base).Nodup) (fields : Fields) :
    (Fields.names (overlay base fields)).Nodup := by
  induction fields generalizing base with
  | nil =>
    rw [overlay]
    exact h
  | cons field fields ih =>
    rw [overlay]
    exact ih (Fields.nodup_put h _ _)

/-- The names of two layers are those of the one or of the other. -/
theorem mem_names_overlay {base fields : Fields} {name : String}
    (h : name ∈ Fields.names (overlay base fields)) :
    name ∈ Fields.names base ∨ name ∈ Fields.names fields := by
  induction fields generalizing base with
  | nil =>
    rw [overlay] at h
    exact .inl h
  | cons field fields ih =>
    rw [overlay] at h
    rcases ih h with hbase | hrest
    · rw [Fields.names_put] at hbase
      split_ifs at hbase
      · exact .inl hbase
      · rcases List.mem_append.mp hbase with hbase | hname
        · exact .inl hbase
        · exact .inr (by simp [Fields.names, List.mem_singleton.mp hname])
    · exact .inr (List.mem_cons_of_mem _ hrest)

/-- A field of two layers is that of the upper one, laid over that of the lower one. -/
theorem get?_overlay (base : Fields) {fields : Fields} (h : (Fields.names fields).Nodup)
    (key : String) :
    Fields.get? (overlay base fields) key =
      match Fields.get? fields key with
      | some d => some (overlayValue (Fields.get? base key) d)
      | none => Fields.get? base key := by
  induction fields generalizing base with
  | nil => rw [overlay, Fields.get?_nil]
  | cons field fields ih =>
    obtain ⟨name, value⟩ := field
    obtain ⟨hname, hrest⟩ := List.nodup_cons.mp h
    rw [overlay, ih _ hrest, Fields.get?_put, Fields.get?_cons]
    by_cases hkey : name = key
    · have hnone : Fields.get? fields key = none := Fields.get?_eq_none.mpr (hkey ▸ hname)
      simp [hkey, hnone]
    · simp [hkey]

/-- A field that the upper layer does not have is that of the lower one. -/
theorem get?_overlay_of_none {fields : Fields} {key : String}
    (h : Fields.get? fields key = none) (base : Fields) :
    Fields.get? (overlay base fields) key = Fields.get? base key := by
  induction fields generalizing base with
  | nil => rw [overlay]
  | cons field fields ih =>
    obtain ⟨name, value⟩ := field
    rw [Fields.get?_cons] at h
    split_ifs at h with hname
    rw [overlay, ih h, Fields.get?_put, if_neg hname]

/-- The fields of certain names are those of the lower layer where the upper one has no such
name. -/
theorem filter_overlay (keep : String → Bool) {fields : Fields}
    (h : ∀ name ∈ Fields.names fields, keep name = false) (base : Fields) :
    (overlay base fields).filter (fun field => keep field.1) =
      base.filter fun field => keep field.1 := by
  induction fields generalizing base with
  | nil => rw [overlay]
  | cons field fields ih =>
    rw [overlay, ih fun name hname => h name (List.mem_cons_of_mem _ hname),
      Fields.filter_put keep (h field.1 (List.mem_cons_self ..))]

theorem overlayValue_text (base : Option Datum) (s : String) :
    overlayValue base (.text s) = .text s := by
  rw [overlayValue]
  simp

theorem overlayValue_bool (base : Option Datum) (b : Bool) :
    overlayValue base (.bool b) = .bool b := by
  rw [overlayValue]
  simp

/-- What is laid over a value is an object only if it was one. -/
theorem overlayValue_cases (base : Option Datum) (d : Datum) :
    overlayValue base d = d ∨ ∃ fields fields', d = .object fields ∧
      overlayValue base d = .object fields' := by
  cases d with
  | object fields =>
    right
    rcases base with _ | below
    · simp [overlayValue]
    · cases below <;> simp [overlayValue]
  | _ =>
    left
    rw [overlayValue]
    simp

/-- A text is read whether something lies below it or not. -/
theorem readText_overlayValue (base : Option Datum) (d : Datum) :
    readText (overlayValue base d) = readText d := by
  rcases overlayValue_cases base d with h | ⟨fields, fields', rfl, h⟩
  · rw [h]
  · rw [h]
    rfl

/-- A kind is read whether something lies below it or not. -/
theorem readKind_overlayValue (base : Option Datum) (d : Datum) :
    readKind (overlayValue base d) = readKind d := by
  rcases overlayValue_cases base d with h | ⟨fields, fields', rfl, h⟩
  · rw [h]
  · rw [h]
    rfl

end TieredTerms
