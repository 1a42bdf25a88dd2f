import Settings.Sorted
/-!
# Metadata

Texts under keys. Since the entries are kept sorted, two sets of metadata with the same texts under
the same keys are equal.
-/

namespace Settings

/-- Texts under keys, sorted by key. -/
structure Metadata where
  entries : List (String × String)
  sorted : Sorted.Increasing entries
  deriving DecidableEq, Repr

namespace Metadata

/-- No texts. -/
def empty : Metadata := ⟨[], List.Pairwise.nil⟩

instance : Inhabited Metadata := ⟨empty⟩

/-- Metadata from entries in any order; of several under one key the last counts. -/
def ofList (entries : List (String × String)) : Metadata :=
  ⟨Sorted.ofList entries, Sorted.increasing_ofList entries⟩

/-- The text under a key. -/
def find? (m : Metadata) (key : String) : Option String := m.entries.lookup key

end Metadata

end Settings
