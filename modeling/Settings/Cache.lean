import Settings.Group
/-!
# Remembered answers

A cache remembers the target of every address that was asked for, under the exact text of the
address. Each text stands once.
-/

namespace Settings

/-- What a write does to remembered answers. -/
inductive CachePolicy
  | invalidateOnWrite
  | retain
  deriving DecidableEq, Repr, Inhabited

/-- Targets and misses under the texts of addresses. -/
structure Cache where
  entries : List (String × Except Miss Target) := []
  deriving Inhabited

namespace Cache

def empty : Cache := {}

def find? (c : Cache) (path : String) : Option (Except Miss Target) := c.entries.lookup path

/-- Remembers an answer under a text, in place of one that is there. -/
def insert (c : Cache) (path : String) (answer : Except Miss Target) : Cache :=
  ⟨c.entries.filter (·.1 ≠ path) ++ [(path, answer)]⟩

def size (c : Cache) : Nat := c.entries.length

end Cache

end Settings
