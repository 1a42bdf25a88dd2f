import Settings.Text.Case
import Settings.Text.Split
/-!
# Paths

Paths as texts, and the components that they are compared by. Empty components and points within a
path do not count, so `x//y`, `x/./y` and `x/y` are the same path; a leading point does.

A path is taken to be Unicode text, and so is each name in it. A system may also hold names that are
not: they have no extension and no text here, and printed they can look the same as others. This
library says nothing about them.
-/

namespace Settings

/-- A part of a path. -/
inductive PathComponent
  | root
  | current
  | parent
  | normal (name : String)
  deriving DecidableEq, Repr

namespace PathComponent

/-- The place of a kind of component in their order. -/
def rank : PathComponent → Nat
  | root => 0
  | current => 1
  | parent => 2
  | normal _ => 3

/-- The order of components. Names are ordered by their bytes. -/
def compare (a b : PathComponent) : Ordering :=
  match a, b with
  | normal s, normal t => compareOfLessAndEq s t
  | _, _ => compareOfLessAndEq a.rank b.rank

end PathComponent

namespace Path

/-- The pieces of a path between slashes. -/
def parts (path : String) : List String := (Text.pieces '/' path.toList).map String.ofList

/-- The component that a piece is. Some pieces are none. -/
def component? (part : String) : Option PathComponent :=
  if part = "" || part = "." then none
  else if part = ".." then some .parent
  else some (.normal part)

/-- The components of a path. -/
def components (path : String) : List PathComponent :=
  let all := parts path
  let rest := all.filterMap component?
  if path.isEmpty then []
  else match all with
    | "" :: _ => .root :: rest
    | "." :: _ => .current :: rest
    | _ => rest

/-- The order of paths: component by component, and a path before what is below it. -/
def compareComponents : List PathComponent → List PathComponent → Ordering
  | [], [] => .eq
  | [], _ :: _ => .lt
  | _ :: _, [] => .gt
  | a :: as, b :: bs => (a.compare b).then (compareComponents as bs)

/-- Whether a path does not come after another one. -/
def precedes (a b : String) : Bool := (compareComponents (components a) (components b)).isLE

/-- Whether two paths have the same components. -/
def same (a b : String) : Bool := components a == components b

/-- The path of something in a directory. -/
def join (directory name : String) : String :=
  if directory.toList.getLast? = some '/' then directory ++ name else directory ++ "/" ++ name

/-- The extension of a file name: what follows its last point, unless that is its first character.
-/
def nameExtension? (name : String) : Option String :=
  match Text.cutLast '.' name.toList with
  | some (before, after) => if before.isEmpty then none else some (String.ofList after)
  | none => none

/-- The extension of a path, in lowercase. -/
def extension? (path : String) : Option String :=
  match (components path).getLast? with
  | some (.normal name) => (nameExtension? name).map Text.lowercase
  | _ => none

/-- Whether a path names a Markdown file, by its extension. -/
def isMarkdown (path : String) : Bool :=
  match extension? path with
  | some e => ["md", "markdown", "mdown", "mkd", "mkdn"].contains e
  | none => false

/-- Whether a file name is hidden. -/
def isHidden (name : String) : Bool := name.toList.head? = some '.'

end Path

end Settings
