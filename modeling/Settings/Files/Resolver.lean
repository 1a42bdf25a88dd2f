import Settings.Error
import Settings.Files.Tree
/-!
# Finding files

Paths are resolved to files: a file stands for itself, and a directory for the files below it that
have one of the chosen extensions. The result is sorted, and no file is named twice.
-/

namespace Settings

/-- Which files below a directory are taken. -/
structure Resolver where
  /-- How many levels below a directory are looked at; all of them if there is no limit. -/
  maxDepth : Option Nat := none
  /-- Whether names that begin with a point are looked at. -/
  includeHidden : Bool := false
  /-- The extensions of the files that are taken, in lowercase; the empty one stands for none. -/
  extensions : List String := ["yaml", "yml", "md", "markdown"]
  deriving Repr, Inhabited

namespace Resolver

/-- Whether the extension of a file is a chosen one. -/
def takes (r : Resolver) (path : String) : Bool :=
  r.extensions.contains ((Path.extension? path).getD "")

/-- Whether a name is looked at. -/
def sees (r : Resolver) (name : String) : Bool := r.includeHidden || !Path.isHidden name

mutual

/-- The chosen files at a path, which is so many levels below the directory that was named. -/
def filesAt (r : Resolver) (path : String) (depth : Nat) : FileTree → List String
  | .file _ => if r.takes path then [path] else []
  | .directory entries =>
    if r.maxDepth.any (· ≤ depth) then [] else filesIn r path (depth + 1) entries

/-- The chosen files among the entries of a directory. -/
def filesIn (r : Resolver) (directory : String) (depth : Nat) :
    List (String × FileTree) → List String
  | [] => []
  | (name, t) :: rest =>
    (if r.sees name then filesAt r (Path.join directory name) depth t else []) ++
      filesIn r directory depth rest

end

/-- The files that one path stands for. -/
def expand (r : Resolver) (files : Files) (path : String) : Except Error (List String) :=
  match files.at? path with
  | some (.file _) => .ok [path]
  | some (.directory entries) => .ok (r.filesAt path 0 (.directory entries))
  | none => .error (.fileNotFound path)

/-- Drops every path that has the components of an earlier one. -/
def dropRepeated (paths : List String) : List String :=
  paths.foldl (fun kept path => if kept.any (Path.same path) then kept else kept ++ [path]) []

/-- The files that paths stand for. The first path that leads nowhere is reported. -/
def resolve (r : Resolver) (files : Files) (paths : List String) :
    Except Error (List String) := do
  let found ← paths.mapM (r.expand files)
  .ok ((dropRepeated found.flatten).mergeSort Path.precedes)

end Resolver

end Settings
