import Settings.Files.Path
/-!
# Trees of files

The files that a program can see, as a value: a directory holds entries under names, and a file
holds bytes. Paths are followed from a working directory, and may lead out of it into the
directories around it.

Names are Unicode texts, so a name is also what is printed for it, and different names are printed
differently. Entries whose names are no such text have no place in these trees, nor do symbolic
links.
-/

namespace Settings

/-- A file or a directory. -/
inductive FileTree
  | file (content : ByteArray)
  | directory (entries : List (String × FileTree))
  deriving Inhabited

namespace FileTree

def empty : FileTree := .directory []

/-- Follows the pieces of a path from the innermost of nested directories, the outer ones being
given from the inside out. Only a directory has something behind a slash. Above the outermost
directory there is only itself. -/
def follow : (inside : List FileTree) → List String → Option FileTree
  | [], _ => none
  | here :: _, [] => some here
  | here :: outside, part :: rest =>
    match here with
    | .file _ => none
    | .directory entries =>
      if part = "" || part = "." then follow (here :: outside) rest
      else if part = ".." then follow (if outside.isEmpty then [here] else outside) rest
      else
        match entries.lookup part with
        | some next => follow (next :: here :: outside) rest
        | none => none

/-- What is at a path below a directory, put there together with the directories above it. -/
def putEntry (name : String) (change : Option FileTree → FileTree) :
    List (String × FileTree) → List (String × FileTree)
  | [] => [(name, change none)]
  | (n, t) :: rest =>
    if n = name then (n, change (some t)) :: rest else (n, t) :: putEntry name change rest

/-- Puts something at the place that names lead to. What is in the way gives way to a directory. -/
def put (t : FileTree) (names : List String) (item : FileTree) : FileTree :=
  match names with
  | [] => item
  | name :: rest =>
    let entries := match t with
      | .directory entries => entries
      | .file _ => []
    .directory (putEntry name (fun old => (old.getD empty).put rest item) entries)

end FileTree

/-- The files that a program sees: the directory that paths start from, and the directories around
it, the nearest first. -/
structure Files where
  working : FileTree
  around : List FileTree := []
  deriving Inhabited

/-- What is at a path, if anything is. A path with a slash at its beginning starts from the
outermost directory around the working one. -/
def Files.at? (files : Files) (path : String) : Option FileTree :=
  if path.isEmpty then none
  else if path.toList.head? = some '/' then
    files.around.getLast?.bind fun outermost => FileTree.follow [outermost] (Path.parts path)
  else FileTree.follow (files.working :: files.around) (Path.parts path)

end Settings
