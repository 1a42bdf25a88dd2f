import Settings.Command.Execution
/-!
# The program

The outer layer: it reads the arguments and the files that they name, has the command carried out,
and prints what comes of it. Directories are read first, without the contents of files; the contents
follow for those files alone that the command will load.
-/

namespace Settings.Program

/-! ## Reading files -/

/-- The place that a piece of a path leads to, as names from the outermost directory. -/
def stepTo (names : List String) (part : String) : List String :=
  if part = "" || part = "." then names
  else if part = ".." then names.dropLast
  else names ++ [part]

/-- The places that pieces of a path lead through. -/
def passage : List String → List String → List (List String)
  | _, [] => []
  | names, part :: rest => stepTo names part :: passage (stepTo names part) rest

/-- The places that a path leads through, from a working directory. -/
def passageOf (working : List String) (path : String) : List (List String) :=
  passage (if path.toList.head? = some '/' then [] else working) (Path.parts path)

/-- The path to a place. -/
def pathTo (names : List String) : String := "/" ++ "/".intercalate names

/-- The directories and files at a place, without the contents of files. -/
partial def outline (names : List String) : IO FileTree := do
  let place ← IO.FS.realPath (pathTo names)
  if ← place.isDir then
    let entries ← place.readDir
    return .directory (← entries.toList.mapM fun entry => do
      return (entry.fileName, ← outline (names ++ [entry.fileName])))
  else return .file ByteArray.empty

/-- What is at a place of a tree. -/
def itemAt? (root : FileTree) (names : List String) : Option FileTree :=
  FileTree.follow [root] names

/-- Adds the places that a path leads through, and all that is below the last one, so far as they
are there. -/
def addPath (working : List String) (root : FileTree) (path : String) : IO FileTree := do
  let places := passageOf working path
  let mut root := root
  for names in places do
    let place ← (some <$> IO.FS.realPath (pathTo names)) <|> pure none
    if let some place := place then
      if (← place.isDir) && (itemAt? root names).isNone then root := root.put names .empty
  if let some names := places.getLast? then
    let place ← (some <$> IO.FS.realPath (pathTo names)) <|> pure none
    if let some place := place then
      if ← place.pathExists then root := root.put names (← outline names)
  return root

/-- Adds the contents of a file. -/
def addContents (working : List String) (root : FileTree) (path : String) : IO FileTree := do
  match (passageOf working path).getLast? with
  | none => return root
  | some names => return root.put names (.file (← IO.FS.readBinFile (pathTo names)))

/-- The files seen from a working directory. -/
def seenFrom (root : FileTree) (working : List String) : Files :=
  let places := (List.range (working.length + 1)).reverse.map fun n => working.take n
  match places.map fun names => (itemAt? root names).getD .empty with
  | [] => { working := .empty }
  | here :: around => { working := here, around }

/-- The files that a command will load. -/
def filesOf (command : Command) : IO Files := do
  let here ← IO.currentDir
  let working := (Path.parts here.toString).filter (· ≠ "")
  let root ← command.paths.foldlM (addPath working) (FileTree.empty.put working .empty)
  match command.resolver.resolve (seenFrom root working) command.paths with
  | .error _ => return seenFrom root working
  | .ok names => return seenFrom (← names.foldlM (addContents working) root) working

/-! ## Running -/

/-- What is said to those who ask for help. -/
def usage : String := String.join (List.map asLine [
  "Query hierarchical configuration documents with dot paths",
  "",
  "Usage: settings [-v | -q] <COMMAND> [OPTIONS] <FILES>...",
  "",
  "Commands:",
  "  get     Resolve an address path in each file",
  "  nodes   List top-level groups matching a metadata filter",
  "  groups  List top-level groups with their sibling offsets",
  "  help    Print this message",
  "",
  "Options:",
  "  -p, --path <PATH>         get: address path, e.g. server[1].port",
  "  -t, --type <TYPE>         get: string, int, float or bool",
  "      --set <PATH=VALUE>    get: assign before resolving (repeatable)",
  "  -f, --filter <FILTER>     nodes: metadata filter, e.g. [role:primary]",
  "      --name-regex <REGEX>  groups: only identifiers with a match",
  "      --format <FORMAT>     text or json",
  "      --max-depth <N>       levels below a directory",
  "      --ext <EXT>           extension of files in directories (repeatable)",
  "      --include-hidden      look at hidden files",
  "      --follow-links        follow symbolic links",
  "      --meta-key <KEY>      key holding group metadata",
  "  -v, --verbose             enable verbose output",
  "  -q, --quiet               suppress non-error output",
  "  -h, --help                print help",
  "  -V, --version             print version"])

def version : String := "settings 0.1.0\n"

/-- What is said about a faulty command line. -/
def complaint : UsageFault → String
  | .helpRequested | .versionRequested | .nothingGiven => ""
  | .commandMissing => "error: a command is required\n\n"
  | .unknownCommand => "error: unrecognized command\n\n"
  | .unknownOption => "error: unexpected argument\n\n"
  | .conflict => "error: an argument cannot be used with another one, or multiple times\n\n"
  | .badValue => "error: a value is missing or not among the possible ones\n\n"
  | .badNumber => "error: invalid number\n\n"
  | .unwantedValue => "error: a value was given where none is taken\n\n"
  | .argumentMissing => "error: a required argument was not provided\n\n"

/-- The line of a note in the log. -/
def logLine (note : Note) : String :=
  match note.urgency with
  | .warning => "WARN " ++ note.text
  | .error => "ERROR " ++ note.text

/-- Prints what comes of a command. -/
def report (outcome : Outcome) : IO UInt32 := do
  for note in outcome.log do IO.eprintln (logLine note)
  IO.print outcome.output
  if let some e := outcome.failure then IO.eprintln ("Error: " ++ e.message)
  return outcome.status.toUInt32

/-- Reads a command line and carries out its command. -/
def run (arguments : List String) : IO UInt32 := do
  match Invocation.parse arguments with
  | .error .versionRequested => IO.print version; return 0
  | .error .helpRequested => IO.print usage; return 0
  | .error fault => IO.eprint (complaint fault ++ usage); return fault.status.toUInt32
  | .ok invocation =>
    try
      report (invocation.run (← filesOf invocation.command))
    catch e =>
      IO.eprintln ("Error: " ++ e.toString)
      return 1

end Settings.Program

def main (arguments : List String) : IO UInt32 := Settings.Program.run arguments
