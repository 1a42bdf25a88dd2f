import Settings.Command.Basic
/-!
# Command lines

    settings [switch…] get    --path PATH [option…] FILE…
    settings [switch…] nodes  --filter FILTER [option…] FILE…
    settings [switch…] groups [option…] FILE…

A word that begins with a hyphen names options: a long name behind two hyphens, or letters behind
one. The value of an option is attached to it, with an equals sign or, behind a letter, without one;
or it is the next word, unless that begins with a hyphen. Behind two hyphens alone every word is a
file.

A value is looked at when the next option or file is reached, so faults of the words in between are
found first.
-/

namespace Settings

/-- Why a command line does not give a command. -/
inductive UsageFault
  | helpRequested
  | versionRequested
  | nothingGiven
  | commandMissing
  | unknownCommand
  | unknownOption
  /-- What may be given once is given again, or what excludes something is given with it. -/
  | conflict
  /-- A value is missing, or it is not one of those that there are. -/
  | badValue
  | badNumber
  | unwantedValue
  | argumentMissing
  deriving DecidableEq, Repr

/-- The status that a program ends with. Asking for help or for the version is no failure. -/
def UsageFault.status : UsageFault → Nat
  | helpRequested | versionRequested => 0
  | _ => 2

/-! ## Options -/

/-- The commands by name. -/
inductive Verb
  | get
  | nodes
  | groups
  deriving DecidableEq, Repr

def Verb.ofName? : String → Option Verb
  | "get" => some get
  | "nodes" => some nodes
  | "groups" => some groups
  | _ => none

/-- Options without a value. -/
inductive Switch
  | verbose
  | quiet
  | help
  | version
  | followLinks
  | includeHidden
  deriving DecidableEq, Repr

/-- Options with a value. -/
inductive Key
  | path
  | type
  | assignment
  | filter
  | namePattern
  | format
  | maxDepth
  | extension
  | metaKey
  deriving DecidableEq, Repr

/-- An option. -/
inductive Parameter
  | switch (s : Switch)
  | key (k : Key)
  deriving DecidableEq, Repr

/-- Whether an option may be given with a command, or before it. -/
def Parameter.isAllowed (verb : Option Verb) : Parameter → Bool
  | switch .verbose | switch .quiet | switch .help => true
  | switch .version => verb.isNone
  | key .path | key .type | key .assignment => verb == some .get
  | key .filter => verb == some .nodes
  | key .namePattern => verb == some .groups
  | _ => verb.isSome

/-- The option of a long name. -/
def Parameter.ofLong? : String → Option Parameter
  | "verbose" => some (.switch .verbose)
  | "quiet" => some (.switch .quiet)
  | "help" => some (.switch .help)
  | "version" => some (.switch .version)
  | "follow-links" => some (.switch .followLinks)
  | "include-hidden" => some (.switch .includeHidden)
  | "path" | "query" | "key" => some (.key .path)
  | "type" => some (.key .type)
  | "set" => some (.key .assignment)
  | "filter" => some (.key .filter)
  | "name-regex" => some (.key .namePattern)
  | "format" => some (.key .format)
  | "max-depth" => some (.key .maxDepth)
  | "ext" => some (.key .extension)
  | "meta-key" => some (.key .metaKey)
  | _ => none

/-- The option of a letter. -/
def Parameter.ofLetter? : Char → Option Parameter
  | 'v' => some (.switch .verbose)
  | 'q' => some (.switch .quiet)
  | 'h' => some (.switch .help)
  | 'V' => some (.switch .version)
  | 'p' => some (.key .path)
  | 't' => some (.key .type)
  | 'f' => some (.key .filter)
  | _ => none

/-! ## What is given -/

/-- The options and files that have been given. -/
structure Given where
  verbose : Bool := false
  quiet : Bool := false
  followLinks : Bool := false
  includeHidden : Bool := false
  path : Option String := none
  type : Option ValueType := none
  assignments : List String := []
  filter : Option String := none
  namePattern : Option String := none
  format : Option Format := none
  maxDepth : Option Nat := none
  extensions : List String := []
  metaKey : Option String := none
  files : List String := []
  deriving Repr

/-- A value of a fixed choice. -/
def readChoice {α : Type} (choices : List (String × α)) (text : String) : Except UsageFault α :=
  match choices.lookup text with
  | some a => .ok a
  | none => .error .badValue

def readType : String → Except UsageFault ValueType :=
  readChoice [("string", .string), ("int", .int), ("float", .float), ("bool", .bool)]

def readFormat : String → Except UsageFault Format := readChoice [("text", .text), ("json", .json)]

def readDepth (text : String) : Except UsageFault Nat :=
  match Number.readCount? text.toList with
  | some n => .ok n
  | none => .error .badNumber

/-- The value of what may be given only once. -/
def once {α : Type} (old : Option α) (value : Except UsageFault α) :
    Except UsageFault (Option α) :=
  if old.isSome then .error .conflict else value.map some

/-- A switch that is off so far. -/
def switchOn (old : Bool) : Except UsageFault Bool := if old then .error .conflict else .ok true

namespace Given

/-- Adds a switch. -/
def turnOn (g : Given) : Switch → Except UsageFault Given
  | .verbose => (switchOn g.verbose).map fun on => { g with verbose := on }
  | .quiet => (switchOn g.quiet).map fun on => { g with quiet := on }
  | .followLinks => (switchOn g.followLinks).map fun on => { g with followLinks := on }
  | .includeHidden => (switchOn g.includeHidden).map fun on => { g with includeHidden := on }
  | .help => .error .helpRequested
  | .version => .error .versionRequested

/-- Adds a value. -/
def give (g : Given) (key : Key) (text : String) : Except UsageFault Given :=
  match key with
  | .path => (once g.path (.ok text)).map fun path => { g with path }
  | .type => (once g.type (readType text)).map fun type => { g with type }
  | .assignment => .ok { g with assignments := g.assignments ++ [text] }
  | .filter => (once g.filter (.ok text)).map fun filter => { g with filter }
  | .namePattern => (once g.namePattern (.ok text)).map fun namePattern => { g with namePattern }
  | .format => (once g.format (readFormat text)).map fun format => { g with format }
  | .maxDepth => (once g.maxDepth (readDepth text)).map fun maxDepth => { g with maxDepth }
  | .extension => .ok { g with extensions := g.extensions ++ [text] }
  | .metaKey => (once g.metaKey (.ok text)).map fun metaKey => { g with metaKey }

/-- Adds files, none of which may be the empty text. -/
def giveFiles (g : Given) (paths : List String) : Except UsageFault Given :=
  if paths.contains "" then .error .badValue else .ok { g with files := g.files ++ paths }

end Given

/-! ## Reading words -/

/-- What has been read but not yet looked at. -/
inductive Pending
  | nothing
  | valueOf (key : Key)
  | value (key : Key) (text : String)
  | files (paths : List String)
  deriving Repr

/-- The words of a command that have been read. -/
structure WordsRead where
  given : Given := {}
  pending : Pending := .nothing
  deriving Repr

namespace WordsRead

/-- Looks at what is pending. -/
def settle (r : WordsRead) : Except UsageFault Given :=
  match r.pending with
  | .nothing => .ok r.given
  | .valueOf _ => .error .badValue
  | .value key text => r.given.give key text
  | .files paths => r.given.giveFiles paths

/-- Reads an option whose value is attached to it, if it has one. -/
def takeParameter (r : WordsRead) (p : Parameter) (value : Option String) :
    Except UsageFault WordsRead :=
  match p, value with
  | .switch _, some _ => .error .unwantedValue
  | .switch s, none => do return { given := ← (← r.settle).turnOn s }
  | .key k, some text => do return { given := ← (← r.settle).give k text }
  | .key k, none => do return { given := ← r.settle, pending := .valueOf k }

/-- Reads the letters behind a hyphen. A letter whose option takes a value has it behind it, up to
the end of the word. -/
def takeLetters (verb : Option Verb) (r : WordsRead) : List Char → Except UsageFault WordsRead
  | [] => .ok r
  | c :: rest =>
    match (Parameter.ofLetter? c).filter (·.isAllowed verb) with
    | none => .error .unknownOption
    | some (.switch s) => do takeLetters verb (← r.takeParameter (.switch s) none) rest
    | some (.key k) =>
      match rest with
      | [] => r.takeParameter (.key k) none
      | '=' :: value | value => r.takeParameter (.key k) (some (String.ofList value))

/-- Reads what is behind two hyphens: a long name, and a value behind an equals sign. -/
def takeLong (verb : Option Verb) (r : WordsRead) (word : List Char) :
    Except UsageFault WordsRead :=
  let (name, value) := match Text.cutFirst '=' word with
    | some (name, value) => (name, some (String.ofList value))
    | none => (word, none)
  match (Parameter.ofLong? (String.ofList name)).filter (·.isAllowed verb) with
  | none => .error .unknownOption
  | some p => r.takeParameter p value

/-- Reads a word that is no option: the value that an option is waiting for, or a file. -/
def takeWord (r : WordsRead) (word : String) : Except UsageFault WordsRead :=
  match r.pending with
  | .valueOf key => .ok { r with pending := .value key word }
  | .files paths => .ok { r with pending := .files (paths ++ [word]) }
  | _ => do return { given := ← r.settle, pending := .files [word] }

/-- Reads a word behind two hyphens alone, which is a file. -/
def takeFile (r : WordsRead) (word : String) : Except UsageFault WordsRead :=
  match r.pending with
  | .files paths => .ok { r with pending := .files (paths ++ [word]) }
  | _ => do return { given := ← r.settle, pending := .files [word] }

end WordsRead

/-- Reads the words of a command. -/
def readWords (verb : Verb) : WordsRead → List String → Except UsageFault Given
  | r, [] => r.settle
  | r, word :: rest => do
    match word.toList with
    | ['-', '-'] => (← rest.foldlM WordsRead.takeFile r).settle
    | '-' :: '-' :: long => readWords verb (← r.takeLong (some verb) long) rest
    | '-' :: c :: letters => readWords verb (← r.takeLetters (some verb) (c :: letters)) rest
    | _ => readWords verb (← r.takeWord word) rest

/-! ## Commands -/

/-- A command, and whether its warnings are to be left out. -/
structure Invocation where
  command : Command
  quiet : Bool
  deriving Repr

namespace Given

/-- Whether switches are given that exclude each other. -/
def isContradictory (g : Given) : Bool := g.verbose && g.quiet

/-- The files, of which there has to be at least one. -/
def requireFiles (g : Given) : Except UsageFault Unit :=
  if g.files.isEmpty then .error .argumentMissing else .ok ()

/-- The question of a command. -/
def question (g : Given) : Verb → Except UsageFault Question
  | .get =>
    match g.path with
    | some path => .ok (.value path g.type g.assignments)
    | none => .error .argumentMissing
  | .nodes =>
    match g.filter with
    | some filter => .ok (.nodes filter)
    | none => .error .argumentMissing
  | .groups => .ok (.groups g.namePattern)

/-- An extension as it is compared: without points before it, and in lowercase. -/
def plainExtension (text : String) : String :=
  Text.lowercase (String.ofList (text.toList.dropWhile (· = '.')))

/-- The command that is given. -/
def command (g : Given) (verb : Verb) : Except UsageFault Command := do
  if g.isContradictory then .error .conflict
  g.requireFiles
  let resolver : Resolver := { maxDepth := g.maxDepth, includeHidden := g.includeHidden }
  return {
    question := ← g.question verb
    paths := g.files
    resolver :=
      if g.extensions.isEmpty then resolver
      else { resolver with extensions := g.extensions.map plainExtension }
    loader := { metaKey := g.metaKey.getD "_meta" }
    format := g.format.getD .text }

end Given

/-- Reads the words behind `help`, which have to name a command. -/
def readHelp : List String → UsageFault
  | [] => .helpRequested
  | [word] =>
    if word = "help" || (Verb.ofName? word).isSome then .helpRequested else .unknownCommand
  | _ => .unknownCommand

/-- What a command line without a command lacks. -/
def missingCommand (g : Given) : UsageFault :=
  if g.verbose || g.quiet then .commandMissing else .nothingGiven

/-- Reads a command line, of which some switches have been read. -/
def readCommandLine : WordsRead → List String → Except UsageFault Invocation
  | r, [] => .error (missingCommand r.given)
  | r, word :: rest => do
    if word = "help" then .error (readHelp rest)
    else
      match Verb.ofName? word with
      | some verb =>
        let given ← readWords verb {} rest
        let command ← given.command verb
        if r.given.isContradictory then .error .conflict
        else
          let quiet := (r.given.quiet || given.quiet) && !(r.given.verbose || given.verbose)
          return { command, quiet }
      | none =>
        match word.toList with
        | ['-', '-'] =>
          match rest with
          | [] => .error (missingCommand r.given)
          | word :: _ =>
            if word = "help" || (Verb.ofName? word).isSome then .error .unknownOption
            else .error .unknownCommand
        | '-' :: '-' :: long => readCommandLine (← r.takeLong none long) rest
        | '-' :: c :: letters => readCommandLine (← r.takeLetters none (c :: letters)) rest
        | _ => .error .unknownCommand

/-- Reads a command line. -/
def Invocation.parse (arguments : List String) : Except UsageFault Invocation :=
  readCommandLine {} arguments

end Settings
