import Settings.Command.Arguments
import Settings.Command.Printing
import Settings.Pattern.Reader
/-!
# Carrying out commands

A command asks its files one after the other, up to the first error. It prints only when all of them
have been asked, so an error leaves no output behind.
-/

namespace Settings

/-- How urgent a message is. -/
inductive Urgency
  | warning
  | error
  deriving DecidableEq, Repr

/-- A message for the log. -/
structure Note where
  urgency : Urgency
  text : String
  deriving DecidableEq, Repr

/-- What a command does: what it prints, what it says in the log, the status that it ends with, and
the error that it ends with if that is a grave one. -/
structure Outcome where
  status : Nat := 0
  output : String := ""
  log : List Note := []
  failure : Option Error := none
  deriving Repr

namespace Outcome

/-- The status of a command that found everything. -/
def found : Nat := 0

/-- The status of a command that missed something, or that ended with a grave error. -/
def missed : Nat := 1

/-- The status of a command that could not be carried out as it was given. -/
def refused : Nat := 2

/-- What an error makes of a command. Errors of the request are logged; graver ones are passed on.
-/
def ofError (log : List Note) (e : Error) : Outcome :=
  if e.severity ≤ .medium then { status := refused, log := log ++ [⟨.error, e.message⟩] }
  else { status := missed, log, failure := some e }

/-- Leaves out warnings. -/
def quiet (o : Outcome) : Outcome := { o with log := o.log.filter (·.urgency = .error) }

end Outcome

/-! ## Asking -/

/-- Asks files one after the other. Gives the answers before the first error, and that error. -/
def askEach {α : Type} (ask : String → Except Error α) :
    List String → List (String × α) × Option Error
  | [] => ([], none)
  | file :: rest =>
    match ask file with
    | .error e => ([], some e)
    | .ok answer =>
      let (answers, failure) := askEach ask rest
      ((file, answer) :: answers, failure)

/-- Reads an assignment: an address, trimmed and not empty, and the text behind the first equals
sign. -/
def readAssignment (text : String) : Except Error (String × Scalar) :=
  match Text.cutFirst '=' text.toList with
  | some (path, value) =>
    let path := Text.trimmed (String.ofList path)
    if path.isEmpty then .error (.invalidPath text "expected PATH=VALUE")
    else .ok (path, ⟨String.ofList value⟩)
  | none => .error (.invalidPath text "expected PATH=VALUE")

/-- Carries out assignments in order. -/
def Document.assignAll (d : Document) : List (String × Scalar) → Except Error Document
  | [] => .ok d
  | (path, value) :: rest =>
    match d.setValue path value with
    | (.error e, _) => .error e
    | (.ok (), d) => d.assignAll rest

/-- Asks a document for the value at an address, after assignments. -/
def Document.askValue (d : Document) (path : String) (type : Option ValueType)
    (assignments : List (String × Scalar)) : Except Error (Except Miss Json) := do
  let d ← d.assignAll assignments
  match (d.query path).1 with
  | .ok found => (found.rendered type).map .ok
  | .error miss => .ok (.error miss)

/-- The warning about a file in which an address leads nowhere. -/
def missNote (path file : String) (miss : Miss) : Note :=
  ⟨.warning, file ++ ": " ++ path ++ " (" ++ miss.message ++ ")"⟩

namespace Command

/-- Asks files for the value at an address. Answers are kept under the names of the files as they
are printed, which are the names themselves, since these are texts. -/
def askValues (c : Command) (files : Files) (path : String) (type : Option ValueType)
    (assignments : List (String × Scalar)) (names : List String) : Outcome :=
  let (answers, failure) := askEach
    (fun file => do (← c.loader.loadFile files file).askValue path type assignments) names
  let log := answers.filterMap fun (file, answer) =>
    match answer with
    | .ok _ => none
    | .error miss => some (missNote path file miss)
  let values := answers.filterMap fun (file, answer) =>
    match answer with
    | .ok value => some (file, value)
    | .error _ => none
  match failure with
  | some e => .ofError log e
  | none =>
    { status := if log.isEmpty then Outcome.found else Outcome.missed
      output := if values.isEmpty then "" else printAnswers c.format names.length values
      log }

/-- Carries out the command for the value at an address. -/
def runValue (c : Command) (files : Files) (path : String) (type : Option ValueType)
    (assignments : List String) : Outcome :=
  match c.resolver.resolve files c.paths with
  | .error e => .ofError [] e
  | .ok [] => { status := Outcome.missed, log := [⟨.warning, "No files found to process"⟩] }
  | .ok names =>
    match assignments.mapM readAssignment with
    | .error e => .ofError [] e
    | .ok assignments => c.askValues files path type assignments names

/-- Asks files for the labels of some of their top-level groups. -/
def askLabels (c : Command) (files : Files) (select : Document → List (Group × Nat))
    (names : List String) : List (String × List String) × Option Error :=
  askEach (fun file => (c.loader.loadFile files file).map fun d => d.labels (select d)) names

/-- Carries out the command for the groups that a filter selects. Files without such groups are left
out. Like values, labels are kept under the names of their files, here and for all groups. -/
def runNodes (c : Command) (files : Files) (filter : String) : Outcome :=
  match c.resolver.resolve files c.paths with
  | .error e => .ofError [] e
  | .ok names =>
    match c.askLabels files (·.nodesAt filter) names with
    | (_, some e) => .ofError [] e
    | (answers, none) =>
      let found := answers.filter fun (_, labels) => !labels.isEmpty
      if found.isEmpty then { status := Outcome.missed }
      else { output := printLabels c.format names.length found }

/-- The top-level groups whose identifiers have a match of a pattern, or all of them. -/
def selectNamed (pattern : Option Pattern) (d : Document) : List (Group × Nat) :=
  d.groups.zipIdx.filter fun (g, _) => pattern.all (·.matchesIn g.identifier)

/-- Carries out the command for all groups. -/
def runGroups (c : Command) (files : Files) (namePattern : Option String) : Outcome :=
  match namePattern.mapM Pattern.parse with
  | .error _ => .ofError [] .badPattern
  | .ok pattern =>
    match c.resolver.resolve files c.paths with
    | .error e => .ofError [] e
    | .ok names =>
      match c.askLabels files (selectNamed pattern) names with
      | (_, some e) => .ofError [] e
      | (answers, none) =>
        { output := printLabels c.format names.length answers }

/-- Carries out a command. -/
def run (c : Command) (files : Files) : Outcome :=
  match c.question with
  | .value path type assignments => c.runValue files path type assignments
  | .nodes filter => c.runNodes files filter
  | .groups namePattern => c.runGroups files namePattern

end Command

/-- Carries out what a command line asks for. -/
def Invocation.run (i : Invocation) (files : Files) : Outcome :=
  let outcome := i.command.run files
  if i.quiet then outcome.quiet else outcome

end Settings
