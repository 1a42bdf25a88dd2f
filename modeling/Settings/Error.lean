import Settings.Number.Integer
/-!
# Errors

What can go wrong, with the message and the severity of each case. An address that leads nowhere is
not an error while reading: it is a `Miss`, which becomes an error only where a value was demanded.
-/

namespace Settings

/-- Why a request failed. -/
inductive Error
  | fileNotFound (path : String)
  | unreadable
  | notYaml
  | badPattern
  | invalidSource (source reason : String)
  | invalidPath (path reason : String)
  | notFound (path : String)
  | indexOutOfRange (path : String) (index length : Nat)
  | invalidMutation (path reason : String)
  | malformedFilter (expression reason : String)
  | typeConversion (source target : String)
  | pathResolution (reason : String)
  | validation (message : String)
  deriving DecidableEq, Repr

/-- How grave an error is. -/
inductive Severity
  | low
  | medium
  | high
  | critical
  deriving DecidableEq, Repr

namespace Severity

/-- The place of a severity in their order. -/
def rank : Severity → Nat
  | low => 0
  | medium => 1
  | high => 2
  | critical => 3

instance : LE Severity := ⟨fun a b => a.rank ≤ b.rank⟩

instance (a b : Severity) : Decidable (a ≤ b) := inferInstanceAs (Decidable (a.rank ≤ b.rank))

def name : Severity → String
  | low => "LOW"
  | medium => "MEDIUM"
  | high => "HIGH"
  | critical => "CRITICAL"

end Severity

namespace Error

/-- The text that reports an error. -/
def message : Error → String
  | fileNotFound path => "File not found: " ++ path
  | unreadable => "I/O error: the file cannot be read as text"
  | notYaml => "YAML error: the text is no single well-formed document"
  | badPattern => "Regex error: the pattern is malformed"
  | invalidSource source reason => "Invalid source " ++ source ++ ": " ++ reason
  | invalidPath path reason => "Invalid path: " ++ path ++ " (" ++ reason ++ ")"
  | notFound path => "Not found: " ++ path
  | indexOutOfRange path index length =>
    "Index out of range: " ++ Number.natText index ++ " (length " ++ Number.natText length ++ ")" ++
      (if path.isEmpty then "" else " at " ++ path)
  | invalidMutation path reason => "Invalid mutation at " ++ path ++ ": " ++ reason
  | malformedFilter expression reason =>
    "Malformed filter: " ++ expression ++ " (" ++ reason ++ ")"
  | typeConversion source target =>
    "Type conversion error: cannot convert " ++ source ++ " to " ++ target
  | pathResolution reason => "Path resolution error: " ++ reason
  | validation text => "Validation error: " ++ text

/-- Files that cannot be read weigh most, unusable contents come next, and unusable requests last.
-/
def severity : Error → Severity
  | fileNotFound _ | unreadable => .critical
  | invalidSource .. | notYaml | badPattern => .high
  | invalidMutation .. | invalidPath .. | typeConversion .. => .medium
  | notFound _ | indexOutOfRange .. | malformedFilter .. | pathResolution _ | validation _ => .low

/-- Whether the error only says that an address leads nowhere. -/
def isMiss : Error → Bool
  | notFound _ | indexOutOfRange .. => true
  | _ => false

end Error

/-- Why an address leads nowhere. -/
inductive Miss
  | notFound
  | indexOutOfRange (index length : Nat)
  deriving DecidableEq, Repr

namespace Miss

/-- The error that a miss becomes where a value was demanded at `path`. -/
def toError (path : String) : Miss → Error
  | notFound => .notFound path
  | indexOutOfRange index length => .indexOutOfRange path index length

def message : Miss → String
  | notFound => "not found"
  | indexOutOfRange index length =>
    "index " ++ Number.natText index ++ " out of range (length " ++ Number.natText length ++ ")"

end Miss

end Settings
