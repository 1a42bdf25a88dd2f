import Settings.Group
import Settings.Text.Blank
import Settings.Text.Case
import Settings.Text.Split
/-!
# Metadata filters

A filter is a conjunction of demands on metadata, written `[key:value,key:value]`. Keys are compared
in lowercase. What stands before the first opening bracket and behind the last closing one does not
count, and the closing bracket may be missing.
-/

namespace Settings

/-- Keys in lowercase, each with the text that is demanded under it. -/
structure Filter where
  pairs : List (String × String)
  deriving DecidableEq, Repr, Inhabited

/-- What is wrong with a text that should be a filter. -/
inductive FilterFault
  | noBracket
  | noPairs
  | noColon (pair : String)
  | emptyKey
  deriving DecidableEq, Repr

def FilterFault.message : FilterFault → String
  | noBracket => "missing '['"
  | noPairs => "no key:value pairs"
  | noColon pair => "'" ++ pair ++ "' has no ':'"
  | emptyKey => "empty key"

namespace Filter

/-- Reads one demand. It is cut at its first colon. -/
def readPair (text : List Char) : Except FilterFault (String × String) :=
  match Text.cutFirst ':' text with
  | none => .error (.noColon (String.ofList (Text.trim text)))
  | some (key, value) =>
    let key := Text.lowercase (String.ofList (Text.trim key))
    if key.isEmpty then .error .emptyKey else .ok (key, String.ofList (Text.trim value))

/-- Reads a filter. The first faulty demand is reported. -/
def read (text : List Char) : Except FilterFault Filter :=
  match Text.cutFirst '[' text with
  | none => .error .noBracket
  | some (_, rest) =>
    let body := match Text.cutLast ']' rest with
      | some (inner, _) => inner
      | none => rest
    if body.all Text.isBlank then .error .noPairs
    else ((Text.pieces ',' body).mapM readPair).map Filter.mk

/-- Reads a filter from a string. -/
def parse (text : String) : Except Error Filter :=
  (read text.toList).mapError fun fault => .malformedFilter text fault.message

/-- Whether the metadata of a group meets every demand. -/
def matchesGroup (filter : Filter) (g : Group) : Bool :=
  filter.pairs.all fun (key, value) => g.metadata.find? key == some value

end Filter

end Settings
