import Settings.Number.Integer
import Settings.Number.Layout
import Settings.Text.Quoted
/-!
# JSON values

The values that commands print, and their text: on one line for atoms, or spread over lines with two
spaces for each level. The members of an object are kept in the order in which they are printed.
-/

namespace Settings

/-- A JSON value. Numbers are integers or floating-point numbers, which print differently. -/
inductive Json
  | null
  | bool (b : Bool)
  | int (n : Int)
  | float (x : Number.Binary64)
  | string (s : String)
  | array (items : List Json)
  | object (members : List (String × Json))
  deriving Repr, Inhabited

namespace Json

/-- The text of an atom, and of a list or an object without members. -/
def atomText : Json → String
  | .null => "null"
  | .bool b => if b then "true" else "false"
  | .int n => Number.intText n
  | .float x => Number.Layout.json.text x
  | .string s => Text.quoted s
  | .array _ => "[]"
  | .object _ => "\x7b\x7d"

/-- A line break, and the blanks of a level of nesting. -/
def newLine (depth : Nat) : String := "\n" ++ String.ofList (List.replicate (2 * depth) ' ')

mutual

/-- The text of a value at a level of nesting, without blanks before its first character. -/
def prettyAt (depth : Nat) : Json → String
  | .array (item :: items) =>
    "[" ++ newLine (depth + 1) ++ prettyItems (depth + 1) (item :: items) ++ newLine depth ++ "]"
  | .object (member :: members) =>
    "\x7b" ++ newLine (depth + 1) ++ prettyMembers (depth + 1) (member :: members) ++
      newLine depth ++ "\x7d"
  | value => atomText value

/-- The items of a list, one a line. -/
def prettyItems (depth : Nat) : List Json → String
  | [] => ""
  | [item] => prettyAt depth item
  | item :: rest => prettyAt depth item ++ "," ++ newLine depth ++ prettyItems depth rest

/-- The members of an object, one a line. -/
def prettyMembers (depth : Nat) : List (String × Json) → String
  | [] => ""
  | [(key, value)] => Text.quoted key ++ ": " ++ prettyAt depth value
  | (key, value) :: rest =>
    Text.quoted key ++ ": " ++ prettyAt depth value ++ "," ++ newLine depth ++
      prettyMembers depth rest

end

/-- The text of a value over several lines. -/
def pretty (value : Json) : String := prettyAt 0 value

end Json

end Settings
