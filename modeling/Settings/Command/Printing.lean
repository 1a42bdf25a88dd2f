import Settings.Command.Basic
import Settings.Text.Split
/-!
# Printing

How answers look. In JSON they are printed as they are; as text, a string is itself, a list has its
items one after the other, and an object stays JSON. The answer of a single file stands alone; those
of several files stand under their names.
-/

namespace Settings

/-! ## Values -/

namespace Json

mutual

/-- A value as plain text. -/
def plain : Json → String
  | .string s => s
  | .array items => "\n".intercalate (plainAll items)
  | .object members => pretty (.object members)
  | value => atomText value

/-- The items of a list as plain text. -/
def plainAll : List Json → List String
  | [] => []
  | item :: rest => plain item :: plainAll rest

end

/-- The text of a value in a layout. -/
def text (format : Format) (value : Json) : String :=
  match format with
  | .text => plain value
  | .json => pretty value

end Json

/-! ## Groups -/

/-- The address of a top-level group: its identifier, with an offset if it is flagged as repeated.
-/
def Document.label (d : Document) (g : Group) (position : Nat) : String :=
  if g.repeated then
    let offset := (d.groups.take position).countP fun other => other.identifier = g.identifier
    g.identifier ++ "[" ++ Number.natText offset ++ "]"
  else g.identifier

/-- The labels of top-level groups, which are given with their positions. -/
def Document.labels (d : Document) (groups : List (Group × Nat)) : List String :=
  groups.map fun (g, position) => d.label g position

/-- What is printed in place of a group. -/
def Group.summary (g : Group) : Json :=
  .object
    [("children", .array (g.children.map fun child => .string child.identifier)),
     ("fields", .array (g.fields.entries.map fun field => .string field.name)),
     ("group", .string g.identifier),
     ("metadata", .object (g.metadata.entries.map fun (key, text) => (key, .string text))),
     ("repeated", .bool g.repeated)]

/-- A scalar as a value of a type, or as a string. -/
def Scalar.rendered (type : Option ValueType) (s : Scalar) : Except Error Json :=
  match type with
  | none => .ok (.string s.text)
  | some type => type.toJson s

/-- What is printed for what an address leads to. -/
def Found.rendered (type : Option ValueType) : Found → Except Error Json
  | .value (.scalar s) => s.rendered type
  | .value (.array items) => (items.mapM (Scalar.rendered type)).map .array
  | .group g => .ok g.summary

/-! ## Answers -/

/-- A text with a line break at its end. -/
def asLine (text : String) : String := text ++ "\n"

/-- The text of a file among several ones: its name, and below it the lines of its answer. -/
def keyedText (file : String) (value : Json) : String :=
  let lines := Text.lines value.plain.toList
  asLine (file ++ ":") ++ String.join (lines.map fun line => asLine ("  " ++ String.ofList line))

/-- The output for answers of several files, in the order of their names. -/
def printKeyed (format : Format) (answers : List (String × Json)) : String :=
  let sorted := Sorted.ofList answers
  match format with
  | .text => String.join (sorted.map fun (file, value) => keyedText file value)
  | .json => asLine (Json.object sorted).pretty

/-- The output for the answers of so many files, some of which may have none. -/
def printAnswers (format : Format) (files : Nat) (answers : List (String × Json)) : String :=
  if files = 1 then String.join ((answers.take 1).map fun (_, value) => asLine (value.text format))
  else printKeyed format answers

/-- The output for the labels that so many files, or some of them, have. -/
def printLabels (format : Format) (files : Nat) (labels : List (String × List String)) : String :=
  printAnswers format files (labels.map fun (file, labels) => (file, .array (labels.map .string)))

end Settings
