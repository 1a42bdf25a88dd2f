import Settings.Files.Resolver
import Settings.Loader
/-!
# Commands

A command puts one question to every file: for the value at an address, for the groups that a filter
selects, or for all groups.
-/

namespace Settings

/-- The layout of output. -/
inductive Format
  | text
  | json
  deriving DecidableEq, Repr

/-- What is asked of a file. -/
inductive Question
  /-- The value at an address, read as a type if one is given, after some assignments. -/
  | value (path : String) (type : Option ValueType) (assignments : List String)
  /-- The top-level groups that a filter selects. -/
  | nodes (filter : String)
  /-- The top-level groups whose identifiers have a match of a pattern, or all of them. -/
  | groups (namePattern : Option String)
  deriving Repr

/-- A question, the files that it is put to, and the layout of the answer. -/
structure Command where
  question : Question
  paths : List String
  resolver : Resolver := {}
  loader : Loader := {}
  format : Format := .text
  deriving Repr

end Settings
