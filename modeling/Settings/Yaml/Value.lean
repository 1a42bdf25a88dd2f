import Settings.Number.Integer
import Settings.Number.Layout
import Settings.Text.Visible
/-!
# YAML values

What a document says once its scalars are resolved and its aliases are replaced. Mappings keep the
order of their entries, and any value can be a key.
-/

namespace Settings.Yaml

/-- A value of a document. A tag that has no meaning of its own is kept around its value. -/
inductive Value
  | null
  | bool (b : Bool)
  | int (n : Int)
  | float (x : Number.Binary64)
  | string (s : String)
  | sequence (items : List Value)
  | mapping (entries : List (Value × Value))
  | tagged (tag : String) (value : Value)
  deriving Repr, Inhabited

namespace Value

/-- Drops all tags around a value. -/
def untagged : Value → Value
  | tagged _ value => untagged value
  | value => value

/-- The text of a string, tagged or not. -/
def asString? : Value → Option String
  | string s => some s
  | tagged _ value => asString? value
  | _ => none

/-- Whether a value is a mapping, tagged or not. -/
def isMapping : Value → Bool
  | mapping _ => true
  | tagged _ value => isMapping value
  | _ => false

/-- The word for the kind of a value. -/
def kind : Value → String
  | null => "null"
  | bool _ => "boolean"
  | int _ | float _ => "number"
  | string _ => "string"
  | sequence _ => "list"
  | mapping _ => "mapping"
  | tagged .. => "tagged value"

/-- The text of a number. -/
def numberText : Value → String
  | int n => Number.intText n
  | float x => Number.Layout.yaml.text x
  | _ => ""

/-- The text of a scalar or null, which is empty; other values have none. -/
def scalarText? : Value → Option String
  | string s => some s
  | int n => some (numberText (int n))
  | float x => some (numberText (float x))
  | bool b => some (if b then "true" else "false")
  | null => some ""
  | _ => none

/-! ## Equality of keys -/

mutual

/-- Whether two values are the same as keys. An integer is no floating-point number; the order of
the entries of a mapping does not count. -/
def sameKey : Value → Value → Bool
  | null, null => true
  | bool a, bool b => a == b
  | int a, int b => a == b
  | float a, float b => a.sameKey b
  | string a, string b => a == b
  | sequence as, sequence bs => sameItems as bs
  | mapping as, mapping bs => as.length == bs.length && sameEntries as bs
  | tagged s a, tagged t b => s == t && sameKey a b
  | _, _ => false

/-- Whether two lists hold the same values in the same order. -/
def sameItems : List Value → List Value → Bool
  | [], [] => true
  | a :: as, b :: bs => sameKey a b && sameItems as bs
  | _, _ => false

/-- Whether every entry of a list is in another one. -/
def sameEntries : List (Value × Value) → List (Value × Value) → Bool
  | [], _ => true
  | (key, value) :: rest, others =>
    (others.any fun (k, v) => sameKey key k && sameKey value v) && sameEntries rest others

end

/-! ## Description -/

mutual

/-- The description of a value in messages. -/
def describe : Value → String
  | null => "Null"
  | bool b => "Bool(" ++ (if b then "true" else "false") ++ ")"
  | int n => "Number(" ++ numberText (int n) ++ ")"
  | float x => "Number(" ++ numberText (float x) ++ ")"
  | string s => "String(" ++ Text.visible s ++ ")"
  | sequence items => "Sequence [" ++ ", ".intercalate (describeItems items) ++ "]"
  | mapping entries => "Mapping \x7b" ++ ", ".intercalate (describeEntries entries) ++ "\x7d"
  | tagged tag value => "TaggedValue \x7b tag: !" ++ tag ++ ", value: " ++ describe value ++ " \x7d"

def describeItems : List Value → List String
  | [] => []
  | item :: rest => describe item :: describeItems rest

/-- The entries of a mapping. Simple keys are shown without their kind. -/
def describeEntries : List (Value × Value) → List String
  | [] => []
  | (key, value) :: rest =>
    let shown := match key with
      | bool b => if b then "true" else "false"
      | int n => numberText (int n)
      | float x => numberText (float x)
      | string s => Text.visible s
      | other => describe other
    (shown ++ ": " ++ describe value) :: describeEntries rest

end

end Value

end Settings.Yaml
