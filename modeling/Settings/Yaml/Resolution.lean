import Settings.Number.Decimal
import Settings.Yaml.Cursor
import Settings.Yaml.Value
/-!
# What scalars mean

The resolution of scalars in the strict dialect. A plain scalar is null, a truth value or a number
if it is spelled like one, and a string otherwise; a quoted scalar is a string. A tag of the YAML
repository overrides this.
-/

namespace Settings.Yaml

/-- Whether a plain scalar spells null. -/
def spellsNull (s : String) : Bool :=
  s.isEmpty || s = "~" || s = "null" || s = "Null" || s = "NULL"

/-- The truth value that a scalar spells. -/
def spelledBool? (s : String) : Option Bool :=
  if s = "true" || s = "True" || s = "TRUE" then some true
  else if s = "false" || s = "False" || s = "FALSE" then some false
  else none

/-- Whether decimal digits begin with a zero that says nothing, which makes them a string. -/
def hasIdleZero (s : List Char) : Bool :=
  let digits := match s with
    | '+' :: rest | '-' :: rest => rest
    | _ => s
  match digits with
  | '0' :: c :: rest => (c :: rest).all Char.isDigit
  | _ => false

/-- The integer that digits behind `0x`, `0o` or `0b` spell. -/
def spelledInBase? : List Char → Option Nat
  | '0' :: 'x' :: digits => Number.readDigits? 16 digits
  | '0' :: 'o' :: digits => Number.readDigits? 8 digits
  | '0' :: 'b' :: digits => Number.readDigits? 2 digits
  | _ => none

/-- The integer that a scalar spells, of whatever size. -/
def spelledInt? (s : List Char) : Option Int :=
  let (negative, body) := match s with
    | '+' :: rest => (false, rest)
    | '-' :: rest => (true, rest)
    | _ => (false, s)
  let magnitude := match spelledInBase? body with
    | some n => some n
    | none => if hasIdleZero s then none else Number.readDigits? 10 body
  magnitude.map fun n => if negative then -Int.ofNat n else Int.ofNat n

/-- The floating-point number that a scalar spells. Words count only behind a point, and a decimal
has to be in range. -/
def spelledFloat? (s : List Char) : Option Number.Binary64 :=
  let (sign, body) := match s with
    | '+' :: rest => (some '+', rest)
    | '-' :: rest => (some '-', rest)
    | _ => (none, s)
  let word := String.ofList body
  if word = ".inf" || word = ".Inf" || word = ".INF" then some (.infinite (sign = some '-'))
  else if sign.isNone && (word = ".nan" || word = ".NaN" || word = ".NAN") then some .notANumber
  else if body.head?.any fun c => c == '+' || c == '-' then none
  else (Number.readBinary64? s).filter fun x => x.isFinite

/-- Whether an integer fits in sixty-four bits, with or without a sign. -/
def fitsWord (n : Int) : Bool := -0x8000000000000000 ≤ n && n < 0x10000000000000000

/-- Whether an integer fits in 128 bits, with or without a sign. -/
def fitsDoubleWord (n : Int) : Bool :=
  -0x80000000000000000000000000000000 ≤ n && n < 0x100000000000000000000000000000000

/-- What an integer that a scalar spells means. Up to 64 bits it is that integer; up to 128 bits it
is refused; a greater one is not taken for an integer. -/
def resolveInt? (s : List Char) : Option (Except Fault Value) :=
  match spelledInt? s with
  | some n =>
    if fitsWord n then some (.ok (.int n))
    else if fitsDoubleWord n then some (.error .badScalar)
    else none
  | none => none

/-- What a plain scalar means. -/
def resolvePlain (s : String) : Except Fault Value :=
  if spellsNull s then .ok .null
  else
    match spelledBool? s with
    | some b => .ok (.bool b)
    | none =>
      match resolveInt? s.toList with
      | some result => result
      | none =>
        match if hasIdleZero s.toList then none else spelledFloat? s.toList with
        | some x => .ok (.float x)
        | none => .ok (.string s)

/-- A tag of the YAML repository. -/
def coreTag (name : String) : String := "tag:yaml.org,2002:" ++ name

/-- What the scalar means under a tag that is not local to the document. -/
def resolveTagged (tag s : String) : Except Fault Value :=
  if tag = coreTag "bool" then
    match spelledBool? s with
    | some b => .ok (.bool b)
    | none => .error .badScalar
  else if tag = coreTag "int" then (resolveInt? s.toList).getD (.error .badScalar)
  else if tag = coreTag "float" then
    match spelledFloat? s.toList with
    | some x => .ok (.float x)
    | none => .error .badScalar
  else if tag = coreTag "null" then
    if spellsNull s && !s.isEmpty then .ok .null else .error .badScalar
  else .ok (.string s)

/-- The name of a local tag. The exclamation mark alone is none. -/
def localTag? (tag : Option String) : Option String :=
  match tag.map String.toList with
  | some ('!' :: c :: rest) => some (String.ofList (c :: rest))
  | _ => none

/-- What a scalar with a tag means, which is local, or standard, or missing. -/
def resolveScalar (tag : Option String) (s : String) (plain : Bool) : Except Fault Value :=
  let untagged : Except Fault Value := if plain then resolvePlain s else .ok (.string s)
  match localTag? tag with
  | some name => untagged.map (.tagged name)
  | none =>
    match tag with
    | some t => if t = "!" then untagged else resolveTagged t s
    | none => untagged

end Settings.Yaml
