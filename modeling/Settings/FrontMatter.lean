import Settings.Number.Decimal
import Settings.Sorted
import Settings.Text.Blank
import Settings.Text.Split
import Settings.Yaml.Node
import Settings.Yaml.Value
/-!
# Front matter

A text may open with data between two lines of three dashes. The data are YAML in the loose dialect:
only `~`, `null` and nothing at all are null, only `true` and `false` are truth values, and tags
that are not standard make a string of a scalar. Mappings come out sorted by the text of their keys.
-/

namespace Settings.FrontMatter

/-- Whether a line is three dashes, with blanks behind them at most. -/
def isFence (line : List Char) : Bool := Text.trimRight line == ['-', '-', '-']

/-- The lines before the first fence, if there is one. -/
def untilFence : List (List Char) → Option (List (List Char))
  | [] => none
  | line :: rest => if isFence line then some [] else (untilFence rest).map (line :: ·)

/-- The text between the first line of a text, if it is a fence, and the next fence. Blanks around
it do not count. -/
def fencedText? (s : List Char) : Option (List Char) :=
  match Text.lines s with
  | [] => none
  | first :: rest =>
    if isFence first then
      (untilFence rest).map fun inside => Text.trim (List.intercalate ['\n'] inside)
    else none

/-! ## Data -/

/-- What front matter says. A floating-point number keeps the text that spells it. -/
inductive Datum
  | null
  | bool (b : Bool)
  | int (n : Int)
  | real (text : String)
  | string (s : String)
  | sequence (items : List Datum)
  | mapping (entries : List (Datum × Datum))
  deriving Repr, Inhabited

namespace Datum

mutual

/-- Whether two data are the same; the order of entries counts, and so does the spelling of a
number. -/
def same : Datum → Datum → Bool
  | null, null => true
  | bool a, bool b => a == b
  | int a, int b => a == b
  | real a, real b => a == b
  | string a, string b => a == b
  | sequence as, sequence bs => sameItems as bs
  | mapping as, mapping bs => sameEntries as bs
  | _, _ => false

def sameItems : List Datum → List Datum → Bool
  | [], [] => true
  | a :: as, b :: bs => same a b && sameItems as bs
  | _, _ => false

def sameEntries : List (Datum × Datum) → List (Datum × Datum) → Bool
  | [], [] => true
  | (k, v) :: rest, (k', v') :: rest' => same k k' && same v v' && sameEntries rest rest'
  | _, _ => false

end

/-- Whether a text spells a floating-point number. Apart from a few words it has to hold a digit. -/
def spellsReal (s : String) : Bool :=
  [".inf", ".Inf", ".INF", "+.inf", "+.Inf", "+.INF", "-.inf", "-.Inf", "-.INF", ".nan", "NaN",
    ".NAN"].contains s ||
    (s.toList.any Char.isDigit && (Number.readBinary64? s.toList).isSome)

/-- An integer of sixty-four bits in a base other than ten, with a sign behind the mark of the base.
-/
def basedInt? (s : List Char) : Option Int :=
  let spelled := match s with
    | '0' :: 'x' :: digits => Number.readSigned? 16 digits
    | '0' :: 'o' :: digits => Number.readSigned? 8 digits
    | '+' :: digits => Number.readSigned? 10 digits
    | _ => none
  spelled.filter fun n => Number.FitsSigned n

/-- What a plain scalar without a tag means. -/
def ofPlain (s : String) : Datum :=
  match basedInt? s.toList with
  | some n => int n
  | none =>
    if s.isEmpty || s = "~" || s = "null" then null
    else if s = "true" then bool true
    else if s = "false" then bool false
    else
      match Number.readSigned64? s.toList with
      | some n => int n
      | none => if spellsReal s then real s else string s

/-- What a plain scalar means under a tag; nothing if it does not fit a standard one. -/
def ofTagged (tag s : String) : Option Datum :=
  if tag = "tag:yaml.org,2002:bool" then
    if s = "true" then some (bool true) else if s = "false" then some (bool false) else none
  else if tag = "tag:yaml.org,2002:int" then (Number.readSigned64? s.toList).map int
  else if tag = "tag:yaml.org,2002:float" then if spellsReal s then some (real s) else none
  else if tag = "tag:yaml.org,2002:null" then if s = "~" || s = "null" then some null else none
  else some (string s)

/-- What a scalar means. -/
def ofScalar (tag : Option String) (s : String) (plain : Bool) : Option Datum :=
  if !plain then some (string s)
  else match tag with
    | some t => ofTagged t s
    | none => some (ofPlain s)

/-- Makes the entries of a mapping out of keys and values in turn. Nothing cannot be a key: the
datum after it is the key instead. A key may stand once. -/
def pairUp (key : Option Datum) (entries : List (Datum × Datum)) :
    List (Option Datum) → Except Yaml.Fault (List (Datum × Datum))
  | [] => .ok entries.reverse
  | d :: rest =>
    match key with
    | none => pairUp d entries rest
    | some k =>
      if entries.any fun (known, _) => known.same k then .error .duplicateKey
      else pairUp none ((k, d.getD null) :: entries) rest

/-- The anchors so far, the latest first, each with the datum it stands on once that is complete. -/
structure Known where
  names : List (String × Nat) := []
  data : List (Nat × Option Datum) := []

/-- Gives an anchor a number of its own. -/
def Known.announce (k : Known) : Option String → Option Nat × Known
  | none => (none, k)
  | some name =>
    let number := k.names.length
    (some number, { k with names := (name, number) :: k.names })

/-- Notes the datum that an anchor stands on. -/
def Known.complete (k : Known) (number : Option Nat) (d : Option Datum) : Known :=
  match number with
  | none => k
  | some n => { k with data := (n, d) :: k.data }

open Yaml in
mutual

/-- What a node says. An alias within the node that it names says nothing. -/
def ofNode : Node → Known → Except Fault (Option Datum × Known)
  | .alias name, k =>
    match k.names.lookup name with
    | some number => .ok ((k.data.lookup number).join, k)
    | none => .error .unknownAlias
  | .scalar p text plain, k =>
    let (number, k) := k.announce p.anchor
    let d := ofScalar p.tag text plain
    .ok (d, k.complete number d)
  | .sequence p items, k => do
    let (number, k) := k.announce p.anchor
    let (items, k) ← ofItems items k
    let d := some (sequence (items.map (·.getD null)))
    .ok (d, k.complete number d)
  | .mapping p entries, k => do
    let (number, k) := k.announce p.anchor
    let (parts, k) ← ofEntries entries k
    let d := some (mapping (← pairUp none [] parts))
    .ok (d, k.complete number d)

def ofItems : List Node → Known → Except Fault (List (Option Datum) × Known)
  | [], k => .ok ([], k)
  | item :: rest, k => do
    let (d, k) ← ofNode item k
    let (ds, k) ← ofItems rest k
    .ok (d :: ds, k)

def ofEntries : List (Node × Node) → Known → Except Fault (List (Option Datum) × Known)
  | [], k => .ok ([], k)
  | (key, value) :: rest, k => do
    let (key, k) ← ofNode key k
    let (value, k) ← ofNode value k
    let (ds, k) ← ofEntries rest k
    .ok (key :: value :: ds, k)

end

/-! ## Values -/

/-- The text of a datum as a key. Sequences and mappings have none. -/
def keyText? : Datum → Option String
  | null => some "null"
  | bool b => some (if b then "true" else "false")
  | int n => some (Number.intText n)
  | real text => some text
  | string s => some s
  | _ => none

/-- The number that a spelling of a floating-point number stands for. A word stands for zero, and so
does a number out of range. -/
def realValue (text : String) : Number.Binary64 :=
  ((Number.readBinary64? text.toList).filter (·.isFinite)).getD (.zero false)

mutual

/-- The value of a datum. Entries whose keys have no text are dropped, and the others are sorted. -/
def toValue : Datum → Yaml.Value
  | null => .null
  | bool b => .bool b
  | int n => .int n
  | real text => .float (realValue text)
  | string s => .string s
  | sequence items => .sequence (itemValues items)
  | mapping entries =>
    .mapping ((Sorted.ofList (entryValues entries)).map fun (key, value) => (.string key, value))

def itemValues : List Datum → List Yaml.Value
  | [] => []
  | item :: rest => item.toValue :: itemValues rest

def entryValues : List (Datum × Datum) → List (String × Yaml.Value)
  | [] => []
  | (key, value) :: rest =>
    match key.keyText? with
    | some text => (text, value.toValue) :: entryValues rest
    | none => entryValues rest

end

end Datum

/-- Reads the data of a text between fences. -/
def readData (s : List Char) : Except Yaml.Fault Yaml.Value := do
  match ← Yaml.firstNode .loose s with
  | none => .ok .null
  | some node =>
    let (d, _) ← Datum.ofNode node {}
    .ok ((d.getD .null).toValue)

/-- The data that a text opens with. Without a fenced part, and where that part is no YAML, they are
null. -/
def data (s : List Char) : Yaml.Value :=
  match fencedText? s with
  | none => .null
  | some inside =>
    if inside.isEmpty then .null
    else match readData inside with
      | .ok value => value
      | .error _ => .null

end Settings.FrontMatter
