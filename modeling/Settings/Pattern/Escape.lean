import Settings.Number.Integer
import Settings.Pattern.Flags
import Settings.Text.Split
/-!
# Escapes

What a backslash introduces: a character by its code point or by a letter, a class of characters or
a condition on a place. Before a mark of ASCII it makes that mark stand for itself.
-/

namespace Settings.Pattern

/-- What an escape or a plain character stands for. A character that was given by two digits is a
byte where the flag for all of Unicode is not set. -/
inductive Member
  | char (c : Char) (byte : Bool)
  | set (s : CharSet)
  | look (condition : Look)
  deriving Repr

/-- The character of a code point. -/
def charOf? (n : Nat) : Option Char := if n.isValidChar then some (Char.ofNat n) else none

/-- The character that hexadecimal digits spell. -/
def hexChar (digits : List Char) : Except Fault Char :=
  match (Number.readDigits? 16 digits).bind charOf? with
  | some c => .ok c
  | none => .error .noCodePoint

/-- Reads a code point: so many digits, or any number of them in braces. -/
def readHex (flags : Flags) (width : Nat) (s : List Char) : Except Fault (Member × List Char) :=
  match flags.skip s with
  | '\x7b' :: rest =>
    match flags.takeWhile (· ≠ '\x7d') rest.length (flags.skip rest) with
    | (digits, _ :: rest) => (hexChar digits).map fun c => (.char c false, flags.skip rest)
    | (_, []) => .error .unfinishedEscape
  | s =>
    let (digits, rest) := flags.takeWhile (Number.digitValue? · |>.isSome) width s
    if digits.length < width then .error .badHexadecimal
    else (hexChar digits).map fun c => (.char c (width == 2), rest)

/-- The name of a property in the form in which names are compared: in lowercase, without spaces,
hyphens and low lines, and without `is` before it. -/
def propertyName (name : List Char) : String :=
  let plain (s : List Char) : List Char :=
    (s.filter fun c => c != '_' && c != '-' && c != ' ' && c.toNat < 0x80).map Char.toLower
  match plain (name.take 2), plain (name.drop 2) with
  | ['i', 's'], ['c'] => "isc"
  | ['i', 's'], rest => String.ofList rest
  | start, rest => String.ofList (start ++ rest)

/-- The characters with a property that has no value. -/
def property? (name : String) : Option CharSet :=
  if name = "ascii" then some (.range '\x00' '\x7F')
  else if ["space", "whitespace", "wspace"].contains name then some .blank
  else (Text.Category.named? name).map .category

/-- The characters whose property has a value. -/
def propertyValue? (name value : String) : Option CharSet :=
  if ["gc", "generalcategory"].contains name then (Text.Category.named? value).map .category
  else none

/-- The characters that the text between the braces of a property stands for. -/
def propertySet? (text : List Char) : Option CharSet :=
  let cut (c : Char) : Option (List Char × List Char) := Text.cutFirst c text
  match cut '!', cut ':', cut '=' with
  | some (name, '=' :: value), _, _ =>
    (propertyValue? (propertyName name) (propertyName value)).map .complement
  | _, some (name, value), _ => propertyValue? (propertyName name) (propertyName value)
  | _, _, some (name, value) => propertyValue? (propertyName name) (propertyName value)
  | _, _, _ => property? (propertyName text)

/-- Reads a property: one letter, or a name in braces. -/
def readProperty (flags : Flags) (negated : Bool) (s : List Char) :
    Except Fault (Member × List Char) := do
  let (name, rest) ←
    match flags.skip s with
    | [] | '\\' :: _ => .error .unfinishedEscape
    | '\x7b' :: rest =>
      match flags.takeWhile (· ≠ '\x7d') rest.length (flags.skip rest) with
      | (name, _ :: rest) => .ok (name, rest)
      | (_, []) => .error .unfinishedEscape
    | c :: rest => .ok ([c], flags.skip rest)
  if !flags.has .unicode then .error .notText
  else
    match propertySet? name with
    | none => .error .unknownProperty
    | some set => (flags.finish negated set).map fun set => (.set set, rest)

/-- Reads what follows the letter of a word boundary: the side of the word that is meant, in braces,
or nothing. Braces that do not begin with a letter count repetitions instead. -/
def readWordEdge (flags : Flags) (s : List Char) : Except Fault (WordEdge × List Char) :=
  match s with
  | '\x7b' :: rest =>
    let inName (c : Char) : Bool := c.isAlpha || c == '-'
    match flags.takeWhile inName rest.length (flags.skip rest) with
    | ([], []) => .error .badWordEdge
    | ([], _) => .ok (.either, s)
    | (name, '\x7d' :: rest) =>
      match String.ofList name with
      | "start" => .ok (.start, rest)
      | "end" => .ok (.finish, rest)
      | "start-half" => .ok (.startHalf, rest)
      | "end-half" => .ok (.finishHalf, rest)
      | _ => .error .badWordEdge
    | _ => .error .badWordEdge
  | s => .ok (.either, s)

/-- Reads what follows a backslash. -/
def readEscape (flags : Flags) : List Char → Except Fault (Member × List Char)
  | [] => .error .unfinishedEscape
  | c :: rest =>
    let char (c : Char) := Except.ok (Member.char c false, rest)
    let look (l : Look) := Except.ok (Member.look l, rest)
    let ofClass (negated : Bool) (set : CharSet) :=
      let meant := if negated then .complement set else set
      (flags.accept meant).map fun set => (Member.set set, rest)
    let ascii := !flags.has .unicode
    if c.isDigit then .error .backreference
    else match c with
    | 'x' => readHex flags 2 rest
    | 'u' => readHex flags 4 rest
    | 'U' => readHex flags 8 rest
    | 'p' => readProperty flags false rest
    | 'P' => readProperty flags true rest
    | 'd' => ofClass false flags.digits
    | 'D' => ofClass true flags.digits
    | 's' => ofClass false flags.blanks
    | 'S' => ofClass true flags.blanks
    | 'w' => ofClass false flags.words
    | 'W' => ofClass true flags.words
    | 'a' => char '\x07'
    | 'f' => char '\x0C'
    | 'n' => char '\n'
    | 'r' => char '\r'
    | 't' => char '\t'
    | 'v' => char '\x0B'
    | 'A' => look .textStart
    | 'z' => look .textEnd
    | 'B' => look (.word .neither ascii)
    | '<' => look (.word .start ascii)
    | '>' => look (.word .finish ascii)
    | 'b' => (readWordEdge flags rest).map fun (edge, rest) => (.look (.word edge ascii), rest)
    | _ => if c.toNat < 0x80 && !c.isAlpha then char c else .error .unknownEscape

end Settings.Pattern
