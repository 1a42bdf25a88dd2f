import Settings.Number.Integer
import Settings.Yaml.Cursor
/-!
# Tags, anchors and directives

The small languages of node properties and of the lines before a document. A tag is a handle and a
suffix; what a handle stands for is declared by a directive.
-/

namespace Settings.Yaml

/-- A tag as it is written. A verbatim tag has the empty handle. -/
structure WrittenTag where
  handle : String
  suffix : String
  deriving DecidableEq, Repr

/-- A line that declares something about the document after it. -/
inductive Directive
  | version (major minor : Nat)
  | handle (handle expansion : String)
  deriving DecidableEq, Repr

/-- Whether a character may be in a tag. Commas and brackets may be in a verbatim one only. -/
def inTag (verbatim : Bool) (c : Char) : Bool :=
  isWordChar c || ";/?:@&=+$.%!~*'()".toList.contains c ||
    (verbatim && (c == ',' || c == '[' || c == ']'))

/-- The length in bytes of the UTF-8 sequence that a byte leads. -/
def sequenceLength? (lead : Nat) : Option Nat :=
  if lead < 0x80 then some 1
  else if lead / 0x20 = 6 then some 2
  else if lead / 0x10 = 14 then some 3
  else if lead / 0x08 = 30 then some 4
  else none

/-- Reads an escaped byte: a percent sign and two hexadecimal digits. -/
def escapedByte? : List Char → Option (Nat × List Char)
  | '%' :: a :: b :: rest => (Number.readDigits? 16 [a, b]).map (·, rest)
  | _ => none

/-- Reads `n` escaped bytes that go on a sequence, of which `acc` has been read. -/
def escapedTail? : Nat → Nat → List Char → Option (Nat × List Char)
  | 0, acc, rest => some (acc, rest)
  | n + 1, acc, rest =>
    match escapedByte? rest with
    | some (byte, rest) =>
      if byte / 0x40 = 2 then escapedTail? n (acc * 0x40 + byte % 0x40) rest else none
    | none => none

/-- Reads a character that is spelled by escaped bytes. -/
def escapedChar? (s : List Char) : Option (Char × List Char) := do
  let (lead, rest) ← escapedByte? s
  let length ← sequenceLength? lead
  let start := if length = 1 then lead else lead % (1 <<< (7 - length))
  let (n, rest) ← escapedTail? (length - 1) start rest
  pure (Char.ofNat n, rest)

/-- Undoes the escapes in a tag. Every step uses up a character. -/
def unescapeTag : Nat → List Char → Except Fault (List Char)
  | 0, _ => .ok []
  | _, [] => .ok []
  | fuel + 1, c :: rest =>
    if c == '%' then
      match escapedChar? (c :: rest) with
      | some (meant, rest) => (unescapeTag fuel rest).map (meant :: ·)
      | none => .error .badTag
    else (unescapeTag fuel rest).map (c :: ·)

/-- Reads the characters of a tag. -/
def tagText (verbatim : Bool) (cur : Cursor) : Except Fault (List Char × Cursor) := do
  let (written, after) := cur.span (inTag verbatim)
  let text ← unescapeTag written.length written
  pure (text, after)

/-- Reads an exclamation mark, word characters, and the exclamation mark that makes them a handle.
-/
def tagHandle (cur : Cursor) : List Char × Cursor :=
  let (word, after) := (cur.skip 1).span isWordChar
  if after.rest.head? == some '!' then ('!' :: word ++ ['!'], after.skip 1)
  else ('!' :: word, after)

/-- Reads a tag from its exclamation mark on. -/
def readTag (d : Dialect) (flow : Bool) (cur : Cursor) : Except Fault (WrittenTag × Cursor) := do
  let (tag, after) ←
    if cur.rest.take 2 == ['!', '<'] then do
      let (text, after) ← tagText true (cur.skip 2)
      if text.isEmpty || after.rest.head? != some '>' then .error .badTag
      else .ok (⟨"", String.ofList text⟩, after.skip 1)
    else do
      let (handle, after) := tagHandle cur
      let (text, after) ← tagText false after
      if 2 ≤ handle.length && handle.getLast? == some '!' then
        if text.isEmpty then .error .badTag
        else .ok (⟨String.ofList handle, String.ofList text⟩, after)
      else
        let suffix := handle.drop 1 ++ text
        if suffix.isEmpty then .ok (⟨"", "!"⟩, after)
        else .ok (⟨"!", String.ofList suffix⟩, after)
  if d.wordEnds after.rest || (flow && after.rest.head? == some ',') then .ok (tag, after)
  else .error .badTag

/-- Reads the name of an anchor or an alias from its indicator on. -/
def readAnchor (d : Dialect) (cur : Cursor) : Except Fault (String × Cursor) :=
  let (name, after) := (cur.skip 1).span d.inAnchor
  if name.isEmpty then .error .badAnchor
  else if d.wordEnds after.rest || after.rest.head?.any d.afterAnchor then
    .ok (String.ofList name, after)
  else .error .badAnchor

/-- Reads a number of at most nine digits. -/
def versionNumber (cur : Cursor) : Except Fault (Nat × Cursor) :=
  let (digits, after) := cur.span Char.isDigit
  match Number.readDigits? 10 digits with
  | some n => if digits.length ≤ 9 then .ok (n, after) else .error .badDirective
  | none => .error .badDirective

/-- Reads a directive from its percent sign on, without the end of its line. -/
def readDirective (d : Dialect) (cur : Cursor) : Except Fault (Directive × Cursor) := do
  let (name, afterName) := (cur.skip 1).span isWordChar
  let after := (afterName.span isGap).2
  if !d.wordEnds afterName.rest then .error .badDirective
  else if String.ofList name = "YAML" then do
    let (major, after) ← versionNumber after
    if after.rest.head? != some '.' then .error .badDirective
    else do
      let (minor, after) ← versionNumber (after.skip 1)
      .ok (.version major minor, after)
  else if String.ofList name = "TAG" then do
    let marked := after.rest.head? == some '!'
    let (handle, after) := tagHandle after
    let wellFormed := marked && (handle.length == 1 || handle.getLast? == some '!')
    if !wellFormed || !after.rest.head?.any isGap then .error .badDirective
    else do
      let (expansion, after) ← tagText true (after.span isGap).2
      if expansion.isEmpty || !d.wordEnds after.rest then .error .badDirective
      else .ok (.handle (String.ofList handle) (String.ofList expansion), after)
  else .error .badDirective

end Settings.Yaml
