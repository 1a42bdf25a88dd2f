import Settings.Yaml.ScalarText
import Settings.Yaml.Tag
/-!
# Tokens

A text is read into a row of tokens in which the structure that indentation expresses is explicit: a
block opens with a token of its own, and `blockEnd` closes it.

A key is recognised only by the colon behind it. So whatever may turn out to be a key is noted with
its place in the row of tokens, and once the colon comes the missing tokens are put there. A noted
place is good for one line and 1024 characters; where a block needs a key, losing it is a fault.
-/

namespace Settings.Yaml

/-- A unit of a text. -/
inductive Token
  | directive (directive : Directive)
  | documentStart
  | documentEnd
  | blockSequenceStart
  | blockMappingStart
  | blockEnd
  | flowSequenceStart
  | flowSequenceEnd
  | flowMappingStart
  | flowMappingEnd
  | blockEntry
  | flowEntry
  | key
  | value
  | alias (name : String)
  | anchor (name : String)
  | tag (tag : WrittenTag)
  | scalar (text : String) (plain : Bool)
  deriving DecidableEq, Repr

/-- Something that becomes a key if a colon follows. -/
structure PossibleKey where
  /-- Its place in the row of tokens. -/
  place : Nat
  /-- Whether a block needs a key here. -/
  required : Bool
  start : Cursor

/-- The state of reading: the place in the text, the tokens so far, and what the layout so far calls
for. -/
structure Scan where
  cursor : Cursor
  tokens : Array Token := #[]
  /-- The column of the innermost block, `-1` outside all blocks. -/
  indent : Int := -1
  /-- The columns of the blocks around it. -/
  outer : List Int := []
  /-- Whether a key may begin here. -/
  keyAllowed : Bool := true
  /-- The possible key of each open flow collection, the innermost first, and of the block around.
  -/
  keys : List (Option PossibleKey) := [none]
  /-- Where a colon is punctuation although a word goes on behind it. -/
  adjacentAt : Option Nat := none

namespace Scan

/-- Whether a flow collection is open. -/
def inFlow (s : Scan) : Bool := 1 < s.keys.length

def push (s : Scan) (t : Token) : Scan := { s with tokens := s.tokens.push t }

/-- Goes on by so many characters and adds a token for them. -/
def take (s : Scan) (n : Nat) (t : Token) : Scan := { s.push t with cursor := s.cursor.skip n }

/-- The innermost possible key. -/
def possibleKey (s : Scan) : Option PossibleKey := s.keys.head?.join

/-- Replaces the innermost possible key. -/
def setPossibleKey (s : Scan) (k : Option PossibleKey) : Scan :=
  { s with keys := k :: s.keys.drop 1 }

/-- Gives up the innermost possible key. -/
def dropKey (s : Scan) : Except Fault Scan :=
  match s.possibleKey with
  | some k => if k.required then .error .keyWithoutValue else .ok (s.setPossibleKey none)
  | none => .ok s

/-- Notes that what begins here may be a key. -/
def noteKey (s : Scan) : Except Fault Scan :=
  if s.keyAllowed then do
    let s ← s.dropKey
    let required := !s.inFlow && s.indent == s.cursor.column
    .ok (s.setPossibleKey (some ⟨s.tokens.size, required, s.cursor⟩))
  else .ok s

/-- Gives up the possible keys that are too far back. -/
def dropStaleKeys (s : Scan) : Except Fault Scan := do
  let keys ← s.keys.mapM fun key =>
    match key with
    | none => .ok none
    | some k =>
      if k.start.line < s.cursor.line || k.start.index + 1024 < s.cursor.index then
        if k.required then .error .keyWithoutValue else .ok none
      else .ok (some k)
  .ok { s with keys }

/-- Opens a block at a column if the column is further right than that of the innermost block. Its
token goes to the given place. -/
def openBlock (s : Scan) (column place : Nat) (t : Token) : Scan :=
  if s.inFlow || (column : Int) ≤ s.indent then s
  else
    { s with
      indent := column, outer := s.indent :: s.outer
      tokens := s.tokens.insertIdxIfInBounds place t }

/-- Closes the blocks that stand further right than a column. -/
def closeBlocks (s : Scan) (column : Int) : Scan :=
  if s.inFlow then s else go s.outer s
where
  /-- The columns are those around the innermost block. -/
  go : List Int → Scan → Scan
    | [], s => s
    | column' :: outer, s =>
      if column < s.indent then go outer { s.push .blockEnd with indent := column', outer }
      else s

/-- Leaves all blocks, as before a directive or a line that begins or ends a document. -/
def leaveBlocks (s : Scan) : Except Fault Scan := do
  let s ← (s.closeBlocks (-1)).dropKey
  .ok { s with keyAllowed := false }

/-- Goes past blanks, comments and line breaks to the next token. Outside flow collections a line
break allows a key again. While one is allowed, tabs are not blanks there, for they cannot indent.
-/
def skipToToken (d : Dialect) (s : Scan) : Scan :=
  go s.cursor.rest s.cursor.index s.cursor.line s.cursor.column s.keyAllowed false
where
  /-- The last argument says whether a comment is open. -/
  go : List Char → Nat → Nat → Nat → Bool → Bool → Scan
    | [], index, line, column, keyAllowed, _ =>
      { s with cursor := ⟨[], index, line, column⟩, keyAllowed }
    | c :: rest, index, line, column, keyAllowed, comment =>
      if d.isBreak c then go rest (index + 1) (line + 1) 0 (keyAllowed || !s.inFlow) false
      else if comment then go rest (index + 1) line (column + 1) keyAllowed true
      else if c == '#' then go rest (index + 1) line (column + 1) keyAllowed true
      else if c == ' ' || (c == '\t' && (s.inFlow || !keyAllowed)) ||
          (c == '\ufeff' && index == 0) then
        go rest (index + 1) line (column + 1) keyAllowed false
      else { s with cursor := ⟨c :: rest, index, line, column⟩, keyAllowed }

/-! ## Single tokens -/

def scanFlowStart (s : Scan) (t : Token) : Except Fault Scan := do
  let s ← s.noteKey
  .ok { s.take 1 t with keys := none :: s.keys, keyAllowed := true }

def scanFlowEnd (s : Scan) (t : Token) : Except Fault Scan := do
  let s ← s.dropKey
  let keys := if s.inFlow then s.keys.drop 1 else s.keys
  .ok { s.take 1 t with keys, keyAllowed := false, adjacentAt := some (s.cursor.index + 1) }

def scanFlowEntry (s : Scan) : Except Fault Scan := do
  let s ← s.dropKey
  .ok { s.take 1 .flowEntry with keyAllowed := true }

def scanBlockEntry (s : Scan) : Except Fault Scan :=
  if !s.inFlow && !s.keyAllowed then .error .misplacedEntry
  else do
    let s ← (s.openBlock s.cursor.column s.tokens.size .blockSequenceStart).dropKey
    .ok { s.take 1 .blockEntry with keyAllowed := true }

def scanKey (s : Scan) : Except Fault Scan :=
  if !s.inFlow && !s.keyAllowed then .error .misplacedKey
  else do
    let s ← (s.openBlock s.cursor.column s.tokens.size .blockMappingStart).dropKey
    .ok { s.take 1 .key with keyAllowed := !s.inFlow }

/-- Reads a colon. If there is a possible key, it is one now. -/
def scanValue (s : Scan) : Except Fault Scan :=
  match s.possibleKey with
  | some k =>
    let s := { s.setPossibleKey none with tokens := s.tokens.insertIdxIfInBounds k.place .key }
    let s := s.openBlock k.start.column k.place .blockMappingStart
    .ok { s.take 1 .value with keyAllowed := false }
  | none =>
    if !s.inFlow && !s.keyAllowed then .error .misplacedValue
    else
      let s := s.openBlock s.cursor.column s.tokens.size .blockMappingStart
      .ok { s.take 1 .value with keyAllowed := !s.inFlow }

/-- Adds a token that may be a key, or begin one, and goes on behind it. -/
def finishKeyLike (s : Scan) (t : Token) (after : Cursor) (keyAllowed : Bool) : Scan :=
  { s.push t with cursor := after, keyAllowed }

def scanAnchor (d : Dialect) (s : Scan) (t : String → Token) : Except Fault Scan := do
  let s ← s.noteKey
  let (name, after) ← readAnchor d s.cursor
  .ok (s.finishKeyLike (t name) after false)

def scanTag (d : Dialect) (s : Scan) : Except Fault Scan := do
  let s ← s.noteKey
  let (tag, after) ← readTag d s.inFlow s.cursor
  .ok (s.finishKeyLike (.tag tag) after false)

def scanQuoted (d : Dialect) (s : Scan) (quote : Char) : Except Fault Scan := do
  let s ← s.noteKey
  let start := s.cursor.skip 1
  let (text, after) ← quotedText d quote (start.rest.length + 1) start []
  .ok { s.finishKeyLike (.scalar (String.ofList text) false) after false with
    adjacentAt := some after.index }

def scanPlain (d : Dialect) (s : Scan) : Except Fault Scan := do
  let s ← s.noteKey
  let plain ← plainText d s.inFlow (s.indent + 1) (s.cursor.rest.length + 1) s.cursor [] [] false
  .ok (s.finishKeyLike (.scalar (String.ofList plain.text) true) plain.after plain.brokeLine)

def scanBlockScalar (d : Dialect) (s : Scan) (folded : Bool) : Except Fault Scan := do
  let s ← s.dropKey
  let (text, after) ← blockText d folded s.indent (s.cursor.skip 1)
  .ok { s.push (.scalar (String.ofList text) false) with cursor := after, keyAllowed := true }

def scanDirective (d : Dialect) (s : Scan) : Except Fault Scan := do
  let s ← s.leaveBlocks
  let (directive, after) ← readDirective d s.cursor
  let after ← finishLine d .badDirective after
  .ok { s.push (.directive directive) with cursor := after }

/-! ## The next token -/

/-- Whether a character begins tokens other than plain scalars, whatever follows it. -/
def isIndicator (c : Char) : Bool := "-?:,[]\x7b\x7d#&*!|>'\"%@\x60".toList.contains c

/-- Whether a plain scalar begins with `c`, followed by `rest`. -/
def plainStarts (d : Dialect) (flow : Bool) (c : Char) (rest : List Char) : Bool :=
  (!isIndicator c && !isGap c && !d.isBreak c) ||
    (c == '-' && !(rest.head?.any isGap) &&
      !(d.plainIndicators && flow && rest.head?.any isFlowIndicator)) ||
    ((c == '?' || c == ':') && !d.wordEnds rest && (d.plainIndicators || !flow))

/-- Reads the token that begins here. -/
def scanToken (d : Dialect) (s : Scan) : Except Fault Scan :=
  match s.cursor.rest with
  | [] => .ok s
  | c :: rest =>
    let flow := s.inFlow
    let punctuation (adjacent : Bool) : Bool :=
      d.wordEnds rest || (flow && (!d.plainIndicators || adjacent))
    if s.cursor.column == 0 && c == '%' then scanDirective d s
    else if s.cursor.atMarker d '-' then do
      let s ← s.leaveBlocks
      .ok (s.take 3 .documentStart)
    else if s.cursor.atMarker d '.' then do
      let s ← s.leaveBlocks
      .ok (s.take 3 .documentEnd)
    else if c == '[' then s.scanFlowStart .flowSequenceStart
    else if c == '\x7b' then s.scanFlowStart .flowMappingStart
    else if c == ']' then s.scanFlowEnd .flowSequenceEnd
    else if c == '\x7d' then s.scanFlowEnd .flowMappingEnd
    else if c == ',' then s.scanFlowEntry
    else if c == '-' && d.wordEnds rest then s.scanBlockEntry
    else if c == '?' && punctuation false then s.scanKey
    else if c == ':' &&
        punctuation (rest.head?.any isFlowIndicator || s.adjacentAt == some s.cursor.index) then
      s.scanValue
    else if c == '*' then scanAnchor d s .alias
    else if c == '&' then scanAnchor d s .anchor
    else if c == '!' then scanTag d s
    else if c == '|' && !flow then scanBlockScalar d s false
    else if c == '>' && !flow then scanBlockScalar d s true
    else if c == '\'' || c == '"' then scanQuoted d s c
    else if plainStarts d flow c rest then scanPlain d s
    else .error .unexpectedCharacter

/-- Reads tokens to the end of the text, where all blocks are left. Every token uses up a character,
so `fuel` need not exceed the length of the rest. -/
def scanAll (d : Dialect) : Nat → Scan → Except Fault (Array Token)
  | 0, _ => .error .unexpectedCharacter
  | fuel + 1, s => do
    let s ← (skipToToken d s).dropStaleKeys
    if s.cursor.rest.isEmpty then do
      let s ← s.leaveBlocks
      .ok s.tokens
    else do
      let s ← (s.closeBlocks s.cursor.column).scanToken d
      scanAll d fuel s

end Scan

/-- The tokens of a text. -/
def tokens (d : Dialect) (text : List Char) : Except Fault (List Token) :=
  if !text.all d.allows then .error .badCharacter
  else
    let text := d.uniform (if text.head? == some '\ufeff' then text.drop 1 else text)
    (Scan.scanAll d (text.length + 1) { cursor := { rest := text } }).map Array.toList

end Settings.Yaml
