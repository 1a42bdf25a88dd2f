import Settings.Number.Integer
import Settings.Yaml.Cursor
/-!
# Texts of scalars

The four ways of writing a scalar: plain, between single or double quotes, and as a block of lines.
Each reader starts at the first character and gives the text that is meant, together with the place
after it.
-/

namespace Settings.Yaml

/-! ## Plain scalars -/

/-- The characters of a plain scalar up to the next gap or to what ends the scalar: a colon at the
end of a word and, in a flow collection, its punctuation. -/
def plainWord (d : Dialect) (flow : Bool) : List Char → Except Fault (List Char)
  | [] => .ok []
  | c :: rest =>
    if isGap c || d.isBreak c then .ok []
    else if c == ':' && flow && !d.plainIndicators &&
        rest.head?.any (fun n => isFlowIndicator n || n == '?') then
      .error .unexpectedCharacter
    else if c == ':' && (d.wordEnds rest || (flow && rest.head?.any isFlowIndicator)) then .ok []
    else if flow && isFlowIndicator c then .ok []
    else (plainWord d flow rest).map (c :: ·)

/-- The text of a plain scalar, the place after it and the gap behind it, and whether that gap
breaks the line. -/
structure PlainText where
  text : List Char
  after : Cursor
  brokeLine : Bool

/-- Reads words and the gaps between them. In a block the scalar ends where a line is indented by
less than `indent`; comments and lines that begin or end a document end it everywhere. The text so
far is given last character first, and `gap` is the gap behind it. -/
def plainText (d : Dialect) (flow : Bool) (indent : Int) :
    Nat → Cursor → List Char → List Char → Bool → Except Fault PlainText
  | 0, cur, text, _, broke => .ok ⟨text.reverse, cur, broke⟩
  | fuel + 1, cur, text, gap, broke =>
    if cur.atAnyMarker d || cur.rest.head? == some '#' then .ok ⟨text.reverse, cur, broke⟩
    else do
      let word ← plainWord d flow cur.rest
      let text := if word.isEmpty then text else word.reverse ++ (gap.reverse ++ text)
      let broke := broke && word.isEmpty
      let cur := cur.skip word.length
      if cur.rest.isEmpty || !d.wordEnds cur.rest then .ok ⟨text.reverse, cur, broke⟩
      else do
        let g ← Gap.read d indent cur
        let broke := broke || !g.breaks.isEmpty
        if !flow && (g.after.column : Int) < indent then .ok ⟨text.reverse, g.after, broke⟩
        else plainText d flow indent fuel g.after text g.joined broke

/-! ## Quoted scalars -/

/-- What a backslash and the character after it stand for. -/
def simpleEscape? : Char → Option Char
  | '0' => some '\x00'
  | 'a' => some '\x07'
  | 'b' => some '\x08'
  | 't' => some '\t'
  | '\t' => some '\t'
  | 'n' => some '\n'
  | 'v' => some '\x0b'
  | 'f' => some '\x0c'
  | 'r' => some '\r'
  | 'e' => some '\x1b'
  | ' ' => some ' '
  | '"' => some '"'
  | '/' => some '/'
  | '\\' => some '\\'
  | 'N' => some '\u0085'
  | '_' => some '\u00a0'
  | 'L' => some '\u2028'
  | 'P' => some '\u2029'
  | _ => none

/-- The number of hexadecimal digits after a backslash and a letter. -/
def escapeWidth? : Char → Option Nat
  | 'x' => some 2
  | 'u' => some 4
  | 'U' => some 8
  | _ => none

/-- Reads what follows a backslash: the character that is meant, and how many characters spell it.
-/
def readEscape : List Char → Except Fault (Char × Nat)
  | [] => .error .badEscape
  | c :: rest =>
    match simpleEscape? c, escapeWidth? c with
    | some meant, _ => .ok (meant, 1)
    | none, none => .error .badEscape
    | none, some width =>
      let digits := rest.take width
      match Number.readDigits? 16 digits with
      | none => .error .badEscape
      | some n =>
        if digits.length = width ∧ n.isValidChar then .ok (Char.ofNat n, width + 1)
        else .error .badEscape

/-- Reads the inside of a quoted scalar and its closing quote. The text so far is given last
character first. Every step uses up a character, so `fuel` need not exceed the length of the rest.
-/
def quotedText (d : Dialect) (quote : Char) :
    Nat → Cursor → List Char → Except Fault (List Char × Cursor)
  | 0, _, _ => .error .unclosedQuote
  | fuel + 1, cur, text =>
    match cur.rest with
    | [] => .error .unclosedQuote
    | c :: rest =>
      if c == quote then
        if quote == '\'' && rest.head? == some '\'' then
          quotedText d quote fuel (cur.skip 2) ('\'' :: text)
        else .ok (text.reverse, cur.skip 1)
      else if c == '\\' && quote == '"' then
        if rest.head?.any d.isBreak then do
          let g ← Gap.read d (-1) (cur.skip 1).skipBreak
          if g.after.atAnyMarker d then .error .unclosedQuote
          else quotedText d quote fuel g.after (g.breaks.reverse ++ text)
        else do
          let (meant, width) ← readEscape rest
          quotedText d quote fuel (cur.skip (width + 1)) (meant :: text)
      else if isGap c || d.isBreak c then do
        let g ← Gap.read d (-1) cur
        if g.after.atAnyMarker d then .error .unclosedQuote
        else quotedText d quote fuel g.after (g.joined.reverse ++ text)
      else quotedText d quote fuel (cur.skip 1) (c :: text)

/-! ## Block scalars -/

/-- What becomes of the line breaks at the end of a block scalar. -/
inductive Chomping
  | strip
  | clip
  | keep
  deriving DecidableEq, Repr

/-- The line that opens a block scalar. -/
structure BlockHeader where
  chomping : Chomping := .clip
  /-- The indentation of the lines beyond that of the surrounding block, where it is given. -/
  increment : Option Nat := none
  after : Cursor

/-- Reads the signs of chomping and indentation, each at most once and in either order, with `n` of
them to come. -/
def blockSigns : Nat → BlockHeader → Except Fault BlockHeader
  | 0, h => .ok h
  | n + 1, h =>
    match h.after.rest with
    | c :: _ =>
      if (c == '+' || c == '-') && h.chomping == .clip then
        blockSigns n
          { h with chomping := if c == '+' then .keep else .strip, after := h.after.skip 1 }
      else if c.isDigit && h.increment.isNone then
        if c == '0' then .error .badBlockHeader
        else blockSigns n
          { h with increment := some (c.toNat - '0'.toNat), after := h.after.skip 1 }
      else .ok h
    | [] => .ok h

/-- Goes past blanks and a comment to the end of the line, and past its break. -/
def finishLine (d : Dialect) (fault : Fault) (cur : Cursor) : Except Fault Cursor :=
  let cur := (cur.span isGap).2
  let cur := if cur.rest.head? == some '#' then (cur.spanLine d).2 else cur
  match cur.rest with
  | [] => .ok cur
  | c :: _ => if d.isBreak c then .ok cur.skipBreak else .error fault

/-- The empty lines before a line of text in a block scalar. -/
structure BlockGap where
  breaks : List Char
  /-- The greatest indentation met. -/
  widest : Nat
  after : Cursor

/-- Reads empty lines and the indentation of the line after them. Where the indentation is not known
yet, all spaces at the beginning of a line belong to it. -/
def blockGap (d : Dialect) (indent : Option Nat) (cur : Cursor) : Except Fault BlockGap :=
  go cur.rest cur.index cur.line cur.column [] 0
where
  /-- Breaks read so far are given last first. -/
  go : List Char → Nat → Nat → Nat → List Char → Nat → Except Fault BlockGap
    | [], index, line, column, breaks, widest =>
      .ok ⟨breaks.reverse, max widest column, ⟨[], index, line, column⟩⟩
    | c :: rest, index, line, column, breaks, widest =>
      let inside := indent.all (column < ·)
      if inside && c == ' ' then go rest (index + 1) line (column + 1) breaks widest
      else if inside && c == '\t' then .error .tabInIndentation
      else if d.isBreak c then
        go rest (index + 1) (line + 1) 0 (c :: breaks) (max widest column)
      else .ok ⟨breaks.reverse, max widest column, ⟨c :: rest, index, line, column⟩⟩

/-- Reads the lines of a block scalar, of which those so far came to `text`, last character first.
`lead` is the break of the line before, `breaks` are the empty lines since then, and
`indentedBefore` says whether that line began with a blank. A folded line feed becomes a space if
both lines around it begin with text, and nothing more if empty lines follow it. -/
def blockLines (d : Dialect) (folded : Bool) (chomping : Chomping) (indent : Nat) :
    Nat → Cursor → (text lead breaks : List Char) → (indentedBefore : Bool) →
      Except Fault (List Char × Cursor)
  | 0, cur, text, _, _, _ => .ok (text.reverse, cur)
  | fuel + 1, cur, text, lead, breaks, indentedBefore =>
    if cur.column == indent && !cur.rest.isEmpty then do
      let indented := cur.rest.head?.any isGap
      let joint :=
        if folded && lead == ['\n'] && !indentedBefore && !indented then
          (if breaks.isEmpty then [' '] else [])
        else lead
      let (line, cur) := cur.spanLine d
      let text := line.reverse ++ (breaks.reverse ++ (joint.reverse ++ text))
      match cur.rest with
      | [] => blockLines d folded chomping indent fuel cur text [] [] indented
      | c :: _ =>
        let g ← blockGap d (some indent) cur.skipBreak
        blockLines d folded chomping indent fuel g.after text [c] g.breaks indented
    else
      let ending := match chomping with
        | .strip => []
        | .clip => lead
        | .keep => lead ++ breaks
      .ok (text.reverse ++ ending, cur)

/-- Reads a block scalar from behind its indicator. `parent` is the indentation of the surrounding
block. -/
def blockText (d : Dialect) (folded : Bool) (parent : Int) (cur : Cursor) :
    Except Fault (List Char × Cursor) := do
  let header ← blockSigns 2 { after := cur }
  let start ← finishLine d .badBlockHeader header.after
  let given := header.increment.map fun n => if 0 ≤ parent then parent.toNat + n else n
  let gap ← blockGap d given start
  let indent := given.getD (max gap.widest (max (parent + 1).toNat 1))
  blockLines d folded header.chomping indent (gap.after.rest.length + 1) gap.after [] [] gap.breaks
    false

end Settings.Yaml
