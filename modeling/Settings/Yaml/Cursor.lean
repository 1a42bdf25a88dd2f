import Settings.Yaml.Dialect
/-!
# Positions in a text

A cursor is what is left of a text, with the place that this rest starts at. Gaps, the runs of
blanks and line breaks between words, are read here, since they decide how lines are joined.
-/

namespace Settings.Yaml

/-- Why a text is not a YAML document. -/
inductive Fault
  | badCharacter
  | tabInIndentation
  | badDirective
  | badAnchor
  | badTag
  | badEscape
  | unclosedQuote
  | badBlockHeader
  | unexpectedCharacter
  | misplacedEntry
  | misplacedKey
  | misplacedValue
  | keyWithoutValue
  | unexpectedToken
  | unknownHandle
  | unknownAlias
  | duplicateKey
  | severalDocuments
  | tooDeep
  | tooManyAliases
  | badScalar
  deriving DecidableEq, Repr

/-- The rest of a text, and the place it starts at. -/
structure Cursor where
  rest : List Char
  index : Nat := 0
  line : Nat := 0
  column : Nat := 0
  deriving Repr

/-- Spaces and tabs. -/
def isGap (c : Char) : Bool := c == ' ' || c == '\t'

/-- Whether a word is over: a space, a tab, a line break or the end of the text follows. -/
def Dialect.wordEnds (d : Dialect) : List Char → Bool
  | [] => true
  | c :: _ => isGap c || d.isBreak c

namespace Cursor

/-- Goes on by so many characters of the same line. -/
def skip (cur : Cursor) (n : Nat) : Cursor :=
  { cur with rest := cur.rest.drop n, index := cur.index + n, column := cur.column + n }

/-- Goes past a line break. -/
def skipBreak (cur : Cursor) : Cursor :=
  { rest := cur.rest.drop 1, index := cur.index + 1, line := cur.line + 1, column := 0 }

/-- The characters of the same line that satisfy `p`, and the place after them. -/
def span (cur : Cursor) (p : Char → Bool) : List Char × Cursor :=
  let word := cur.rest.takeWhile p
  (word, cur.skip word.length)

/-- The rest of the line, and the place of its break. -/
def spanLine (cur : Cursor) (d : Dialect) : List Char × Cursor := cur.span fun c => !d.isBreak c

/-- Whether a line begins here with three of a character, as a word of their own. -/
def atMarker (cur : Cursor) (d : Dialect) (c : Char) : Bool :=
  cur.column == 0 && cur.rest.take 3 == [c, c, c] && d.wordEnds (cur.rest.drop 3)

/-- Whether the line is one that begins or ends a document. -/
def atAnyMarker (cur : Cursor) (d : Dialect) : Bool := cur.atMarker d '-' || cur.atMarker d '.'

end Cursor

/-- A run of blanks and line breaks: the blanks before the first break, and the breaks. Blanks after
a break are indentation and do not count. -/
structure Gap where
  blanks : List Char
  breaks : List Char
  after : Cursor

namespace Gap

/-- What a gap within a scalar comes to. Blanks on one line stay; a single line feed becomes a
space; of several breaks a leading line feed is dropped. -/
def joined (g : Gap) : List Char :=
  match g.breaks with
  | [] => g.blanks
  | b :: more =>
    if b == '\n' then (if more.isEmpty then [' '] else more) else b :: more

/-- Reads a gap. A tab after a break is refused where it stands before column `indent`. -/
def read (d : Dialect) (indent : Int) (cur : Cursor) : Except Fault Gap :=
  go cur.rest cur.index cur.line cur.column [] []
where
  /-- Blanks and breaks read so far are given last first. -/
  go : List Char → Nat → Nat → Nat → List Char → List Char → Except Fault Gap
    | [], index, line, column, blanks, breaks =>
      .ok ⟨blanks.reverse, breaks.reverse, ⟨[], index, line, column⟩⟩
    | c :: rest, index, line, column, blanks, breaks =>
      if d.isBreak c then go rest (index + 1) (line + 1) 0 blanks (c :: breaks)
      else if isGap c then
        if breaks.isEmpty then go rest (index + 1) line (column + 1) (c :: blanks) breaks
        else if c == '\t' && column < indent then .error .tabInIndentation
        else go rest (index + 1) line (column + 1) blanks breaks
      else .ok ⟨blanks.reverse, breaks.reverse, ⟨c :: rest, index, line, column⟩⟩

end Gap

end Settings.Yaml
