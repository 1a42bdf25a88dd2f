/-!
# Dialects of YAML

What the readers of this library disagree on, as one record. The strict dialect follows YAML 1.1 in
what counts as a line break and refuses characters that do not print; the loose one follows YAML
1.2.

Before reading, the line breaks of a text are made uniform, so that all later rules know only the
line feed and, in the strict dialect, the two separators that stay as they are.
-/

namespace Settings.Yaml

/-- What the readers of this library disagree on. -/
structure Dialect where
  /-- Whether a text may hold this character. -/
  allows : Char → Bool
  /-- Whether the character stands for a line feed, beside line feed and carriage return. -/
  isNextLine : Char → Bool
  /-- Whether the character breaks a line and stays in the text as it is. -/
  isSeparator : Char → Bool
  /-- Whether the character may be in the name of an anchor. -/
  inAnchor : Char → Bool
  /-- Whether the character may follow the name of an anchor directly. -/
  afterAnchor : Char → Bool
  /-- Whether a mapping may have an entry with nothing before its colon. -/
  emptyKeys : Bool
  /-- Whether a colon or a question mark within a flow collection is part of a plain scalar where a
  word goes on behind it. Otherwise it is punctuation wherever a token begins with it, and a colon
  right before other punctuation is refused. -/
  plainIndicators : Bool
  /-- Whether further documents may follow the first one. -/
  manyDocuments : Bool

/-- Letters, digits, `-` and `_` of ASCII. -/
def isWordChar (c : Char) : Bool := c.isAlphanum || c == '-' || c == '_'

/-- The brackets, braces and commas of flow collections. -/
def isFlowIndicator (c : Char) : Bool :=
  c == ',' || c == '[' || c == ']' || c == '\x7b' || c == '\x7d'

/-- Characters that a strict text may hold: those that print, tabs and line breaks. -/
def isPrintable (c : Char) : Bool :=
  let n := c.toNat
  n == 0x09 || n == 0x0A || n == 0x0D || (0x20 ≤ n && n ≤ 0x7E) || n == 0x85 ||
    (0xA0 ≤ n && n ≤ 0xD7FF) || (0xE000 ≤ n && n ≤ 0xFFFD) || 0x10000 ≤ n

/-- The dialect of configuration files. -/
def Dialect.strict : Dialect where
  allows := isPrintable
  isNextLine c := c == '\u0085'
  isSeparator c := c == '\u2028' || c == '\u2029'
  inAnchor := isWordChar
  afterAnchor c := ['?', ':', ',', ']', '\x7d', '%', '@', '\x60'].contains c
  emptyKeys := false
  plainIndicators := false
  manyDocuments := false

/-- The dialect of front matter. -/
def Dialect.loose : Dialect where
  allows _ := true
  isNextLine _ := false
  isSeparator _ := false
  inAnchor c := c != ' ' && c != '\t' && c != '\n' && c != '\ufeff' && !isFlowIndicator c
  afterAnchor := isFlowIndicator
  emptyKeys := true
  plainIndicators := true
  manyDocuments := true

namespace Dialect

/-- Whether a character of a uniform text ends a line. -/
def isBreak (d : Dialect) (c : Char) : Bool := c == '\n' || d.isSeparator c

/-- Makes line breaks uniform. A carriage return before a line feed goes; one that stands alone,
like every other mark of a next line, becomes a line feed. -/
def uniform (d : Dialect) (s : List Char) : List Char :=
  (s.zip (s.drop 1 ++ [' '])).filterMap fun (c, next) =>
    if c == '\r' then (if next == '\n' then none else some '\n')
    else some (if d.isNextLine c then '\n' else c)

end Dialect

end Settings.Yaml
