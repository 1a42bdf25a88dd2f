import Settings.Text.Blank
import Settings.Text.Category
import Settings.Text.Folding
/-!
# Sets of characters

A set is kept in the way it is put together, and `CharSet.contains` reads membership off that.
-/

namespace Settings

/-- A set of characters. -/
inductive CharSet
  | nothing
  | range (first last : Char)
  | category (members : List Text.Category)
  | blank
  | word
  | union (a b : CharSet)
  | intersection (a b : CharSet)
  | complement (a : CharSet)
  /-- All that differ in case alone from a member. -/
  | folded (a : CharSet)
  /-- All that differ from a member in the case of an ASCII letter alone. -/
  | foldedAscii (a : CharSet)
  deriving Repr, Inhabited

namespace CharSet

/-- The characters that differ from one in the case of an ASCII letter alone, and itself. -/
def asciiForms (c : Char) : List Char := if c.isAlpha then [c.toLower, c.toUpper] else [c]

/-- Whether a character is in the set. -/
def contains (set : CharSet) (c : Char) : Bool :=
  match set with
  | nothing => false
  | range first last => first ≤ c && c ≤ last
  | category members => members.contains (Text.Category.ofChar c)
  | blank => Text.isBlank c
  | word => Text.isWordChar c
  | union a b => a.contains c || b.contains c
  | intersection a b => a.contains c && b.contains c
  | complement a => !a.contains c
  | folded a => (Text.caseForms c).any fun d => a.contains d
  | foldedAscii a => (asciiForms c).any fun d => a.contains d

def single (c : Char) : CharSet := range c c

/-- The union of several ranges. -/
def ranges (bounds : List (Char × Char)) : CharSet :=
  bounds.foldl (fun set (first, last) => union set (range first last)) nothing

def everything : CharSet := complement nothing

def difference (a b : CharSet) : CharSet := intersection a (complement b)

def symmetricDifference (a b : CharSet) : CharSet := union (difference a b) (difference b a)

def digits : CharSet := range '0' '9'

def asciiLetters : CharSet := ranges [('A', 'Z'), ('a', 'z')]

def asciiWord : CharSet := union (union asciiLetters digits) (single '_')

def asciiBlank : CharSet := union (range '\t' '\r') (single ' ')

/-- Whether the set has none of the characters from the end of ASCII up to `ÿ`. -/
def isBelowHighBytes (set : CharSet) : Bool :=
  (List.range 128).all fun i => !set.contains (Char.ofNat (128 + i))

/-- The classes that have a name in brackets. All are parts of ASCII. -/
def named? : String → Option CharSet
  | "alnum" => some (union asciiLetters digits)
  | "alpha" => some asciiLetters
  | "ascii" => some (range '\x00' '\x7F')
  | "blank" => some (union (single '\t') (single ' '))
  | "cntrl" => some (union (range '\x00' '\x1F') (single '\x7F'))
  | "digit" => some digits
  | "graph" => some (range '!' '~')
  | "lower" => some (range 'a' 'z')
  | "print" => some (range ' ' '~')
  | "punct" => some (ranges [('!', '/'), (':', '@'), ('[', '`'), ('\x7b', '~')])
  | "space" => some asciiBlank
  | "upper" => some (range 'A' 'Z')
  | "word" => some asciiWord
  | "xdigit" => some (ranges [('0', '9'), ('A', 'F'), ('a', 'f')])
  | _ => none

/-- The steps that a matcher takes over the bytes of a member: an estimate from the kind of set. -/
def weight : CharSet → Nat
  | nothing => 1
  | range _ last => last.utf8Size
  | category _ => 300
  | blank => 10
  | word => 1450
  | union a b | intersection a b => max a.weight b.weight
  | complement a => max 8 a.weight
  | folded a | foldedAscii a => a.weight

end CharSet

end Settings
