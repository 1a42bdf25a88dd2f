import Settings.Pattern.Fault
/-!
# Flags

Flags say how the text of a pattern is to be read and what its characters stand for. They hold from
the place where they are set to the end of the group that they are set in.
-/

namespace Settings.Pattern

/-- A flag. Whether repetitions are greedy makes no difference to whether a text matches. -/
inductive Flag
  | ignoreCase
  | multiLine
  | dotAll
  | swapGreed
  | unicode
  | carriage
  | free
  deriving DecidableEq, Repr

def Flag.ofLetter? : Char → Option Flag
  | 'i' => some ignoreCase
  | 'm' => some multiLine
  | 's' => some dotAll
  | 'U' => some swapGreed
  | 'u' => some unicode
  | 'R' => some carriage
  | 'x' => some free
  | _ => none

/-- The flags that are set. -/
structure Flags where
  set : List Flag := [.unicode]
  deriving Repr, Inhabited

namespace Flags

def has (flags : Flags) (flag : Flag) : Bool := flags.set.contains flag

def update (flags : Flags) (flag : Flag) (value : Bool) : Flags :=
  let others := flags.set.filter (· ≠ flag)
  ⟨if value then flag :: others else others⟩

/-! ## Reading flags -/

/-- Reads letters of flags up to the colon or the bracket that ends them. Those behind a minus are
unset. Answers with the flags, whether any were named, and the rest from the end on. -/
def read (flags : Flags) (named : List Flag) (minus justMinus : Bool) :
    List Char → Except Fault (Flags × Bool × List Char)
  | [] => .error .unfinishedFlags
  | c :: rest =>
    if c = ':' || c = ')' then
      if justMinus then .error .danglingMinus else .ok (flags, !named.isEmpty, c :: rest)
    else if c = '-' then
      if minus then .error .repeatedMinus else read flags named true true rest
    else
      match Flag.ofLetter? c with
      | none => .error .unknownFlag
      | some flag =>
        if named.contains flag then .error .repeatedFlag
        else read (flags.update flag (!minus)) (flag :: named) minus false rest

/-! ## Free spacing -/

/-- Drops blanks and comments, which begin with a number sign and end with the line. -/
def dropFree (inComment : Bool) : List Char → List Char
  | [] => []
  | c :: rest =>
    if inComment then dropFree (c != '\n') rest
    else if Text.isBlank c then dropFree false rest
    else if c = '#' then dropFree true rest
    else c :: rest

/-- What is left before the next character that counts. -/
def skip (flags : Flags) (s : List Char) : List Char :=
  if flags.has .free then dropFree false s else s

/-- At most so many characters that satisfy `p`, and the rest. Between them goes what does not
count. -/
def takeWhile (flags : Flags) (p : Char → Bool) : Nat → List Char → List Char × List Char
  | n + 1, c :: rest =>
    if p c then
      let (word, rest) := takeWhile flags p n (flags.skip rest)
      (c :: word, rest)
    else ([], c :: rest)
  | _, s => ([], s)

/-! ## Sets under flags -/

/-- Adds the characters that differ from a member in case alone, where case does not count. -/
def fold (flags : Flags) (set : CharSet) : CharSet :=
  if !flags.has .ignoreCase then set
  else if flags.has .unicode then .folded set
  else .foldedAscii set

/-- Without the flag for all of Unicode a set may not go beyond ASCII: its members would be bytes
that stand for no character. -/
def accept (flags : Flags) (set : CharSet) : Except Fault CharSet :=
  if flags.has .unicode || set.isBelowHighBytes then .ok set else .error .notText

/-- The set, or all characters that are not in it. -/
def finish (flags : Flags) (negated : Bool) (set : CharSet) : Except Fault CharSet :=
  flags.accept (if negated then .complement (flags.fold set) else flags.fold set)

def digits (flags : Flags) : CharSet :=
  if flags.has .unicode then .category [.decimalNumber] else .digits

def blanks (flags : Flags) : CharSet := if flags.has .unicode then .blank else .asciiBlank

def words (flags : Flags) : CharSet := Look.wordSet (!flags.has .unicode)

/-- What a point stands for. -/
def point (flags : Flags) : CharSet :=
  if flags.has .dotAll then .everything
  else if flags.has .carriage then .complement (.union (.single '\r') (.single '\n'))
  else .complement (.single '\n')

/-- The condition that a circumflex stands for. -/
def circumflex (flags : Flags) : Look :=
  if flags.has .multiLine then .lineStart (flags.has .carriage) else .textStart

/-- The condition that a dollar sign stands for. -/
def dollar (flags : Flags) : Look :=
  if flags.has .multiLine then .lineEnd (flags.has .carriage) else .textEnd

end Flags

end Settings.Pattern
