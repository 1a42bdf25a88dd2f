import Settings.Pattern.CharSet
/-!
# Patterns

The form of a pattern: single characters, conditions on a place, and what is built of them. How deep
and how large a pattern may be is decided by its form.
-/

namespace Settings

/-- A condition on the characters at either side of a place, of which some belong to words. -/
inductive WordEdge
  | either
  | neither
  | start
  | finish
  | startHalf
  | finishHalf
  deriving DecidableEq, Repr

/-- A condition on a place in a text. Where `carriage` is set, lines end with a carriage return, a
line feed or both; otherwise they end with a line feed. Where `ascii` is set, words are made of
ASCII. -/
inductive Look
  | textStart
  | textEnd
  | lineStart (carriage : Bool)
  | lineEnd (carriage : Bool)
  | word (edge : WordEdge) (ascii : Bool)
  deriving DecidableEq, Repr

/-- The characters that words are made of. -/
def Look.wordSet (ascii : Bool) : CharSet := if ascii then .asciiWord else .word

/-- A pattern. A repetition has a least number of rounds, and it may have a greatest one. -/
inductive Pattern
  | char (set : CharSet)
  | look (condition : Look)
  | sequence (parts : List Pattern)
  | choice (branches : List Pattern)
  | repeated (body : Pattern) (least : Nat) (most : Option Nat)
  | group (body : Pattern)
  deriving Repr, Inhabited

namespace Pattern

/-- One part after the other; a part on its own is that part. -/
def ofParts : List Pattern → Pattern
  | [p] => p
  | parts => sequence parts

/-- Any of the branches; a branch on its own is that branch. -/
def ofBranches : List Pattern → Pattern
  | [p] => p
  | branches => choice branches

mutual

/-- How many levels of sequences, choices, repetitions and groups stand within each other. -/
def depth : Pattern → Nat
  | char _ | look _ | sequence [] => 0
  | sequence parts => depthAll parts + 1
  | choice branches => depthAll branches + 1
  | repeated body _ _ => depth body + 1
  | group body => depth body + 1

/-- The greatest depth of several patterns. -/
def depthAll : List Pattern → Nat
  | [] => 0
  | p :: rest => max (depth p) (depthAll rest)

end

mutual

/-- The steps of a pattern in which repetitions are written out. What reads nothing takes no step.
-/
def weight : Pattern → Nat
  | char set => set.weight
  | look _ => 0
  | sequence parts => weightAll parts
  | choice branches => weightAll branches + 1
  | repeated body least most => weight body * max (most.getD least) (max least 1)
  | group body => weight body

/-- The steps of several patterns together. -/
def weightAll : List Pattern → Nat
  | [] => 0
  | p :: rest => weight p + weightAll rest

end

/-- The greatest depth of a pattern. -/
def maxDepth : Nat := 250

/-- The greatest number of steps: a matcher has ten megabytes, and a step takes thirty-two bytes. -/
def maxWeight : Nat := 10 * 1024 * 1024 / 32

end Pattern

end Settings
