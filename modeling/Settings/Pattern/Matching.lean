import Settings.Pattern.Basic
/-!
# Matching

A pattern leads from places of a text to the places where its matches end. `Pattern.reach` takes all
places at once, as a list without repetitions; a text matches when some place of it leads somewhere.
-/

namespace Settings

/-- A place in a text: the character before it and all characters after it. -/
structure Place where
  before : Option Char
  after : List Char
  deriving DecidableEq, Repr

namespace Place

/-- The places of a text, in order, given the character before it. -/
def from? (before : Option Char) : List Char → List Place
  | [] => [⟨before, []⟩]
  | c :: rest => ⟨before, c :: rest⟩ :: from? (some c) rest

/-- The places of a text. -/
def all (text : List Char) : List Place := from? none text

/-- The place after a character of a set, if one comes next. -/
def past? (set : CharSet) : Place → Option Place
  | ⟨_, []⟩ => none
  | ⟨_, c :: rest⟩ => if set.contains c then some ⟨some c, rest⟩ else none

end Place

/-- Whether a condition on the neighbours holds, given which of them belong to words. -/
def WordEdge.holds (edge : WordEdge) (before after : Bool) : Bool :=
  match edge with
  | either => before != after
  | neither => before == after
  | start => !before && after
  | finish => before && !after
  | startHalf => !before
  | finishHalf => !after

/-- Whether a place meets a condition. -/
def Look.holds (look : Look) (place : Place) : Bool :=
  match look with
  | textStart => place.before.isNone
  | textEnd => place.after.isEmpty
  | lineStart carriage =>
    match place.before with
    | none => true
    | some c => c == '\n' || (carriage && c == '\r' && place.after.head? != some '\n')
  | lineEnd carriage =>
    match place.after.head? with
    | none => true
    | some c =>
      if carriage then c == '\r' || (c == '\n' && place.before != some '\r') else c == '\n'
  | word edge ascii =>
    let isWord (c : Option Char) : Bool := c.any (wordSet ascii).contains
    edge.holds (isWord place.before) (isWord place.after.head?)

namespace Pattern

/-- One more than the number of characters after the first of some places of one text. Rounds beyond
that many make no difference, since one of them reads nothing, and it can be left out or done again.
-/
def roundsFor (places : List Place) : Nat :=
  places.foldl (fun n place => max n place.after.length) 0 + 1

/-- The places that are reached in exactly so many rounds. -/
def rounds (step : List Place → List Place) : Nat → List Place → List Place
  | 0, places => places
  | n + 1, places => rounds step n (step places)

/-- The places that are reached in at most so many further rounds, given all that have been seen and
those of them that the latest round has added. -/
def spread (step : List Place → List Place) : Nat → (seen latest : List Place) → List Place
  | 0, seen, _ => seen
  | n + 1, seen, latest =>
    let fresh := ((step latest).filter fun place => !seen.contains place).eraseDups
    if fresh.isEmpty then seen else spread step n (seen ++ fresh) fresh

mutual

/-- The places where the matches from some places end. -/
def reach : Pattern → List Place → List Place
  | char set, places => places.filterMap (·.past? set)
  | look condition, places => places.filter condition.holds
  | sequence parts, places => reachThrough parts places
  | choice branches, places => reachAny branches places
  | group body, places => reach body places
  | repeated body least most, places =>
    let bound := roundsFor places
    let further := (most.map (· - least)).getD bound
    let first := rounds (reach body) (min least bound) places
    spread (reach body) (min further bound) first first

/-- The places where the matches of a sequence end. -/
def reachThrough : List Pattern → List Place → List Place
  | [], places => places
  | p :: rest, places => reachThrough rest (reach p places)

/-- The places where the matches of one of several patterns end. -/
def reachAny : List Pattern → List Place → List Place
  | [], _ => []
  | p :: rest, places => (reach p places ++ reachAny rest places).eraseDups

end

/-- Whether a text has a match anywhere. -/
def matchesIn (p : Pattern) (text : String) : Bool :=
  !(p.reach (Place.all text.toList)).isEmpty

end Pattern

end Settings
