import Settings.Yaml.Node
/-!
# Events

A document as a row of events, in which a sequence or a mapping is what stands between its start and
its end. Anchors are names at first; `numberAnchors` replaces names by numbers.

Anchors are numbered by how many names there have been before. A name that is used again keeps its
place among the names, so the next new name gets the same number as the repeated one. Of the nodes
with one number the last is what its aliases mean, even an alias that stands before it.
-/

namespace Settings.Yaml

/-- A step through a document. Anchors and aliases are given by `Ref`. -/
inductive Event (Ref : Type)
  | scalar (anchor : Option Ref) (tag : Option String) (text : String) (plain : Bool)
  | alias (ref : Ref)
  | sequenceStart (anchor : Option Ref) (tag : Option String)
  | sequenceEnd
  | mappingStart (anchor : Option Ref) (tag : Option String)
  | mappingEnd
  deriving Repr

mutual

/-- The events of a node. -/
def Node.events : Node → List (Event String)
  | .scalar p text plain => [.scalar p.anchor p.tag text plain]
  | .alias name => [.alias name]
  | .sequence p items => .sequenceStart p.anchor p.tag :: (itemEvents items ++ [.sequenceEnd])
  | .mapping p entries => .mappingStart p.anchor p.tag :: (entryEvents entries ++ [.mappingEnd])

def itemEvents : List Node → List (Event String)
  | [] => []
  | item :: rest => item.events ++ itemEvents rest

def entryEvents : List (Node × Node) → List (Event String)
  | [] => []
  | (key, value) :: rest => key.events ++ (value.events ++ entryEvents rest)

end

namespace Event

/-- The names of the anchors so far, each with its number. -/
abbrev Names := List (String × Nat)

/-- Gives an anchor its number. -/
def numberAnchor (names : Names) : Option String → Option Nat × Names
  | none => (none, names)
  | some name =>
    let number := names.length
    (some number, (name, number) :: names.filter fun (known, _) => known ≠ name)

/-- Replaces names by numbers. An alias needs an anchor before it. -/
def numberAnchors (names : Names) : List (Event String) → Except Fault (List (Event Nat))
  | [] => .ok []
  | .scalar anchor tag text plain :: rest => do
    let (anchor, names) := numberAnchor names anchor
    .ok (.scalar anchor tag text plain :: (← numberAnchors names rest))
  | .sequenceStart anchor tag :: rest => do
    let (anchor, names) := numberAnchor names anchor
    .ok (.sequenceStart anchor tag :: (← numberAnchors names rest))
  | .mappingStart anchor tag :: rest => do
    let (anchor, names) := numberAnchor names anchor
    .ok (.mappingStart anchor tag :: (← numberAnchors names rest))
  | .alias name :: rest =>
    match names.lookup name with
    | some number => do .ok (.alias number :: (← numberAnchors names rest))
    | none => .error .unknownAlias
  | .sequenceEnd :: rest => do .ok (.sequenceEnd :: (← numberAnchors names rest))
  | .mappingEnd :: rest => do .ok (.mappingEnd :: (← numberAnchors names rest))

/-- The number of the anchor of an event. -/
def anchor? : Event Nat → Option Nat
  | .scalar anchor .. | .sequenceStart anchor _ | .mappingStart anchor _ => anchor
  | _ => none

/-- Where the anchors stand: for each number the events from its last node on. -/
def anchorage : List (Event Nat) → List (Nat × List (Event Nat)) → List (Nat × List (Event Nat))
  | [], places => places
  | e :: rest, places =>
    match e.anchor? with
    | some number => anchorage rest ((number, e :: rest) :: places)
    | none => anchorage rest places

end Event

end Settings.Yaml
