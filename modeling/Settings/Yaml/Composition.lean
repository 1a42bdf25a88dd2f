import Settings.Yaml.Event
import Settings.Yaml.Resolution
/-!
# From events to values

Scalars are resolved, and aliases are replaced by what their anchors stand on. Nesting is limited,
and so is the number of aliases that are followed, in proportion to the length of the document.
-/

namespace Settings.Yaml

/-- How deep sequences and mappings may be nested. -/
def maxNesting : Nat := 128

/-- How many aliases may be followed for each event of a document. -/
def aliasesPerEvent : Nat := 100

/-- What stays the same while a document is composed. -/
structure Composition where
  /-- The events from each anchor on. -/
  places : List (Nat × List (Event Nat))

/-- A value, the events behind it, and how many more aliases may be followed. -/
structure Composed (α : Type) where
  value : α
  rest : List (Event Nat)
  aliases : Nat

/-- Puts a local tag around a value. -/
def Value.withTag (tag : Option String) (value : Value) : Value :=
  match localTag? tag with
  | some name => .tagged name value
  | none => value

namespace Composition

mutual

/-- Composes one value. `depth` is how much deeper nesting may go; the first argument bounds the
number of steps. -/
def value (c : Composition) : Nat → (depth : Nat) → List (Event Nat) → (aliases : Nat) →
    Except Fault (Composed Value)
  | 0, _, _, _ => .error .tooDeep
  | fuel + 1, depth, events, aliases =>
    match events with
    | .scalar _ tag text plain :: rest =>
      (resolveScalar tag text plain).map fun v => ⟨v, rest, aliases⟩
    | .alias number :: rest =>
      match aliases, c.places.lookup number with
      | left + 1, some target =>
        (value c fuel depth target left).map fun composed => { composed with rest }
      | _, _ => .error .tooManyAliases
    | .sequenceStart _ tag :: rest =>
      match depth with
      | 0 => .error .tooDeep
      | depth + 1 =>
        (items c fuel depth rest aliases).map fun composed =>
          ⟨.withTag tag (.sequence composed.value), composed.rest, composed.aliases⟩
    | .mappingStart _ tag :: rest =>
      match depth with
      | 0 => .error .tooDeep
      | depth + 1 =>
        (entries c fuel depth [] rest aliases).map fun composed =>
          ⟨.withTag tag (.mapping composed.value), composed.rest, composed.aliases⟩
    | _ => .error .unexpectedToken

/-- Composes the items of a sequence, up to its end. -/
def items (c : Composition) : Nat → (depth : Nat) → List (Event Nat) → (aliases : Nat) →
    Except Fault (Composed (List Value))
  | 0, _, _, _ => .error .tooDeep
  | fuel + 1, depth, events, aliases =>
    match events with
    | .sequenceEnd :: rest => .ok ⟨[], rest, aliases⟩
    | _ => do
      let item ← value c fuel depth events aliases
      let others ← items c fuel depth item.rest item.aliases
      .ok { others with value := item.value :: others.value }

/-- Composes the entries of a mapping, up to its end. Each key may stand once; `keys` are those so
far. -/
def entries (c : Composition) : Nat → (depth : Nat) → (keys : List Value) → List (Event Nat) →
    (aliases : Nat) → Except Fault (Composed (List (Value × Value)))
  | 0, _, _, _, _ => .error .tooDeep
  | fuel + 1, depth, keys, events, aliases =>
    match events with
    | .mappingEnd :: rest => .ok ⟨[], rest, aliases⟩
    | _ => do
      let key ← value c fuel depth events aliases
      if keys.any fun known => known.sameKey key.value then .error .duplicateKey
      else do
        let entry ← value c fuel depth key.rest key.aliases
        let others ← entries c fuel depth (key.value :: keys) entry.rest entry.aliases
        .ok { others with value := (key.value, entry.value) :: others.value }

end

end Composition

/-- The value of a document. -/
def Node.toValue (node : Node) : Except Fault Value := do
  let events ← Event.numberAnchors [] node.events
  let composition : Composition := ⟨Event.anchorage events []⟩
  let fuel := (maxNesting + 2) * (events.length + 2)
  let composed ← composition.value fuel maxNesting events (aliasesPerEvent * events.length)
  .ok composed.value

/-- Reads a text that holds one document in the strict dialect. A text without a document means
null. -/
def parse (text : List Char) : Except Fault Value := do
  match ← firstNode .strict text with
  | some node => node.toValue
  | none => .ok .null

end Settings.Yaml
