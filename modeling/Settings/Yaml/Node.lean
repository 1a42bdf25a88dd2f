import Settings.Yaml.Token
/-!
# Nodes

The tree of a document, read from its tokens by recursive descent. Nothing is decided yet about what
scalars mean and what aliases stand for; tags are expanded.

Every rule either uses up a token or hands on to a rule that does, so the descent is bounded by the
number of tokens; the bound is the first argument of each rule.
-/

namespace Settings.Yaml

/-- What may stand before a node. -/
structure Properties where
  anchor : Option String := none
  tag : Option String := none
  deriving DecidableEq, Repr, Inhabited

/-- A node of a document. -/
inductive Node
  | scalar (properties : Properties) (text : String) (plain : Bool)
  | sequence (properties : Properties) (items : List Node)
  | mapping (properties : Properties) (entries : List (Node × Node))
  | alias (name : String)
  deriving Repr, Inhabited

/-- A node that is not written. -/
def Node.empty (properties : Properties := {}) : Node := .scalar properties "" true

/-- What tag handles stand for. -/
abbrev Handles := List (String × String)

/-- What a rule gives: what it has read, and the tokens after it. -/
abbrev Parsed (α : Type) := α × List Token

/-- The handles that need no declaration. -/
def defaultHandles : Handles := [("!", "!"), ("!!", "tag:yaml.org,2002:")]

/-- The tag that a written one stands for. -/
def Handles.expand (handles : Handles) (tag : WrittenTag) : Except Fault String :=
  if tag.handle.isEmpty then .ok tag.suffix
  else
    match handles.lookup tag.handle with
    | some expansion => .ok (expansion ++ tag.suffix)
    | none => .error .unknownHandle

namespace Node

/-- Reads a tag if one is next. -/
def readTag? (handles : Handles) : List Token → Except Fault (Parsed (Option String))
  | .tag t :: rest => (handles.expand t).map fun tag => (some tag, rest)
  | rest => .ok (none, rest)

/-- Reads an anchor if one is next. -/
def readAnchor? : List Token → Option String × List Token
  | .anchor name :: rest => (some name, rest)
  | rest => (none, rest)

/-- Reads an anchor and a tag, each of them optional, in either order. -/
def readProperties (handles : Handles) (tokens : List Token) :
    Except Fault (Parsed Properties) := do
  let (before, tokens) := readAnchor? tokens
  let (tag, tokens) ← readTag? handles tokens
  let (behind, tokens) := if before.isNone && tag.isSome then readAnchor? tokens else (none, tokens)
  .ok (⟨before <|> behind, tag⟩, tokens)

/-- Whether an entry of a block sequence is over before a node. -/
def endsEntry : List Token → Bool
  | .blockEntry :: _ | .blockEnd :: _ => true
  | _ => false

/-- Whether an entry of a sequence without a block of its own is over before a node. -/
def endsBareEntry : List Token → Bool
  | .blockEntry :: _ | .key :: _ | .value :: _ | .blockEnd :: _ => true
  | _ => false

/-- Whether a key or a value in a block mapping is over before a node. -/
def endsBlockPart : List Token → Bool
  | .key :: _ | .value :: _ | .blockEnd :: _ => true
  | _ => false

/-- Whether a key in a flow collection is over before a node. -/
def endsFlowKey (close : Token) : List Token → Bool
  | .value :: _ | .flowEntry :: _ => true
  | t :: _ => t == close
  | [] => false

/-- Whether a value in a flow collection is over before a node. -/
def endsFlowValue (close : Token) : List Token → Bool
  | .flowEntry :: _ => true
  | t :: _ => t == close
  | [] => false

/-- What differs between readers: the handles declared for the document, and whether an entry may
have nothing before its colon. -/
structure Grammar where
  handles : Handles
  emptyKeys : Bool

mutual

/-- Reads a node. In a flow collection no block may open; behind a key a sequence may do without a
block of its own. -/
def read (g : Grammar) : Nat → (block bareSequence : Bool) → List Token →
    Except Fault (Parsed Node)
  | 0, _, _, _ => .error .unexpectedToken
  | n + 1, block, bareSequence, tokens =>
    match tokens with
    | .alias name :: rest => .ok (.alias name, rest)
    | _ => do
      let (properties, tokens) ← readProperties g.handles tokens
      match tokens with
      | .scalar text plain :: rest =>
        let properties :=
          if properties.tag == some "!" then { properties with tag := none } else properties
        .ok (.scalar properties text plain, rest)
      | .flowSequenceStart :: rest =>
        let (items, rest) ← flowItems g n true rest
        .ok (.sequence properties items, rest)
      | .flowMappingStart :: rest =>
        let (entries, rest) ← flowEntries g n true rest
        .ok (.mapping properties entries, rest)
      | t :: rest =>
        if t == .blockEntry && bareSequence then do
          let (items, rest) ← bareItems g n tokens
          .ok (.sequence properties items, rest)
        else if t == .blockSequenceStart && block then do
          let (items, rest) ← blockItems g n rest
          .ok (.sequence properties items, rest)
        else if t == .blockMappingStart && block then do
          let (entries, rest) ← blockEntries g n rest
          .ok (.mapping properties entries, rest)
        else if properties == {} then .error .unexpectedToken
        else .ok (empty properties, tokens)
      | [] => if properties == {} then .error .unexpectedToken else .ok (empty properties, [])

/-- Reads the items of a block sequence and its end. -/
def blockItems (g : Grammar) : Nat → List Token → Except Fault (Parsed (List Node))
  | 0, _ => .error .unexpectedToken
  | n + 1, tokens =>
    match tokens with
    | .blockEnd :: rest => .ok ([], rest)
    | .blockEntry :: rest => do
      let (item, rest) ← if endsEntry rest then .ok (empty, rest) else read g n true false rest
      let (items, rest) ← blockItems g n rest
      .ok (item :: items, rest)
    | _ => .error .unexpectedToken

/-- Reads the items of a sequence without a block of its own. -/
def bareItems (g : Grammar) : Nat → List Token → Except Fault (Parsed (List Node))
  | 0, _ => .error .unexpectedToken
  | n + 1, tokens =>
    match tokens with
    | .blockEntry :: rest => do
      let (item, rest) ← if endsBareEntry rest then .ok (empty, rest) else read g n true false rest
      let (items, rest) ← bareItems g n rest
      .ok (item :: items, rest)
    | _ => .ok ([], tokens)

/-- Reads the value of an entry in a block mapping; where there is no colon, there is no value. -/
def blockValue (g : Grammar) : Nat → List Token → Except Fault (Parsed Node)
  | 0, _ => .error .unexpectedToken
  | n + 1, tokens =>
    match tokens with
    | .value :: rest => if endsBlockPart rest then .ok (empty, rest) else read g n true true rest
    | _ => .ok (empty, tokens)

/-- Reads the entries of a block mapping and its end. -/
def blockEntries (g : Grammar) : Nat → List Token → Except Fault (Parsed (List (Node × Node)))
  | 0, _ => .error .unexpectedToken
  | n + 1, tokens =>
    match tokens with
    | .blockEnd :: rest => .ok ([], rest)
    | .key :: rest => do
      let (key, rest) ← if endsBlockPart rest then .ok (empty, rest) else read g n true true rest
      let (value, rest) ← blockValue g n rest
      let (entries, rest) ← blockEntries g n rest
      .ok ((key, value) :: entries, rest)
    | .value :: _ =>
      if g.emptyKeys then do
        let (value, rest) ← blockValue g n tokens
        let (entries, rest) ← blockEntries g n rest
        .ok ((empty, value) :: entries, rest)
      else .error .unexpectedToken
    | _ => .error .unexpectedToken

/-- Reads the value of an entry in a flow collection. -/
def flowValue (g : Grammar) (close : Token) : Nat → List Token → Except Fault (Parsed Node)
  | 0, _ => .error .unexpectedToken
  | n + 1, tokens =>
    match tokens with
    | .value :: rest =>
      if endsFlowValue close rest then .ok (empty, rest) else read g n false false rest
    | _ => .ok (empty, tokens)

/-- Reads the items of a flow sequence and its end. A comma stands between two items, and may stand
behind the last. An item with a colon is a mapping of one entry. -/
def flowItems (g : Grammar) : Nat → (first : Bool) → List Token →
    Except Fault (Parsed (List Node))
  | 0, _, _ => .error .unexpectedToken
  | n + 1, first, tokens => do
    let tokens ←
      match first, tokens with
      | false, .flowEntry :: rest => .ok rest
      | false, .flowSequenceEnd :: _ => .ok tokens
      | false, _ => .error .unexpectedToken
      | true, _ => .ok tokens
    match tokens with
    | .flowSequenceEnd :: rest => .ok ([], rest)
    | .key :: rest =>
      let (key, rest) ←
        if endsFlowKey .flowSequenceEnd rest then
          .ok (empty, if g.emptyKeys then rest else rest.drop 1)
        else read g n false false rest
      let (value, rest) ← flowValue g .flowSequenceEnd n rest
      let (items, rest) ← flowItems g n false rest
      .ok (.mapping {} [(key, value)] :: items, rest)
    | .value :: _ =>
      if g.emptyKeys then do
        let (value, rest) ← flowValue g .flowSequenceEnd n tokens
        let (items, rest) ← flowItems g n false rest
        .ok (.mapping {} [(empty, value)] :: items, rest)
      else .error .unexpectedToken
    | _ =>
      let (item, rest) ← read g n false false tokens
      let (items, rest) ← flowItems g n false rest
      .ok (item :: items, rest)

/-- Reads the entries of a flow mapping and its end. An entry without a colon has no value. -/
def flowEntries (g : Grammar) : Nat → (first : Bool) → List Token →
    Except Fault (Parsed (List (Node × Node)))
  | 0, _, _ => .error .unexpectedToken
  | n + 1, first, tokens => do
    let tokens ←
      match first, tokens with
      | false, .flowEntry :: rest => .ok rest
      | false, .flowMappingEnd :: _ => .ok tokens
      | false, _ => .error .unexpectedToken
      | true, _ => .ok tokens
    match tokens with
    | .flowMappingEnd :: rest => .ok ([], rest)
    | .key :: rest =>
      let (key, rest) ←
        if endsFlowKey .flowMappingEnd rest then .ok (empty, rest) else read g n false false rest
      let (value, rest) ← flowValue g .flowMappingEnd n rest
      let (entries, rest) ← flowEntries g n false rest
      .ok ((key, value) :: entries, rest)
    | .value :: _ =>
      if g.emptyKeys then do
        let (value, rest) ← flowValue g .flowMappingEnd n tokens
        let (entries, rest) ← flowEntries g n false rest
        .ok ((empty, value) :: entries, rest)
      else .error .unexpectedToken
    | _ =>
      let (key, rest) ← read g n false false tokens
      let (entries, rest) ← flowEntries g n false rest
      .ok ((key, empty) :: entries, rest)

end

/-! ## Documents -/

/-- Whether a version of YAML is one that can be read. -/
def knownVersion (major minor : Nat) : Bool := major == 1 && (minor == 1 || minor == 2)

/-- Reads the directives before a document: the handles that they declare, each at most once, and
whether there were any. -/
def readDirectives : (version : Bool) → Handles → List Token →
    Except Fault (Parsed (Bool × Handles))
  | version, handles, .directive (.version major minor) :: rest =>
    if version || !knownVersion major minor then .error .badDirective
    else readDirectives true handles rest
  | version, handles, .directive (.handle handle expansion) :: rest =>
    if (handles.lookup handle).isSome then .error .badDirective
    else readDirectives version ((handle, expansion) :: handles) rest
  | version, handles, tokens => .ok ((version || !handles.isEmpty, handles), tokens)

/-- Whether a document has no content. -/
def endsDocument : List Token → Bool
  | [] | .directive _ :: _ | .documentStart :: _ | .documentEnd :: _ => true
  | _ => false

/-- Reads a document. Only the first one of a text may do without a line that begins it. -/
def readDocument (d : Dialect) (fuel : Nat) (first : Bool) (tokens : List Token) :
    Except Fault (Parsed Node) := do
  let ((directives, handles), tokens) ← readDirectives false [] tokens
  let grammar : Grammar := ⟨handles ++ defaultHandles, d.emptyKeys⟩
  match tokens with
  | .documentStart :: rest =>
    if endsDocument rest then .ok (empty, rest) else read grammar fuel true false rest
  | _ =>
    if directives || !first then .error .unexpectedToken else read grammar fuel true false tokens

/-- Goes past the lines that end documents. -/
def skipEnds : List Token → List Token
  | .documentEnd :: rest => skipEnds rest
  | rest => rest

/-- Checks the documents after the first one, where there may be any. -/
def checkOthers (d : Dialect) (fuel : Nat) : Nat → List Token → Except Fault Unit
  | 0, _ => .error .unexpectedToken
  | n + 1, tokens => do
    let tokens := skipEnds tokens
    if tokens.isEmpty then .ok ()
    else if !d.manyDocuments then .error .severalDocuments
    else do
      let (_, rest) ← readDocument d fuel false tokens
      checkOthers d fuel n rest

/-- The first document of a text, if there is one. -/
def ofTokens (d : Dialect) (tokens : List Token) : Except Fault (Option Node) :=
  if tokens.isEmpty then .ok none
  else do
    let fuel := 2 * tokens.length + 2
    let (node, rest) ← readDocument d fuel true tokens
    checkOthers d fuel fuel rest
    .ok (some node)

end Node

/-- The first document of a text, if there is one. -/
def firstNode (d : Dialect) (text : List Char) : Except Fault (Option Node) := do
  Node.ofTokens d (← tokens d text)

end Settings.Yaml
