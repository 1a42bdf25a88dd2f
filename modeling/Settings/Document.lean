import Settings.Cache
import Settings.Filter
/-!
# Documents

A document is a row of top-level groups, with a cache of answers. Reading goes through
`Document.query`, which remembers what it finds; writing goes through `Document.setValue`, which
under the default policy forgets all of it.

An operation that may change a document answers with the new document beside its result. Groups are
remembered by position, so a remembered answer to a group shows that group as it is now.
-/

namespace Settings

/-- How a document behaves. -/
structure Options where
  /-- What a write does to remembered answers. -/
  cachePolicy : CachePolicy := .invalidateOnWrite
  /-- The greatest number of segments of an address that is followed. -/
  maxDepth : Nat := 64
  deriving DecidableEq, Repr, Inhabited

/-- Top-level groups in order, and remembered answers. -/
structure Document where
  groups : List Group := []
  cache : Cache := {}
  options : Options := {}
  deriving Inhabited

namespace Document

/-! ## Reading -/

/-- Follows an address from the top, without the cache: the first segment selects a top-level group,
and the others are followed below it. An address that is malformed or too long leads nowhere. -/
def resolve (d : Document) (path : String) : Except Miss Target :=
  match Address.parse path with
  | .error _ => .error .notFound
  | .ok address =>
    if address.segments.length > d.options.maxDepth then .error .notFound
    else
      match address.segments with
      | [] => .error .notFound
      | first :: rest =>
        match selectSibling? d.groups first.name first.offset with
        | none => .error .notFound
        | some (root, position) => (root.locate rest).map (Target.below position)

/-- The node at positions from the top. -/
def atTrail? (d : Document) : List Nat → Option Group
  | [] => none
  | position :: rest => d.groups[position]?.bind (·.atTrail? rest)

/-- The answer that a target stands for in the tree as it is now. -/
def reveal (d : Document) : Target → Lookup
  | .value v => .ok (.value v)
  | .group trail =>
    match d.atTrail? trail with
    | some node => .ok (.group node)
    | none => .error .notFound

/-- The target of an address: the remembered one, or else the one that the tree gives. -/
def target (d : Document) (path : String) : Except Miss Target :=
  (d.cache.find? path).getD (d.resolve path)

/-- The document after an address has been asked for. The empty text is never remembered. -/
def remember (d : Document) (path : String) : Document :=
  if path.isEmpty then d
  else
    match d.cache.find? path with
    | some _ => d
    | none => { d with cache := d.cache.insert path (d.resolve path) }

/-- Answers an address, and remembers the answer. -/
def query (d : Document) (path : String) : Lookup × Document :=
  if path.isEmpty then (.error .notFound, d)
  else ((d.target path).bind d.reveal, d.remember path)

/-- The scalar at an address, where `type` is the word for what was demanded. -/
def queryScalar (d : Document) (path type : String) : Except Error Scalar × Document :=
  let (answer, d) := d.query path
  let result := match answer with
    | .ok (.value (.scalar s)) => .ok s
    | .ok other => .error (.typeConversion other.kind type)
    | .error miss => .error (miss.toError path)
  (result, d)

def queryString (d : Document) (path : String) : Except Error String × Document :=
  let (result, d) := d.queryScalar path "string"
  (result.map Scalar.text, d)

def queryInt (d : Document) (path : String) : Except Error Int × Document :=
  let (result, d) := d.queryScalar path "integer"
  (result.bind Scalar.toInt, d)

def queryFloat (d : Document) (path : String) : Except Error Number.Binary64 × Document :=
  let (result, d) := d.queryScalar path "float"
  (result.bind Scalar.toFloat, d)

def queryBool (d : Document) (path : String) : Except Error Bool × Document :=
  let (result, d) := d.queryScalar path "boolean"
  (result.map Scalar.toBool, d)

/-- The top-level groups that a filter selects, each with its position. A text without an opening
bracket, or that is no filter, selects none. -/
def nodesAt (d : Document) (filter : String) : List (Group × Nat) :=
  if !filter.toList.contains '[' then []
  else
    match Filter.parse filter with
    | .error _ => []
    | .ok f => d.groups.zipIdx.filter fun (g, _) => f.matchesGroup g

/-- The top-level groups that a filter selects. -/
def nodes (d : Document) (filter : String) : List Group := (d.nodesAt filter).map Prod.fst

/-- The top-level group at a position. -/
def groupAt (d : Document) (index : Nat) : Except Error Group :=
  match d.groups[index]? with
  | some g => .ok g
  | none => .error (.indexOutOfRange "" index d.groups.length)

/-- The top-level group of a name, and of an offset among those of the name. -/
def group? (d : Document) (name : String) (offset : Option Nat) : Option Group :=
  (selectSibling? d.groups name offset).map Prod.fst

/-! ## Writing -/

def forgetAnswers (d : Document) : Document := { d with cache := .empty }

/-- What follows every write: unless they are to be retained, all answers are forgotten. -/
def afterWrite (d : Document) : Document :=
  match d.options.cachePolicy with
  | .invalidateOnWrite => d.forgetAnswers
  | .retain => d

/-- Assigns a scalar to a field of the first group of a name. Where no group goes by the name, a
group with that one field is put at the end. -/
def assignIn (name field : String) (value : Scalar) : List Group → List Group
  | [] => [(Group.named name).assign field value]
  | g :: rest =>
    if g.identifier = name then g.assign field value :: rest
    else g :: assignIn name field value rest

/-- Assigns a scalar to the field that an address names. What stands before the last point of the
address is the identifier of a top-level group, to the letter. An address that leads to a group is
refused, and so is one without a group part or a field part. -/
def setValue (d : Document) (path : String) (value : Scalar) : Except Error Unit × Document :=
  let (answer, d) := d.query path
  match answer with
  | .ok (.group _) =>
    (.error (.invalidMutation path "cannot assign a scalar over an entire group"), d)
  | _ =>
    match splitFieldAddress path with
    | .error e => (.error e, d)
    | .ok (name, field) =>
      (.ok (), { d with groups := assignIn name field value d.groups }.afterWrite)

/-- Puts groups at the end. Remembered answers stay, whatever the policy. -/
def extend (d : Document) (groups : List Group) : Document :=
  { d with groups := d.groups ++ groups }

def addGroup (d : Document) (g : Group) : Document := d.extend [g]

/-- Recomputes which groups are repeated, at every level. -/
def flagRepeats (d : Document) : Document :=
  { d with groups := Settings.flagRepeats d.groups }.afterWrite

end Document

end Settings
