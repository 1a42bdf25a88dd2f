import Settings.Address
import Settings.Field
import Settings.Metadata
/-!
# Groups

A group is a named node with fields, child groups and metadata. Children may share a name: an offset
tells them apart, provided that the group it selects is flagged as repeated.

An address is followed downwards by `Group.locate`, which answers with positions, so that the answer
stays meaningful while fields change; `Group.atTrail?` turns positions into a node again.
-/

namespace Settings

/-- A node of the tree. -/
structure Group where
  identifier : String
  repeated : Bool := false
  fields : Fields := .empty
  children : List Group := []
  metadata : Metadata := .empty
  deriving Repr, Inhabited

/-- What an address leads to. -/
inductive Found
  | value (value : FieldValue)
  | group (group : Group)
  deriving Repr, Inhabited

/-- What an address leads to, where a group is given by the positions passed on the way down to it.
-/
inductive Target
  | value (value : FieldValue)
  | group (trail : List Nat)
  deriving DecidableEq, Repr, Inhabited

/-- An answer to an address. -/
abbrev Lookup := Except Miss Found

namespace Found

/-- The word for what was found. -/
def kind : Found → String
  | value (.scalar _) => "scalar"
  | value (.array _) => "array"
  | group _ => "group"

end Found

/-- A target seen from one level further up, where the node it starts from stands at `position`. -/
def Target.below (position : Nat) : Target → Target
  | value v => value v
  | group trail => group (position :: trail)

/-! ## Siblings -/

/-- The siblings of a name, each with its position among all siblings. -/
def sameNamed (siblings : List Group) (name : String) : List (Group × Nat) :=
  siblings.zipIdx.filter fun (g, _) => g.identifier = name

/-- Selects a sibling. Without an offset it is the first of the name. With an offset it is the one
of the name that so many others of the name precede, and it has to be flagged as repeated. -/
def selectSibling? (siblings : List Group) (name : String) : Option Nat → Option (Group × Nat)
  | none => (sameNamed siblings name).head?
  | some n => (sameNamed siblings name)[n]?.filter fun (g, _) => g.repeated

namespace Group

/-- A group without contents. -/
def named (identifier : String) : Group := { identifier }

/-! ## Fields and children -/

def field? (g : Group) (name : String) : Option FieldValue := Fields.find? name g.fields

/-- Assigns a scalar to a field. A new field is a scalar, and an array stays an array. -/
def assign (g : Group) (name : String) (value : Scalar) : Group :=
  let change (old : Option FieldValue) := (old.getD (.scalar value)).assigned value
  { g with fields := Fields.write name change g.fields }

/-- Puts a value under a name, whatever was there. -/
def insertField (g : Group) (name : String) (value : FieldValue) : Group :=
  { g with fields := Fields.write name (fun _ => value) g.fields }

/-- Appends an item to an array field; a new field is an array. -/
def appendItem (g : Group) (name : String) (item : Scalar) : Group :=
  { g with fields := Fields.write name (fun old => (old.getD (.array [])).appended item) g.fields }

def addChild (g child : Group) : Group := { g with children := g.children ++ [child] }

/-- The child of a name, and of an offset among those of the name. -/
def child? (g : Group) (name : String) (offset : Option Nat) : Option Group :=
  (selectSibling? g.children name offset).map Prod.fst

/-! ## Following an address -/

/-- Follows segments downwards. Each one selects a child if it can; the last one may name a field
where no child goes by its name and offset. -/
def locate (g : Group) : List Segment → Except Miss Target
  | [] => .ok (.group [])
  | s :: rest =>
    match selectSibling? g.children s.name s.offset with
    | some (child, position) => (child.locate rest).map (Target.below position)
    | none =>
      match rest, g.field? s.name with
      | [], some value => (value.atOffset s.offset).map .value
      | _, _ => .error .notFound

/-- The node that positions lead down to. -/
def atTrail? (g : Group) : List Nat → Option Group
  | [] => some g
  | position :: rest =>
    match g.children[position]? with
    | some child => child.atTrail? rest
    | none => none

/-- The answer that a target stands for. -/
def reveal (g : Group) : Target → Lookup
  | .value v => .ok (.value v)
  | .group trail =>
    match g.atTrail? trail with
    | some node => .ok (.group node)
    | none => .error .notFound

/-- The answer to an address below a group. A malformed address leads nowhere. -/
def query (g : Group) (path : String) : Lookup :=
  match Address.parse path with
  | .error _ => .error .notFound
  | .ok address => (g.locate address.segments).bind g.reveal

/-! ## Equality -/

mutual

/-- Whether two groups say the same. The order of fields does not count, that of children does. -/
def same (a b : Group) : Bool :=
  match a, b with
  | ⟨identifier, repeated, fields, children, metadata⟩,
    ⟨identifier', repeated', fields', children', metadata'⟩ =>
    identifier == identifier' && repeated == repeated' && metadata == metadata' &&
      Fields.same fields fields' && sameAll children children'

/-- Whether two lists of groups say the same, one by one. -/
def sameAll : List Group → List Group → Bool
  | [], [] => true
  | a :: as, b :: bs => same a b && sameAll as bs
  | _, _ => false

end

/-! ## Repeated siblings -/

/-- The names that stand in a row at least twice, picked in one pass that keeps the names `seen`
so far: a name is picked whenever it has been seen before. -/
def seenAgain (seen : List String) : List String → List String
  | [] => []
  | name :: rest =>
    if name ∈ seen then name :: seenAgain seen rest else seenAgain (name :: seen) rest

mutual

/-- Recomputes the flags of all groups below one. -/
def flagBelow : Group → Group
  | ⟨identifier, repeated, fields, children, metadata⟩ =>
    let again := seenAgain [] (children.map (·.identifier))
    ⟨identifier, repeated, fields, flagAmong again children, metadata⟩

/-- Recomputes the flags of groups and of all groups below them, where `again` are the names that
several of the siblings have: a group is repeated when its identifier is one of them. -/
def flagAmong (again : List String) : List Group → List Group
  | [] => []
  | g :: rest =>
    { flagBelow g with repeated := g.identifier ∈ again } :: flagAmong again rest

end

end Group

/-- Recomputes which groups among siblings, and at every level below them, are repeated. -/
def flagRepeats (siblings : List Group) : List Group :=
  Group.flagAmong (Group.seenAgain [] (siblings.map (·.identifier))) siblings

end Settings
