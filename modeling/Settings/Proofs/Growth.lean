import Settings.Proofs.Assignment
import Settings.Proofs.Flags
/-!
# The tree only grows

No request takes a group away, moves it or renames it. What may change are the fields of top-level
groups, flags, and the end of the row of top-level groups. `RowGrows` compares a row with itself at
a later time: every group still stands in its place, as a group that it is related to, and all else
stands after them. Of the relation between the groups it is enough to know that it is a preorder
that an assignment keeps (`Lasting`), and that flagging keeps it where that is requested:
`Document.rowGrows_serve` is one request and `Document.rowGrows_run` a whole session.

The first such relation is `Group.GrowsInto`: identifier and metadata are the same, and so is all
that is below the group, apart from flags. What follows for positions is that they stay valid: a
node that is found at positions is found there forever after, under the same names
(`Document.GrowsInto.atTrail?` and `Document.GrowsInto.namesTo`).
-/

namespace Settings

variable {g g' g'' node : Group} {trail : List Nat}

namespace Group

/-! ## Groups without their flags -/

mutual

/-- A group with all flags dropped, its own and those of the groups below it. -/
def unflagged : Group → Group
  | ⟨identifier, _, fields, children, metadata⟩ =>
    ⟨identifier, false, fields, unflaggedAll children, metadata⟩

/-- Groups with all flags dropped. -/
def unflaggedAll : List Group → List Group
  | [] => []
  | g :: rest => unflagged g :: unflaggedAll rest

end

theorem unflaggedAll_eq_map (groups : List Group) : unflaggedAll groups = groups.map unflagged := by
  induction groups with
  | nil => rfl
  | cons g rest ih => rw [unflaggedAll, ih, List.map_cons]

@[simp] theorem identifier_unflagged (g : Group) : g.unflagged.identifier = g.identifier := by
  cases g
  rfl

@[simp] theorem children_unflagged (g : Group) :
    g.unflagged.children = unflaggedAll g.children := by
  cases g
  rfl

theorem unflagged_setFlag (g : Group) (flag : Bool) :
    unflagged { g with repeated := flag } = unflagged g := by
  cases g
  rfl

mutual

/-- Flagging changes nothing but flags. -/
theorem unflagged_flagBelow : ∀ g : Group, unflagged (flagBelow g) = unflagged g
  | ⟨_, _, _, children, _⟩ => by
    rw [flagBelow, unflagged, unflagged, unflaggedAll_flagAmong]

theorem unflaggedAll_flagAmong (again : List String) :
    ∀ groups : List Group, unflaggedAll (flagAmong again groups) = unflaggedAll groups
  | [] => rfl
  | g :: rest => by
    rw [flagAmong, unflaggedAll, unflaggedAll, unflagged_setFlag, unflagged_flagBelow g,
      unflaggedAll_flagAmong again rest]

end

/-! ## Positions in a tree -/

/-- The names of the groups on the way down to the node at positions. -/
def namesTo (g : Group) : List Nat → List String
  | [] => []
  | position :: rest =>
    match g.children[position]? with
    | some child => child.identifier :: child.namesTo rest
    | none => []

theorem namesTo_cons {child : Group} {position : Nat} (h : g.children[position]? = some child)
    (trail : List Nat) : g.namesTo (position :: trail) = child.identifier :: child.namesTo trail := by
  rw [namesTo, h]

theorem getElem?_unflaggedAll (groups : List Group) (position : Nat) :
    (unflaggedAll groups)[position]? = groups[position]?.map unflagged := by
  rw [unflaggedAll_eq_map, List.getElem?_map]

theorem atTrail?_unflagged (g : Group) (trail : List Nat) :
    g.unflagged.atTrail? trail = (g.atTrail? trail).map unflagged := by
  induction trail generalizing g with
  | nil => rfl
  | cons position rest ih =>
    rw [atTrail?, atTrail?, children_unflagged, getElem?_unflaggedAll]
    cases g.children[position]? with
    | none => rfl
    | some child => exact ih child

theorem namesTo_unflagged (g : Group) (trail : List Nat) :
    g.unflagged.namesTo trail = g.namesTo trail := by
  induction trail generalizing g with
  | nil => rfl
  | cons position rest ih =>
    rw [namesTo, namesTo, children_unflagged, getElem?_unflaggedAll]
    cases g.children[position]? with
    | none => rfl
    | some child =>
      show child.unflagged.identifier :: child.unflagged.namesTo rest = _
      rw [identifier_unflagged, ih]

/-! ## Growth of a group -/

/-- A top-level group at an earlier and a later time: its fields and its flag may change, and of the
groups below it nothing but the flags. -/
structure GrowsInto (g g' : Group) : Prop where
  identifier : g'.identifier = g.identifier
  metadata : g'.metadata = g.metadata
  children : unflaggedAll g'.children = unflaggedAll g.children

theorem GrowsInto.refl (g : Group) : g.GrowsInto g := ⟨rfl, rfl, rfl⟩

theorem GrowsInto.trans (h : g.GrowsInto g') (h' : g'.GrowsInto g'') : g.GrowsInto g'' where
  identifier := h'.identifier.trans h.identifier
  metadata := h'.metadata.trans h.metadata
  children := h'.children.trans h.children

theorem growsInto_assign (g : Group) (field : String) (value : Scalar) :
    g.GrowsInto (g.assign field value) := ⟨rfl, rfl, rfl⟩

theorem growsInto_flagged (g : Group) (flag : Bool) :
    g.GrowsInto (g.flagged flag) := by
  obtain ⟨identifier, repeated, fields, children, metadata⟩ := g
  exact ⟨rfl, rfl, unflaggedAll_flagAmong _ children⟩

/-- Below a group that grew, the nodes are what they were, apart from flags. -/
theorem GrowsInto.unflagged_atTrail? (h : g.GrowsInto g') (position : Nat) (rest : List Nat) :
    (g'.atTrail? (position :: rest)).map unflagged =
      (g.atTrail? (position :: rest)).map unflagged := by
  -- below the group itself, only its children are looked at
  have hchildren : g'.unflagged.children = g.unflagged.children := by
    rw [children_unflagged, children_unflagged, h.children]
  rw [← atTrail?_unflagged, ← atTrail?_unflagged, atTrail?, atTrail?, hchildren]

/-- So they stay where they are. -/
theorem GrowsInto.atTrail? (h : g.GrowsInto g') (hnode : g.atTrail? trail = some node) :
    ∃ node', g'.atTrail? trail = some node' := by
  cases trail with
  | nil => exact ⟨g', rfl⟩
  | cons position rest =>
    have hsame := h.unflagged_atTrail? position rest
    rw [hnode, Option.map_some, Option.map_eq_some_iff] at hsame
    obtain ⟨node', hnode', -⟩ := hsame
    exact ⟨node', hnode'⟩

/-- They keep their names. -/
theorem GrowsInto.namesTo (h : g.GrowsInto g') (trail : List Nat) :
    g'.namesTo trail = g.namesTo trail := by
  -- names are read off the children, so flags can be dropped on both sides
  have hrow : ∀ g : Group, g.namesTo trail =
      Group.namesTo { identifier := "", children := unflaggedAll g.children } trail := by
    intro g
    rw [← namesTo_unflagged]
    cases trail <;> cases g <;> rfl
  rw [hrow g', hrow g, h.children]

end Group

/-! ## Growth of a row -/

/-- A row of groups at an earlier and a later time: each group is still there in its place, as one
that it is related to, and all that is new stands after them. -/
inductive RowGrows (R : Group → Group → Prop) : List Group → List Group → Prop
  | added (row : List Group) : RowGrows R [] row
  | kept {g g' : Group} {row row' : List Group} (hg : R g g') (hrow : RowGrows R row row') :
      RowGrows R (g :: row) (g' :: row')

/-- A relation between a group at an earlier and a later time that goes on as long as only fields of
the group are assigned to. -/
structure Lasting (R : Group → Group → Prop) : Prop where
  refl : ∀ g, R g g
  trans : ∀ g g' g'', R g g' → R g' g'' → R g g''
  assign : ∀ g field value, R g (g.assign field value)

theorem lasting_growsInto : Lasting Group.GrowsInto :=
  ⟨Group.GrowsInto.refl, fun _ _ _ => .trans, Group.growsInto_assign⟩

namespace RowGrows

variable {R : Group → Group → Prop} {row row' row'' : List Group} {position : Nat}

theorem refl (hR : Lasting R) (row : List Group) : RowGrows R row row := by
  induction row with
  | nil => exact .added []
  | cons g rest ih => exact .kept (hR.refl g) ih

theorem trans (hR : Lasting R) (h : RowGrows R row row') (h' : RowGrows R row' row'') :
    RowGrows R row row'' := by
  induction h generalizing row'' with
  | added row => exact .added row''
  | kept hg _ ih =>
    cases h' with
    | kept hg' hrow' => exact .kept (hR.trans _ _ _ hg hg') (ih hrow')

theorem append (hR : Lasting R) (row extra : List Group) : RowGrows R row (row ++ extra) := by
  induction row with
  | nil => exact .added extra
  | cons g rest ih => exact .kept (hR.refl g) ih

theorem map {f : Group → Group} (hf : ∀ g, R g (f g)) (row : List Group) :
    RowGrows R row (row.map f) := by
  induction row with
  | nil => exact .added []
  | cons g rest ih => exact .kept (hf g) ih

/-- An assignment changes one group where it stands, or puts one at the end. -/
theorem assignIn (hR : Lasting R) (name field : String) (value : Scalar) (row : List Group) :
    RowGrows R row (Document.assignIn name field value row) := by
  induction row with
  | nil => exact .added _
  | cons g rest ih =>
    rw [Document.assignIn]
    by_cases hname : g.identifier = name
    · rw [if_pos hname]
      exact .kept (hR.assign g field value) (refl hR rest)
    · rw [if_neg hname]
      exact .kept (hR.refl g) ih

/-- The group at a position is related to the one at that position later on. -/
theorem getElem? (h : RowGrows R row row') (hg : row[position]? = some g) :
    ∃ g', row'[position]? = some g' ∧ R g g' := by
  induction h generalizing position with
  | added row => cases hg
  | kept hfirst _ ih =>
    cases position with
    | zero =>
      obtain rfl := Option.some.inj hg
      exact ⟨_, rfl, hfirst⟩
    | succ position => exact ih hg

end RowGrows

/-! ## Growth of a document -/

namespace Document

variable {d d' : Document} {R : Group → Group → Prop}

theorem rowGrows_assign (hR : Lasting R) (d : Document) (name field : String) (value : Scalar) :
    RowGrows R d.groups (d.assign name field value).groups := by
  rw [groups_assign]
  exact .assignIn hR name field value d.groups

/-- One request keeps a lasting relation, provided that it allows for flagging where that is what is
requested. -/
theorem rowGrows_serve (hR : Lasting R) (d : Document) {r : Request}
    (hflag : r = .flagRepeats → ∀ g flag, R g (Group.flagged g flag)) :
    RowGrows R d.groups (d.serve r).2.groups := by
  have hstep := d.serve_step r
  generalize (d.serve r).2 = after at hstep
  cases hstep with
  | looked _ _ _ =>
    rw [groups_remember]
    exact .refl hR d.groups
  | extended _ _ => exact .append hR d.groups r.appended
  | forgotten => exact .refl hR d.groups
  | flagged =>
    rw [flagRepeats, groups_afterWrite, flagRepeats_eq_map]
    exact .map (fun g => hflag rfl g _) d.groups
  | @assigned path name field value _ _ =>
    have hgrows := rowGrows_assign hR (d.remember path) name field value
    rwa [groups_remember] at hgrows

/-- So does a whole session. -/
theorem rowGrows_run (hR : Lasting R) (d : Document) (requests : List Request)
    (hflag : .flagRepeats ∈ requests → ∀ g flag, R g (Group.flagged g flag)) :
    RowGrows R d.groups (d.run requests).groups := by
  induction requests generalizing d with
  | nil => exact .refl hR d.groups
  | cons r rest ih =>
    have hfirst : RowGrows R d.groups (d.serve r).2.groups :=
      rowGrows_serve hR d fun hr => hflag (hr ▸ List.mem_cons_self)
    have hrest := ih (d.serve r).2 fun hmem => hflag (List.mem_cons_of_mem r hmem)
    exact hfirst.trans hR hrest

/-- A document at an earlier and a later time: each top-level group is still there. -/
def GrowsInto (d d' : Document) : Prop :=
  ∀ (position : Nat) (g : Group), d.groups[position]? = some g →
    ∃ g', d'.groups[position]? = some g' ∧ g.GrowsInto g'

theorem growsInto_of_rowGrows (h : RowGrows Group.GrowsInto d.groups d'.groups) : d.GrowsInto d' :=
  fun _ _ => h.getElem?

theorem growsInto_of_groups_eq (h : d'.groups = d.groups) : d.GrowsInto d' :=
  growsInto_of_rowGrows (h ▸ .refl lasting_growsInto d.groups)

theorem growsInto_assign (d : Document) (name field : String) (value : Scalar) :
    d.GrowsInto (d.assign name field value) :=
  growsInto_of_rowGrows (rowGrows_assign lasting_growsInto d name field value)

/-- One request lets the tree grow, or leaves it as it is. -/
theorem growsInto_serve (d : Document) (r : Request) : d.GrowsInto (d.serve r).2 :=
  growsInto_of_rowGrows (rowGrows_serve lasting_growsInto d fun _ => Group.growsInto_flagged)

/-- What is found at positions is found there at any later time. -/
theorem GrowsInto.atTrail? (h : d.GrowsInto d') (hnode : d.atTrail? trail = some node) :
    ∃ node', d'.atTrail? trail = some node' := by
  cases trail with
  | nil => cases hnode
  | cons position rest =>
    rw [Document.atTrail?, Option.bind_eq_some_iff] at hnode
    obtain ⟨g, hg, hbelow⟩ := hnode
    obtain ⟨g', hg', hgrows⟩ := h position g hg
    obtain ⟨node', hnode'⟩ := hgrows.atTrail? hbelow
    exact ⟨node', by rw [Document.atTrail?, hg', Option.bind_some, hnode']⟩

/-- The names on the way to it are what they were. -/
theorem GrowsInto.namesTo (h : d.GrowsInto d') (hnode : d.atTrail? trail = some node) :
    d'.root.namesTo trail = d.root.namesTo trail := by
  cases trail with
  | nil => cases hnode
  | cons position rest =>
    rw [Document.atTrail?, Option.bind_eq_some_iff] at hnode
    obtain ⟨g, hg, -⟩ := hnode
    obtain ⟨g', hg', hgrows⟩ := h position g hg
    have hg_root : d.root.children[position]? = some g := hg
    have hg_root' : d'.root.children[position]? = some g' := hg'
    rw [Group.namesTo_cons hg_root', Group.namesTo_cons hg_root, hgrows.identifier,
      hgrows.namesTo rest]

end Document

end Settings
