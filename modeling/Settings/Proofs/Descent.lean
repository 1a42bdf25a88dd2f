import Settings.Proofs.Composition
/-!
# Looking down a tree

What an address leads to, said without positions: a segment leads to a child if it selects one, and
at the end of the address to a field if it does not. `Site.look` says so, one segment after the
other, of a node and not of a group, since groups that hold the same are still different nodes.

The resolver does not hold on to nodes. It goes down in a loop that notes the positions of the
children that it passes (`Group.pursue`), and from these a node is looked for again afterwards, from
the top. What the loop keeps is that the positions noted so far lead to where it is
(`Group.pursue_eq`, `Site.stands_of_look`), so the answers are those of looking, down to the very
node (`Document.query_eq_look`).
-/

namespace Settings

/-! ## Sites -/

/-- A node of a tree: the group, and the positions that are passed on the way down to it, by which
it differs from all other nodes. -/
structure Site where
  place : List Nat
  group : Group

/-- What is seen from a node: the value of a field, or a node. -/
inductive Sight
  | value (value : FieldValue)
  | node (site : Site)

namespace Sight

/-- What is seen, as an answer. -/
def found : Sight → Found
  | value v => .value v
  | node site => .group site.group

/-- What is seen, with a node given by its positions. -/
def target : Sight → Target
  | value v => .value v
  | node site => .group site.place

end Sight

namespace Site

/-- The nodes of a row of groups that stand below a place. -/
def row (place : List Nat) (groups : List Group) : List Site :=
  groups.zipIdx.map fun (g, position) => ⟨place ++ [position], g⟩

/-- The node that a segment selects among others: the first one of the name, or with an offset the
one at that place among those of the name, if it is flagged as repeated. -/
def select? (sites : List Site) (s : Segment) : Option Site :=
  let named := sites.filter fun site => site.group.identifier = s.name
  match s.offset with
  | none => named.head?
  | some n => named[n]?.filter fun site => site.group.repeated

/-- What is seen of a field: a scalar whatever the offset, an array without one, and with one the
item there. -/
def seenAt (offset : Option Nat) : FieldValue → Except Miss Sight
  | .scalar s => .ok (.value (.scalar s))
  | .array items =>
    match offset with
    | none => .ok (.value (.array items))
    | some n =>
      if h : n < items.length then .ok (.value (.scalar items[n]))
      else .error (.indexOutOfRange n items.length)

/-- What segments lead to from a node. -/
def look (site : Site) : List Segment → Except Miss Sight
  | [] => .ok (.node site)
  | s :: rest =>
    match select? (row site.place site.group.children) s with
    | some child => child.look rest
    | none =>
      match rest with
      | [] =>
        match site.group.field? s.name with
        | some v => seenAt s.offset v
        | none => .error .notFound
      | _ :: _ => .error .notFound

end Site

/-! ## The loop -/

/-- A target seen from further up, where the node that it starts from is found at positions. -/
def Target.under (place : List Nat) : Target → Target
  | value v => value v
  | group trail => group (place ++ trail)

@[simp] theorem Target.under_nil (target : Target) : target.under [] = target := by
  cases target <;> rfl

theorem Target.under_below (place : List Nat) (position : Nat) (target : Target) :
    (target.below position).under place = target.under (place ++ [position]) := by
  cases target with
  | value v => rfl
  | group trail =>
    show group (place ++ position :: trail) = group (place ++ [position] ++ trail)
    rw [List.append_assoc, List.singleton_append]

/-- Follows segments in a loop that is at a node, and has noted the positions on the way to it. -/
def Group.pursue (current : Group) (trail : List Nat) : List Segment → Except Miss Target
  | [] => .ok (.group trail)
  | s :: rest =>
    match selectSibling? current.children s.name s.offset with
    | some (child, position) => child.pursue (trail ++ [position]) rest
    | none =>
      match rest with
      | [] =>
        match current.field? s.name with
        | some v => (v.atOffset s.offset).map .value
        | none => .error .notFound
      | _ :: _ => .error .notFound

theorem map_map_except {ε α β γ : Type} (x : Except ε α) (f : α → β) (g : β → γ) :
    (x.map f).map g = x.map fun a => g (f a) := by
  cases x <;> rfl

/-- Whatever has been noted before, the loop adds the positions that lead on from where it is. -/
theorem Group.pursue_eq (g : Group) (trail : List Nat) (segments : List Segment) :
    g.pursue trail segments = (g.locate segments).map (Target.under trail) := by
  induction segments generalizing g trail with
  | nil =>
    show Except.ok (Target.group trail) = .ok (.group (trail ++ []))
    rw [List.append_nil]
  | cons s rest ih =>
    unfold pursue
    cases hselect : selectSibling? g.children s.name s.offset with
    | some found =>
      obtain ⟨child, position⟩ := found
      rw [locate_cons_of_child hselect, map_map_except]
      dsimp only
      rw [ih]
      exact congrArg (Except.map · _) (funext fun target => (Target.under_below _ _ target).symm)
    | none =>
      rw [locate_cons, hselect]
      cases rest with
      | cons t more => rfl
      | nil =>
        cases g.field? s.name with
        | none => rfl
        | some v =>
          dsimp only
          cases v.atOffset s.offset <;> rfl

namespace Site

variable {site node : Site} {root : Group} {s : Segment} {segments : List Segment}

/-! ## Looking and locating -/

/-- A segment selects the node of the sibling that it selects. -/
theorem select?_row (place : List Nat) (groups : List Group) (s : Segment) :
    select? (row place groups) s = (selectSibling? groups s.name s.offset).map fun found =>
      ⟨place ++ [found.2], found.1⟩ := by
  have hnamed : (row place groups).filter (fun site => site.group.identifier = s.name) =
      (sameNamed groups s.name).map fun found => ⟨place ++ [found.2], found.1⟩ := by
    rw [row, List.filter_map]
    rfl
  rw [select?, hnamed]
  cases s.offset with
  | none => rw [selectSibling?, List.head?_map]
  | some n =>
    dsimp only
    rw [selectSibling?, List.getElem?_map]
    cases (sameNamed groups s.name)[n]? with
    | none => rfl
    | some found => cases hrepeated : found.1.repeated <;> simp [Option.filter, hrepeated]

theorem look_cons (site : Site) (s : Segment) (rest : List Segment) :
    site.look (s :: rest) =
      match select? (row site.place site.group.children) s with
      | some child => child.look rest
      | none =>
        match rest with
        | [] =>
          match site.group.field? s.name with
          | some v => seenAt s.offset v
          | none => .error .notFound
        | _ :: _ => .error .notFound := rfl

theorem seenAt_eq (offset : Option Nat) (v : FieldValue) :
    seenAt offset v = (v.atOffset offset).map .value := by
  rcases v with s | items
  · rfl
  · cases offset with
    | none => rfl
    | some n =>
      rw [FieldValue.atOffset, seenAt]
      by_cases h : n < items.length
      · rw [dif_pos h, List.getElem?_eq_getElem h]
        rfl
      · rw [dif_neg h, List.getElem?_eq_none (Nat.le_of_not_lt h)]
        rfl

/-- The loop goes where looking goes, with the positions of the node that it is at. -/
theorem map_target_look (site : Site) (segments : List Segment) :
    (site.look segments).map Sight.target = site.group.pursue site.place segments := by
  induction segments generalizing site with
  | nil => rfl
  | cons s rest ih =>
    unfold Group.pursue
    rw [look_cons, select?_row]
    cases selectSibling? site.group.children s.name s.offset with
    | some found => exact ih ⟨site.place ++ [found.2], found.1⟩
    | none =>
      cases rest with
      | cons t more => rfl
      | nil =>
        cases site.group.field? s.name with
        | none => rfl
        | some v =>
          dsimp only [Option.map_none]
          rw [seenAt_eq]
          cases v.atOffset s.offset <;> rfl

/-! ## Finding a node again -/

/-- The positions of a node lead from the root of a tree to the group that stands there. -/
def Stands (root : Group) (site : Site) : Prop := root.atTrail? site.place = some site.group

/-- Whatever is selected below a node of a tree is a node of the tree. -/
theorem Stands.select? (h : Stands root site)
    (hselect : select? (row site.place site.group.children) s = some node) : Stands root node := by
  rw [select?_row, Option.map_eq_some_iff] at hselect
  obtain ⟨⟨child, position⟩, hchild, rfl⟩ := hselect
  show root.atTrail? (site.place ++ [position]) = some child
  rw [Group.atTrail?_append, h]
  exact Group.atTrail?_cons (getElem?_of_selectSibling? hchild) []

/-- So is whatever is seen from it. -/
theorem Stands.look (h : Stands root site) (hlook : site.look segments = .ok (.node node)) :
    Stands root node := by
  induction segments generalizing site with
  | nil =>
    cases hlook
    exact h
  | cons s rest ih =>
    rw [look_cons] at hlook
    cases hselect : Site.select? (row site.place site.group.children) s with
    | some child =>
      rw [hselect] at hlook
      exact ih (h.select? hselect) hlook
    | none =>
      -- all that is left to be seen is a field
      rw [hselect] at hlook
      cases rest with
      | cons t more => cases hlook
      | nil =>
        cases hv : site.group.field? s.name with
        | none => rw [hv] at hlook; cases hlook
        | some v =>
          rw [hv] at hlook
          dsimp only at hlook
          rw [seenAt_eq] at hlook
          cases hat : v.atOffset s.offset with
          | error miss => rw [hat] at hlook; cases hlook
          | ok item => rw [hat] at hlook; cases hlook

/-- What was seen is found again by its positions. -/
theorem Stands.reveal_target {sight : Sight} (h : Stands root site)
    (hlook : site.look segments = .ok sight) : root.reveal sight.target = .ok sight.found := by
  cases sight with
  | value v => rfl
  | node node =>
    have hnode : root.atTrail? node.place = some node.group := h.look hlook
    show root.reveal (.group node.place) = .ok (.group node.group)
    rw [Group.reveal, hnode]

end Site

namespace Group

theorem locate_eq_pursue (g : Group) (segments : List Segment) :
    g.locate segments = g.pursue [] segments := by
  rw [pursue_eq, funext Target.under_nil]
  cases g.locate segments <;> rfl

/-- The answers below a group are what is seen from it. -/
theorem answer_eq_look (g : Group) (segments : List Segment) :
    g.answer segments = (Site.look ⟨[], g⟩ segments).map Sight.found := by
  rw [answer, locate_eq_pursue, ← Site.map_target_look ⟨[], g⟩]
  cases hlook : Site.look ⟨[], g⟩ segments with
  | error miss => rfl
  | ok sight =>
    have hstands : Site.Stands g ⟨[], g⟩ := rfl
    exact hstands.reveal_target hlook

end Group

namespace Document

variable {d : Document}

/-- From the root of a document, looking begins with a top-level group. -/
theorem look_root (d : Document) (first : Segment) (rest : List Segment) :
    Site.look ⟨[], d.root⟩ (first :: rest) =
      match Site.select? (Site.row [] d.groups) first with
      | some top => top.look rest
      | none => .error .notFound := by
  rw [Site.look_cons]
  show (match Site.select? (Site.row [] d.groups) first with
    | some top => top.look rest
    | none => _) = _
  -- the root has no fields
  cases Site.select? (Site.row [] d.groups) first with
  | some top => rfl
  | none => cases rest <;> rfl

/-- A node that is seen from a top-level group is found by its positions from the top. -/
theorem atTrail?_of_look {first : Segment} {rest : List Segment} {top node : Site}
    (hselect : Site.select? (Site.row [] d.groups) first = some top)
    (hlook : top.look rest = .ok (.node node)) : d.atTrail? node.place = some node.group := by
  have hroot : Site.Stands d.root ⟨[], d.root⟩ := rfl
  have hnode : d.root.atTrail? node.place = some node.group := (hroot.select? hselect).look hlook
  have hbelow : Site.look ⟨[], d.root⟩ (first :: rest) = .ok (.node node) := by
    rw [look_root, hselect]
    exact hlook
  -- a segment has been followed, so the node is not the root
  have hlocate : d.root.locate (first :: rest) = .ok (.group node.place) := by
    rw [Group.locate_eq_pursue, ← Site.map_target_look ⟨[], d.root⟩, hbelow]
    rfl
  have hlength := Group.length_of_locate_eq_group hlocate
  rw [← atTrail?_root d (List.ne_nil_of_length_eq_add_one hlength), hnode]

/-- **The resolver looks down the tree.** Where nothing is remembered, a text that is empty, no
address, or too long leads nowhere. Any other address leads to what is seen from the top-level group
that its first segment selects, and nowhere if there is none; a node is found again by the positions
that the query goes by, and no other node. An address below a group leads to what is seen from the
group. And the resolver that queries go by is the loop. -/
theorem query_eq_look (empty : d.cache.entries = []) :
    (∀ path, (path = "" ∨ (∃ e, Address.parse path = .error e) ∨
        ∃ address, Address.parse path = .ok address ∧
          d.options.maxDepth < address.segments.length) →
      (d.query path).1 = .error .notFound) ∧
    (∀ path first rest, Address.parse path = .ok ⟨first :: rest⟩ →
      (first :: rest).length ≤ d.options.maxDepth →
      (Site.select? (Site.row [] d.groups) first = none → (d.query path).1 = .error .notFound) ∧
      ∀ top, Site.select? (Site.row [] d.groups) first = some top →
        (d.query path).1 = (top.look rest).map Sight.found ∧
        d.target path = (top.look rest).map Sight.target ∧
        ∀ node, top.look rest = .ok (.node node) → d.atTrail? node.place = some node.group) ∧
    (∀ (g : Group) (path : String), g.query path =
      match Address.parse path with
      | .error _ => .error .notFound
      | .ok address => (Site.look ⟨[], g⟩ address.segments).map Sight.found) ∧
    (∀ (g : Group) (segments : List Segment), g.locate segments = g.pursue [] segments) := by
  have hquery : ∀ path, (d.query path).1 = d.lookup path := query_of_entries_eq_nil empty
  refine ⟨?_, ?_, ?_, Group.locate_eq_pursue⟩
  · rintro path (rfl | ⟨e, hparse⟩ | ⟨address, hparse, hdepth⟩)
    · rfl
    · rw [hquery, lookup_of_parse_error hparse]
    · rw [hquery, lookup_of_parse hparse, if_neg (Nat.not_le_of_lt hdepth)]
  · intro path first rest hparse hdepth
    have hlookup : (d.query path).1 =
        (Site.look ⟨[], d.root⟩ (first :: rest)).map Sight.found := by
      rw [hquery, lookup_of_parse hparse, if_pos hdepth, Group.answer_eq_look]
    have htarget : d.target path =
        (Site.look ⟨[], d.root⟩ (first :: rest)).map Sight.target := by
      rw [target_of_entries_eq_nil empty, resolve_of_parse hparse, if_pos hdepth,
        Group.locate_eq_pursue, ← Site.map_target_look ⟨[], d.root⟩]
    rw [look_root] at hlookup htarget
    constructor
    · intro hnone
      rw [hlookup, hnone]
      rfl
    · intro top htop
      rw [htop] at hlookup htarget
      exact ⟨hlookup, htarget, fun node hnode => atTrail?_of_look htop hnode⟩
  · intro g path
    cases hparse : Address.parse path with
    | error e => exact Group.query_of_parse_error hparse
    | ok address => rw [Group.query_of_parse hparse, Group.answer_eq_look]

/-- A group with two children of one name, which hold the same, and a field of that name. -/
def shadowDocument : Document where
  groups := [Group.named "z",
    { identifier := "a",
      fields := .ofList [⟨"b", .scalar ⟨"0"⟩⟩, ⟨"x", .array [⟨"1"⟩, ⟨"2"⟩]⟩],
      children := [{ identifier := "b", repeated := true },
        { identifier := "b", repeated := true }] }]

/-- The name leads to the first child and not to the field, and with an offset to the second child
and not to its double. An item of the array is looked at by its offset, up to the end. -/
theorem query_eq_look_shadow :
    shadowDocument.cache.entries = [] ∧
      shadowDocument.target "a.b" = .ok (.group [1, 0]) ∧
      shadowDocument.target "a.b[1]" = .ok (.group [1, 1]) ∧
      shadowDocument.atTrail? [1, 1] = some { identifier := "b", repeated := true } ∧
      (shadowDocument.query "a.x[1]").1 = .ok (.value (.scalar ⟨"2"⟩)) ∧
      (shadowDocument.query "a.x[2]").1 = .error (.indexOutOfRange 2 2) ∧
      (shadowDocument.query "a[0].x").1 = .error .notFound ∧
      (shadowDocument.query "a.").1 = .error .notFound := by
  obtain ⟨hnowhere, hlook, -, -⟩ := query_eq_look (d := shadowDocument) rfl
  have hbelow := fun path rest (hparse : Address.parse path = .ok ⟨⟨"a", none⟩ :: rest⟩) hdepth =>
    (hlook path ⟨"a", none⟩ rest hparse hdepth).2 _ rfl
  obtain ⟨-, hfirst, -⟩ := hbelow "a.b" [⟨"b", none⟩] rfl (by decide)
  obtain ⟨-, hsecond, hstands⟩ := hbelow "a.b[1]" [⟨"b", some 1⟩] rfl (by decide)
  refine ⟨rfl, hfirst, hsecond, hstands _ rfl, ?_, ?_, ?_, ?_⟩
  · exact (hbelow "a.x[1]" [⟨"x", some 1⟩] rfl (by decide)).1
  · exact (hbelow "a.x[2]" [⟨"x", some 2⟩] rfl (by decide)).1
  · exact (hlook "a[0].x" ⟨"a", some 0⟩ [⟨"x", none⟩] rfl (by decide)).1 rfl
  · exact hnowhere "a." (.inr (.inl ⟨_, rfl⟩))

end Document

end Settings
