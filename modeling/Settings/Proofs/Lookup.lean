import Settings.Document
import Settings.Proofs.AddressText
import Settings.Proofs.Siblings
/-!
# What the tree answers

Reading an address takes two steps: `Group.locate` finds positions, and `Group.reveal` turns them
into a node. Here the two are put together. `Group.answer` is what segments lead to below a group,
and its equations follow the segments one by one. `Document.lookup` is what an address leads to in a
document whatever is remembered; with the top-level groups as the children of one nameless
`Document.root` it is an answer of that root (`Document.lookup_of_parse`).
-/

namespace Settings

/-! ## Answers below a group -/

namespace Group

variable {g child : Group} {s : Segment} {rest : List Segment} {position : Nat}

/-- What segments lead to below a group. -/
def answer (g : Group) (segments : List Segment) : Lookup := (g.locate segments).bind g.reveal

theorem locate_cons (g : Group) (s : Segment) (rest : List Segment) :
    g.locate (s :: rest) =
      match selectSibling? g.children s.name s.offset with
      | some (child, position) => (child.locate rest).map (Target.below position)
      | none =>
        match rest, g.field? s.name with
        | [], some v => (v.atOffset s.offset).map .value
        | _, _ => .error .notFound := rfl

/-- A segment that selects a child hands the others on to it. -/
theorem locate_cons_of_child
    (h : selectSibling? g.children s.name s.offset = some (child, position)) :
    g.locate (s :: rest) = (child.locate rest).map (Target.below position) := by
  rw [locate_cons, h]

/-- The last segment names a field where it selects no child. -/
theorem locate_field {v : FieldValue} (h : selectSibling? g.children s.name s.offset = none)
    (hv : g.field? s.name = some v) : g.locate [s] = (v.atOffset s.offset).map .value := by
  rw [locate_cons, h, hv]

/-- Without a child to select, a segment that is not the last or names no field leads nowhere. -/
theorem locate_cons_of_none (h : selectSibling? g.children s.name s.offset = none)
    (hmiss : rest = [] → g.field? s.name = none) : g.locate (s :: rest) = .error .notFound := by
  rw [locate_cons, h]
  cases rest with
  | nil => rw [hmiss rfl]
  | cons t rest => rfl

theorem atTrail?_cons (h : g.children[position]? = some child) (trail : List Nat) :
    g.atTrail? (position :: trail) = child.atTrail? trail := by
  rw [atTrail?, h]

/-- The first of the positions that lead to a node is that of a child. -/
theorem exists_child_of_atTrail? {node : Group} {trail : List Nat}
    (h : g.atTrail? (position :: trail) = some node) :
    ∃ child, g.children[position]? = some child ∧ child.atTrail? trail = some node := by
  cases hchild : g.children[position]? with
  | none => rw [atTrail?, hchild] at h; cases h
  | some child =>
    rw [atTrail?_cons hchild] at h
    exact ⟨child, rfl, h⟩

/-- Positions in two rows lead down one after the other. -/
theorem atTrail?_append (g : Group) (trail more : List Nat) :
    g.atTrail? (trail ++ more) = (g.atTrail? trail).bind (·.atTrail? more) := by
  induction trail generalizing g with
  | nil => rfl
  | cons position rest ih =>
    rw [List.cons_append, atTrail?, atTrail?]
    cases g.children[position]? with
    | none => rfl
    | some child => exact ih child

theorem reveal_below (h : g.children[position]? = some child) (target : Target) :
    g.reveal (target.below position) = child.reveal target := by
  cases target with
  | value v => rfl
  | group trail => simp only [Target.below, reveal, atTrail?_cons h]

@[simp] theorem answer_nil (g : Group) : g.answer [] = .ok (.group g) := rfl

theorem answer_cons_of_child
    (h : selectSibling? g.children s.name s.offset = some (child, position)) :
    g.answer (s :: rest) = child.answer rest := by
  have hchild := getElem?_of_selectSibling? h
  unfold answer
  rw [locate_cons_of_child h]
  cases child.locate rest with
  | error miss => rfl
  | ok target => exact reveal_below hchild target

theorem answer_field {v : FieldValue} (h : selectSibling? g.children s.name s.offset = none)
    (hv : g.field? s.name = some v) : g.answer [s] = (v.atOffset s.offset).map .value := by
  unfold answer
  rw [locate_field h hv]
  cases v.atOffset s.offset <;> rfl

theorem answer_cons_of_none (h : selectSibling? g.children s.name s.offset = none)
    (hmiss : rest = [] → g.field? s.name = none) : g.answer (s :: rest) = .error .notFound := by
  unfold answer
  rw [locate_cons_of_none h hmiss]
  rfl

/-- Segments that lead to a group select a child first, and the rest of them leads on from it. -/
theorem exists_child_of_locate_eq_group {trail : List Nat}
    (h : g.locate (s :: rest) = .ok (.group trail)) :
    ∃ child position below, selectSibling? g.children s.name s.offset = some (child, position) ∧
      child.locate rest = .ok (.group below) ∧ trail = position :: below := by
  cases hselect : selectSibling? g.children s.name s.offset with
  | some found =>
    rw [locate_cons_of_child hselect] at h
    cases hlocate : found.1.locate rest with
    | error miss => rw [hlocate] at h; cases h
    | ok target =>
      rw [hlocate] at h
      cases target with
      | value v => cases h
      | group below =>
        cases h
        exact ⟨found.1, found.2, below, rfl, hlocate, rfl⟩
  | none =>
    -- only a field can be meant, and a field is no group
    rw [locate_cons, hselect] at h
    cases rest with
    | cons t rest => cases h
    | nil =>
      cases hv : g.field? s.name with
      | none => rw [hv] at h; cases h
      | some v =>
        rw [hv] at h
        dsimp only at h
        cases hat : v.atOffset s.offset with
        | error miss => rw [hat] at h; cases h
        | ok item => rw [hat] at h; cases h

/-- A trail has a position for every segment that it was found by. -/
theorem length_of_locate_eq_group {segments : List Segment} {trail : List Nat}
    (h : g.locate segments = .ok (.group trail)) : trail.length = segments.length := by
  induction segments generalizing g trail with
  | nil =>
    cases h
    rfl
  | cons s rest ih =>
    obtain ⟨child, position, below, -, hlocate, rfl⟩ := exists_child_of_locate_eq_group h
    rw [List.length_cons, List.length_cons, ih hlocate]

end Group

/-! ## Answers of a document -/

namespace Document

variable {d : Document} {path : String} {address : Address}

/-- The top-level groups as the children of one nameless group. -/
def root (d : Document) : Group := { identifier := "", children := d.groups }

/-- What an address leads to in the tree, whatever is remembered. -/
def lookup (d : Document) (path : String) : Lookup := (d.resolve path).bind d.reveal

theorem atTrail?_root (d : Document) {trail : List Nat} (h : trail ≠ []) :
    d.root.atTrail? trail = d.atTrail? trail := by
  cases trail with
  | nil => exact absurd rfl h
  | cons position rest =>
    rw [Group.atTrail?, atTrail?, root]
    cases d.groups[position]? <;> rfl

theorem reveal_root (d : Document) {target : Target} (h : target ≠ .group []) :
    d.root.reveal target = d.reveal target := by
  cases target with
  | value v => rfl
  | group trail =>
    have htrail : trail ≠ [] := fun hnil => h (hnil ▸ rfl)
    have hroot : d.root.atTrail? trail = d.atTrail? trail := atTrail?_root d htrail
    cases hnode : d.atTrail? trail with
    | none => simp only [Group.reveal, reveal, hroot, hnode]
    | some node => simp only [Group.reveal, reveal, hroot, hnode]

theorem resolve_of_parse_error {e : Error} (h : Address.parse path = .error e) :
    d.resolve path = .error .notFound := by
  rw [resolve, h]

/-- A readable address that is not too long is followed from the root. -/
theorem resolve_of_parse (h : Address.parse path = .ok address) :
    d.resolve path =
      if address.segments.length ≤ d.options.maxDepth then d.root.locate address.segments
      else .error .notFound := by
  rw [resolve, h]
  obtain ⟨first, rest, hsegments⟩ := List.exists_cons_of_ne_nil (Address.segments_ne_nil h)
  simp only [hsegments]
  by_cases hdepth : (first :: rest).length ≤ d.options.maxDepth
  · rw [if_neg (by omega), if_pos hdepth, Group.locate_cons]
    show _ = match selectSibling? d.groups first.name first.offset with
      | some (child, position) => _
      | none => _
    -- the root has no fields, so a first segment that selects no child leads nowhere
    cases selectSibling? d.groups first.name first.offset with
    | none => cases rest <;> rfl
    | some found => rfl
  · rw [if_pos (by omega), if_neg hdepth]

theorem lookup_of_parse_error {e : Error} (h : Address.parse path = .error e) :
    d.lookup path = .error .notFound := by
  rw [lookup, resolve_of_parse_error h]
  rfl

theorem lookup_of_parse (h : Address.parse path = .ok address) :
    d.lookup path =
      if address.segments.length ≤ d.options.maxDepth then d.root.answer address.segments
      else .error .notFound := by
  rw [lookup, resolve_of_parse h]
  split
  · unfold Group.answer
    cases hlocate : d.root.locate address.segments with
    | error miss => rfl
    | ok target =>
      refine (reveal_root d ?_).symm
      rintro rfl
      have hlength := Group.length_of_locate_eq_group hlocate
      exact Address.segments_ne_nil h (List.eq_nil_of_length_eq_zero hlength.symm)
  · rfl

/-! ## Answers that are not remembered -/

/-- What is remembered has no part in what the tree gives. -/
theorem resolve_remember (d : Document) (asked path : String) :
    (d.remember asked).resolve path = d.resolve path := by
  unfold remember
  split
  · rfl
  · split <;> rfl

theorem lookup_remember (d : Document) (asked path : String) :
    (d.remember asked).lookup path = d.lookup path := by
  unfold remember
  split
  · rfl
  · split <;> rfl

/-- A query says what the tree says, provided that what it goes by is what the tree gives. -/
theorem query_eq_lookup (h : d.target path = d.resolve path) :
    (d.query path).1 = d.lookup path := by
  unfold query
  by_cases hempty : path.isEmpty = true
  · have hparse : Address.parse path = .error (AddressFault.emptyAddress.toError path) := by
      rw [Address.parse, if_pos hempty]
    rw [if_pos hempty, lookup_of_parse_error hparse]
  · rw [if_neg hempty, h]
    rfl

/-- Where nothing is remembered, a query goes by what the tree gives. -/
theorem target_of_entries_eq_nil (h : d.cache.entries = []) (path : String) :
    d.target path = d.resolve path := by
  rw [target, Cache.find?, h, List.lookup_nil, Option.getD_none]

/-- So it says what the tree says. -/
theorem query_of_entries_eq_nil (h : d.cache.entries = []) (path : String) :
    (d.query path).1 = d.lookup path :=
  query_eq_lookup (target_of_entries_eq_nil h path)

/-- An address that can be written is answered from the root. -/
theorem query_text {segments : List Segment} (hempty : d.cache.entries = [])
    (hne : segments ≠ []) (hsegments : ∀ s ∈ segments, s.WellFormed)
    (hdepth : segments.length ≤ d.options.maxDepth) :
    (d.query (Address.mk segments).text).1 = d.root.answer segments := by
  rw [query_of_entries_eq_nil hempty, lookup_of_parse (Address.parse_text hne hsegments),
    if_pos hdepth]

end Document

end Settings
