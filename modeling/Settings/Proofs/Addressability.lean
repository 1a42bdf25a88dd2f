import Settings.Proofs.Flags
import Settings.Proofs.Step
/-!
# Addresses of all parts

Once repeated groups are flagged, every group and every field has an address. The address of a group
names the groups on the way down to it, and tells those of one name apart by an offset
(`Group.segmentsTo`). `Group.answer_segmentsTo_append` says that these segments lead to the group,
by induction on the positions; that every row of siblings on the way has its flags set is kept by
`Group.FlaggedBelow`. With the round trip of addresses and their text this gives
`Document.addressable_of_flagRepeats`.
-/

namespace Settings

variable {siblings : List Group} {g child node : Group} {position : Nat} {trail : List Nat}

/-! ## Segments for siblings -/

/-- The segment for a sibling: its name, and if it is repeated how many of the name precede it. -/
def siblingSegment (siblings : List Group) (position : Nat) (g : Group) : Segment where
  name := g.identifier
  offset := if g.repeated then some (precedingNamed siblings g.identifier position) else none

/-- A sibling does not precede itself. -/
theorem precedingNamed_lt_count (h : siblings[position]? = some g) :
    precedingNamed siblings g.identifier position <
      (siblings.map (·.identifier)).count g.identifier := by
  have hcount : precedingNamed siblings g.identifier position =
      ((siblings.take position).map (·.identifier)).count g.identifier := by
    rw [precedingNamed, List.count_eq_countP, List.countP_map]
    exact List.countP_congr fun other _ => by simp
  -- the names before the sibling, its own, and those after it
  have hsplit : siblings.take position ++ g :: siblings.drop (position + 1) = siblings := by
    obtain ⟨hposition, rfl⟩ := List.getElem?_eq_some_iff.mp h
    rw [List.getElem_cons_drop, List.take_append_drop]
  have hsum := congrArg (fun row => (row.map (·.identifier)).count g.identifier) hsplit
  simp only [List.map_append, List.map_cons, List.count_append, List.count_cons_self] at hsum
  omega

theorem precedingNamed_le (siblings : List Group) (name : String) (position : Nat) :
    precedingNamed siblings name position ≤ position :=
  Nat.le_trans List.countP_le_length (List.length_take_le position siblings)

/-- Among flagged siblings, the segment for a sibling selects it. -/
theorem selectSibling?_siblingSegment (hflagged : Flagged siblings)
    (h : siblings[position]? = some g) :
    selectSibling? siblings (siblingSegment siblings position g).name
      (siblingSegment siblings position g).offset = some (g, position) := by
  rw [selectSibling?_eq_some_iff]
  refine ⟨h, rfl, ?_⟩
  unfold siblingSegment
  by_cases hrepeated : g.repeated = true
  · rw [if_pos hrepeated]
    exact ⟨rfl, fun _ => hrepeated⟩
  · rw [if_neg hrepeated]
    refine ⟨?_, nofun⟩
    -- it is the only one of its name
    have hfew := mt (hflagged g (List.mem_of_getElem? h)).mpr hrepeated
    have hlt := precedingNamed_lt_count h
    show precedingNamed siblings g.identifier position = 0
    omega

/-! ## Segments for groups further down -/

namespace Group

/-- The segments that lead to the node at positions below a group. -/
def segmentsTo (g : Group) : List Nat → List Segment
  | [] => []
  | position :: rest =>
    match g.children[position]? with
    | some child => siblingSegment g.children position child :: child.segmentsTo rest
    | none => []

theorem segmentsTo_cons (h : g.children[position]? = some child) (trail : List Nat) :
    g.segmentsTo (position :: trail) =
      siblingSegment g.children position child :: child.segmentsTo trail := by
  rw [segmentsTo, h]

theorem length_segmentsTo (h : g.atTrail? trail = some node) :
    (g.segmentsTo trail).length = trail.length := by
  induction trail generalizing g with
  | nil => rfl
  | cons position rest ih =>
    obtain ⟨child, hchild, hnode⟩ := exists_child_of_atTrail? h
    rw [segmentsTo_cons hchild, List.length_cons, List.length_cons, ih hnode]

/-- The segments for a node lead to it, and further ones go on from there. -/
theorem answer_segmentsTo_append (hflagged : g.FlaggedBelow) (h : g.atTrail? trail = some node)
    (more : List Segment) : g.answer (g.segmentsTo trail ++ more) = node.answer more := by
  induction trail generalizing g with
  | nil =>
    cases h
    rfl
  | cons position rest ih =>
    obtain ⟨child, hchild, hnode⟩ := exists_child_of_atTrail? h
    have hselect := selectSibling?_siblingSegment (hflagged [] g rfl) hchild
    rw [segmentsTo_cons hchild, List.cons_append, answer_cons_of_child hselect,
      ih (hflagged.below hchild) hnode]

/-- They lead to its positions. -/
theorem locate_segmentsTo (hflagged : g.FlaggedBelow) (h : g.atTrail? trail = some node) :
    g.locate (g.segmentsTo trail) = .ok (.group trail) := by
  induction trail generalizing g with
  | nil => rfl
  | cons position rest ih =>
    obtain ⟨child, hchild, hnode⟩ := exists_child_of_atTrail? h
    have hselect := selectSibling?_siblingSegment (hflagged [] g rfl) hchild
    rw [segmentsTo_cons hchild, locate_cons_of_child hselect, ih (hflagged.below hchild) hnode]
    rfl

/-- They can be written, provided that names are plain and that offsets can count the groups. -/
theorem wellFormed_segmentsTo
    (hnames : ∀ trail node, trail ≠ [] → g.atTrail? trail = some node → PlainName node.identifier)
    (hrows : ∀ trail node, g.atTrail? trail = some node →
      node.children.length ≤ Number.offsetBound)
    (h : g.atTrail? trail = some node) : ∀ s ∈ g.segmentsTo trail, s.WellFormed := by
  induction trail generalizing g with
  | nil => exact fun s hs => absurd hs List.not_mem_nil
  | cons position rest ih =>
    obtain ⟨child, hchild, hnode⟩ := exists_child_of_atTrail? h
    rw [segmentsTo_cons hchild]
    intro s hs
    rcases List.mem_cons.mp hs with rfl | hs
    · refine ⟨hnames [position] child (List.cons_ne_nil _ _) (atTrail?_cons hchild []), ?_⟩
      intro n hn
      unfold siblingSegment at hn
      by_cases hrepeated : child.repeated = true
      · rw [if_pos hrepeated] at hn
        have hn' := Option.some.inj hn
        have hposition := (List.getElem?_eq_some_iff.mp hchild).1
        have hrow := hrows [] g rfl
        have hle := precedingNamed_le g.children child.identifier position
        omega
      · rw [if_neg hrepeated] at hn
        cases hn
    · refine ih ?_ ?_ hnode s hs
      · intro trail' node' _ hnode'
        exact hnames (position :: trail') node' (List.cons_ne_nil _ _)
          ((atTrail?_cons hchild trail').trans hnode')
      · intro trail' node' hnode'
        exact hrows (position :: trail') node' ((atTrail?_cons hchild trail').trans hnode')

/-- A field is found by its name and an offset if no child has the name. -/
theorem answer_of_field {field : String} {value : FieldValue} (hfield : g.field? field = some value)
    (hchildren : ∀ child ∈ g.children, child.identifier ≠ field) (offset : Option Nat) :
    g.answer [⟨field, offset⟩] = (value.atOffset offset).map .value :=
  answer_field (s := ⟨field, offset⟩) (selectSibling?_of_forall_ne hchildren offset) hfield

end Group

/-! ## Addresses in a document -/

namespace Document

variable {d : Document}

/-- All names are such that an address can hold them, and no row of groups is longer than offsets
can count. An offset is a machine word and so is the length of a row: rows in memory never are. -/
structure Writable (d : Document) : Prop where
  names : ∀ trail node, d.atTrail? trail = some node → PlainName node.identifier
  fields : ∀ trail node, d.atTrail? trail = some node → ∀ f ∈ node.fields.entries, PlainName f.name
  top : d.groups.length ≤ Number.offsetBound
  rows : ∀ trail node, d.atTrail? trail = some node → node.children.length ≤ Number.offsetBound

/-- The address of the node at positions from the top. -/
def addressOf (d : Document) (trail : List Nat) : Address := ⟨d.root.segmentsTo trail⟩

theorem ne_nil_of_atTrail? (h : d.atTrail? trail = some node) : trail ≠ [] := by
  rintro rfl
  cases h

theorem atTrail?_root_of_some (h : d.atTrail? trail = some node) :
    d.root.atTrail? trail = some node := by
  rw [atTrail?_root d (ne_nil_of_atTrail? h), h]

theorem segments_addressOf_ne_nil (h : d.atTrail? trail = some node) :
    (d.addressOf trail).segments ≠ [] := by
  have hlength : (d.addressOf trail).segments.length = trail.length :=
    Group.length_segmentsTo (atTrail?_root_of_some h)
  intro hnil
  rw [hnil] at hlength
  exact ne_nil_of_atTrail? h (List.eq_nil_of_length_eq_zero hlength.symm)

theorem Writable.wellFormed_addressOf (hwritable : d.Writable)
    (h : d.atTrail? trail = some node) : ∀ s ∈ (d.addressOf trail).segments, s.WellFormed := by
  refine Group.wellFormed_segmentsTo ?_ ?_ (atTrail?_root_of_some h)
  · intro trail' node' hne hnode'
    rw [atTrail?_root d hne] at hnode'
    exact hwritable.names trail' node' hnode'
  · intro trail' node' hnode'
    -- the top-level groups are the row of the root, which is no node of the document
    by_cases hnil : trail' = []
    · subst hnil
      cases hnode'
      exact hwritable.top
    · rw [atTrail?_root d hnil] at hnode'
      exact hwritable.rows trail' node' hnode'

/-- The address of a node is read back from its text. -/
theorem parse_addressOf (hwritable : d.Writable) (h : d.atTrail? trail = some node) :
    Address.parse (d.addressOf trail).text = .ok (d.addressOf trail) :=
  Address.parse_text (segments_addressOf_ne_nil h) (hwritable.wellFormed_addressOf h)

/-- Another segment after those of a node leads on from the node. -/
theorem lookup_addressOf_append (hflagged : d.root.FlaggedBelow) (hwritable : d.Writable)
    (h : d.atTrail? trail = some node) {more : List Segment} (hmore : ∀ s ∈ more, s.WellFormed)
    (hdepth : ((d.addressOf trail).segments ++ more).length ≤ d.options.maxDepth) :
    d.lookup (Address.mk ((d.addressOf trail).segments ++ more)).text = node.answer more := by
  have hne : (d.addressOf trail).segments ++ more ≠ [] :=
    List.append_ne_nil_of_left_ne_nil (segments_addressOf_ne_nil h) more
  have hwellFormed : ∀ s ∈ (d.addressOf trail).segments ++ more, s.WellFormed := by
    intro s hs
    rcases List.mem_append.mp hs with hs | hs
    · exact hwritable.wellFormed_addressOf h s hs
    · exact hmore s hs
  rw [lookup_of_parse (Address.parse_text hne hwellFormed), if_pos hdepth]
  exact Group.answer_segmentsTo_append hflagged (atTrail?_root_of_some h) more

/-- A field is looked up by its name after the address of its group, with or without an offset. -/
theorem lookup_field (hflagged : d.root.FlaggedBelow) (hwritable : d.Writable)
    (h : d.atTrail? trail = some node) {field : String} {value : FieldValue}
    (hfield : node.field? field = some value)
    (hchildren : ∀ child ∈ node.children, child.identifier ≠ field)
    (hdepth : (d.addressOf trail).segments.length + 1 ≤ d.options.maxDepth) {offset : Option Nat}
    (hoffset : ∀ n, offset = some n → n < Number.offsetBound) :
    d.lookup ((d.addressOf trail).text ++ "." ++ (Segment.mk field offset).text) =
      (value.atOffset offset).map .value := by
  have hmore : ∀ s ∈ [Segment.mk field offset], s.WellFormed := by
    intro s hs
    rw [List.mem_singleton.mp hs]
    exact ⟨hwritable.fields trail node h _ (Fields.mem_of_find? hfield), hoffset⟩
  have hlength :
      ((d.addressOf trail).segments ++ [Segment.mk field offset]).length ≤ d.options.maxDepth := by
    rw [List.length_append, List.length_singleton]
    exact hdepth
  rw [← Address.text_concat (segments_addressOf_ne_nil h)]
  rw [lookup_addressOf_append hflagged hwritable h hmore hlength]
  exact Group.answer_of_field hfield hchildren offset

/-- One address leads to one node, so different nodes have different addresses. -/
theorem addressOf_injective (hflagged : d.root.FlaggedBelow) (hwritable : d.Writable)
    {trail' : List Nat} {node' : Group} (h : d.atTrail? trail = some node)
    (h' : d.atTrail? trail' = some node')
    (htext : (d.addressOf trail).text = (d.addressOf trail').text) : trail = trail' := by
  -- one text is read as one row of segments, which leads to one place
  have hparse := parse_addressOf hwritable h
  rw [htext, parse_addressOf hwritable h'] at hparse
  have hsegments : d.root.segmentsTo trail' = d.root.segmentsTo trail :=
    congrArg Address.segments (Except.ok.inj hparse)
  have hlocate := Group.locate_segmentsTo hflagged (atTrail?_root_of_some h)
  rw [← hsegments, Group.locate_segmentsTo hflagged (atTrail?_root_of_some h')] at hlocate
  cases hlocate
  rfl

theorem flaggedBelow_root_flagRepeats (d : Document) : d.flagRepeats.root.FlaggedBelow := by
  apply Group.flaggedBelow_of_flagRepeats
  show d.flagRepeats.groups = _
  rw [flagRepeats, groups_afterWrite]

/-- **Every part of a flagged document has an address.** Flag the repeated groups of a document, let
nothing be remembered, and let all names be such that an address can hold them. The address of a
group leads to it, if it is not too long, and no other group has that address. An address with the
name of a field after it gives the field, if no child goes by that name, and with an offset in
brackets it gives the item of an array, or says that there are not so many. -/
theorem addressable_of_flagRepeats {before d : Document} (flagged : d = before.flagRepeats)
    (empty : d.cache.entries = []) (writable : d.Writable) :
    (∀ trail node, d.atTrail? trail = some node →
      ((d.addressOf trail).segments.length ≤ d.options.maxDepth →
        d.resolve (d.addressOf trail).text = .ok (.group trail) ∧
        (d.query (d.addressOf trail).text).1 = .ok (.group node)) ∧
      (∀ field value, node.field? field = some value →
        (∀ child ∈ node.children, child.identifier ≠ field) →
        (d.addressOf trail).segments.length + 1 ≤ d.options.maxDepth →
        (d.query ((d.addressOf trail).text ++ "." ++ field)).1 = .ok (.value value) ∧
        ∀ items, value = .array items → ∀ i, i < Number.offsetBound →
          (d.query ((d.addressOf trail).text ++ "." ++ field ++
            "[" ++ Number.natText i ++ "]")).1 =
            match items[i]? with
            | some item => .ok (.value (.scalar item))
            | none => .error (.indexOutOfRange i items.length))) ∧
    (∀ trail trail' node node', d.atTrail? trail = some node → d.atTrail? trail' = some node' →
      (d.addressOf trail).text = (d.addressOf trail').text → trail = trail') := by
  have hflagged : d.root.FlaggedBelow := flagged ▸ flaggedBelow_root_flagRepeats before
  have hquery : ∀ path, (d.query path).1 = d.lookup path := query_of_entries_eq_nil empty
  refine ⟨?_, fun _ _ _ _ h h' => addressOf_injective hflagged writable h h'⟩
  intro trail node h
  have hroot := atTrail?_root_of_some h
  constructor
  · intro hdepth
    have hparse := parse_addressOf writable h
    constructor
    · rw [resolve_of_parse hparse, if_pos hdepth]
      exact Group.locate_segmentsTo hflagged hroot
    · rw [hquery, lookup_of_parse hparse, if_pos hdepth]
      have hanswer := Group.answer_segmentsTo_append hflagged hroot []
      rwa [List.append_nil, Group.answer_nil] at hanswer
  · intro field value hfield hchildren hdepth
    constructor
    · have hwhole := lookup_field hflagged writable h hfield hchildren hdepth
        (nofun : ∀ n, none = some n → n < Number.offsetBound)
      rw [hquery]
      cases value <;> exact hwhole
    · rintro items rfl i hi
      have hfits : ∀ n, some i = some n → n < Number.offsetBound := by
        rintro n ⟨⟩
        exact hi
      have hitem := lookup_field hflagged writable h hfield hchildren hdepth hfits
      -- the brackets are part of the text of the last segment
      rw [Segment.text] at hitem
      simp only [← String.append_assoc] at hitem
      rw [hquery, hitem, FieldValue.atOffset]
      cases items[i]? <;> rfl

/-- The second of two groups of one name. -/
def secondTwin : Group := { identifier := "a", fields := .ofList [⟨"x", .array [⟨"1"⟩]⟩] }

/-- Two groups of one name, not flagged as yet. -/
def twins : Document := { groups := [{ identifier := "a" }, secondTwin] }

/-- The second group, its field and an item of the field are found by their addresses. There is no
item `7`. -/
theorem addressable_twins :
    twins.flagRepeats.cache.entries = [] ∧ twins.flagRepeats.Writable ∧
      (twins.flagRepeats.query "a[1]").1 = .ok (.group { secondTwin with repeated := true }) ∧
      (twins.flagRepeats.query "a[1].x").1 = .ok (.value (.array [⟨"1"⟩])) ∧
      (twins.flagRepeats.query "a[1].x[0]").1 = .ok (.value (.scalar ⟨"1"⟩)) ∧
      (twins.flagRepeats.query "a[1].x[7]").1 = .error (.indexOutOfRange 7 1) := by
  have hnodes : ∀ trail node, twins.flagRepeats.atTrail? trail = some node →
      node = { identifier := "a", repeated := true } ∨
        node = { secondTwin with repeated := true } := by
    intro trail node h
    rcases trail with _ | ⟨_ | _ | n, _ | ⟨m, rest⟩⟩
    · cases h
    · exact .inl (Option.some.inj h).symm
    · cases h
    · exact .inr (Option.some.inj h).symm
    all_goals cases h
  have hwritable : twins.flagRepeats.Writable := by
    refine ⟨?_, ?_, by decide, ?_⟩
    · intro trail node h
      rcases hnodes trail node h with rfl | rfl <;> decide
    · intro trail node h f hf
      rcases hnodes trail node h with rfl | rfl
      · cases hf
      · rw [List.mem_singleton.mp hf]
        decide
    · intro trail node h
      rcases hnodes trail node h with rfl | rfl <;> decide
  have hsecond := (addressable_of_flagRepeats rfl rfl hwritable).1 [1] _ rfl
  obtain ⟨hwhole, hitems⟩ := hsecond.2 "x" _ rfl (fun child h => absurd h List.not_mem_nil)
    (by decide)
  exact ⟨rfl, hwritable, (hsecond.1 (by decide)).2, hwhole, hitems _ rfl 0 (by decide),
    hitems _ rfl 7 (by decide)⟩

end Document

end Settings
