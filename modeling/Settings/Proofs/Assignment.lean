import Settings.Proofs.Lookup
import Settings.Proofs.Step
/-!
# What an assignment changes

An assignment cuts its address at the last point and takes both parts to the letter; a query cuts at
every point, reads offsets, and prefers children to fields. `Document.setValue_seen_where_read` says
how the two fit together: the value that was assigned is read back at an address of two segments
without offsets, and nowhere else does a query see the assignment, but where it asks for the group
that was written to or for the field in it.

The write side comes first: `assignIn` changes the first group of a name, where it stands, or puts a
new one at the end. In both cases siblings are selected as before (`selectSibling?_of_assignIn`).
-/

namespace Settings

/-! ## Assigning to a group -/

namespace Group

variable {g : Group} {field : String} {value : Scalar}

@[simp] theorem identifier_assign (g : Group) (field : String) (value : Scalar) :
    (g.assign field value).identifier = g.identifier := rfl

@[simp] theorem children_assign (g : Group) (field : String) (value : Scalar) :
    (g.assign field value).children = g.children := rfl

@[simp] theorem tab_assign (g : Group) (field : String) (value : Scalar) :
    (g.assign field value).tab = g.tab := rfl

theorem field?_assign_self (g : Group) (field : String) (value : Scalar) :
    (g.assign field value).field? field =
      some (((g.field? field).getD (.scalar value)).assigned value) :=
  Fields.find?_write_self _ _ _

theorem field?_assign_of_ne {other : String} (h : other ≠ field) :
    (g.assign field value).field? other = g.field? other :=
  Fields.find?_write_of_ne h _ _

/-- Below a group, an assignment is seen at its field only. -/
theorem answer_assign {s : Segment} {rest : List Segment} (h : rest = [] → s.name ≠ field) :
    (g.assign field value).answer (s :: rest) = g.answer (s :: rest) := by
  cases hselect : selectSibling? g.children s.name s.offset with
  | some found =>
    rw [answer_cons_of_child hselect]
    exact answer_cons_of_child (g := g.assign field value) hselect
  | none =>
    have hselect' : selectSibling? (g.assign field value).children s.name s.offset = none := hselect
    -- without a child to go on to, only a last segment can name a field
    by_cases hrest : rest = []
    · subst hrest
      have hfield : (g.assign field value).field? s.name = g.field? s.name :=
        field?_assign_of_ne (h rfl)
      cases hv : g.field? s.name with
      | some v => rw [answer_field hselect hv, answer_field hselect' (hfield.trans hv)]
      | none =>
        rw [answer_cons_of_none hselect fun _ => hv,
          answer_cons_of_none hselect' fun _ => hfield.trans hv]
    · rw [answer_cons_of_none hselect fun hnil => absurd hnil hrest,
        answer_cons_of_none hselect' fun hnil => absurd hnil hrest]

/-- There is nothing below a group without contents. -/
theorem answer_named (name : String) (s : Segment) (rest : List Segment) :
    (named name).answer (s :: rest) = .error .notFound := by
  have hselect : selectSibling? (named name).children s.name s.offset = none := by
    cases s.offset <;> rfl
  exact answer_cons_of_none hselect fun _ => rfl

end Group

/-! ## Assigning among siblings -/

namespace Document

variable {groups : List Group} {base : Group} {position : Nat} {name field : String}

theorem assignIn_cons_of_eq {g : Group} (h : g.identifier = name) (field : String)
    (value : Scalar) (rest : List Group) :
    assignIn name field value (g :: rest) = g.assign field value :: rest := by
  rw [assignIn, if_pos h]

theorem assignIn_cons_of_ne {g : Group} (h : g.identifier ≠ name) (field : String)
    (value : Scalar) (rest : List Group) :
    assignIn name field value (g :: rest) = g :: assignIn name field value rest := by
  rw [assignIn, if_neg h]

/-- Where no group has the name, one is put at the end. -/
theorem assignIn_of_none (h : selectSibling? groups name none = none) (field : String)
    (value : Scalar) :
    assignIn name field value groups = groups ++ [(Group.named name).assign field value] := by
  rw [selectSibling?_eq_none_iff] at h
  induction groups with
  | nil => rfl
  | cons g rest ih =>
    rw [assignIn, if_neg (h g List.mem_cons_self),
      ih fun other hother => h other (List.mem_cons_of_mem g hother), List.cons_append]

/-- Otherwise the first group of the name is changed where it stands. -/
theorem assignIn_of_some (h : selectSibling? groups name none = some (base, position))
    (field : String) (value : Scalar) :
    assignIn name field value groups = groups.set position (base.assign field value) := by
  obtain ⟨hat, hname, hfirst, -⟩ := selectSibling?_eq_some_iff.mp h
  clear h
  induction groups generalizing position with
  | nil => cases hat
  | cons g rest ih =>
    rw [assignIn]
    by_cases hg : g.identifier = name
    · rw [if_pos hg]
      cases position with
      | zero =>
        obtain rfl : g = base := Option.some.inj hat
        rfl
      | succ position => simp [precedingNamed, hg] at hfirst
    · rw [if_neg hg]
      cases position with
      | zero =>
        obtain rfl : g = base := Option.some.inj hat
        exact absurd hname hg
      | succ position =>
        have hrest : precedingNamed rest name position = 0 := by
          simpa [precedingNamed, hg] using hfirst
        rw [List.set_cons_succ, ih (by simpa using hat) hrest]

theorem map_tab_set (hat : groups[position]? = some base) (field : String) (value : Scalar) :
    groups.map Group.tab = (groups.set position (base.assign field value)).map Group.tab := by
  obtain ⟨hposition, rfl⟩ := List.getElem?_eq_some_iff.mp hat
  have hposition' : position < (groups.map Group.tab).length := by rwa [List.length_map]
  have htab : groups[position].tab = (groups.map Group.tab)[position] := by rw [List.getElem_map]
  rw [List.map_set, Group.tab_assign, htab, List.set_getElem_self]

/-- The first group of the name is still the first, with the field assigned to. -/
theorem selectSibling?_assignIn_self_of_some
    (h : selectSibling? groups name none = some (base, position)) (field : String)
    (value : Scalar) :
    selectSibling? (assignIn name field value groups) name none =
      some (base.assign field value, position) := by
  have hat := getElem?_of_selectSibling? h
  obtain ⟨other, hother, hafter⟩ := selectSibling?_congr (map_tab_set hat field value) h
  rw [List.getElem?_set_self (List.getElem?_eq_some_iff.mp hat).1] at hother
  rw [assignIn_of_some h, hafter, Option.some.inj hother]

/-- A new group is the first of its name. -/
theorem selectSibling?_assignIn_self_of_none (h : selectSibling? groups name none = none)
    (field : String) (value : Scalar) :
    selectSibling? (assignIn name field value groups) name none =
      some ((Group.named name).assign field value, groups.length) := by
  have hfirst : precedingNamed groups name groups.length = 0 := by
    rw [precedingNamed, List.take_length, List.countP_eq_zero]
    intro g hg hname
    exact selectSibling?_eq_none_iff.mp h g hg (of_decide_eq_true hname)
  rw [assignIn_of_none h, selectSibling?_eq_some_iff, precedingNamed_append (Nat.le_refl _)]
  exact ⟨List.getElem?_concat_length, rfl, hfirst, nofun⟩

variable {g : Group} {value : Scalar} {sought : String} {offset : Option Nat}

/-- What is selected before an assignment is selected after it at the same position. It is as it
was, or it is the group that was written to. -/
theorem selectSibling?_assignIn_of_some
    (h : selectSibling? groups sought offset = some (g, position)) (name field : String)
    (value : Scalar) :
    ∃ other, selectSibling? (assignIn name field value groups) sought offset =
        some (other, position) ∧
      (other = g ∨ other = g.assign field value ∧
        selectSibling? (assignIn name field value groups) name none = some (other, position)) := by
  cases hwritten : selectSibling? groups name none with
  | none =>
    refine ⟨g, ?_, .inl rfl⟩
    rw [assignIn_of_none hwritten]
    exact selectSibling?_append h
  | some written =>
    obtain ⟨base, n⟩ := written
    have hat := getElem?_of_selectSibling? hwritten
    obtain ⟨other, hother, hafter⟩ := selectSibling?_congr (map_tab_set hat field value) h
    refine ⟨other, ?_, ?_⟩
    · rw [assignIn_of_some hwritten, hafter]
    · -- all but the group that is written to stay what they are
      by_cases hn : n = position
      · subst hn
        obtain rfl : g = base :=
          Option.some.inj ((getElem?_of_selectSibling? h).symm.trans hat)
        rw [List.getElem?_set_self (List.getElem?_eq_some_iff.mp hat).1] at hother
        obtain rfl := Option.some.inj hother
        exact .inr ⟨rfl, selectSibling?_assignIn_self_of_some hwritten field value⟩
      · rw [List.getElem?_set_ne hn, getElem?_of_selectSibling? h] at hother
        exact .inl (Option.some.inj hother).symm

/-- Where nothing was selected before an assignment, only a group that it made can be. -/
theorem selectSibling?_assignIn_of_none {other : Group}
    (h : selectSibling? groups sought offset = none)
    (hafter : selectSibling? (assignIn name field value groups) sought offset =
      some (other, position)) :
    other = (Group.named name).assign field value ∧
      selectSibling? (assignIn name field value groups) name none = some (other, position) := by
  cases hwritten : selectSibling? groups name none with
  | some written =>
    obtain ⟨base, n⟩ := written
    have hat := getElem?_of_selectSibling? hwritten
    have hnone := selectSibling?_eq_none_congr (map_tab_set hat field value) h
    rw [assignIn_of_some hwritten, hnone] at hafter
    cases hafter
  | none =>
    have hself := selectSibling?_assignIn_self_of_none hwritten field value
    rw [hself]
    rw [assignIn_of_none hwritten] at hafter
    have hlast := le_position_of_selectSibling?_append h hafter
    have hat := getElem?_of_selectSibling? hafter
    -- there is one group from there on
    rw [List.getElem?_append_right hlast, List.getElem?_singleton] at hat
    by_cases hzero : position - groups.length = 0
    · rw [if_pos hzero] at hat
      obtain rfl := Option.some.inj hat
      have hposition : groups.length = position := by omega
      exact ⟨rfl, by rw [hposition]⟩
    · rw [if_neg hzero] at hat
      cases hat

/-! ## Who sees an assignment -/

/-- An address sees the field of the first group of a name if it selects that group and ends there,
or ends in the name of the field one segment further on. -/
def Sees (d : Document) (name field path : String) : Prop :=
  ∃ first rest found, Address.parse path = .ok ⟨first :: rest⟩ ∧
    selectSibling? d.groups first.name first.offset = some found ∧
    selectSibling? d.groups name none = some found ∧
    (rest = [] ∨ ∃ last, rest = [last] ∧ last.name = field)

variable {d : Document} {path : String} {first : Segment} {rest : List Segment}

theorem children_root_assign (d : Document) (name field : String) (value : Scalar) :
    (d.assign name field value).root.children = assignIn name field value d.groups :=
  groups_assign d name field value

/-- Segments that go elsewhere, or past the field, lead where they did. -/
theorem answer_root_assign
    (h : ∀ found,
      selectSibling? (assignIn name field value d.groups) first.name first.offset = some found →
      selectSibling? (assignIn name field value d.groups) name none = some found →
      rest ≠ [] ∧ ∀ last, rest = [last] → last.name ≠ field) :
    (d.assign name field value).root.answer (first :: rest) = d.root.answer (first :: rest) := by
  cases hselect : selectSibling? d.groups first.name first.offset with
  | some found =>
    obtain ⟨g, position⟩ := found
    obtain ⟨other, hafter, hother⟩ :=
      selectSibling?_assignIn_of_some hselect name field value
    rw [Group.answer_cons_of_child (g := d.root) hselect]
    rw [Group.answer_cons_of_child (by rw [children_root_assign]; exact hafter)]
    rcases hother with rfl | ⟨rfl, hwritten⟩
    · rfl
    · obtain ⟨hrest, hlast⟩ := h _ hafter hwritten
      obtain ⟨second, more, rfl⟩ := List.exists_cons_of_ne_nil hrest
      exact Group.answer_assign fun hmore => hlast second (by rw [hmore])
  | none =>
    rw [Group.answer_cons_of_none (g := d.root) hselect fun _ => rfl]
    cases hafter : selectSibling? (assignIn name field value d.groups) first.name first.offset with
    | none =>
      refine Group.answer_cons_of_none ?_ fun _ => rfl
      rw [children_root_assign, hafter]
    | some found =>
      obtain ⟨other, position⟩ := found
      obtain ⟨rfl, hwritten⟩ := selectSibling?_assignIn_of_none hselect hafter
      obtain ⟨hrest, hlast⟩ := h _ hafter hwritten
      obtain ⟨second, more, rfl⟩ := List.exists_cons_of_ne_nil hrest
      rw [Group.answer_cons_of_child (by rw [children_root_assign]; exact hafter),
        Group.answer_assign fun hmore => hlast second (by rw [hmore])]
      exact Group.answer_named name second more

/-- An assignment changes the answer of no address but those that see the field. -/
theorem lookup_assign_of_not_sees (h : ¬ (d.assign name field value).Sees name field path) :
    (d.assign name field value).lookup path = d.lookup path := by
  cases hparse : Address.parse path with
  | error e => rw [lookup_of_parse_error hparse, lookup_of_parse_error hparse]
  | ok address =>
    obtain ⟨segments⟩ := address
    obtain ⟨first, rest, rfl⟩ := List.exists_cons_of_ne_nil (Address.segments_ne_nil hparse)
    rw [lookup_of_parse hparse, lookup_of_parse hparse, options_assign]
    rw [answer_root_assign]
    intro found hfirst hwritten
    rw [← groups_assign] at hfirst hwritten
    have hrest : ¬ (rest = [] ∨ ∃ last, rest = [last] ∧ last.name = field) := fun hrest =>
      h ⟨first, rest, found, hparse, hfirst, hwritten, hrest⟩
    constructor
    · exact fun hnil => hrest (.inl hnil)
    · exact fun last hlast hname => hrest (.inr ⟨last, hlast, hname⟩)

/-- Of the addresses that name the field when they are split, only one of two segments without
offsets sees it. -/
theorem flat_of_sees {address : Address} (hparse : Address.parse path = .ok address)
    (hsplit : splitFieldAddress path = .ok (name, field)) (h : d.Sees name field path) :
    address.Flat := by
  obtain ⟨first, second, rest, hsegments, hnames⟩ := Address.parse_of_split hparse hsplit
  obtain ⟨first', rest', ⟨g, position⟩, hparse', hfirst, hwritten, hrest'⟩ := h
  obtain rfl : address = ⟨first' :: rest'⟩ := Except.ok.inj (hparse.symm.trans hparse')
  obtain ⟨rfl, rfl⟩ := List.cons.inj hsegments
  rcases hrest' with hnil | ⟨last, hlast, hfield⟩
  · cases hnil
  · obtain ⟨rfl, rfl⟩ := List.cons.inj hlast
    obtain ⟨hname_iff, hfield_iff⟩ := hnames rfl
    -- one group has the name of the first segment and the name that is written to
    have hname : first'.name = name :=
      (identifier_of_selectSibling? hfirst).symm.trans (identifier_of_selectSibling? hwritten)
    refine ⟨rfl, ?_⟩
    intro s hs
    rcases List.mem_cons.mp hs with rfl | hs
    · exact hname_iff.mp hname
    · rw [List.mem_singleton.mp hs]
      exact hfield_iff.mp hfield

/-- The field of the first group of a name. -/
def fieldOf? (d : Document) (name field : String) : Option FieldValue :=
  (d.group? name none).bind (·.field? field)

/-- What is assigned to a field of a group is found there, provided that no child is. -/
theorem answer_root_assigned
    (hgroup : ∀ g, d.root.answer [⟨name, none⟩, ⟨field, none⟩] ≠ .ok (.group g)) :
    (d.assign name field value).root.answer [⟨name, none⟩, ⟨field, none⟩] =
      .ok (.value (match d.fieldOf? name field with
        | some (.array _) => .array [value]
        | _ => .scalar value)) := by
  have hfound : ∀ base : Group, selectSibling? base.children field none = none →
      (base.assign field value).answer [⟨field, none⟩] =
        .ok (.value (((base.field? field).getD (.scalar value)).assigned value)) := by
    intro base hnone
    have hself := Group.field?_assign_self base field value
    rw [Group.answer_field (g := base.assign field value) (s := ⟨field, none⟩) hnone hself]
    cases ((base.field? field).getD (.scalar value)).assigned value <;> rfl
  unfold fieldOf? group?
  cases hwritten : selectSibling? d.groups name none with
  | none =>
    have hself := selectSibling?_assignIn_self_of_none hwritten field value
    rw [Group.answer_cons_of_child (by rw [children_root_assign]; exact hself), hfound _ rfl]
    rfl
  | some found =>
    obtain ⟨base, position⟩ := found
    have hself := selectSibling?_assignIn_self_of_some hwritten field value
    -- a child of that name would be a group at the address
    have hshadow : selectSibling? base.children field none = none := by
      cases hchild : selectSibling? base.children field none with
      | none => rfl
      | some child =>
        refine absurd ?_ (hgroup child.1)
        rw [Group.answer_cons_of_child (g := d.root) (s := ⟨name, none⟩) hwritten,
          Group.answer_cons_of_child (s := ⟨field, none⟩) hchild, Group.answer_nil]
    rw [Group.answer_cons_of_child (by rw [children_root_assign]; exact hself), hfound base hshadow]
    show _ = Except.ok (Found.value (match base.field? field with
      | some (.array _) => .array [value]
      | _ => .scalar value))
    rcases base.field? field with _ | (old | items) <;> rfl

/-- **What an assignment changes.** Let nothing be remembered, and let an assignment to an address
be carried out under the policy that forgets on writing. If the address is two segments without
offsets, it gives the assigned value from then on: on its own, or as the one item of an array if the
field was an array. Any other address that is assigned to gives what it gave. And so does every text
that does not see the field of the group that was written to. -/
theorem setValue_seen_where_read {after : Document} {address : Address}
    (policy : d.options.cachePolicy = .invalidateOnWrite) (empty : d.cache.entries = [])
    (depth : 2 ≤ d.options.maxDepth) (hparse : Address.parse path = .ok address)
    (hset : d.setValue path value = (.ok (), after))
    (hsplit : splitFieldAddress path = .ok (name, field)) :
    (address.Flat → (after.query path).1 =
      .ok (.value (match d.fieldOf? name field with
        | some (.array _) => .array [value]
        | _ => .scalar value))) ∧
    (¬ address.Flat → (after.query path).1 = (d.query path).1) ∧
    (∀ sought, ¬ after.Sees name field sought → (after.query sought).1 = (d.query sought).1) := by
  obtain ⟨hgroup, name', field', hsplit', rfl⟩ := setValue_eq_ok_iff.mp hset
  obtain ⟨rfl, rfl⟩ : name' = name ∧ field' = field :=
    Prod.mk.inj (Except.ok.inj (hsplit'.symm.trans hsplit))
  have hpolicy : (d.remember path).options.cachePolicy = .invalidateOnWrite := by
    rw [options_remember, policy]
  have hquery : ∀ sought, (((d.remember path).assign name' field' value).query sought).1 =
      ((d.remember path).assign name' field' value).lookup sought :=
    query_of_entries_eq_nil (entries_assign hpolicy name' field' value)
  -- nothing is remembered before or after, so both queries say what their trees say
  have helsewhere : ∀ sought,
      ¬ ((d.remember path).assign name' field' value).Sees name' field' sought →
      (((d.remember path).assign name' field' value).query sought).1 = (d.query sought).1 := by
    intro sought hsees
    rw [hquery, lookup_assign_of_not_sees hsees, lookup_remember,
      query_of_entries_eq_nil empty]
  refine ⟨?_, ?_, helsewhere⟩
  · intro hflat
    have hsegments := Address.segments_of_flat hparse hsplit hflat
    have hlength : address.segments.length ≤ d.options.maxDepth := by
      rw [hsegments]
      exact depth
    have hnogroup : ∀ g,
        (d.remember path).root.answer [⟨name', none⟩, ⟨field', none⟩] ≠ .ok (.group g) := by
      intro g hg
      refine hgroup g ?_
      rw [query_of_entries_eq_nil empty, ← lookup_remember d path, lookup_of_parse hparse,
        options_remember, if_pos hlength, hsegments, hg]
    have hfield : (d.remember path).fieldOf? name' field' = d.fieldOf? name' field' := by
      rw [fieldOf?, group?, groups_remember]
      rfl
    rw [hquery, lookup_of_parse hparse, options_assign, options_remember, if_pos hlength,
      hsegments, answer_root_assigned hnogroup, hfield]
  · intro hflat
    exact helsewhere path fun hsees => hflat (flat_of_sees hparse hsplit hsees)

/-- One group with an array. -/
def arrayDocument : Document :=
  { groups := [{ identifier := "a", fields := .ofList [⟨"x", .array [⟨"1"⟩, ⟨"2"⟩]⟩] }] }

/-- At a flat address the new value stands in place of all items. At an address with an offset it
goes to a new group, and the offset still selects nothing. -/
theorem setValue_seen_in_array :
    arrayDocument.options.cachePolicy = .invalidateOnWrite ∧ arrayDocument.cache.entries = [] ∧
      2 ≤ arrayDocument.options.maxDepth ∧
      (arrayDocument.setValue "a.x" ⟨"3"⟩).1 = .ok () ∧
      ((arrayDocument.setValue "a.x" ⟨"3"⟩).2.query "a.x").1 = .ok (.value (.array [⟨"3"⟩])) ∧
      (arrayDocument.setValue "a[0].x" ⟨"3"⟩).1 = .ok () ∧
      ((arrayDocument.setValue "a[0].x" ⟨"3"⟩).2.query "a[0].x").1 = .error .notFound := by
  have hflat : Address.parse "a.x" = .ok ⟨[⟨"a", none⟩, ⟨"x", none⟩]⟩ := rfl
  have hoffset : Address.parse "a[0].x" = .ok ⟨[⟨"a", some 0⟩, ⟨"x", none⟩]⟩ := rfl
  have hset : arrayDocument.setValue "a.x" ⟨"3"⟩ =
      (.ok (), (arrayDocument.setValue "a.x" ⟨"3"⟩).2) := rfl
  have hset' : arrayDocument.setValue "a[0].x" ⟨"3"⟩ =
      (.ok (), (arrayDocument.setValue "a[0].x" ⟨"3"⟩).2) := rfl
  have hseen := setValue_seen_where_read rfl rfl (by decide) hflat hset rfl
  have hunseen := setValue_seen_where_read rfl rfl (by decide) hoffset hset' rfl
  refine ⟨rfl, rfl, by decide, rfl, ?_, rfl, ?_⟩
  · exact hseen.1 ⟨rfl, by decide⟩
  · exact hunseen.2.1 fun hflat => absurd (hflat.2 _ List.mem_cons_self) nofun

end Document

end Settings
