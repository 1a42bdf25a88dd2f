import Settings.Proofs.Composition
import Settings.Proofs.Equality
import Settings.Proofs.Guard
import Settings.Proofs.Assignment
/-!
# Assignments in either order

Two assignments to different fields, or to fields of different groups, may be made in either order:
each is refused or carried out in both orders alike, and no query tells the two documents apart
(`Document.setValue_comm`).

The documents need not be equal. Two new fields of one group stand in the order in which they were
assigned to, and so do two new groups at the end. The first difference is one that `Group.same` does
not see, and the second one is seen by no query, since groups of different names are never counted
together (`rowsAlike_assignIn_comm`). That an assignment is refused as before rests on this: a group
has the children after an assignment that it had, and a new one has none
(`Document.leadsToGroup_assign_iff`).
-/

namespace Settings

/-! ## Fields of one group -/

namespace Group

variable {g : Group} {field field' : String} {value value' : Scalar}

/-- Every field of a group has the same value after two assignments to different fields, whichever
is made first. -/
theorem field?_assign_assign (hne : field ≠ field') (name : String) :
    ((g.assign field value).assign field' value').field? name =
      ((g.assign field' value').assign field value).field? name := by
  by_cases h : name = field
  · subst h
    rw [field?_assign_of_ne hne, field?_assign_self, field?_assign_self, field?_assign_of_ne hne]
  · by_cases h' : name = field'
    · subst h'
      rw [field?_assign_self, field?_assign_of_ne hne.symm, field?_assign_of_ne hne.symm,
        field?_assign_self]
    · rw [field?_assign_of_ne h', field?_assign_of_ne h, field?_assign_of_ne h,
        field?_assign_of_ne h']

/-- So the group says the same in both cases. -/
theorem same_assign_assign (g : Group) (hne : field ≠ field') :
    ((g.assign field value).assign field' value').same
      ((g.assign field' value').assign field value) = true := by
  rw [same_iff]
  refine ⟨rfl, rfl, rfl, ?_, sameAll_self g.children⟩
  exact Fields.same_iff_find?_eq.mpr (field?_assign_assign hne)

end Group

/-! ## Groups in a row -/

namespace Document

variable {groups : List Group} {name name' field field' : String} {value value' : Scalar}

theorem rowsAlike_self (groups : List Group) : RowsAlike groups groups :=
  rowsAlike_of_sameAll (Group.sameAll_self groups)

/-- Two assignments leave rows that are alike. -/
theorem rowsAlike_assignIn_comm (groups : List Group) (hne : (name, field) ≠ (name', field')) :
    RowsAlike (assignIn name' field' value' (assignIn name field value groups))
      (assignIn name field value (assignIn name' field' value' groups)) := by
  have hfields : name = name' → field ≠ field' := fun hname hfield =>
    hne (Prod.ext hname hfield)
  induction groups with
  | nil =>
    by_cases hname : name = name'
    · subst hname
      have hmade : ((Group.named name).assign field value).identifier = name := rfl
      have hmade' : ((Group.named name).assign field' value').identifier = name := rfl
      rw [assignIn, assignIn, assignIn_cons_of_eq hmade, assignIn_cons_of_eq hmade']
      exact (rowsAlike_self []).cons (Group.same_assign_assign (Group.named name) (hfields rfl))
    · -- both groups are new, and they stand in the order in which they were made
      rw [assignIn, assignIn,
        assignIn_cons_of_ne (g := (Group.named name).assign field value) hname,
        assignIn_cons_of_ne (g := (Group.named name').assign field' value') (Ne.symm hname)]
      exact rowsAlike_swap hname (Group.same_self _) (Group.same_self _)
  | cons g rest ih =>
    by_cases hname : g.identifier = name
    · by_cases hname' : g.identifier = name'
      · rw [assignIn_cons_of_eq hname, assignIn_cons_of_eq hname',
          assignIn_cons_of_eq (g := g.assign field value) hname',
          assignIn_cons_of_eq (g := g.assign field' value') hname]
        exact (rowsAlike_self rest).cons
          (g.same_assign_assign (hfields (hname.symm.trans hname')))
      · rw [assignIn_cons_of_eq hname, assignIn_cons_of_ne hname',
          assignIn_cons_of_ne (g := g.assign field value) hname', assignIn_cons_of_eq hname]
        exact (rowsAlike_self _).cons (Group.same_self _)
    · by_cases hname' : g.identifier = name'
      · rw [assignIn_cons_of_ne hname, assignIn_cons_of_eq hname', assignIn_cons_of_eq hname',
          assignIn_cons_of_ne (g := g.assign field' value') hname]
        exact (rowsAlike_self _).cons (Group.same_self _)
      · rw [assignIn_cons_of_ne hname, assignIn_cons_of_ne hname', assignIn_cons_of_ne hname',
          assignIn_cons_of_ne hname]
        exact ih.cons g.same_self

end Document

/-! ## Guards -/

/-- Below a group, an assignment neither makes nor hides a group. -/
theorem Group.answer_assign_eq_group_iff {g node : Group} {field : String} {value : Scalar}
    {s : Segment} {rest : List Segment} :
    (g.assign field value).answer (s :: rest) = .ok (.group node) ↔
      g.answer (s :: rest) = .ok (.group node) := by
  cases hselect : selectSibling? g.children s.name s.offset with
  | some found =>
    have hselect' : selectSibling? (g.assign field value).children s.name s.offset = some found :=
      hselect
    rw [answer_cons_of_child hselect, answer_cons_of_child hselect']
  | none =>
    have hselect' : selectSibling? (g.assign field value).children s.name s.offset = none := hselect
    exact ⟨fun h => absurd h (answer_cons_ne_group hselect' node),
      fun h => absurd h (answer_cons_ne_group hselect node)⟩

namespace Document

variable {d d' : Document} {path path' name name' field field' : String} {value value' : Scalar}

/-- Neither does it among the top-level groups, as far as addresses of two segments or more can
tell. -/
theorem answer_root_assign_eq_group_iff {first second : Segment} {rest : List Segment}
    {node : Group} :
    (d.assign name field value).root.answer (first :: second :: rest) = .ok (.group node) ↔
      d.root.answer (first :: second :: rest) = .ok (.group node) := by
  cases hselect : selectSibling? d.groups first.name first.offset with
  | some found =>
    obtain ⟨g, position⟩ := found
    obtain ⟨other, hafter, hother⟩ := selectSibling?_assignIn_of_some hselect name field value
    rw [Group.answer_cons_of_child (g := d.root) hselect,
      Group.answer_cons_of_child (by rw [children_root_assign]; exact hafter)]
    rcases hother with rfl | ⟨rfl, -⟩
    · exact Iff.rfl
    · exact Group.answer_assign_eq_group_iff
  | none =>
    have hbefore : d.root.answer (first :: second :: rest) ≠ .ok (.group node) :=
      Group.answer_cons_ne_group hselect node
    cases hafter : selectSibling? (assignIn name field value d.groups) first.name first.offset with
    | none =>
      have hnone : selectSibling? (d.assign name field value).root.children first.name
          first.offset = none := by rw [children_root_assign, hafter]
      exact ⟨fun h => absurd h (Group.answer_cons_ne_group hnone node), fun h => absurd h hbefore⟩
    | some found =>
      -- a new group is selected, and there is nothing below it
      obtain ⟨other, position⟩ := found
      obtain ⟨rfl, -⟩ := selectSibling?_assignIn_of_none hselect hafter
      rw [Group.answer_cons_of_child (by rw [children_root_assign]; exact hafter),
        Group.answer_assign_eq_group_iff, Group.answer_named]
      exact ⟨nofun, fun h => absurd h hbefore⟩

/-- An address of a field leads to a group after an assignment exactly if it did before. -/
theorem leadsToGroup_assign_iff (hsplit : splitFieldAddress path = .ok (name', field')) :
    (d.assign name field value).LeadsToGroup path ↔ d.LeadsToGroup path := by
  unfold LeadsToGroup
  cases hparse : Address.parse path with
  | error e => rw [lookup_of_parse_error hparse, lookup_of_parse_error hparse]
  | ok address =>
    obtain ⟨first, second, rest, hsegments, -⟩ := Address.parse_of_split hparse hsplit
    rw [lookup_of_parse hparse, lookup_of_parse hparse, options_assign, hsegments]
    split
    · exact exists_congr fun node => answer_root_assign_eq_group_iff
    · exact Iff.rfl

theorem leadsToGroup_remember_iff (asked : String) :
    (d.remember asked).LeadsToGroup path ↔ d.LeadsToGroup path := by
  rw [LeadsToGroup, lookup_remember, LeadsToGroup]

/-! ## Two assignments -/

/-- An assignment to an address that leads to a group is refused. -/
theorem Coherent.setValue_of_leadsToGroup (h : d.Coherent []) (hgroup : d.LeadsToGroup path)
    (value : Scalar) :
    d.setValue path value =
      (.error (.invalidMutation path "cannot assign a scalar over an entire group"),
        d.remember path) := by
  obtain ⟨g, hg⟩ := hgroup
  exact setValue_of_group ((h.query_eq_lookup_of_nil path).trans hg) value

/-- Any other is carried out. -/
theorem Coherent.setValue_of_not_leadsToGroup (h : d.Coherent [])
    (hgroup : ¬ d.LeadsToGroup path) (hsplit : splitFieldAddress path = .ok (name, field))
    (value : Scalar) :
    d.setValue path value = (.ok (), (d.remember path).assign name field value) := by
  refine setValue_eq_ok_iff.mpr ⟨?_, name, field, hsplit, rfl⟩
  intro g hg
  exact hgroup ⟨g, (h.query_eq_lookup_of_nil path).symm.trans hg⟩

/-- What the tree has after an assignment, carried out or not. -/
theorem Coherent.groups_setValue (h : d.Coherent [])
    (hsplit : splitFieldAddress path = .ok (name, field)) (value : Scalar) :
    (d.LeadsToGroup path → (d.setValue path value).2.groups = d.groups) ∧
      (¬ d.LeadsToGroup path →
        (d.setValue path value).2.groups = assignIn name field value d.groups) := by
  constructor
  · intro hgroup
    rw [h.setValue_of_leadsToGroup hgroup, groups_remember]
  · intro hgroup
    rw [h.setValue_of_not_leadsToGroup hgroup hsplit, groups_assign, groups_remember]

theorem options_setValue (d : Document) (path : String) (value : Scalar) :
    (d.setValue path value).2.options = d.options := options_serve d (.setValue path value)

/-- An assignment, carried out or not, decides nothing about another one. -/
theorem Coherent.leadsToGroup_setValue_iff (h : d.Coherent [])
    (hsplit : splitFieldAddress path = .ok (name, field))
    (hsplit' : splitFieldAddress path' = .ok (name', field')) (value : Scalar) :
    (d.setValue path value).2.LeadsToGroup path' ↔ d.LeadsToGroup path' := by
  by_cases hgroup : d.LeadsToGroup path
  · rw [h.setValue_of_leadsToGroup hgroup, leadsToGroup_remember_iff]
  · rw [h.setValue_of_not_leadsToGroup hgroup hsplit, leadsToGroup_assign_iff hsplit',
      leadsToGroup_remember_iff]

theorem Coherent.setValue (h : d.Coherent []) (path : String) (value : Scalar) :
    (d.setValue path value).2.Coherent [] := by
  have hserved := coherent_serve h (.setValue path value)
  split at hserved
  · exact hserved
  · exact hserved

/-- The outcome of an assignment depends on its guard only. -/
theorem Coherent.setValue_fst_congr (h : d.Coherent []) (h' : d'.Coherent [])
    (hguard : d.LeadsToGroup path ↔ d'.LeadsToGroup path)
    (hsplit : splitFieldAddress path = .ok (name, field)) (value : Scalar) :
    (d.setValue path value).1 = (d'.setValue path value).1 := by
  by_cases hgroup : d.LeadsToGroup path
  · rw [h.setValue_of_leadsToGroup hgroup, h'.setValue_of_leadsToGroup (hguard.mp hgroup)]
  · rw [h.setValue_of_not_leadsToGroup hgroup hsplit,
      h'.setValue_of_not_leadsToGroup (mt hguard.mpr hgroup) hsplit]

/-- Two assignments leave rows that are alike, whether they are carried out or not. -/
theorem Coherent.rowsAlike_setValue_comm (h : d.Coherent [])
    (hsplit : splitFieldAddress path = .ok (name, field))
    (hsplit' : splitFieldAddress path' = .ok (name', field'))
    (hne : (name, field) ≠ (name', field')) (value value' : Scalar) :
    RowsAlike ((d.setValue path value).2.setValue path' value').2.groups
        ((d.setValue path' value').2.setValue path value).2.groups := by
  have hone := h.groups_setValue hsplit value
  have htwo := h.groups_setValue hsplit' value'
  have hboth := (h.setValue path value).groups_setValue hsplit' value'
  have hboth' := (h.setValue path' value').groups_setValue hsplit value
  rw [h.leadsToGroup_setValue_iff hsplit hsplit'] at hboth
  rw [h.leadsToGroup_setValue_iff hsplit' hsplit] at hboth'
  by_cases hgroup : d.LeadsToGroup path
  · rw [hboth'.1 hgroup]
    by_cases hgroup' : d.LeadsToGroup path'
    · rw [hboth.1 hgroup', hone.1 hgroup, htwo.1 hgroup']
      exact rowsAlike_self _
    · rw [hboth.2 hgroup', hone.1 hgroup, htwo.2 hgroup']
      exact rowsAlike_self _
  · rw [hboth'.2 hgroup]
    by_cases hgroup' : d.LeadsToGroup path'
    · rw [hboth.1 hgroup', hone.2 hgroup, htwo.1 hgroup']
      exact rowsAlike_self _
    · rw [hboth.2 hgroup', hone.2 hgroup, htwo.2 hgroup']
      exact rowsAlike_assignIn_comm d.groups hne

/-- **Assignments in either order.** Let nothing be remembered, under the policy that forgets on
writing, and let two addresses of fields differ in the group part or in the field part. Each of two
assignments to them has the same outcome whether it is made first or second. In both orders they
leave as many groups, and every query is answered alike: by the same miss, the same scalar or array,
or by groups that say the same. -/
theorem setValue_comm (d : Document) (policy : d.options.cachePolicy = .invalidateOnWrite)
    (empty : d.cache.entries = [])
    (hsplit : splitFieldAddress path = .ok (name, field))
    (hsplit' : splitFieldAddress path' = .ok (name', field'))
    (hne : (name, field) ≠ (name', field')) (value value' : Scalar) :
    let one := d.setValue path value
    let two := d.setValue path' value'
    let both := one.2.setValue path' value'
    let both' := two.2.setValue path value
    one.1 = both'.1 ∧ two.1 = both.1 ∧ both.2.groups.length = both'.2.groups.length ∧
      ∀ sought, Alike (both.2.query sought).1 (both'.2.query sought).1 := by
  intro one two both both'
  have hd := coherent_of_entries_eq_nil policy empty
  have hone : one.2.Coherent [] := hd.setValue path value
  have htwo : two.2.Coherent [] := hd.setValue path' value'
  have hboth : both.2.Coherent [] := hone.setValue path' value'
  have hboth' : both'.2.Coherent [] := htwo.setValue path value
  have hguard := hd.leadsToGroup_setValue_iff hsplit' hsplit value'
  have hguard' := hd.leadsToGroup_setValue_iff hsplit hsplit' value
  have hrows : RowsAlike both.2.groups both'.2.groups :=
    hd.rowsAlike_setValue_comm hsplit hsplit' hne value value'
  have hoptions : both'.2.options = both.2.options := by
    rw [options_setValue, options_setValue, options_setValue, options_setValue]
  refine ⟨?_, ?_, hrows.length, ?_⟩
  · exact hd.setValue_fst_congr htwo hguard.symm hsplit value
  · exact hd.setValue_fst_congr hone hguard'.symm hsplit' value'
  · intro sought
    rw [hboth.query_eq_lookup_of_nil, hboth'.query_eq_lookup_of_nil]
    exact lookup_alike hoptions hrows sought

/-- Two new fields of a group stand in the order in which they were assigned to, but the group says
the same. An assignment over the group inside is refused in either order. -/
theorem setValue_comm_nested :
    nestedDocument.options.cachePolicy = .invalidateOnWrite ∧ nestedDocument.cache.entries = [] ∧
      Alike (((nestedDocument.setValue "a.y" ⟨"1"⟩).2.setValue "a.z" ⟨"2"⟩).2.query "a").1
        (((nestedDocument.setValue "a.z" ⟨"2"⟩).2.setValue "a.y" ⟨"1"⟩).2.query "a").1 ∧
      (nestedDocument.setValue "a.b" ⟨"1"⟩).1 =
        ((nestedDocument.setValue "c.y" ⟨"2"⟩).2.setValue "a.b" ⟨"1"⟩).1 ∧
      (nestedDocument.setValue "a.b" ⟨"1"⟩).1 =
        .error (.invalidMutation "a.b" "cannot assign a scalar over an entire group") := by
  have hy : splitFieldAddress "a.y" = .ok ("a", "y") := rfl
  have hz : splitFieldAddress "a.z" = .ok ("a", "z") := rfl
  have hb : splitFieldAddress "a.b" = .ok ("a", "b") := rfl
  have hc : splitFieldAddress "c.y" = .ok ("c", "y") := rfl
  have hfields := setValue_comm nestedDocument rfl rfl hy hz (by decide) ⟨"1"⟩ ⟨"2"⟩
  have hguard := setValue_comm nestedDocument rfl rfl hb hc (by decide) ⟨"1"⟩ ⟨"2"⟩
  exact ⟨rfl, rfl, hfields.2.2.2 "a", hguard.1, rfl⟩

end Document

end Settings
