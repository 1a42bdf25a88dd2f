import Settings.Command.Execution
import Settings.Proofs.Commutation
import Settings.Proofs.Composition
/-!
# Rows of assignments

Before a command asks a document for a value, it carries out assignments in a row. What they leave
in a field of the first group of a name is told by the last one to it, whatever else is assigned
before and after (`Document.fieldOf?_assignAll`): an assignment changes no other field, and of two
to one field the later counts. Assignments that are carried out leave the cache coherent, and they
decide nothing about which addresses lead to groups (`Document.Coherent.assignAll`). So the field is
what the question finds (`Document.Coherent.query_assignAll`).
-/

namespace Settings

/-! ## Fields after assignments -/

/-- Only the last of two assignments counts. -/
theorem FieldValue.assigned_getD_assigned (old : Option FieldValue) (v w : Scalar) :
    (((some ((old.getD (.scalar v)).assigned v)).getD (.scalar w)).assigned w) =
      (old.getD (.scalar w)).assigned w := by
  rcases old with _ | (s | items) <;> rfl

namespace Document

variable {d after : Document} {name field name' field' path : String} {value : Scalar}
  {assignments : List (String × Scalar)}

/-- What a field of the first group of a name holds once a value is assigned to it: the value, or
the array of it if the field is an array. -/
def assignedTo (d : Document) (name field : String) (value : Scalar) : FieldValue :=
  ((d.fieldOf? name field).getD (.scalar value)).assigned value

theorem fieldOf?_remember (d : Document) (asked name field : String) :
    (d.remember asked).fieldOf? name field = d.fieldOf? name field := by
  rw [fieldOf?, group?, groups_remember]
  rfl

/-- The field that is assigned to. -/
theorem fieldOf?_assign_self (d : Document) (name field : String) (value : Scalar) :
    (d.assign name field value).fieldOf? name field = some (d.assignedTo name field value) := by
  unfold assignedTo fieldOf? group?
  rw [groups_assign]
  cases hwritten : selectSibling? d.groups name none with
  | none =>
    rw [selectSibling?_assignIn_self_of_none hwritten]
    exact Group.field?_assign_self _ _ _
  | some found =>
    rw [selectSibling?_assignIn_self_of_some hwritten]
    exact Group.field?_assign_self _ _ _

/-- Another field of the group, or a field of another group. -/
theorem fieldOf?_assign_of_ne (hne : (name', field') ≠ (name, field)) (d : Document)
    (value : Scalar) :
    (d.assign name' field' value).fieldOf? name field = d.fieldOf? name field := by
  have hfield : ∀ g : Group, name = name' → (g.assign field' value).field? field = g.field? field :=
    fun g hname => Group.field?_assign_of_ne fun hfield => hne (by rw [hname, hfield])
  unfold fieldOf? group?
  rw [groups_assign]
  cases hselect : selectSibling? d.groups name none with
  | some found =>
    obtain ⟨g, position⟩ := found
    obtain ⟨other, hafter, hother⟩ := selectSibling?_assignIn_of_some hselect name' field' value
    rw [hafter]
    rcases hother with rfl | ⟨rfl, hwritten⟩
    · rfl
    · have hname := (identifier_of_selectSibling? hafter).symm.trans
        (identifier_of_selectSibling? hwritten)
      exact hfield g hname
  | none =>
    cases hafter : selectSibling? (assignIn name' field' value d.groups) name none with
    | none => rfl
    | some found =>
      -- a group that has been made has no other field
      obtain ⟨g, position⟩ := found
      obtain ⟨rfl, hwritten⟩ := selectSibling?_assignIn_of_none hselect hafter
      have hname := (identifier_of_selectSibling? hafter).symm.trans
        (identifier_of_selectSibling? hwritten)
      exact hfield (Group.named name') hname

/-! ## Rows of assignments -/

/-- The first of a row of assignments is carried out, and the others after it. -/
theorem assignAll_cons_eq_ok_iff {rest : List (String × Scalar)} :
    d.assignAll ((path, value) :: rest) = .ok after ↔
      ∃ between, d.setValue path value = (.ok (), between) ∧ between.assignAll rest = .ok after := by
  rw [assignAll]
  rcases d.setValue path value with ⟨_ | _, between⟩
  · constructor
    · nofun
    · rintro ⟨_, hset, -⟩
      cases hset
  · constructor
    · exact fun h => ⟨between, rfl, h⟩
    · rintro ⟨_, hset, h⟩
      cases hset
      exact h

/-- **One assignment.** It is to the field that its address names, and to no other. -/
theorem fieldOf?_setValue (hpoint : '.' ∉ field.toList)
    (h : d.setValue path value = (.ok (), after)) :
    after.fieldOf? name field =
      if path = name ++ "." ++ field then some (d.assignedTo name field value)
      else d.fieldOf? name field := by
  obtain ⟨-, name', field', hsplit, rfl⟩ := setValue_eq_ok_iff.mp h
  by_cases hpath : path = name ++ "." ++ field
  · cases (eq_join_iff_of_split hsplit hpoint).mp hpath
    rw [if_pos hpath, fieldOf?_assign_self, assignedTo, fieldOf?_remember, ← assignedTo]
  · rw [if_neg hpath, fieldOf?_assign_of_ne (mt (eq_join_iff_of_split hsplit hpoint).mpr hpath),
      fieldOf?_remember]

/-- **Assignments in a row.** The last one to a field tells what it holds, and a field that is not
assigned to holds what it held. The other assignments may be to any addresses, in any order. -/
theorem fieldOf?_assignAll (hpoint : '.' ∉ field.toList) (h : d.assignAll assignments = .ok after) :
    after.fieldOf? name field =
      match assignments.reverse.lookup (name ++ "." ++ field) with
      | some value => some (d.assignedTo name field value)
      | none => d.fieldOf? name field := by
  induction assignments generalizing d with
  | nil =>
    cases h
    rfl
  | cons assignment rest ih =>
    obtain ⟨path, value⟩ := assignment
    obtain ⟨between, hset, hrest⟩ := assignAll_cons_eq_ok_iff.mp h
    have hstep := @fieldOf?_setValue d between name field path value hpoint hset
    rw [ih hrest, List.reverse_cons, List.lookup_append, List.lookup_cons, List.lookup_nil]
    by_cases hpath : path = name ++ "." ++ field
    · rw [if_pos hpath] at hstep
      -- the mode of the field is kept, so a later assignment does what it would have done before
      have hkept : ∀ later, between.assignedTo name field later = d.assignedTo name field later := by
        intro later
        rw [assignedTo, hstep]
        exact FieldValue.assigned_getD_assigned _ value later
      simp only [hkept]
      cases rest.reverse.lookup (name ++ "." ++ field) with
      | some later => rfl
      | none => rw [hstep, Option.none_or, hpath, beq_self_eq_true]
    · rw [if_neg hpath] at hstep
      have hkept : ∀ later, between.assignedTo name field later = d.assignedTo name field later := by
        intro later
        rw [assignedTo, hstep, ← assignedTo]
      rw [beq_eq_false_iff_ne.mpr (Ne.symm hpath), Option.or_none]
      simp only [hkept, hstep]

/-! ## Questions after assignments -/

/-- Assignments that are carried out leave the cache coherent and the options as they are, and they
decide nothing about which addresses of fields lead to groups. -/
theorem Coherent.assignAll (h : d.Coherent []) (hset : d.assignAll assignments = .ok after) :
    after.Coherent [] ∧ after.options = d.options ∧
      ∀ path name field, splitFieldAddress path = .ok (name, field) →
        (after.LeadsToGroup path ↔ d.LeadsToGroup path) := by
  induction assignments generalizing d with
  | nil =>
    cases hset
    exact ⟨h, rfl, fun _ _ _ _ => Iff.rfl⟩
  | cons assignment rest ih =>
    obtain ⟨path, value⟩ := assignment
    obtain ⟨between, hfirst, hrest⟩ := assignAll_cons_eq_ok_iff.mp hset
    obtain ⟨-, name, field, hsplit, -⟩ := setValue_eq_ok_iff.mp hfirst
    obtain rfl : (d.setValue path value).2 = between := congrArg Prod.snd hfirst
    obtain ⟨hcoherent, hoptions, hgroups⟩ := ih (h.setValue path value) hrest
    refine ⟨hcoherent, hoptions.trans (options_setValue d path value), ?_⟩
    intro path' name' field' hsplit'
    exact (hgroups path' name' field' hsplit').trans
      (h.leadsToGroup_setValue_iff hsplit hsplit' value)

/-- An address that is assigned to leads to no group. -/
theorem Coherent.not_leadsToGroup_of_assignAll (h : d.Coherent [])
    (hset : d.assignAll assignments = .ok after) (hmem : path ∈ assignments.map Prod.fst)
    (hsplit : splitFieldAddress path = .ok (name, field)) : ¬ d.LeadsToGroup path := by
  induction assignments generalizing d with
  | nil => exact absurd hmem List.not_mem_nil
  | cons assignment rest ih =>
    obtain ⟨path', value⟩ := assignment
    obtain ⟨between, hfirst, hrest⟩ := assignAll_cons_eq_ok_iff.mp hset
    obtain ⟨hgroup, name', field', hsplit', -⟩ := setValue_eq_ok_iff.mp hfirst
    obtain rfl : (d.setValue path' value).2 = between := congrArg Prod.snd hfirst
    rcases List.mem_cons.mp hmem with rfl | hmem
    · rintro ⟨g, hg⟩
      exact hgroup g ((h.query_eq_lookup_of_nil path).trans hg)
    · rw [← h.leadsToGroup_setValue_iff hsplit' hsplit value]
      exact ih (h.setValue path' value) hrest hmem

/-- Where no group stands at the address of a field, the field is found there. -/
theorem answer_root_of_fieldOf? {v : FieldValue} (hv : d.fieldOf? name field = some v)
    (hgroup : ∀ g, d.root.answer [⟨name, none⟩, ⟨field, none⟩] ≠ .ok (.group g)) :
    d.root.answer [⟨name, none⟩, ⟨field, none⟩] = .ok (.value v) := by
  unfold fieldOf? group? at hv
  cases hselect : selectSibling? d.groups name none with
  | none => rw [hselect] at hv; cases hv
  | some found =>
    obtain ⟨base, position⟩ := found
    rw [hselect] at hv
    have hroot : d.root.answer [⟨name, none⟩, ⟨field, none⟩] = base.answer [⟨field, none⟩] :=
      Group.answer_cons_of_child (g := d.root) (s := ⟨name, none⟩) hselect
    cases hchild : selectSibling? base.children field none with
    | some child =>
      refine absurd ?_ (hgroup child.1)
      rw [hroot, Group.answer_cons_of_child (s := ⟨field, none⟩) hchild, Group.answer_nil]
    | none =>
      rw [hroot, Group.answer_field (g := base) (s := ⟨field, none⟩) hchild hv]
      cases v <;> rfl

/-- **A question after assignments.** The address of a field in a first group, assigned to at least
once, leads to what the last assignment to it makes of the field. -/
theorem Coherent.query_assignAll (h : d.Coherent []) (depth : 2 ≤ d.options.maxDepth)
    (hname : PlainName name) (hfield : PlainName field)
    (hset : d.assignAll assignments = .ok after)
    (hlast : assignments.reverse.lookup (name ++ "." ++ field) = some value) :
    (after.query (name ++ "." ++ field)).1 = .ok (.value (d.assignedTo name field value)) := by
  have hpoint : '.' ∉ field.toList := fun hmem => (hfield.2 _ hmem).1 rfl
  have hsplit := splitFieldAddress_join hname.1 hfield.1 hpoint
  have hmem : name ++ "." ++ field ∈ assignments.map Prod.fst := by
    obtain ⟨before, later, hassignments, -⟩ := List.lookup_eq_some_iff.mp hlast
    rw [← List.mem_reverse, ← List.map_reverse, hassignments]
    simp
  obtain ⟨hcoherent, hoptions, hgroups⟩ := h.assignAll hset
  have hnogroup : ¬ after.LeadsToGroup (name ++ "." ++ field) :=
    mt (hgroups _ _ _ hsplit).mp (h.not_leadsToGroup_of_assignAll hset hmem hsplit)
  have hfound : after.fieldOf? name field = some (d.assignedTo name field value) := by
    rw [fieldOf?_assignAll hpoint hset, hlast]
  -- nothing is remembered that is not so, and the tree has the field there
  have hlookup : after.lookup (name ++ "." ++ field) =
      after.root.answer [⟨name, none⟩, ⟨field, none⟩] := by
    have hparse : Address.parse (name ++ "." ++ field) = .ok ⟨[⟨name, none⟩, ⟨field, none⟩]⟩ :=
      Address.parse_join_eq_ok_iff.mpr
        ⟨_, _, Address.parse_plainName hname, Address.parse_plainName hfield, rfl⟩
    rw [lookup_of_parse hparse, hoptions]
    exact if_pos depth
  rw [hcoherent.query_eq_lookup_of_nil, hlookup]
  exact answer_root_of_fieldOf? hfound fun g hg => hnogroup ⟨g, hlookup.trans hg⟩

/-- What is printed of it. -/
theorem rendered_assignedTo (d : Document) (name field : String) (value : Scalar) :
    (Found.value (d.assignedTo name field value)).rendered none =
      .ok (match d.fieldOf? name field with
        | some (.array _) => .array [.string value.text]
        | _ => .string value.text) := by
  unfold assignedTo
  rcases d.fieldOf? name field with _ | (old | items) <;> rfl

end Document

end Settings
