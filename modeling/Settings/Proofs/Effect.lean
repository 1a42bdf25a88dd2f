import Settings.Proofs.Assignment
/-!
# The effect of an assignment

What an assignment that is carried out does to a document, and that it does nothing else. Among the
fields of a group one is set where it stands, or put after all others (`Field.IsSet`). Among the
top-level groups the first one of a name is written to where it stands, or a new one is put after
all others (`Document.IsAssigned`). The two relations say of a row what became of it, and they leave
one row to become of it (`Group.isSet_iff`, `Document.isAssigned_iff`). Since whatever is set can be
set again to what it is (`Document.IsAssigned.again`), to repeat an assignment changes nothing.
-/

namespace Settings

/-! ## Fields -/

namespace Field

variable {name : String} {value : Scalar} {fields fields' : List Field}
  {change : Option FieldValue → FieldValue}

/-- Fields before and after one of them is set to a scalar: the first one of the name in its place
and in its mode, or else a new one after all others. -/
inductive IsSet (name : String) (value : Scalar) : List Field → List Field → Prop
  | scalar {before after : List Field} {old : Scalar} (first : ∀ f ∈ before, f.name ≠ name) :
      IsSet name value (before ++ ⟨name, .scalar old⟩ :: after)
        (before ++ ⟨name, .scalar value⟩ :: after)
  | array {before after : List Field} {items : List Scalar}
      (first : ∀ f ∈ before, f.name ≠ name) :
      IsSet name value (before ++ ⟨name, .array items⟩ :: after)
        (before ++ ⟨name, .array [value]⟩ :: after)
  | new {fields : List Field} (absent : ∀ f ∈ fields, f.name ≠ name) :
      IsSet name value fields (fields ++ [⟨name, .scalar value⟩])

/-- Writing to a name passes over other names. -/
theorem writeIn_append {before : List Field} (h : ∀ f ∈ before, f.name ≠ name) (rest : List Field) :
    writeIn name change (before ++ rest) = before ++ writeIn name change rest := by
  induction before with
  | nil => rfl
  | cons f more ih =>
    obtain ⟨hf, hmore⟩ := List.forall_mem_cons.mp h
    rw [List.cons_append, writeIn, if_neg hf, ih hmore, List.cons_append]

theorem IsSet.cons {f : Field} (h : IsSet name value fields fields') (hf : f.name ≠ name) :
    IsSet name value (f :: fields) (f :: fields') := by
  cases h with
  | @scalar before after old first =>
    exact @IsSet.scalar _ _ (f :: before) after old (List.forall_mem_cons.mpr ⟨hf, first⟩)
  | @array before after items first =>
    exact @IsSet.array _ _ (f :: before) after items (List.forall_mem_cons.mpr ⟨hf, first⟩)
  | new absent => exact .new (List.forall_mem_cons.mpr ⟨hf, absent⟩)

/-- Fields that are set can be set again to what they are. -/
theorem IsSet.again (h : IsSet name value fields fields') : IsSet name value fields' fields' := by
  cases h with
  | scalar first => exact .scalar first
  | array first => exact .array first
  | new absent => exact .scalar absent

end Field

namespace Group

variable {g : Group} {field : String} {value : Scalar} {fields : Fields}

theorem isSet_assign (g : Group) (field : String) (value : Scalar) :
    Field.IsSet field value g.fields.entries (g.assign field value).fields.entries := by
  show Field.IsSet field value g.fields.entries (Field.writeIn field _ g.fields.entries)
  have hnone : ∀ f ∈ ([] : List Field), f.name ≠ field :=
    fun f hf => absurd hf List.not_mem_nil
  induction g.fields.entries with
  | nil => exact .new hnone
  | cons f rest ih =>
    rw [Field.writeIn]
    by_cases hf : f.name = field
    · rw [if_pos hf]
      obtain ⟨_, old | items⟩ := f
      · obtain rfl := hf
        exact @Field.IsSet.scalar _ _ [] rest old hnone
      · obtain rfl := hf
        exact @Field.IsSet.array _ _ [] rest items hnone
    · rw [if_neg hf]
      exact ih.cons hf

/-- There is one way to set a field of a group. -/
theorem isSet_iff :
    Field.IsSet field value g.fields.entries fields.entries ↔
      g.assign field value = { g with fields } := by
  constructor
  · obtain ⟨identifier, repeated, ⟨old, _⟩, children, metadata⟩ := g
    obtain ⟨new, _⟩ := fields
    intro h
    dsimp only at h
    have hentries : Field.writeIn field (fun before => (before.getD (.scalar value)).assigned value)
        old = new := by
      cases h with
      | scalar first =>
        rw [Field.writeIn_append first, Field.writeIn, if_pos rfl]
        rfl
      | array first =>
        rw [Field.writeIn_append first, Field.writeIn, if_pos rfl]
        rfl
      | new absent =>
        rw [← List.append_nil old, Field.writeIn_append absent, List.append_nil]
        rfl
    subst hentries
    rfl
  · intro h
    have hset := isSet_assign g field value
    rwa [h] at hset

end Group

/-! ## Top-level groups -/

namespace Document

variable {name field : String} {value : Scalar} {groups groups' : List Group}

/-- Top-level groups before and after an assignment to a field of a name: in the first group of the
name the field is set, and all else of it stays, or else a group with that one field is put after
all others. -/
inductive IsAssigned (name field : String) (value : Scalar) : List Group → List Group → Prop
  | changed {before after : List Group} {g : Group} {fields : Fields}
      (first : ∀ other ∈ before, other.identifier ≠ name) (named : g.identifier = name)
      (set : Field.IsSet field value g.fields.entries fields.entries) :
      IsAssigned name field value (before ++ g :: after) (before ++ { g with fields } :: after)
  | new {groups : List Group} (absent : ∀ g ∈ groups, g.identifier ≠ name) :
      IsAssigned name field value groups (groups ++ [{
        identifier := name, repeated := false,
        fields := { entries := [⟨field, .scalar value⟩], distinct := List.pairwise_singleton _ _ },
        children := [], metadata := .empty }])

theorem IsAssigned.cons {g : Group} (h : IsAssigned name field value groups groups')
    (hg : g.identifier ≠ name) : IsAssigned name field value (g :: groups) (g :: groups') := by
  cases h with
  | @changed before after other fields first named set =>
    exact @IsAssigned.changed _ _ _ (g :: before) after other fields
      (List.forall_mem_cons.mpr ⟨hg, first⟩) named set
  | new absent => exact .new (List.forall_mem_cons.mpr ⟨hg, absent⟩)

/-- What is assigned can be assigned again, and nothing changes. -/
theorem IsAssigned.again (h : IsAssigned name field value groups groups') :
    IsAssigned name field value groups' groups' := by
  cases h with
  | @changed before after g fields first named set =>
    exact .changed (g := { g with fields }) first named set.again
  | new absent => exact .changed absent rfl (@Field.IsSet.scalar _ _ [] [] value nofun)

/-- Assigning passes over groups of other names. -/
theorem assignIn_append {before : List Group} (h : ∀ g ∈ before, g.identifier ≠ name)
    (field : String) (value : Scalar) (rest : List Group) :
    assignIn name field value (before ++ rest) = before ++ assignIn name field value rest := by
  induction before with
  | nil => rfl
  | cons g more ih =>
    obtain ⟨hg, hmore⟩ := List.forall_mem_cons.mp h
    rw [List.cons_append, assignIn_cons_of_ne hg, ih hmore, List.cons_append]

theorem isAssigned_assignIn (name field : String) (value : Scalar) (groups : List Group) :
    IsAssigned name field value groups (assignIn name field value groups) := by
  induction groups with
  | nil => exact .new nofun
  | cons g rest ih =>
    by_cases hg : g.identifier = name
    · rw [assignIn_cons_of_eq hg]
      exact @IsAssigned.changed _ _ _ [] rest g _ nofun hg (g.isSet_assign field value)
    · rw [assignIn_cons_of_ne hg]
      exact ih.cons hg

/-- There is one way to assign to a field of a name. -/
theorem isAssigned_iff :
    IsAssigned name field value groups groups' ↔ assignIn name field value groups = groups' := by
  constructor
  · intro h
    cases h with
    | changed first named set =>
      rw [assignIn_append first, assignIn_cons_of_eq named, Group.isSet_iff.mp set]
    | new absent =>
      have hassign := assignIn_append absent field value []
      rwa [List.append_nil] at hassign
  · rintro rfl
    exact isAssigned_assignIn name field value groups

variable {d after : Document} {path : String}

/-- To carry out an assignment once more, whether or not it is refused by then, changes no group. -/
theorem groups_setValue_again (hsplit : splitFieldAddress path = .ok (name, field))
    (h : IsAssigned name field value d.groups d.groups) :
    (d.setValue path value).2.groups = d.groups := by
  by_cases hgroup : ∃ g, (d.query path).1 = .ok (.group g)
  · obtain ⟨g, hg⟩ := hgroup
    rw [setValue_of_group hg, groups_remember]
  · rw [setValue_of_not_group (not_exists.mp hgroup), hsplit]
    show ((d.remember path).assign name field value).groups = d.groups
    rw [groups_assign, groups_remember]
    exact isAssigned_iff.mp h

/-- **The effect of an assignment.** Let an assignment be carried out, whatever the policy and
whatever is remembered. Then its address has a last point with something before it and something
after it. The options stay, and of the top-level groups the first one named by what stands before
the point has the field named by what stands after it set to the value; if there is none, a group
with that field alone comes after all others. All else stays as it is, at every level. The same
assignment once more changes no group. -/
theorem setValue_effect (h : d.setValue path value = (.ok (), after)) :
    ∃ name field, path = name ++ "." ++ field ∧ '.' ∉ field.toList ∧ name ≠ "" ∧ field ≠ "" ∧
      after.options = d.options ∧ IsAssigned name field value d.groups after.groups ∧
      (after.setValue path value).2.groups = after.groups := by
  obtain ⟨-, name, field, hsplit, rfl⟩ := setValue_eq_ok_iff.mp h
  obtain ⟨-, hpoint⟩ := toList_of_splitFieldAddress hsplit
  obtain ⟨-, hname, hfield⟩ := splitFieldAddress_eq_ok_iff.mp hsplit
  have hassigned : IsAssigned name field value d.groups
      ((d.remember path).assign name field value).groups := by
    rw [groups_assign, groups_remember]
    exact isAssigned_assignIn name field value d.groups
  refine ⟨name, field, (eq_join_iff_of_split hsplit hpoint).mpr rfl, hpoint, hname, hfield, ?_,
    hassigned, groups_setValue_again hsplit hassigned.again⟩
  rw [options_assign, options_remember]

/-- Two groups whose name has a point in it, and a remembered miss that is retained. -/
def pointedDocument : Document where
  groups := [Group.named "a",
    { identifier := "a.b", repeated := true,
      fields := .ofList [⟨"f", .array [⟨"1"⟩, ⟨"2"⟩]⟩, ⟨"h", .scalar ⟨"0"⟩⟩],
      children := [Group.named "c"], metadata := .ofList [("k", "v")] },
    { identifier := "a.b", repeated := true }]
  cache := ⟨[("a.b.f", .error .notFound)]⟩
  options := { cachePolicy := .retain }

/-- Of the two groups the first is written to. The array stays one, in its place. -/
theorem setValue_effect_pointed :
    (pointedDocument.setValue "a.b.f" ⟨"3"⟩).1 = .ok () ∧
      (pointedDocument.setValue "a.b.f" ⟨"3"⟩).2.groups = [Group.named "a",
        { identifier := "a.b", repeated := true,
          fields := .ofList [⟨"f", .array [⟨"3"⟩]⟩, ⟨"h", .scalar ⟨"0"⟩⟩],
          children := [Group.named "c"], metadata := .ofList [("k", "v")] },
        { identifier := "a.b", repeated := true }] ∧
      ∃ name field, "a.b.f" = name ++ "." ++ field ∧ '.' ∉ field.toList ∧ name ≠ "" ∧ field ≠ "" ∧
        (pointedDocument.setValue "a.b.f" ⟨"3"⟩).2.options = pointedDocument.options ∧
        IsAssigned name field ⟨"3"⟩ pointedDocument.groups
          (pointedDocument.setValue "a.b.f" ⟨"3"⟩).2.groups ∧
        ((pointedDocument.setValue "a.b.f" ⟨"3"⟩).2.setValue "a.b.f" ⟨"3"⟩).2.groups =
          (pointedDocument.setValue "a.b.f" ⟨"3"⟩).2.groups :=
  ⟨rfl, rfl, setValue_effect rfl⟩

end Document

end Settings
