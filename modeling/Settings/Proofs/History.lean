import Settings.Proofs.Growth
/-!
# What a session keeps

An earlier and a later time of a session are compared by what a top-level group may have become in
between: `Group.Ages` allows for flags and for fields of the group itself, and `Group.KeepsFlags`
for such fields only. Flagging is the one request that the first of the two relations allows and the
second does not. `Document.tree_only_grows` puts them together.
-/

namespace Settings

/-! ## The fields of a group -/

namespace Fields

variable {name : String} {change : Option FieldValue → FieldValue}

/-- The names of fields in their order, each with whether it holds an array. -/
def modes (fields : Fields) : List (String × Bool) :=
  fields.entries.map fun f => (f.name, f.value.isArray)

/-- Writing in the mode that is there leaves all names and modes in their order, and puts at most
one after them. -/
theorem modes_write (hmode : ∀ v, (change (some v)).isArray = v.isArray) (fields : Fields) :
    modes fields <+: modes (write name change fields) := by
  let mode (f : Field) : String × Bool := (f.name, f.value.isArray)
  show fields.entries.map mode <+: (Field.writeIn name change fields.entries).map mode
  induction fields.entries with
  | nil => exact List.nil_prefix
  | cons f rest ih =>
    rw [Field.writeIn]
    by_cases hf : f.name = name
    · have hsame : (⟨name, change (some f.value)⟩ :: rest : List Field).map mode =
          (f :: rest).map mode := by
        simp only [mode, List.map_cons, hmode, hf]
      rw [if_pos hf]
      exact ⟨[], by rw [List.append_nil, hsame]⟩
    · rw [if_neg hf]
      exact (List.prefix_cons_inj _).mpr ih

end Fields

namespace Group

variable {g g' g'' : Group}

/-- A top-level group at an earlier and a later time, with all that may come of it: below it nothing
changes but flags, and its own fields stay in their order and in their modes, with new ones after
them. -/
structure Ages (g g' : Group) : Prop extends GrowsInto g g' where
  fields : Fields.modes g.fields <+: Fields.modes g'.fields

/-- A top-level group at an earlier and a later time, between which nothing is flagged. -/
structure KeepsFlags (g g' : Group) : Prop where
  repeated : g'.repeated = g.repeated
  children : g'.children = g.children

theorem Ages.refl (g : Group) : g.Ages g := ⟨.refl g, List.prefix_refl _⟩

theorem Ages.trans (h : g.Ages g') (h' : g'.Ages g'') : g.Ages g'' :=
  ⟨h.toGrowsInto.trans h'.toGrowsInto, h.fields.trans h'.fields⟩

/-- An assignment keeps the mode of a field that is there. -/
theorem ages_assign (g : Group) (field : String) (value : Scalar) :
    g.Ages (g.assign field value) := by
  refine ⟨growsInto_assign g field value, Fields.modes_write ?_ g.fields⟩
  intro v
  cases v <;> rfl

theorem ages_flagged (g : Group) (flag : Bool) : g.Ages (g.flagged flag) := by
  refine ⟨growsInto_flagged g flag, ?_⟩
  cases g
  exact List.prefix_refl _

theorem KeepsFlags.refl (g : Group) : g.KeepsFlags g := ⟨rfl, rfl⟩

theorem KeepsFlags.trans (h : g.KeepsFlags g') (h' : g'.KeepsFlags g'') : g.KeepsFlags g'' :=
  ⟨h'.repeated.trans h.repeated, h'.children.trans h.children⟩

theorem keepsFlags_assign (g : Group) (field : String) (value : Scalar) :
    g.KeepsFlags (g.assign field value) := ⟨rfl, rfl⟩

end Group

/-! ## Sessions -/

theorem lasting_ages : Lasting Group.Ages :=
  ⟨Group.Ages.refl, fun _ _ _ => .trans, Group.ages_assign⟩

theorem lasting_keepsFlags : Lasting Group.KeepsFlags :=
  ⟨Group.KeepsFlags.refl, fun _ _ _ => .trans, Group.keepsFlags_assign⟩

namespace Document

/-- **The tree only grows.** Compare two times of a session, under either policy. Every top-level
group is still in its place, with its identifier and its metadata. The groups below it are the same
at every depth, apart from flags. Its fields are all there, in their order and in their modes, and
new fields stand after them, as new groups stand after the old ones. Flags are the same as well, at
every depth, if nothing was flagged in between. And what stands below a top-level group never gains
or changes a field: it is the same node, apart from flags. -/
theorem tree_only_grows (d : Document) (before after : List Request) :
    RowGrows Group.Ages (d.run before).groups (d.run (before ++ after)).groups ∧
    (.flagRepeats ∉ after →
      RowGrows Group.KeepsFlags (d.run before).groups (d.run (before ++ after)).groups) ∧
    (∀ top position rest node, (d.run before).atTrail? (top :: position :: rest) = some node →
      ∃ node', (d.run (before ++ after)).atTrail? (top :: position :: rest) = some node' ∧
        node'.unflagged = node.unflagged) := by
  have hrun : d.run (before ++ after) = (d.run before).run after := List.foldl_append
  rw [hrun]
  have hages : RowGrows Group.Ages (d.run before).groups ((d.run before).run after).groups :=
    rowGrows_run lasting_ages _ after fun _ => Group.ages_flagged
  refine ⟨hages, ?_, ?_⟩
  · intro hflag
    exact rowGrows_run lasting_keepsFlags _ after fun hmem => absurd hmem hflag
  · intro top position rest node hnode
    rw [atTrail?, Option.bind_eq_some_iff] at hnode
    obtain ⟨g, hg, hbelow⟩ := hnode
    obtain ⟨g', hg', hgrown⟩ := hages.getElem? hg
    have hsame := hgrown.toGrowsInto.unflagged_atTrail? position rest
    rw [hbelow, Option.map_some, Option.map_eq_some_iff] at hsame
    obtain ⟨node', hnode', hunflagged⟩ := hsame
    exact ⟨node', by rw [atTrail?, hg', Option.bind_some, hnode'], hunflagged⟩

/-- A group with an array and a child. -/
def growingDocument : Document where
  groups := [{ identifier := "a", fields := .ofList [⟨"x", .array [⟨"1"⟩]⟩],
               children :=
                 [{ identifier := "b", fields := .ofList [⟨"y", .scalar ⟨"1"⟩⟩] }] }]

/-- Two assignments to the group, and another group of its name. -/
def growingSession : List Request :=
  [.setValue "a.x" ⟨"2"⟩, .setValue "a.z" ⟨"3"⟩, .addGroup (.named "a")]

/-- The array stays one, the new field stands after it, and the child is what it was. Not before
flagging is requested does the flag of the group change, so its flag is not kept from then on. -/
theorem tree_only_grows_until_flagged :
    RowGrows Group.Ages growingDocument.groups (growingDocument.run growingSession).groups ∧
      RowGrows Group.KeepsFlags growingDocument.groups
        (growingDocument.run growingSession).groups ∧
      (growingDocument.run growingSession).groups.map (·.fields.entries) =
        [[⟨"x", .array [⟨"2"⟩]⟩, ⟨"z", .scalar ⟨"3"⟩⟩], []] ∧
      (growingDocument.run (growingSession ++ [.flagRepeats])).groups.map (·.repeated) =
        [true, true] ∧
      RowGrows Group.Ages (growingDocument.run growingSession).groups
        (growingDocument.run (growingSession ++ [.flagRepeats])).groups := by
  have hflag : Request.flagRepeats ∉ growingSession := by
    simp [growingSession]
  obtain ⟨hages, hkeeps, -⟩ := tree_only_grows growingDocument [] growingSession
  exact ⟨hages, hkeeps hflag, rfl, rfl, (tree_only_grows growingDocument growingSession _).1⟩

end Document

end Settings
