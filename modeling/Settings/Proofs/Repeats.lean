import Settings.Proofs.Growth
/-!
# Repeated siblings

What flagging does to a tree. At every level a group is flagged exactly when its name stands there
at least twice (`Flagged`), and so a name selects by its row: with an offset the group at that place
if there are several of the name and none if there is one, and without an offset the first
(`Flagged.selectsByPlace`). Apart from flags the tree stays as it is, and what the flags were before
does not count (`Group.flagAmong_unflaggedAll`), so that flagging once more changes nothing.
`flagRepeats_exact` puts this together.
-/

namespace Settings

variable {siblings others : List Group}

/-! ## Selecting among flagged siblings -/

/-- Selecting by an offset goes by a row: without an offset its first group is selected, and with
one the group at that place, provided that there are two groups in the row or more. -/
structure SelectsByPlace (select : Option Nat → Option Group) (row : List Group) : Prop where
  first : select none = row[0]?
  nth : ∀ place, 2 ≤ row.length → select (some place) = row[place]?
  only : ∀ place, row.length ≤ 1 → select (some place) = none

/-- Among flagged siblings, the groups of one name are all repeated or there is at most one. -/
theorem Flagged.repeated_iff {g : Group} {name : String} (h : Flagged siblings)
    (hg : g ∈ namesakes siblings name) :
    g.repeated = true ↔ 2 ≤ (namesakes siblings name).length := by
  obtain ⟨hmem, hname⟩ := List.mem_filter.mp hg
  rw [h g hmem, of_decide_eq_true hname, length_namesakes]

/-- Among flagged siblings a name selects by the row of those who have it. -/
theorem Flagged.selectsByPlace (h : Flagged siblings) (name : String) :
    SelectsByPlace (fun offset => (selectSibling? siblings name offset).map Prod.fst)
      (namesakes siblings name) where
  first := by
    rw [selectSibling?_map_fst, Option.getD_none]
    cases (namesakes siblings name)[0]? <;> rfl
  nth := by
    intro place hseveral
    rw [selectSibling?_map_fst, Option.getD_some]
    cases hplace : (namesakes siblings name)[place]? with
    | none => rfl
    | some g =>
      have hrepeated := (h.repeated_iff (List.mem_of_getElem? hplace)).mpr hseveral
      rw [Option.filter_some, hrepeated]
      rfl
  only := by
    intro place honly
    rw [selectSibling?_map_fst, Option.getD_some]
    cases hplace : (namesakes siblings name)[place]? with
    | none => rfl
    | some g =>
      have hrepeated : ¬ g.repeated = true := by
        rw [h.repeated_iff (List.mem_of_getElem? hplace)]
        omega
      rw [Option.filter_some, Bool.eq_false_iff.mpr hrepeated]
      rfl

/-! ## Flags from before -/

namespace Group

/-- Siblings as the children of one nameless group. -/
def above (siblings : List Group) : Group := { identifier := "", children := siblings }

theorem map_identifier_unflaggedAll (siblings : List Group) :
    (unflaggedAll siblings).map (·.identifier) = siblings.map (·.identifier) := by
  rw [unflaggedAll_eq_map, List.map_map]
  exact List.map_congr_left fun g _ => identifier_unflagged g

mutual

/-- The flags below a group are recomputed from names alone. -/
theorem flagBelow_unflagged :
    ∀ g : Group, flagBelow (unflagged g) = { flagBelow g with repeated := false }
  | ⟨_, _, _, children, _⟩ => by
    rw [unflagged, flagBelow, flagBelow, map_identifier_unflaggedAll,
      flagAmong_unflaggedAll _ children]

/-- So are those of siblings. -/
theorem flagAmong_unflaggedAll (again : List String) :
    ∀ siblings : List Group, flagAmong again (unflaggedAll siblings) = flagAmong again siblings
  | [] => rfl
  | g :: rest => by
    rw [unflaggedAll, flagAmong, flagAmong, flagBelow_unflagged g, identifier_unflagged,
      flagAmong_unflaggedAll again rest]

end

end Group

/-- Dropping all flags before does not change what they become. -/
theorem flagRepeats_unflaggedAll (siblings : List Group) :
    flagRepeats (Group.unflaggedAll siblings) = flagRepeats siblings := by
  rw [flagRepeats, Group.map_identifier_unflaggedAll, Group.flagAmong_unflaggedAll, flagRepeats]

/-- Nor does flagging change anything but flags. -/
theorem unflaggedAll_flagRepeats (siblings : List Group) :
    Group.unflaggedAll (flagRepeats siblings) = Group.unflaggedAll siblings :=
  Group.unflaggedAll_flagAmong _ siblings

/-- Trees that are the same apart from flags become the same. -/
theorem flagRepeats_congr (h : Group.unflaggedAll others = Group.unflaggedAll siblings) :
    flagRepeats others = flagRepeats siblings := by
  rw [← flagRepeats_unflaggedAll others, h, flagRepeats_unflaggedAll]

/-! ## Flagging -/

/-- **Repeated siblings.** Let siblings be flagged, with groups at any depth below them and with any
flags on them before. At every level, in the row of all children of one node, a group is flagged
exactly when at least two groups of the row have its name; with an offset a name then selects the
group at that place among those of the name, if there are two of them or more, and nothing if there
is only one, and without an offset it selects the first of them. Apart from flags the tree is what
it was. Flagging again changes nothing, and trees that differ in flags only become the same. The
top-level groups of a document are such siblings. -/
theorem flagRepeats_exact (siblings : List Group) :
    (∀ trail node, (Group.above (flagRepeats siblings)).atTrail? trail = some node →
      Flagged node.children ∧
        ∀ name, SelectsByPlace (node.child? name) (namesakes node.children name)) ∧
    Group.unflaggedAll (flagRepeats siblings) = Group.unflaggedAll siblings ∧
    flagRepeats (flagRepeats siblings) = flagRepeats siblings ∧
    (∀ others, Group.unflaggedAll others = Group.unflaggedAll siblings →
      flagRepeats others = flagRepeats siblings) ∧
    ∀ d : Document, d.groups = siblings →
      d.flagRepeats.groups = flagRepeats siblings ∧ d.flagRepeats.options = d.options ∧
        ∀ name, SelectsByPlace (d.flagRepeats.group? name)
          (namesakes (flagRepeats siblings) name) := by
  have hchildren : (Group.above (flagRepeats siblings)).children = flagRepeats siblings := rfl
  have hbelow := Group.flaggedBelow_of_flagRepeats hchildren
  refine ⟨?_, unflaggedAll_flagRepeats siblings, ?_, fun _ => flagRepeats_congr, ?_⟩
  · intro trail node hnode
    have hflagged := hbelow trail node hnode
    exact ⟨hflagged, hflagged.selectsByPlace⟩
  · exact flagRepeats_congr (unflaggedAll_flagRepeats siblings)
  · rintro d rfl
    have hgroups : d.flagRepeats.groups = flagRepeats d.groups := Document.groups_afterWrite _
    refine ⟨hgroups, Document.options_afterWrite _, fun name => ?_⟩
    have hselects := (flagged_flagRepeats d.groups).selectsByPlace name
    rw [← hgroups] at hselects ⊢
    exact hselects

/-- Three siblings, two of one name; below the first there is a row of three as well. All flags are
wrong. -/
def wronglyFlagged : List Group :=
  [{ identifier := "a", children := [{ identifier := "x" }, { identifier := "y", repeated := true },
      { identifier := "x", metadata := .ofList [("role", "last")] }] },
    { identifier := "b", repeated := true },
    { identifier := "a", fields := .ofList [⟨"f", .array []⟩] }]

/-- The row below the first sibling after flagging: of the two named `x` the offset tells them
apart, and the only one named `y` goes without an offset. -/
theorem flagRepeats_exact_below_first :
    ∃ node, (Group.above (flagRepeats wronglyFlagged)).atTrail? [0] = some node ∧
      Flagged node.children ∧
      node.child? "x" (some 1) =
        some { identifier := "x", repeated := true,
               metadata := .ofList [("role", "last")] } ∧
      node.child? "x" (some 2) = none ∧
      node.child? "y" (some 0) = none ∧
      node.child? "y" none = some { identifier := "y" } ∧
      ({ groups := wronglyFlagged } : Document).flagRepeats.group? "a" (some 1) =
        some { identifier := "a", repeated := true, fields := .ofList [⟨"f", .array []⟩] } ∧
      ({ groups := wronglyFlagged } : Document).flagRepeats.group? "b" (some 0) = none := by
  obtain ⟨hlevels, -, -, -, hdocument⟩ := flagRepeats_exact wronglyFlagged
  obtain ⟨hflagged, hselects⟩ := hlevels [0] _ rfl
  obtain ⟨-, -, htop⟩ := hdocument { groups := wronglyFlagged } rfl
  exact ⟨_, rfl, hflagged, (hselects "x").nth 1 (by decide), (hselects "x").nth 2 (by decide),
    (hselects "y").only 0 (by decide), (hselects "y").first, (htop "a").nth 1 (by decide),
    (htop "b").only 0 (by decide)⟩

end Settings
