import Settings.Proofs.Lookup
/-!
# Flags

Flagging sets the flags of siblings and of all groups below them, so that a group is flagged as
repeated exactly when another sibling has its name (`flagged_flagRepeats`,
`Group.flaggedBelow_of_flagRepeats`). Names stay in their places: the row of a name is the one from
before, with one flag for all of it (`Group.namesakes_flagRepeats`). Among flagged siblings a name
therefore selects the only one of its row, and a name with an offset one of several
(`Group.answer_cons_of_row`).
-/

namespace Settings

variable {siblings : List Group} {g child node : Group} {position : Nat} {trail : List Nat}

/-! ## Flagged siblings -/

/-- The siblings that are flagged as repeated are those whose name is there at least twice. -/
def Flagged (siblings : List Group) : Prop :=
  ∀ g ∈ siblings, g.repeated = true ↔ 2 ≤ (siblings.map (·.identifier)).count g.identifier

namespace Group

/-- The pass keeps what it has seen: it picks a name that was seen before and comes once more, and a
name that comes twice. -/
theorem mem_seenAgain_iff {name : String} (seen names : List String) :
    name ∈ seenAgain seen names ↔ name ∈ seen ∧ name ∈ names ∨ 2 ≤ names.count name := by
  induction names generalizing seen with
  | nil => simp [seenAgain]
  | cons first rest ih =>
    by_cases hfirst : first ∈ seen
    · rw [seenAgain, if_pos hfirst, List.mem_cons, List.mem_cons, List.count_cons, ih]
      by_cases hname : name = first
      · simp [hname, hfirst]
      · simp [hname, Ne.symm hname]
    · rw [seenAgain, if_neg hfirst, List.mem_cons, List.count_cons, ih, List.mem_cons]
      by_cases hname : name = first
      · subst hname
        have hcount : 2 ≤ rest.count name + 1 ↔ name ∈ rest := by
          rw [← List.count_pos_iff]
          omega
        have htwice : 2 ≤ rest.count name → name ∈ rest := by
          rw [← List.count_pos_iff]
          omega
        simpa [hfirst, hcount] using htwice
      · simp [hname, Ne.symm hname]

/-- A pass that starts with nothing seen picks the names that stand there at least twice. -/
theorem mem_seenAgain_nil_iff {name : String} {names : List String} :
    name ∈ seenAgain [] names ↔ 2 ≤ names.count name := by
  simp [mem_seenAgain_iff]

/-- A group with the flags of all groups below it recomputed, and with its own set. -/
def flagged (g : Group) (repeated : Bool) : Group := { flagBelow g with repeated }

@[simp] theorem identifier_flagged (g : Group) (repeated : Bool) :
    (g.flagged repeated).identifier = g.identifier := by
  cases g
  rfl

@[simp] theorem children_flagged (g : Group) (repeated : Bool) :
    (g.flagged repeated).children = flagRepeats g.children := by
  cases g
  rfl

@[simp] theorem metadata_flagged (g : Group) (repeated : Bool) :
    (g.flagged repeated).metadata = g.metadata := by
  cases g
  rfl

@[simp] theorem field?_flagged (g : Group) (repeated : Bool) (name : String) :
    (g.flagged repeated).field? name = g.field? name := by
  cases g
  rfl

theorem flagAmong_eq_map (again : List String) (siblings : List Group) :
    flagAmong again siblings = siblings.map fun g => g.flagged (g.identifier ∈ again) := by
  induction siblings with
  | nil => rfl
  | cons g rest ih =>
    rw [flagAmong, ih, List.map_cons]
    rfl

end Group

/-- Flagging changes every sibling for itself. -/
theorem flagRepeats_eq_map (siblings : List Group) :
    flagRepeats siblings = siblings.map fun g =>
      g.flagged (2 ≤ (siblings.map (·.identifier)).count g.identifier) := by
  rw [flagRepeats, Group.flagAmong_eq_map]
  refine List.map_congr_left fun g _ => ?_
  rw [decide_eq_decide.mpr Group.mem_seenAgain_nil_iff]

theorem map_identifier_flagRepeats (siblings : List Group) :
    (flagRepeats siblings).map (·.identifier) = siblings.map (·.identifier) := by
  rw [flagRepeats_eq_map, List.map_map]
  exact List.map_congr_left fun g _ => Group.identifier_flagged g _

/-- A sibling among flagged ones was one before, and the groups below it are flagged as well. -/
theorem children_of_mem_flagRepeats (h : g ∈ flagRepeats siblings) :
    ∃ below, g.children = flagRepeats below := by
  rw [flagRepeats_eq_map] at h
  obtain ⟨before, -, rfl⟩ := List.mem_map.mp h
  exact ⟨before.children, Group.children_flagged before _⟩

theorem flagged_flagRepeats (siblings : List Group) : Flagged (flagRepeats siblings) := by
  intro g hg
  rw [map_identifier_flagRepeats]
  rw [flagRepeats_eq_map] at hg
  obtain ⟨before, -, rfl⟩ := List.mem_map.mp hg
  show decide _ = true ↔ _
  rw [decide_eq_true_iff, Group.identifier_flagged]

namespace Group

/-- The children of a group are flagged, and so are those of every group below it. -/
def FlaggedBelow (g : Group) : Prop :=
  ∀ trail node, g.atTrail? trail = some node → Flagged node.children

theorem FlaggedBelow.below (h : g.FlaggedBelow) (hchild : g.children[position]? = some child) :
    child.FlaggedBelow := by
  intro trail node hnode
  refine h (position :: trail) node ?_
  rw [atTrail?_cons hchild, hnode]

/-- Flagging siblings flags all groups below them. -/
theorem flaggedBelow_of_flagRepeats (h : g.children = flagRepeats siblings) : g.FlaggedBelow := by
  intro trail node hnode
  induction trail generalizing g siblings with
  | nil =>
    cases hnode
    rw [h]
    exact flagged_flagRepeats siblings
  | cons position rest ih =>
    obtain ⟨child, hchild, hbelow⟩ := exists_child_of_atTrail? hnode
    have hmem := List.mem_of_getElem? hchild
    rw [h] at hmem
    obtain ⟨grandchildren, hgrandchildren⟩ := children_of_mem_flagRepeats hmem
    exact ih hgrandchildren hbelow

end Group

/-! ## Rows of flagged siblings -/

namespace Group

variable {s : Segment}

/-- Flagging does not change the row of a name. -/
theorem namesakes_flagRepeats (siblings : List Group) (name : String) :
    namesakes (flagRepeats siblings) name =
      (namesakes siblings name).map fun g => g.flagged (2 ≤ (namesakes siblings name).length) := by
  have hrow : namesakes (flagRepeats siblings) name = (namesakes siblings name).map fun g =>
      g.flagged (2 ≤ (siblings.map (·.identifier)).count g.identifier) := by
    rw [flagRepeats_eq_map, namesakes, List.filter_map]
    refine congrArg (List.map _) (List.filter_congr fun g _ => ?_)
    show decide ((g.flagged _).identifier = name) = _
    rw [identifier_flagged]
  rw [hrow]
  refine List.map_congr_left fun g hg => ?_
  have hname : g.identifier = name := of_decide_eq_true (List.mem_filter.mp hg).2
  rw [hname, ← length_namesakes]

/-- Among flagged children, a name selects the only one of its row, and an offset the one at that
place in a row of two or more. -/
theorem answer_cons_of_row (hchildren : g.children = flagRepeats siblings)
    (hrow : (namesakes siblings s.name)[s.offset.getD 0]? = some child)
    (hoffset : s.offset.isSome = decide (2 ≤ (namesakes siblings s.name).length))
    (rest : List Segment) :
    g.answer (s :: rest) = (child.flagged s.offset.isSome).answer rest := by
  have hselect : (selectSibling? g.children s.name s.offset).map Prod.fst =
      some (child.flagged s.offset.isSome) := by
    rw [hchildren, selectSibling?_map_fst, namesakes_flagRepeats, List.getElem?_map, hrow,
      Option.map_some, ← hoffset]
    cases s.offset <;> rfl
  obtain ⟨⟨node, position⟩, hfound, rfl⟩ := Option.map_eq_some_iff.mp hselect
  exact answer_cons_of_child hfound

end Group

end Settings
