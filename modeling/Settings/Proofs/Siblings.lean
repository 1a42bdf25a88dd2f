import Settings.Group
/-!
# Selecting among siblings

A name may be carried by several siblings. The main statement, `selectSibling?_eq_some_iff`, says
which one a name and an offset select: the one at the position that as many siblings of the name
precede as the offset says, and none without an offset. All else follows from it. Siblings put at
the end never disturb a selection (`selectSibling?_append`), and a selection does not look at what
siblings hold (`selectSibling?_congr`).
-/

namespace Settings

variable {siblings others extra : List Group} {name : String} {offset : Option Nat} {g : Group}

/-- How many siblings of a name stand before a position. -/
def precedingNamed (siblings : List Group) (name : String) (position : Nat) : Nat :=
  (siblings.take position).countP fun g => g.identifier = name

/-! ## Which sibling is selected -/

/-- Positions count from `start`, so that the induction can go below the first sibling. -/
theorem filter_zipIdx_getElem?_iff (p : Group → Bool) (siblings : List Group) (start k n : Nat) :
    ((siblings.zipIdx start).filter fun x => p x.1)[k]? = some (g, n) ↔
      ∃ j, n = start + j ∧ siblings[j]? = some g ∧ p g = true ∧
        (siblings.take j).countP p = k := by
  induction siblings generalizing start k with
  | nil => simp
  | cons s rest ih =>
    rw [List.zipIdx_cons, List.filter_cons]
    by_cases hs : p s = true
    · rw [if_pos hs]
      cases k with
      | zero =>
        rw [List.getElem?_cons_zero, Option.some.injEq, Prod.mk.injEq]
        constructor
        · rintro ⟨rfl, rfl⟩
          exact ⟨0, by simp [hs]⟩
        · rintro ⟨j, rfl, hj, -, hcount⟩
          -- a position further on would have `s` before it
          cases j with
          | zero => simpa using hj
          | succ j => simp [hs] at hcount
      | succ k =>
        rw [List.getElem?_cons_succ, ih]
        constructor
        · rintro ⟨j, rfl, hj, hg, hcount⟩
          exact ⟨j + 1, by omega, by simpa using hj, hg, by simp [hs, hcount]⟩
        · rintro ⟨j, rfl, hj, hg, hcount⟩
          cases j with
          | zero => simp at hcount
          | succ j =>
            exact ⟨j, by omega, by simpa using hj, hg, by simpa [hs] using hcount⟩
    · rw [if_neg hs, ih]
      constructor
      · rintro ⟨j, rfl, hj, hg, hcount⟩
        exact ⟨j + 1, by omega, by simpa using hj, hg, by simp [hs, hcount]⟩
      · rintro ⟨j, rfl, hj, hg, hcount⟩
        cases j with
        | zero =>
          have hsg : s = g := by simpa using hj
          exact absurd (hsg ▸ hg) hs
        | succ j =>
          exact ⟨j, by omega, by simpa using hj, hg, by simpa [hs] using hcount⟩

theorem sameNamed_getElem?_eq_some_iff {k position : Nat} :
    (sameNamed siblings name)[k]? = some (g, position) ↔
      siblings[position]? = some g ∧ g.identifier = name ∧
        precedingNamed siblings name position = k := by
  unfold sameNamed precedingNamed
  rw [filter_zipIdx_getElem?_iff (fun g => g.identifier = name)]
  simp

/-- A selected sibling is where its position says, it has the name, as many siblings of the name as
the offset says precede it, and if there is an offset it is flagged as repeated. -/
theorem selectSibling?_eq_some_iff {position : Nat} :
    selectSibling? siblings name offset = some (g, position) ↔
      siblings[position]? = some g ∧ g.identifier = name ∧
        precedingNamed siblings name position = offset.getD 0 ∧
        (offset.isSome = true → g.repeated = true) := by
  cases offset with
  | none =>
    rw [selectSibling?, List.head?_eq_getElem?, sameNamed_getElem?_eq_some_iff]
    simp
  | some k =>
    rw [selectSibling?, Option.filter_eq_some_iff, sameNamed_getElem?_eq_some_iff]
    simp [and_assoc]

theorem getElem?_of_selectSibling? {position : Nat}
    (h : selectSibling? siblings name offset = some (g, position)) :
    siblings[position]? = some g :=
  (selectSibling?_eq_some_iff.mp h).1

theorem identifier_of_selectSibling? {position : Nat}
    (h : selectSibling? siblings name offset = some (g, position)) : g.identifier = name :=
  (selectSibling?_eq_some_iff.mp h).2.1

/-- Without an offset, nothing is selected only if no sibling has the name. -/
theorem selectSibling?_eq_none_iff :
    selectSibling? siblings name none = none ↔ ∀ g ∈ siblings, g.identifier ≠ name := by
  rw [selectSibling?, List.head?_eq_none_iff, sameNamed, List.filter_eq_nil_iff]
  constructor
  · intro h g hg
    obtain ⟨position, hposition⟩ := List.mem_iff_getElem?.mp hg
    exact fun hname => h (g, position) (List.mem_zipIdx_iff_getElem?.mpr hposition)
      (decide_eq_true hname)
  · rintro h ⟨g, position⟩ hmem hname
    have hg := List.mem_of_getElem? (List.mem_zipIdx_iff_getElem?.mp hmem)
    exact h g hg (of_decide_eq_true hname)

/-- Where no sibling has the name, nothing is selected with an offset either. -/
theorem selectSibling?_of_forall_ne (h : ∀ g ∈ siblings, g.identifier ≠ name)
    (offset : Option Nat) : selectSibling? siblings name offset = none := by
  rw [Option.eq_none_iff_forall_ne_some]
  rintro ⟨g, position⟩ hselect
  have hmem := List.mem_of_getElem? (getElem?_of_selectSibling? hselect)
  exact h g hmem (identifier_of_selectSibling? hselect)

/-! ## The row of a name -/

/-- The siblings of a name. -/
def namesakes (siblings : List Group) (name : String) : List Group :=
  siblings.filter fun g => g.identifier = name

theorem map_fst_sameNamed (siblings : List Group) (name : String) :
    (sameNamed siblings name).map Prod.fst = namesakes siblings name := by
  rw [sameNamed, namesakes]
  have hmap : siblings = siblings.zipIdx.map Prod.fst := (List.zipIdx_map_fst 0 siblings).symm
  conv => rhs; rw [hmap, List.filter_map]
  rfl

theorem length_namesakes (siblings : List Group) (name : String) :
    (namesakes siblings name).length = (siblings.map (·.identifier)).count name := by
  rw [List.count_eq_countP, List.countP_map, namesakes, ← List.countP_eq_length_filter]
  exact List.countP_congr fun g _ => by simp

theorem namesakes_append (siblings more : List Group) (name : String) :
    namesakes (siblings ++ more) name = namesakes siblings name ++ namesakes more name :=
  List.filter_append siblings more

theorem namesakes_of_forall_eq (h : ∀ g ∈ siblings, g.identifier = name) :
    namesakes siblings name = siblings :=
  List.filter_eq_self.mpr fun g hg => decide_eq_true (h g hg)

theorem namesakes_of_forall_ne (h : ∀ g ∈ siblings, g.identifier ≠ name) :
    namesakes siblings name = [] :=
  List.filter_eq_nil_iff.mpr fun g hg hname => h g hg (of_decide_eq_true hname)

/-- Which group is selected depends on the row of the name only: it is the one that as many others
precede there as the offset says. -/
theorem selectSibling?_map_fst (siblings : List Group) (name : String) (offset : Option Nat) :
    (selectSibling? siblings name offset).map Prod.fst =
      (namesakes siblings name)[offset.getD 0]?.filter fun g => offset.isNone || g.repeated := by
  rw [← map_fst_sameNamed, List.getElem?_map]
  cases offset with
  | none =>
    rw [selectSibling?, List.head?_eq_getElem?, Option.getD_none]
    cases (sameNamed siblings name)[0]? <;> rfl
  | some k =>
    rw [selectSibling?, Option.getD_some]
    cases (sameNamed siblings name)[k]? with
    | none => rfl
    | some found => cases hrepeated : found.1.repeated <;> simp [Option.filter, hrepeated]

/-! ## Siblings put at the end -/

theorem precedingNamed_append {position : Nat} (h : position ≤ siblings.length) :
    precedingNamed (siblings ++ extra) name position = precedingNamed siblings name position := by
  unfold precedingNamed
  rw [List.take_append_of_le_length h]

/-- As long as the selected position is an old one, new siblings at the end make no difference. -/
theorem selectSibling?_append_iff {position : Nat} (h : position < siblings.length) :
    selectSibling? (siblings ++ extra) name offset = some (g, position) ↔
      selectSibling? siblings name offset = some (g, position) := by
  rw [selectSibling?_eq_some_iff, selectSibling?_eq_some_iff, List.getElem?_append_left h,
    precedingNamed_append (Nat.le_of_lt h)]

/-- What is selected stays selected. -/
theorem selectSibling?_append {position : Nat}
    (h : selectSibling? siblings name offset = some (g, position)) :
    selectSibling? (siblings ++ extra) name offset = some (g, position) := by
  have hposition := (List.getElem?_eq_some_iff.mp (getElem?_of_selectSibling? h)).1
  exact (selectSibling?_append_iff hposition).mpr h

/-- Where nothing was selected, only a new sibling can be. -/
theorem le_position_of_selectSibling?_append {position : Nat}
    (hnone : selectSibling? siblings name offset = none)
    (h : selectSibling? (siblings ++ extra) name offset = some (g, position)) :
    siblings.length ≤ position := by
  rcases Nat.lt_or_ge position siblings.length with hlt | hle
  · rw [selectSibling?_append_iff hlt, hnone] at h
    exact absurd h (by simp)
  · exact hle

/-! ## Siblings with other contents -/

/-- What a selection looks at. -/
def Group.tab (g : Group) : String × Bool := (g.identifier, g.repeated)

theorem precedingNamed_congr (h : siblings.map Group.tab = others.map Group.tab) (position : Nat) :
    precedingNamed siblings name position = precedingNamed others name position := by
  have hcount : ∀ groups : List Group, precedingNamed groups name position =
      ((groups.map Group.tab).take position).countP fun tab => tab.1 = name := by
    intro groups
    rw [← List.map_take, List.countP_map]
    rfl
  rw [hcount, hcount, h]

/-- Siblings with the same identifiers and flags are selected at the same positions. -/
theorem selectSibling?_congr (h : siblings.map Group.tab = others.map Group.tab) {position : Nat}
    (hselect : selectSibling? siblings name offset = some (g, position)) :
    ∃ other, others[position]? = some other ∧
      selectSibling? others name offset = some (other, position) := by
  obtain ⟨hat, hname, hcount, hflag⟩ := selectSibling?_eq_some_iff.mp hselect
  have htab : (others.map Group.tab)[position]? = some g.tab := by
    rw [← h, List.getElem?_map, hat, Option.map_some]
  rw [List.getElem?_map, Option.map_eq_some_iff] at htab
  obtain ⟨other, hother, htabs⟩ := htab
  obtain ⟨hidentifier, hrepeated⟩ := Prod.mk.inj htabs
  refine ⟨other, hother, selectSibling?_eq_some_iff.mpr ⟨hother, ?_, ?_, ?_⟩⟩
  · rw [hidentifier, hname]
  · rw [← precedingNamed_congr h, hcount]
  · rw [hrepeated]
    exact hflag

theorem selectSibling?_eq_none_congr (h : siblings.map Group.tab = others.map Group.tab)
    (hnone : selectSibling? siblings name offset = none) :
    selectSibling? others name offset = none := by
  rw [Option.eq_none_iff_forall_ne_some]
  rintro ⟨other, position⟩ hother
  obtain ⟨g, -, hg⟩ := selectSibling?_congr h.symm hother
  rw [hnone] at hg
  exact absurd hg (by simp)

end Settings
