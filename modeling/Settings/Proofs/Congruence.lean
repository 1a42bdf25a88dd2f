import Settings.Proofs.Equality
import Settings.Proofs.SortedEntries
/-!
# Groups that say the same may stand for each other

To say the same is an equivalence of groups. Neither the order of fields nor that of metadata
counts, the order of children and of the items of an array does (`Group.same_iff_agree`). What can be
asked of a group is answered alike by groups that say the same, and flagging keeps it so.
`Group.same_congruence` puts this together. It needs no condition on the groups: that no name stands
twice among fields, and that metadata are in order, is in their types.
-/

namespace Settings

namespace Fields

variable {fields fields' fields'' : Fields}

theorem same_symm (h : same fields fields' = true) : same fields' fields = true :=
  same_iff_find?_eq.mpr fun name => (same_iff_find?_eq.mp h name).symm

theorem same_trans (h : same fields fields' = true) (h' : same fields' fields'' = true) :
    same fields fields'' = true :=
  same_iff_find?_eq.mpr fun name =>
    (same_iff_find?_eq.mp h name).trans (same_iff_find?_eq.mp h' name)

end Fields

/-- Metadata are known by what is found under each key. -/
theorem Metadata.eq_of_find?_eq {m m' : Metadata} (h : ∀ key, m.find? key = m'.find? key) :
    m = m' := by
  obtain ⟨entries, sorted⟩ := m
  obtain ⟨entries', sorted'⟩ := m'
  obtain rfl : entries = entries' := Sorted.eq_of_lookup_eq sorted sorted' h
  rfl

namespace Group

variable {a b c g child : Group}

/-! ## An equivalence -/

theorem sameAll_eq_true_iff {row others : List Group} :
    sameAll row others = true ↔ List.Forall₂ (fun a b => a.same b = true) row others := by
  induction row generalizing others with
  | nil => cases others <;> simp [sameAll]
  | cons a row ih =>
    cases others with
    | nil => simp [sameAll]
    | cons b others => rw [sameAll_cons, List.forall₂_cons, ih]

/-- What two groups agree in: names and flags, what is found under every name of a field and under
every key of the metadata, and their children one by one. -/
structure Agree (a b : Group) : Prop where
  identifier : a.identifier = b.identifier
  repeated : a.repeated = b.repeated
  fields : ∀ name, a.field? name = b.field? name
  metadata : ∀ key, a.metadata.find? key = b.metadata.find? key
  children : List.Forall₂ (fun child other => child.same other = true) a.children b.children

/-- Groups that say the same are those that agree. -/
theorem same_iff_agree : a.same b = true ↔ Agree a b := by
  rw [same_iff, sameAll_eq_true_iff]
  constructor
  · rintro ⟨hidentifier, hrepeated, hmetadata, hfields, hchildren⟩
    exact ⟨hidentifier, hrepeated, Fields.same_iff_find?_eq.mp hfields,
      fun key => by rw [hmetadata], hchildren⟩
  · rintro ⟨hidentifier, hrepeated, hfields, hmetadata, hchildren⟩
    exact ⟨hidentifier, hrepeated, Metadata.eq_of_find?_eq hmetadata,
      Fields.same_iff_find?_eq.mpr hfields, hchildren⟩

mutual

theorem same_symm : ∀ a b : Group, a.same b = true → b.same a = true
  | ⟨identifier, repeated, fields, children, metadata⟩, b, h => by
    obtain ⟨hidentifier, hrepeated, hmetadata, hfields, hchildren⟩ := same_iff.mp h
    rw [same_iff]
    exact ⟨hidentifier.symm, hrepeated.symm, hmetadata.symm, Fields.same_symm hfields,
      sameAll_symm children b.children hchildren⟩

theorem sameAll_symm : ∀ row others : List Group, sameAll row others = true →
    sameAll others row = true
  | [], [], _ => rfl
  | [], _ :: _, h => nomatch h
  | _ :: _, [], h => nomatch h
  | a :: row, b :: others, h => by
    obtain ⟨hsame, hrest⟩ := sameAll_cons.mp h
    exact sameAll_cons.mpr ⟨same_symm a b hsame, sameAll_symm row others hrest⟩

end

mutual

theorem same_trans : ∀ a b c : Group, a.same b = true → b.same c = true → a.same c = true
  | ⟨identifier, repeated, fields, children, metadata⟩, b, c, h, h' => by
    obtain ⟨hidentifier, hrepeated, hmetadata, hfields, hchildren⟩ := same_iff.mp h
    obtain ⟨hidentifier', hrepeated', hmetadata', hfields', hchildren'⟩ := same_iff.mp h'
    rw [same_iff]
    exact ⟨hidentifier.trans hidentifier', hrepeated.trans hrepeated',
      hmetadata.trans hmetadata', Fields.same_trans hfields hfields',
      sameAll_trans children b.children c.children hchildren hchildren'⟩

theorem sameAll_trans : ∀ row others more : List Group, sameAll row others = true →
    sameAll others more = true → sameAll row more = true
  | [], [], [], _, _ => rfl
  | [], [], _ :: _, _, h' => nomatch h'
  | [], _ :: _, _, h, _ => nomatch h
  | _ :: _, [], _, h, _ => nomatch h
  | _ :: _, _ :: _, [], _, h' => nomatch h'
  | a :: row, b :: others, c :: more, h, h' => by
    obtain ⟨hsame, hrest⟩ := sameAll_cons.mp h
    obtain ⟨hsame', hrest'⟩ := sameAll_cons.mp h'
    exact sameAll_cons.mpr ⟨same_trans a b c hsame hsame',
      sameAll_trans row others more hrest hrest'⟩

end

/-! ## Flagging -/

theorem map_identifier_of_sameAll {row others : List Group} (h : sameAll row others = true) :
    row.map (·.identifier) = others.map (·.identifier) := by
  rw [sameAll_eq_true_iff] at h
  induction h with
  | nil => rfl
  | cons hsame _ ih =>
    obtain ⟨hidentifier, -⟩ := same_iff.mp hsame
    rw [List.map_cons, List.map_cons, hidentifier, ih]

theorem same_setFlag (h : a.same b = true) (flag : Bool) :
    same { a with repeated := flag } { b with repeated := flag } = true := by
  obtain ⟨hidentifier, -, hmetadata, hfields, hchildren⟩ := same_iff.mp h
  exact same_iff.mpr ⟨hidentifier, rfl, hmetadata, hfields, hchildren⟩

mutual

/-- Flagging looks at names alone, so groups that say the same still do afterwards. -/
theorem same_flagBelow : ∀ a b : Group, a.same b = true → (flagBelow a).same (flagBelow b) = true
  | ⟨identifier, repeated, fields, children, metadata⟩,
    ⟨identifier', repeated', fields', children', metadata'⟩, h => by
    obtain ⟨hidentifier, hrepeated, hmetadata, hfields, hchildren⟩ := same_iff.mp h
    have hnames : children.map (·.identifier) = children'.map (·.identifier) :=
      map_identifier_of_sameAll hchildren
    rw [flagBelow, flagBelow, hnames, same_iff]
    exact ⟨hidentifier, hrepeated, hmetadata, hfields,
      sameAll_flagAmong _ children children' hchildren⟩

theorem sameAll_flagAmong (again : List String) : ∀ row others : List Group,
    sameAll row others = true → sameAll (flagAmong again row) (flagAmong again others) = true
  | [], [], _ => rfl
  | [], _ :: _, h => nomatch h
  | _ :: _, [], h => nomatch h
  | a :: row, b :: others, h => by
    obtain ⟨hsame, hrest⟩ := sameAll_cons.mp h
    obtain ⟨hidentifier, -⟩ := same_iff.mp hsame
    rw [flagAmong, flagAmong, hidentifier, sameAll_cons]
    exact ⟨same_setFlag (same_flagBelow a b hsame) _, sameAll_flagAmong again row others hrest⟩

end

/-- Flagging the children of groups that say the same leaves groups that say the same. -/
theorem same_withFlaggedChildren (h : a.same b = true) :
    same { a with children := flagRepeats a.children }
      { b with children := flagRepeats b.children } = true := by
  obtain ⟨hidentifier, hrepeated, hmetadata, hfields, hchildren⟩ := same_iff.mp h
  refine same_iff.mpr ⟨hidentifier, hrepeated, hmetadata, hfields, ?_⟩
  show sameAll (flagRepeats a.children) (flagRepeats b.children) = true
  rw [flagRepeats, flagRepeats, map_identifier_of_sameAll hchildren]
  exact sameAll_flagAmong _ _ _ hchildren

/-! ## Questions -/

theorem query_alike (h : a.same b = true) (path : String) :
    Alike (a.query path) (b.query path) := by
  unfold query
  cases Address.parse path with
  | error e => exact .miss _
  | ok address => exact answer_alike address.segments h

/-- A name and an offset select children that say the same, or none. -/
theorem child?_alike (h : a.same b = true) (name : String) (offset : Option Nat) :
    Option.Rel (fun child other => child.same other = true) (a.child? name offset)
      (b.child? name offset) := by
  obtain ⟨-, -, -, -, hchildren⟩ := same_iff.mp h
  unfold child?
  rcases selectSibling?_alike (rowsAlike_of_sameAll hchildren) name offset with
    ⟨child, other, hchild, hother, hsame⟩ | ⟨hnone, hnone'⟩
  · rw [hchild, hother]
    exact .some hsame
  · rw [hnone, hnone']
    exact .none

/-- **To say the same is a congruence.** Two groups say the same exactly when they agree, whatever the
order of their fields and of their metadata. This is an equivalence. And groups that say the same
answer every path alike, have children alike under every name and offset, have the same metadata
under every key, and still say the same after their children are flagged. -/
theorem same_congruence (a b : Group) :
    (a.same b = true ↔ Agree a b) ∧
    a.same a = true ∧
    (a.same b = true → b.same a = true) ∧
    (∀ c, a.same b = true → b.same c = true → a.same c = true) ∧
    (a.same b = true →
      (∀ path, Alike (a.query path) (b.query path)) ∧
      (∀ name offset, Option.Rel (fun child other => child.same other = true)
        (a.child? name offset) (b.child? name offset)) ∧
      (∀ key, a.metadata.find? key = b.metadata.find? key) ∧
      same { a with children := flagRepeats a.children }
        { b with children := flagRepeats b.children } = true) := by
  refine ⟨same_iff_agree, same_self a, same_symm a b, same_trans a b, fun hab => ?_⟩
  exact ⟨query_alike hab, child?_alike hab, (same_iff_agree.mp hab).metadata,
    same_withFlaggedChildren hab⟩

/-- A group with two fields, metadata and two children of one name. -/
def portFirst : Group :=
  (((({ identifier := "server", metadata := .ofList [("role", "x"), ("eu", "y")] } : Group).assign
    "port" ⟨"80"⟩).appendItem "hosts" ⟨"a"⟩).addChild (named "tls")).addChild
      ((named "tls").assign "key" ⟨"k"⟩)

/-- The same with fields and metadata in another order. -/
def hostsFirst : Group :=
  (((({ identifier := "server"
        metadata := .ofList [("eu", "y"), ("role", "x")] } : Group).insertField
    "hosts" (.array [⟨"a"⟩])).assign "port" ⟨"80"⟩).addChild (named "tls")).addChild
      ((named "tls").insertField "key" (.scalar ⟨"k"⟩))

/-- The two are different and say the same, in either direction, and so they answer alike and are
alike after flagging, which makes both children addressable. -/
theorem same_congruence_reordered :
    portFirst.fields ≠ hostsFirst.fields ∧
      portFirst.same hostsFirst = true ∧ hostsFirst.same portFirst = true ∧
      portFirst.same portFirst = true ∧
      Alike (portFirst.query "hosts[1]") (hostsFirst.query "hosts[1]") ∧
      portFirst.query "hosts[1]" = .error (.indexOutOfRange 1 1) ∧
      same { portFirst with children := flagRepeats portFirst.children }
        { hostsFirst with children := flagRepeats hostsFirst.children } = true := by
  have hsame : portFirst.same hostsFirst = true := by decide
  obtain ⟨-, -, hsymm, htrans, hcongruence⟩ := same_congruence portFirst hostsFirst
  obtain ⟨hquery, -, -, hflagged⟩ := hcongruence hsame
  exact ⟨by decide, hsame, hsymm hsame, htrans portFirst hsame (hsymm hsame), hquery "hosts[1]",
    rfl, hflagged⟩

end Group

end Settings
