import Settings.Loader
import Settings.Proofs.Assignment
/-!
# What an entry of a mapping gives

An entry of a mapping gives a group one thing under its key: a row of child groups
(`Loader.rowOf`) or a field (`Loader.fieldOf`). Both are read off the value alone, past its tags.
`Loader.adds_of_addEntry` says that loading an entry adds just that, and nothing under any other
name.
-/

namespace Settings

/-! ## Adding under a name -/

namespace Group

variable {g g' g'' : Group} {name : String} {row row' : List Group}

/-- A group with more children after its own. -/
def addRow (g : Group) (row : List Group) : Group := { g with children := g.children ++ row }

theorem addRow_nil (g : Group) : g.addRow [] = g := by
  cases g
  rw [addRow, List.append_nil]

theorem addRow_addRow (g : Group) (row more : List Group) :
    (g.addRow row).addRow more = g.addRow (row ++ more) := by
  rw [addRow, addRow, addRow, List.append_assoc]

/-- Appends texts to an array field, one by one. -/
def appendTexts (g : Group) (name : String) (texts : List String) : Group :=
  texts.foldl (fun g text => g.appendItem name ⟨text⟩) g

/-- A group before and after something was added under a name: child groups at the end of all
others, and perhaps a field of the name. -/
structure Adds (name : String) (row : List Group) (g g' : Group) : Prop where
  identifier : g'.identifier = g.identifier
  metadata : g'.metadata = g.metadata
  children : g'.children = g.children ++ row
  others : ∀ other, other ≠ name → g'.field? other = g.field? other

theorem Adds.refl (name : String) (g : Group) : Adds name [] g g :=
  ⟨rfl, rfl, (List.append_nil _).symm, fun _ _ => rfl⟩

theorem Adds.trans (h : Adds name row g g') (h' : Adds name row' g' g'') :
    Adds name (row ++ row') g g'' where
  identifier := h'.identifier.trans h.identifier
  metadata := h'.metadata.trans h.metadata
  children := by rw [h'.children, h.children, List.append_assoc]
  others := fun other hne => (h'.others other hne).trans (h.others other hne)

theorem adds_addRow (name : String) (g : Group) (row : List Group) :
    Adds name row g (g.addRow row) :=
  ⟨rfl, rfl, rfl, fun _ _ => rfl⟩

/-- Writing to a field adds no child. -/
theorem adds_write (g : Group) (name : String) (change : Option FieldValue → FieldValue) :
    Adds name [] g { g with fields := Fields.write name change g.fields } :=
  ⟨rfl, rfl, (List.append_nil _).symm, fun _ hne => Fields.find?_write_of_ne hne change g.fields⟩

theorem adds_appendTexts (name : String) (texts : List String) (g : Group) :
    Adds name [] g (g.appendTexts name texts) := by
  induction texts generalizing g with
  | nil => exact .refl name g
  | cons text rest ih => exact (adds_write g name _).trans (ih (g.appendItem name ⟨text⟩))

theorem field?_appendItem_self (g : Group) (name : String) (item : Scalar) :
    (g.appendItem name item).field? name =
      some (((g.field? name).getD (.array [])).appended item) :=
  Fields.find?_write_self _ _ _

/-- Texts come to stand in an array in their order. -/
theorem field?_appendTexts_of_array {items : List Scalar} (texts : List String)
    (h : g.field? name = some (.array items)) :
    (g.appendTexts name texts).field? name = some (.array (items ++ texts.map Scalar.mk)) := by
  induction texts generalizing g items with
  | nil =>
    rw [List.map_nil, List.append_nil]
    exact h
  | cons text rest ih =>
    have hfirst : (g.appendItem name ⟨text⟩).field? name = some (.array (items ++ [⟨text⟩])) := by
      rw [field?_appendItem_self, h]
      rfl
    have hrest := ih hfirst
    rw [List.append_assoc] at hrest
    exact hrest

/-- One text or more make a new array. -/
theorem field?_appendTexts {texts : List String} (hne : texts ≠ []) (h : g.field? name = none) :
    (g.appendTexts name texts).field? name = some (.array (texts.map Scalar.mk)) := by
  obtain ⟨text, rest, rfl⟩ := List.exists_cons_of_ne_nil hne
  have hfirst : (g.appendItem name ⟨text⟩).field? name = some (.array [⟨text⟩]) := by
    rw [field?_appendItem_self, h]
    rfl
  exact field?_appendTexts_of_array rest hfirst

end Group

/-! ## What an entry gives -/

namespace Yaml.Value

theorem untagged_ne_tagged (tag : String) (inner : Value) :
    ∀ value : Value, value.untagged ≠ .tagged tag inner
  | .tagged _ value => untagged_ne_tagged tag inner value
  | .null | .bool _ | .int _ | .float _ | .string _ | .sequence _ | .mapping _ => nofun

theorem isMapping_iff :
    ∀ {value : Value}, value.isMapping = true ↔ ∃ entries, value.untagged = .mapping entries
  | .tagged _ value => @isMapping_iff value
  | .mapping entries => ⟨fun _ => ⟨entries, rfl⟩, fun _ => rfl⟩
  | .null | .bool _ | .int _ | .float _ | .string _ | .sequence _ => ⟨nofun, nofun⟩

end Yaml.Value

namespace Loader

open Yaml (Value)

variable {l : Loader} {name : String} {g g' : Group} {value : Value} {items : List Value}
  {entries : List (Value × Value)}

/-- The texts of the items of a list, if all are scalars. -/
def itemTexts? (items : List Value) : Option (List String) :=
  items.mapM fun item => item.untagged.scalarText?

/-- The child groups that an entry makes. A list of scalars makes none, and a list that mixes
scalars with other values is refused. -/
def rowOf (l : Loader) (name : String) (value : Value) : Except ShapeFault (List Group) :=
  match value.untagged with
  | .mapping entries => (l.group name entries).map ([·])
  | .sequence items =>
    if isGroupRun items then (items.mapM (l.itemGroups name)).map List.flatten
    else
      match itemTexts? items with
      | some _ => .ok []
      | none => .error (.mixedList name)
  | _ => .ok []

/-- The field that an entry makes. -/
def fieldOf (value : Value) : Option FieldValue :=
  match value.untagged with
  | .mapping _ => none
  | .sequence items =>
    if isGroupRun items then none
    else (itemTexts? items).map fun texts => .array (texts.map Scalar.mk)
  | scalar => scalar.scalarText?.map fun text => .scalar ⟨text⟩

/-- A run is a list of mappings, past their tags, that is not empty. -/
theorem isGroupRun_iff :
    isGroupRun items = true ↔
      items ≠ [] ∧ ∀ item ∈ items, ∃ entries, item.untagged = .mapping entries := by
  rw [isGroupRun, Bool.and_eq_true_iff, Bool.not_eq_true', List.isEmpty_eq_false_iff,
    List.all_eq_true]
  simp only [Value.isMapping_iff]

/-- The items of a run are mappings past their tags. -/
theorem untagged_of_isGroupRun (h : isGroupRun items = true) :
    ∀ item ∈ items, ∃ entries, item.untagged = .mapping entries :=
  (isGroupRun_iff.mp h).2

theorem itemTexts?_cons_eq_some_iff {item : Value} {rest : List Value} {texts : List String} :
    itemTexts? (item :: rest) = some texts ↔
      ∃ text more, item.untagged.scalarText? = some text ∧ itemTexts? rest = some more ∧
        texts = text :: more := by
  unfold itemTexts?
  rw [List.mapM_cons]
  cases item.untagged.scalarText? with
  | none => simp
  | some text => cases rest.mapM fun item => item.untagged.scalarText? <;> simp [eq_comm]

theorem exists_scalarText?_of_itemTexts? {item : Value} {texts : List String}
    (h : itemTexts? items = some texts) (hitem : item ∈ items) :
    ∃ text, item.untagged.scalarText? = some text := by
  induction items generalizing texts with
  | nil => exact absurd hitem List.not_mem_nil
  | cons first rest ih =>
    obtain ⟨text, more, hfirst, hmore, -⟩ := itemTexts?_cons_eq_some_iff.mp h
    rcases List.mem_cons.mp hitem with rfl | hrest
    · exact ⟨text, hfirst⟩
    · exact ih hmore hrest

/-- A list of scalars is no run. -/
theorem not_isGroupRun_of_itemTexts? {texts : List String} (h : itemTexts? items = some texts) :
    ¬ isGroupRun items = true := by
  intro hrun
  cases items with
  | nil => cases hrun
  | cons item rest =>
    obtain ⟨entries, hentries⟩ := untagged_of_isGroupRun hrun item List.mem_cons_self
    obtain ⟨text, htext⟩ := exists_scalarText?_of_itemTexts? h List.mem_cons_self
    rw [hentries] at htext
    cases htext

/-! ## Loading an entry -/

theorem addEntry_untagged (l : Loader) (name : String) (g : Group) :
    ∀ value, l.addEntry name g value = l.addEntry name g value.untagged
  | .tagged _ value => by
    rw [addEntry, Value.untagged]
    exact addEntry_untagged l name g value
  | .null | .bool _ | .int _ | .float _ | .string _ | .sequence _ | .mapping _ => rfl

/-- A mapping adds the group that is made of it. -/
theorem addEntry_mapping (l : Loader) (name : String) (g : Group)
    (entries : List (Value × Value)) :
    l.addEntry name g (.mapping entries) = (l.group name entries).map fun child =>
      g.addRow [child] := by
  rw [addEntry, group]
  cases l.metadata name entries with
  | error fault => rfl
  | ok metadata =>
    show (l.addEntries { Group.named name with metadata } entries >>= fun child =>
      pure (g.addChild child)) = Except.map _ (l.addEntries _ entries)
    cases l.addEntries { Group.named name with metadata } entries <;> rfl

/-- An item of a run adds the groups that it makes. -/
theorem addChild_eq (l : Loader) (name : String) (g : Group) :
    ∀ item, l.addChild name g item = (l.itemGroups name item).map g.addRow
  | .tagged _ item => by
    rw [addChild]
    exact addChild_eq l name g item
  | .mapping entries => by
    have hentry : l.addChild name g (.mapping entries) = l.addEntry name g (.mapping entries) := by
      rw [addChild, addEntry]
    rw [hentry, addEntry_mapping]
    show _ = ((l.group name entries).map ([·])).map g.addRow
    cases l.group name entries <;> rfl
  | .null | .bool _ | .int _ | .float _ | .string _ | .sequence _ => by
    show Except.ok g = Except.ok (g.addRow [])
    rw [Group.addRow_nil]

theorem addChildren_eq (l : Loader) (name : String) (items : List Value) (g : Group) :
    l.addChildren name g items =
      (items.mapM (l.itemGroups name)).map fun rows => g.addRow rows.flatten := by
  induction items generalizing g with
  | nil =>
    rw [addChildren, List.mapM_nil]
    show Except.ok g = Except.ok (g.addRow [])
    rw [Group.addRow_nil]
  | cons item rest ih =>
    rw [addChildren, addChild_eq, List.mapM_cons]
    cases l.itemGroups name item with
    | error fault => rfl
    | ok row =>
      show l.addChildren name (g.addRow row) rest = _
      rw [ih]
      cases rest.mapM (l.itemGroups name) with
      | error fault => rfl
      | ok rows => exact congrArg Except.ok (Group.addRow_addRow g row rows.flatten)

theorem addItems_eq (name : String) (items : List Value) (g : Group) :
    addItems name g items =
      match itemTexts? items with
      | some texts => .ok (g.appendTexts name texts)
      | none => .error (.mixedList name) := by
  induction items generalizing g with
  | nil => rfl
  | cons item rest ih =>
    rw [addItems, itemTexts?, List.mapM_cons]
    cases item.untagged.scalarText? with
    | none => rfl
    | some text =>
      show addItems name (g.appendItem name ⟨text⟩) rest = _
      rw [ih, itemTexts?]
      cases rest.mapM fun item => item.untagged.scalarText? <;> rfl

/-- A list that is not empty adds the run of groups that its items make, or an array. -/
theorem adds_of_addEntry_cons {item : Value} {rest : List Value}
    (h : l.addEntry name g (.sequence (item :: rest)) = .ok g') :
    ∃ row, l.rowOf name (.sequence (item :: rest)) = .ok row ∧ g.Adds name row g' ∧
      (g.field? name = none → g'.field? name = fieldOf (.sequence (item :: rest))) := by
  rw [addEntry] at h
  show ∃ row, (if isGroupRun (item :: rest) then _ else _) = Except.ok row ∧ _ ∧
    (_ → _ = if isGroupRun (item :: rest) then _ else _)
  by_cases hrun : isGroupRun (item :: rest) = true
  · rw [if_pos hrun, addChildren_eq, map_eq_ok_iff] at h
    obtain ⟨rows, hrows, rfl⟩ := h
    rw [if_pos hrun, if_pos hrun, hrows]
    exact ⟨rows.flatten, rfl, Group.adds_addRow name g _, id⟩
  · rw [if_neg hrun, addItems_eq] at h
    rw [if_neg hrun, if_neg hrun]
    cases htexts : itemTexts? (item :: rest) with
    | none => rw [htexts] at h; cases h
    | some texts =>
      rw [htexts] at h
      obtain rfl := Except.ok.inj h
      have hne : texts ≠ [] := by
        obtain ⟨text, more, -, -, rfl⟩ := itemTexts?_cons_eq_some_iff.mp htexts
        exact List.cons_ne_nil text more
      exact ⟨[], rfl, Group.adds_appendTexts name texts g, Group.field?_appendTexts hne⟩

/-- **One entry.** Loading an entry adds what the entry gives under its key, and nothing else. -/
theorem adds_of_addEntry (h : l.addEntry name g value = .ok g') :
    ∃ row, l.rowOf name value = .ok row ∧ g.Adds name row g' ∧
      (g.field? name = none → g'.field? name = fieldOf value) := by
  rw [addEntry_untagged] at h
  unfold rowOf fieldOf
  cases hvalue : value.untagged with
  | tagged tag inner => exact absurd hvalue (Value.untagged_ne_tagged tag inner value)
  | mapping entries =>
    rw [hvalue, addEntry_mapping, map_eq_ok_iff] at h
    obtain ⟨child, hchild, rfl⟩ := h
    exact ⟨[child], congrArg (Except.map ([·])) hchild, Group.adds_addRow name g [child], id⟩
  | sequence items =>
    rw [hvalue] at h
    cases items with
    | nil =>
      rw [addEntry] at h
      obtain rfl := Except.ok.inj h
      exact ⟨[], rfl, Group.adds_write g name _, fun _ => Fields.find?_write_self _ _ _⟩
    | cons item rest => exact adds_of_addEntry_cons h
  | _ =>
    rw [hvalue] at h
    obtain rfl := Except.ok.inj h
    refine ⟨[], rfl, Group.adds_write g name _, fun hnone => ?_⟩
    rw [Group.field?_assign_self, hnone]
    rfl

/-! ## Loading a mapping -/

theorem keyText_eq_ok_iff {key : Value} : keyText key = .ok name ↔ key.asString? = some name := by
  unfold keyText
  cases key.asString? with
  | none => exact ⟨nofun, nofun⟩
  | some s =>
    show Except.ok s = Except.ok name ↔ _
    rw [Except.ok.injEq, Option.some.injEq]

/-- Entries are added one by one, except for that of the metadata. -/
theorem addEntries_cons_iff {key : Value} {rest : List (Value × Value)} :
    l.addEntries g ((key, value) :: rest) = .ok g' ↔
      ∃ name between, key.asString? = some name ∧
        (if name = l.metaKey then .ok g else l.addEntry name g value) = .ok between ∧
        l.addEntries between rest = .ok g' := by
  have hsplit : l.addEntries g ((key, value) :: rest) = keyText key >>= fun name =>
      (if name = l.metaKey then .ok g else l.addEntry name g value) >>= fun between =>
        l.addEntries between rest := by
    rw [addEntries]
    refine congrArg (keyText key >>= ·) (funext fun name => ?_)
    by_cases hmeta : name = l.metaKey
    · rw [if_pos hmeta, if_pos hmeta]
    · rw [if_neg hmeta, if_neg hmeta]
  simp only [hsplit, bind_eq_ok_iff, keyText_eq_ok_iff, exists_and_left]

end Loader

end Settings
