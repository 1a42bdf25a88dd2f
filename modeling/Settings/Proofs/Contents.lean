import Settings.Proofs.Entries
/-!
# What data put into a group

The child groups that an entry makes have its key for their name (`Loader.makes_of_rowOf`). So where
the keys of a mapping are distinct, entries do not get in each other's way: what stands under a key
in the group that is made is what its entry gives (`Loader.contents_of_group`). The same holds at
the top of a document (`Loader.MakesRows.contents`).
-/

namespace Settings

theorem exists_getElem?_of_forall₂ {α β : Type} {r : α → β → Prop} {xs : List α} {ys : List β}
    (h : List.Forall₂ r xs ys) {i : Nat} {x : α} (hx : xs[i]? = some x) :
    ∃ y, ys[i]? = some y ∧ r x y := by
  obtain ⟨hi, rfl⟩ := List.getElem?_eq_some_iff.mp hx
  have hi' : i < ys.length := h.length_eq ▸ hi
  exact ⟨ys[i], List.getElem?_eq_getElem hi', (List.forall₂_iff_get.mp h).2 i hi hi'⟩

namespace Loader

open Yaml (Value)

variable {l : Loader} {name : String} {g g' : Group} {value : Value} {items : List Value}
  {entries : List (Value × Value)}

/-! ## The names of what is made -/

/-- The names of the keys of entries, where they are strings. -/
def names (entries : List (Value × Value)) : List (Option String) :=
  entries.map fun entry => entry.1.asString?

/-- Loading entries renames nothing, and leaves the metadata alone. -/
theorem kept_addEntries (h : l.addEntries g entries = .ok g') :
    g'.identifier = g.identifier ∧ g'.metadata = g.metadata := by
  induction entries generalizing g with
  | nil =>
    rw [addEntries] at h
    obtain rfl := Except.ok.inj h
    exact ⟨rfl, rfl⟩
  | cons entry rest ih =>
    obtain ⟨name, between, -, hbetween, hrest⟩ := addEntries_cons_iff.mp h
    obtain ⟨hidentifier, hmetadata⟩ := ih hrest
    rw [hidentifier, hmetadata]
    by_cases hmeta : name = l.metaKey
    · rw [if_pos hmeta] at hbetween
      obtain rfl := Except.ok.inj hbetween
      exact ⟨rfl, rfl⟩
    · rw [if_neg hmeta] at hbetween
      obtain ⟨row, -, hadds, -⟩ := adds_of_addEntry hbetween
      exact ⟨hadds.identifier, hadds.metadata⟩

theorem identifier_group (h : l.group name entries = .ok g) : g.identifier = name := by
  rw [group, bind_eq_ok_iff] at h
  obtain ⟨metadata, -, h⟩ := h
  exact (kept_addEntries h).1

/-- The metadata of a group are those that its mapping says. -/
theorem metadata_group (h : l.group name entries = .ok g) :
    l.metadata name entries = .ok g.metadata := by
  rw [group, bind_eq_ok_iff] at h
  obtain ⟨metadata, hmetadata, h⟩ := h
  rw [hmetadata, (kept_addEntries h).2]

/-! ## Runs -/

/-- A group is made of a value that is a mapping past its tags. -/
def Makes (l : Loader) (name : String) (item : Value) (g : Group) : Prop :=
  ∃ entries, item.untagged = .mapping entries ∧ l.group name entries = .ok g

/-- The values that an entry makes groups of: the value itself, or the items of a run. -/
def runOf (value : Value) : List Value :=
  match value.untagged with
  | .mapping entries => [.mapping entries]
  | .sequence items => if isGroupRun items then items else []
  | _ => []

theorem runOf_of_mapping (h : value.untagged = .mapping entries) :
    runOf value = [.mapping entries] := by
  rw [runOf, h]

theorem runOf_of_isGroupRun (h : value.untagged = .sequence items)
    (hrun : isGroupRun items = true) : runOf value = items := by
  rw [runOf, h]
  exact if_pos hrun

/-- The items of a run make a group each. -/
theorem makes_of_itemGroups {rows : List (List Group)}
    (h : List.Forall₂ (fun item row => l.itemGroups name item = .ok row) items rows)
    (hmapping : ∀ item ∈ items, ∃ entries, item.untagged = .mapping entries) :
    List.Forall₂ (l.Makes name) items rows.flatten := by
  induction h with
  | nil => exact .nil
  | @cons item row rest more hrow _ ih =>
    obtain ⟨entries, hentries⟩ := hmapping item List.mem_cons_self
    rw [itemGroups, hentries] at hrow
    obtain ⟨g, hg, rfl⟩ := map_eq_ok_iff.mp hrow
    exact .cons ⟨entries, hentries, hg⟩
      (ih fun item hitem => hmapping item (List.mem_cons_of_mem _ hitem))

/-- The child groups of an entry are made of its values, one of each. -/
theorem makes_of_rowOf {row : List Group} (h : l.rowOf name value = .ok row) :
    List.Forall₂ (l.Makes name) (runOf value) row := by
  unfold rowOf at h
  unfold runOf
  cases hvalue : value.untagged with
  | mapping entries =>
    rw [hvalue] at h
    obtain ⟨g, hg, rfl⟩ := map_eq_ok_iff.mp h
    exact .cons ⟨entries, rfl, hg⟩ .nil
  | sequence items =>
    rw [hvalue] at h
    dsimp only at h ⊢
    by_cases hrun : isGroupRun items = true
    · rw [if_pos hrun, map_eq_ok_iff] at h
      obtain ⟨rows, hrows, rfl⟩ := h
      rw [if_pos hrun]
      exact makes_of_itemGroups (forall₂_of_mapM hrows) (untagged_of_isGroupRun hrun)
    · rw [if_neg hrun] at h ⊢
      cases htexts : itemTexts? items with
      | none => rw [htexts] at h; cases h
      | some texts =>
        rw [htexts] at h
        obtain rfl := Except.ok.inj h
        exact .nil
  | _ =>
    rw [hvalue] at h
    obtain rfl := Except.ok.inj h
    exact .nil

/-- All groups that an entry makes have its name. -/
theorem identifier_of_mem_rowOf {row : List Group} (h : l.rowOf name value = .ok row) :
    ∀ g ∈ row, g.identifier = name := by
  intro g hg
  obtain ⟨i, hi⟩ := List.getElem?_of_mem hg
  obtain ⟨hlength, rfl⟩ := List.getElem?_eq_some_iff.mp hi
  obtain ⟨hsame, hmakes⟩ := List.forall₂_iff_get.mp (makes_of_rowOf h)
  obtain ⟨entries, -, hgroup⟩ := hmakes i (hsame ▸ hlength) hlength
  exact identifier_group hgroup

/-! ## Entries side by side -/

/-- An entry leaves alone what stands under other names than its own. -/
theorem others_of_entry {field : String}
    (h : (if name = l.metaKey then .ok g else l.addEntry name g value) = .ok g')
    (hne : field ≠ name) :
    namesakes g'.children field = namesakes g.children field ∧ g'.field? field = g.field? field := by
  by_cases hmeta : name = l.metaKey
  · rw [if_pos hmeta] at h
    obtain rfl := Except.ok.inj h
    exact ⟨rfl, rfl⟩
  · rw [if_neg hmeta] at h
    obtain ⟨row, hrow, hadds, -⟩ := adds_of_addEntry h
    have hnone : namesakes row field = [] := namesakes_of_forall_ne fun child hchild heq =>
      hne (heq.symm.trans (identifier_of_mem_rowOf hrow child hchild))
    refine ⟨?_, hadds.others field hne⟩
    rw [hadds.children, namesakes_append, hnone, List.append_nil]

/-- Entries with other keys leave what stands under a name alone. -/
theorem others_of_addEntries {field : String} (h : l.addEntries g entries = .ok g')
    (hfresh : some field ∉ names entries) :
    namesakes g'.children field = namesakes g.children field ∧
      g'.field? field = g.field? field := by
  induction entries generalizing g with
  | nil =>
    rw [addEntries] at h
    rw [← Except.ok.inj h]
    exact ⟨rfl, rfl⟩
  | cons entry rest ih =>
    obtain ⟨name, between, hname, hbetween, hrest⟩ := addEntries_cons_iff.mp h
    rw [names, List.map_cons, List.mem_cons, not_or, hname] at hfresh
    have hne : field ≠ name := fun heq => hfresh.1 (congrArg some heq)
    obtain ⟨hchildren, hfield⟩ := ih hrest hfresh.2
    obtain ⟨hchildren', hfield'⟩ := others_of_entry hbetween hne
    exact ⟨hchildren.trans hchildren', hfield.trans hfield'⟩

/-- Where keys are distinct, what stands under a key is what its entry gives. -/
theorem contents_of_addEntries {key : Value} {field : String}
    (h : l.addEntries g entries = .ok g') (hdistinct : (names entries).Nodup)
    (hentry : (key, value) ∈ entries) (hkey : key.asString? = some field)
    (hmeta : field ≠ l.metaKey) (hchildren : namesakes g.children field = [])
    (hfield : g.field? field = none) :
    l.rowOf field value = .ok (namesakes g'.children field) ∧
      g'.field? field = fieldOf value := by
  induction entries generalizing g with
  | nil => exact absurd hentry List.not_mem_nil
  | cons entry rest ih =>
    obtain ⟨name, between, hname, hbetween, hrest⟩ := addEntries_cons_iff.mp h
    rw [names, List.map_cons, List.nodup_cons] at hdistinct
    obtain ⟨hfresh, hdistinct⟩ := hdistinct
    rcases List.mem_cons.mp hentry with rfl | hlater
    · -- the entry itself; those after it have other keys
      obtain rfl : field = name := Option.some.inj (hkey.symm.trans hname)
      rw [hkey] at hfresh
      obtain ⟨hsame, hsame'⟩ := others_of_addEntries hrest hfresh
      rw [if_neg hmeta] at hbetween
      obtain ⟨row, hrow, hadds, hown⟩ := adds_of_addEntry hbetween
      refine ⟨?_, hsame'.trans (hown hfield)⟩
      rw [hsame, hadds.children, namesakes_append, hchildren, List.nil_append,
        namesakes_of_forall_eq (identifier_of_mem_rowOf hrow)]
      exact hrow
    · -- an entry further on, so the first one has another key
      have hne : field ≠ name := by
        rintro rfl
        exact hfresh (hname.trans hkey.symm ▸ List.mem_map_of_mem hlater)
      obtain ⟨hsame, hsame'⟩ := others_of_entry hbetween hne
      exact ih hrest hdistinct hlater (hsame.trans hchildren) (hsame'.trans hfield)

/-- **One mapping.** In the group that is made of a mapping with distinct keys, the child groups and
the field under a key are those that its entry gives; the key of the metadata is left out. -/
theorem contents_of_group {key : Value} {field : String} (h : l.group name entries = .ok g)
    (hdistinct : (names entries).Nodup) (hentry : (key, value) ∈ entries)
    (hkey : key.asString? = some field) (hmeta : field ≠ l.metaKey) :
    l.rowOf field value = .ok (namesakes g.children field) ∧ g.field? field = fieldOf value := by
  rw [group, bind_eq_ok_iff] at h
  obtain ⟨metadata, -, h⟩ := h
  exact contents_of_addEntries h hdistinct hentry hkey hmeta rfl rfl

/-! ## The top of a document -/

/-- The groups that an entry at the top makes have its name. Unless it is null, they are those that
it would make within a group. -/
theorem row_of_topLevelGroups {key : Value} {row : List Group}
    (h : l.topLevelGroups (key, value) = .ok row) :
    ∃ name, key.asString? = some name ∧ (∀ g ∈ row, g.identifier = name) ∧
      (value.untagged ≠ .null → l.rowOf name value = .ok row) := by
  rw [topLevelGroups, bind_eq_ok_iff] at h
  obtain ⟨name, hname, h⟩ := h
  refine ⟨name, keyText_eq_ok_iff.mp hname, ?_⟩
  dsimp only at h
  have hrow : value.untagged ≠ .null → l.rowOf name value = .ok row := by
    unfold rowOf
    intro hnull
    cases hvalue : value.untagged with
    | null => exact absurd hvalue hnull
    | mapping entries =>
      rw [hvalue] at h
      exact h
    | sequence items =>
      rw [hvalue] at h
      dsimp only at h ⊢
      by_cases hrun : isGroupRun items = true
      · rw [if_pos hrun] at h ⊢
        exact h
      · rw [if_neg hrun] at h
        cases h
    | _ =>
      rw [hvalue] at h
      cases h
  refine ⟨?_, hrow⟩
  by_cases hnull : value.untagged = .null
  · rw [hnull] at h
    obtain rfl := Except.ok.inj h
    intro g hg
    rw [List.mem_singleton.mp hg]
    rfl
  · exact identifier_of_mem_rowOf (hrow hnull)

/-- The rows of groups that the entries at the top make, one by one. -/
def MakesRows (l : Loader) : List (Value × Value) → List (List Group) → Prop :=
  List.Forall₂ fun entry row => l.topLevelGroups entry = .ok row

theorem MakesRows.identifier_mem_names {rows : List (List Group)} (h : l.MakesRows entries rows) :
    ∀ g ∈ rows.flatten, some g.identifier ∈ names entries := by
  induction h with
  | nil => exact fun g hg => absurd hg List.not_mem_nil
  | @cons entry row rest more hrow _ ih =>
    obtain ⟨name, hname, hidentifier, -⟩ := row_of_topLevelGroups hrow
    intro g hg
    rw [List.flatten_cons, List.mem_append] at hg
    rw [names, List.map_cons, List.mem_cons, hname]
    rcases hg with hg | hg
    · exact .inl (congrArg some (hidentifier g hg))
    · exact .inr (ih g hg)

/-- **The top.** Where keys are distinct, the groups of a name are those that the entry under it
makes. -/
theorem MakesRows.contents {key : Value} {rows : List (List Group)} (h : l.MakesRows entries rows)
    (hdistinct : (names entries).Nodup) (hentry : (key, value) ∈ entries)
    (hkey : key.asString? = some name) :
    l.topLevelGroups (key, value) = .ok (namesakes rows.flatten name) := by
  induction h with
  | nil => exact absurd hentry List.not_mem_nil
  | @cons entry row rest more hrow hmore ih =>
    rw [names, List.map_cons, List.nodup_cons] at hdistinct
    obtain ⟨hfresh, hdistinct⟩ := hdistinct
    obtain ⟨first, hfirst, hidentifier, -⟩ := row_of_topLevelGroups hrow
    rw [List.flatten_cons, namesakes_append]
    rcases List.mem_cons.mp hentry with rfl | hlater
    · -- no later entry has the key
      obtain rfl : name = first := Option.some.inj (hkey.symm.trans hfirst)
      have hnone : namesakes more.flatten name = [] := namesakes_of_forall_ne fun g hg heq =>
        hfresh (by rw [hkey, ← heq]; exact MakesRows.identifier_mem_names hmore g hg)
      rw [namesakes_of_forall_eq hidentifier, hnone, List.append_nil]
      exact hrow
    · have hne : first ≠ name := by
        rintro rfl
        exact hfresh (hfirst.trans hkey.symm ▸ List.mem_map_of_mem hlater)
      have hnone : namesakes row name = [] := namesakes_of_forall_ne fun g hg heq =>
        hne ((hidentifier g hg).symm.trans heq)
      rw [hnone, List.nil_append]
      exact ih hdistinct hlater

/-- A document is made of the groups that its data make, with their flags set, and remembers
nothing.
-/
theorem groups_of_build {source : String} {root : Value} {d : Document}
    (h : l.build source root = .ok d) :
    ∃ groups, l.groups root = .ok groups ∧ d.groups = flagRepeats groups ∧
      d.options = l.document ∧ d.cache.entries = [] := by
  unfold build at h
  cases hgroups : l.groups root with
  | error fault => rw [hgroups] at h; cases h
  | ok groups =>
    rw [hgroups] at h
    obtain rfl := Except.ok.inj h
    refine ⟨groups, rfl, Document.groups_afterWrite _, Document.options_afterWrite _, ?_⟩
    unfold Document.flagRepeats Document.afterWrite
    dsimp only
    cases l.document.cachePolicy <;> rfl

/-- The groups that a mapping makes at the top. -/
theorem makesRows_of_groups {root : Value} {groups : List Group} (h : l.groups root = .ok groups)
    (hroot : root.untagged = .mapping entries) :
    ∃ rows, l.MakesRows entries rows ∧ groups = rows.flatten := by
  rw [Loader.groups, hroot] at h
  obtain ⟨rows, hrows, rfl⟩ := map_eq_ok_iff.mp h
  exact ⟨rows, forall₂_of_mapM hrows, rfl⟩

end Loader

end Settings
