import Settings.Proofs.Entries
/-!
# Tags

Tags around values say nothing to the loader. `Yaml.Value.bare` drops all of them, at any depth, and
leaves keys alone. Data that are accepted with their tags are accepted without them and make the
same document (`Loader.build_bare`).
-/

namespace Settings

namespace Yaml.Value

mutual

/-- A value without its tags and without those of all values in it. -/
def bare : Value → Value
  | tagged _ value => bare value
  | sequence items => sequence (bareItems items)
  | mapping entries => mapping (bareEntries entries)
  | scalar => scalar

def bareItems : List Value → List Value
  | [] => []
  | item :: rest => bare item :: bareItems rest

/-- Keys keep their tags. -/
def bareEntries : List (Value × Value) → List (Value × Value)
  | [] => []
  | (key, value) :: rest => (key, bare value) :: bareEntries rest

end

theorem bareItems_eq_map (items : List Value) : bareItems items = items.map bare := by
  induction items with
  | nil => rfl
  | cons item rest ih => rw [bareItems, ih, List.map_cons]

theorem bareEntries_eq_map (entries : List (Value × Value)) :
    bareEntries entries = entries.map fun entry => (entry.1, entry.2.bare) := by
  induction entries with
  | nil => rfl
  | cons entry rest ih => rw [bareEntries, ih, List.map_cons]

theorem bare_untagged : ∀ value : Value, value.untagged.bare = value.bare
  | tagged _ value => by
    rw [bare, untagged]
    exact bare_untagged value
  | null | bool _ | int _ | float _ | string _ | sequence _ | mapping _ => rfl

/-- No tag is left to be dropped. -/
theorem untagged_bare : ∀ value : Value, value.bare.untagged = value.bare
  | tagged _ value => by
    rw [bare]
    exact untagged_bare value
  | null | bool _ | int _ | float _ | string _ | sequence _ | mapping _ => rfl

theorem scalarText?_bare (value : Value) :
    value.bare.untagged.scalarText? = value.untagged.scalarText? := by
  rw [untagged_bare, ← bare_untagged]
  cases hvalue : value.untagged with
  | tagged tag inner => exact absurd hvalue (untagged_ne_tagged tag inner value)
  | _ => rfl

end Yaml.Value

namespace Loader

open Yaml (Value)

variable {l : Loader} {name : String} {g : Group}

/-! ## Metadata -/

theorem metaEntry_bare (l : Loader) (group : String) (entry : Value × Value) :
    l.metaEntry group (entry.1, entry.2.bare) = l.metaEntry group entry := by
  unfold metaEntry
  rw [Value.scalarText?_bare]

theorem metaValue?_bareEntries (l : Loader) (entries : List (Value × Value)) :
    l.metaValue? (Value.bareEntries entries) = (l.metaValue? entries).map Value.bare := by
  induction entries with
  | nil => rfl
  | cons entry rest ih =>
    obtain ⟨key, value⟩ := entry
    rw [Value.bareEntries]
    cases key with
    | string s =>
      rw [metaValue?, metaValue?]
      by_cases hs : s = l.metaKey
      · rw [if_pos hs, if_pos hs]
        rfl
      · rw [if_neg hs, if_neg hs]
        exact ih
    | _ => exact ih

theorem metadata_bareEntries (l : Loader) (group : String) (entries : List (Value × Value)) :
    l.metadata group (Value.bareEntries entries) = l.metadata group entries := by
  unfold metadata
  rw [metaValue?_bareEntries]
  cases l.metaValue? entries with
  | none => rfl
  | some value =>
    rw [Option.map_some, Option.map_some, Option.map_some, Value.untagged_bare,
      ← Value.bare_untagged]
    cases hvalue : value.untagged with
    | tagged tag inner => exact absurd hvalue (Value.untagged_ne_tagged tag inner value)
    | mapping entries =>
      show ((Value.bareEntries entries).mapM (l.metaEntry group)).map _ = _
      rw [Value.bareEntries_eq_map, List.mapM_map]
      have hentry : l.metaEntry group ∘ (fun entry : Value × Value => (entry.1, entry.2.bare)) =
          l.metaEntry group := funext (metaEntry_bare l group)
      rw [hentry]
    | _ => rfl

/-! ## Entries -/

theorem itemTexts?_bareItems (items : List Value) :
    itemTexts? (Value.bareItems items) = itemTexts? items := by
  unfold itemTexts?
  rw [Value.bareItems_eq_map, List.mapM_map]
  exact congrArg (List.mapM · items) (funext Value.scalarText?_bare)

/-- A run is one without its tags. -/
theorem isGroupRun_bareItems {items : List Value} (h : isGroupRun items = true) :
    isGroupRun (Value.bareItems items) = true := by
  obtain ⟨hne, hmapping⟩ := isGroupRun_iff.mp h
  rw [Value.bareItems_eq_map, isGroupRun_iff]
  refine ⟨mt List.map_eq_nil_iff.mp hne, fun item hitem => ?_⟩
  obtain ⟨before, hbefore, rfl⟩ := List.mem_map.mp hitem
  obtain ⟨entries, hentries⟩ := hmapping before hbefore
  refine ⟨Value.bareEntries entries, ?_⟩
  rw [Value.untagged_bare, ← Value.bare_untagged, hentries, Value.bare]

theorem group_bareEntries {entries : List (Value × Value)}
    (hentries : ∀ {g g'}, l.addEntries g entries = .ok g' →
      l.addEntries g (Value.bareEntries entries) = .ok g')
    (h : l.group name entries = .ok g) : l.group name (Value.bareEntries entries) = .ok g := by
  rw [group, bind_eq_ok_iff] at h
  obtain ⟨metadata, hmetadata, h⟩ := h
  rw [group, metadata_bareEntries, hmetadata]
  exact hentries h

mutual

/-- An entry that is accepted with its tags adds the same without them. -/
theorem addEntry_bare : ∀ (value : Value) {name : String} {g g' : Group},
    l.addEntry name g value = .ok g' → l.addEntry name g value.bare = .ok g'
  | .tagged _ value, name, g, g', h => by
    rw [addEntry] at h
    exact addEntry_bare value h
  | .mapping entries, name, g, g', h => by
    rw [addEntry_mapping, map_eq_ok_iff] at h
    obtain ⟨child, hchild, rfl⟩ := h
    rw [Value.bare, addEntry_mapping, group_bareEntries (addEntries_bare entries) hchild]
    rfl
  | .sequence [], _, _, _, h => h
  | .sequence (item :: rest), name, g, g', h => by
    rw [addEntry] at h
    rw [Value.bare, Value.bareItems, addEntry, ← Value.bareItems]
    by_cases hrun : isGroupRun (item :: rest) = true
    · rw [if_pos hrun, addChildren_eq, map_eq_ok_iff] at h
      obtain ⟨rows, hrows, rfl⟩ := h
      rw [if_pos (isGroupRun_bareItems hrun), addChildren_eq, itemGroups_bareItems _ hrows]
      rfl
    · rw [if_neg hrun, addItems_eq] at h
      cases htexts : itemTexts? (item :: rest) with
      | none => rw [htexts] at h; cases h
      | some texts =>
        rw [htexts] at h
        rw [← itemTexts?_bareItems] at htexts
        rw [if_neg (not_isGroupRun_of_itemTexts? htexts), addItems_eq, htexts]
        exact h
  | .null, _, _, _, h | .bool _, _, _, _, h | .int _, _, _, _, h | .float _, _, _, _, h
  | .string _, _, _, _, h => h

theorem addEntries_bare : ∀ (entries : List (Value × Value)) {g g' : Group},
    l.addEntries g entries = .ok g' → l.addEntries g (Value.bareEntries entries) = .ok g'
  | [], _, _, h => h
  | (key, value) :: rest, g, g', h => by
    obtain ⟨name, between, hname, hbetween, hrest⟩ := addEntries_cons_iff.mp h
    rw [Value.bareEntries, addEntries_cons_iff]
    refine ⟨name, between, hname, ?_, addEntries_bare rest hrest⟩
    by_cases hmeta : name = l.metaKey
    · rw [if_pos hmeta] at hbetween ⊢
      exact hbetween
    · rw [if_neg hmeta] at hbetween ⊢
      exact addEntry_bare value hbetween

theorem itemGroups_bare : ∀ (item : Value) {name : String} {row : List Group},
    l.itemGroups name item = .ok row → l.itemGroups name item.bare = .ok row
  | .tagged _ item, _, _, h => itemGroups_bare item h
  | .mapping entries, name, row, h => by
    obtain ⟨g, hg, rfl⟩ := map_eq_ok_iff.mp h
    exact map_eq_ok_iff.mpr ⟨g, group_bareEntries (addEntries_bare entries) hg, rfl⟩
  | .null, _, _, h | .bool _, _, _, h | .int _, _, _, h | .float _, _, _, h
  | .string _, _, _, h | .sequence _, _, _, h => h

theorem itemGroups_bareItems : ∀ (items : List Value) {name : String} {rows : List (List Group)},
    items.mapM (l.itemGroups name) = .ok rows →
      (Value.bareItems items).mapM (l.itemGroups name) = .ok rows
  | [], _, _, h => h
  | item :: rest, name, rows, h => by
    rw [List.mapM_cons, bind_eq_ok_iff] at h
    obtain ⟨row, hrow, h⟩ := h
    obtain ⟨more, hmore, h⟩ := bind_eq_ok_iff.mp h
    rw [Value.bareItems, List.mapM_cons, itemGroups_bare item hrow]
    show ((Value.bareItems rest).mapM (l.itemGroups name) >>= fun more => _) = _
    rw [itemGroups_bareItems rest hmore]
    exact h

end

/-! ## Documents -/

theorem topLevelGroups_bare {key value : Value} {row : List Group}
    (h : l.topLevelGroups (key, value) = .ok row) :
    l.topLevelGroups (key, value.bare) = .ok row := by
  rw [topLevelGroups, bind_eq_ok_iff] at h
  obtain ⟨name, hname, h⟩ := h
  rw [topLevelGroups, bind_eq_ok_iff]
  refine ⟨name, hname, ?_⟩
  dsimp only at h ⊢
  rw [Value.untagged_bare, ← Value.bare_untagged]
  cases hvalue : value.untagged with
  | null =>
    rw [hvalue] at h
    exact h
  | mapping entries =>
    rw [hvalue] at h
    obtain ⟨g, hg, rfl⟩ := map_eq_ok_iff.mp h
    exact map_eq_ok_iff.mpr ⟨g, group_bareEntries (addEntries_bare entries) hg, rfl⟩
  | sequence items =>
    rw [hvalue] at h
    rw [Value.bare]
    dsimp only at h ⊢
    by_cases hrun : isGroupRun items = true
    · rw [if_pos hrun, map_eq_ok_iff] at h
      obtain ⟨rows, hrows, rfl⟩ := h
      rw [if_pos (isGroupRun_bareItems hrun), itemGroups_bareItems items hrows]
      rfl
    · rw [if_neg hrun] at h
      cases h
  | _ =>
    rw [hvalue] at h
    cases h

theorem topLevelGroups_bareEntries {entries : List (Value × Value)} {rows : List (List Group)}
    (h : entries.mapM l.topLevelGroups = .ok rows) :
    (Value.bareEntries entries).mapM l.topLevelGroups = .ok rows := by
  induction entries generalizing rows with
  | nil => exact h
  | cons entry rest ih =>
    rw [List.mapM_cons, bind_eq_ok_iff] at h
    obtain ⟨row, hrow, h⟩ := h
    obtain ⟨more, hmore, h⟩ := bind_eq_ok_iff.mp h
    rw [Value.bareEntries, List.mapM_cons, topLevelGroups_bare hrow]
    show ((Value.bareEntries rest).mapM l.topLevelGroups >>= fun more => _) = _
    rw [ih hmore]
    exact h

theorem groups_bare {root : Value} {groups : List Group} (h : l.groups root = .ok groups) :
    l.groups root.bare = .ok groups := by
  unfold Loader.groups at h ⊢
  rw [Value.untagged_bare, ← Value.bare_untagged]
  cases hroot : root.untagged with
  | null =>
    rw [hroot] at h
    exact h
  | mapping entries =>
    rw [hroot] at h
    obtain ⟨rows, hrows, rfl⟩ := map_eq_ok_iff.mp h
    exact map_eq_ok_iff.mpr ⟨rows, topLevelGroups_bareEntries hrows, rfl⟩
  | _ =>
    rw [hroot] at h
    cases h

/-- **Tags make no difference.** Data that are accepted are accepted without their tags, and make
the same document. -/
theorem build_bare {source : String} {root : Value} {d : Document}
    (h : l.build source root = .ok d) : l.build source root.bare = .ok d := by
  unfold build at h ⊢
  cases hgroups : l.groups root with
  | error fault => rw [hgroups] at h; cases h
  | ok groups =>
    rw [hgroups] at h
    rw [groups_bare hgroups]
    exact h

end Loader

end Settings
