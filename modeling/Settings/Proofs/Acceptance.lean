import Settings.Proofs.Contents
import Settings.Proofs.Tags
/-!
# Data that are accepted

Which data make a document is said by a grammar of shapes that knows nothing of loading. A group is
a mapping of strings to contents, with metadata under one key (`Loader.IsGroup`); contents are
scalars, lists of scalars, groups and runs of groups (`Loader.IsContent`); a document is a mapping
of strings to groups and runs of groups (`Loader.IsDocument`). All of it is meant past tags.

Whether an entry can be added to a group depends neither on the group nor on the name
(`Loader.exists_addEntry_iff`, by recursion on the value, in step with the entries of mappings and
the items of lists). `Loader.build_accepts_iff` is the result for documents.
-/

namespace Settings

namespace Loader

open Yaml (Value)

variable {l : Loader} {metaKey name : String} {g : Group} {value other : Value} {items : List Value}
  {entries : List (Value × Value)}

/-! ## The grammar -/

/-- A string, a number, a truth value or null, past tags. -/
def IsScalar (value : Value) : Prop :=
  match value.untagged with
  | .string _ | .int _ | .float _ | .bool _ | .null => True
  | _ => False

/-- The key is a string, tagged or not. -/
def HasName (entry : Value × Value) : Prop := ∃ name, entry.1.asString? = some name

/-- A mapping of strings to scalars. -/
def IsMetadata (value : Value) : Prop :=
  ∃ entries, value.untagged = .mapping entries ∧
    ∀ entry ∈ entries, HasName entry ∧ IsScalar entry.2

/-- The value stands under a key that is the string itself, without a tag. Keys of a mapping are
distinct; if they were not, the first one counts. -/
def StandsUnder (name : String) (entries : List (Value × Value)) (value : Value) : Prop :=
  ∃ before after, entries = before ++ (.string name, value) :: after ∧
    ∀ entry ∈ before, entry.1 ≠ .string name

mutual

/-- A group: a mapping of strings, with metadata under their key, and contents under all keys that
do not read like it. -/
inductive IsGroup (metaKey : String) : Value → Prop
  | intro {value : Value} {entries : List (Value × Value)}
      (mapping : value.untagged = .mapping entries)
      (keys : ∀ entry ∈ entries, HasName entry)
      (metadata : ∀ stated, StandsUnder metaKey entries stated → IsMetadata stated)
      (contents : ∀ entry ∈ entries, entry.1.asString? ≠ some metaKey →
        IsContent metaKey entry.2) : IsGroup metaKey value

/-- What a group may hold under a key. An empty list is a list of scalars. -/
inductive IsContent (metaKey : String) : Value → Prop
  | scalar {value : Value} (scalar : IsScalar value) : IsContent metaKey value
  | group {value : Value} (group : IsGroup metaKey value) : IsContent metaKey value
  | scalars {value : Value} {items : List Value} (list : value.untagged = .sequence items)
      (scalars : ∀ item ∈ items, IsScalar item) : IsContent metaKey value
  | run {value : Value} {items : List Value} (list : value.untagged = .sequence items)
      (nonempty : items ≠ []) (groups : ∀ item ∈ items, IsGroup metaKey item) :
      IsContent metaKey value

end

/-- What may stand at the top under a key: null, a group or a run of groups. -/
def IsTopLevel (metaKey : String) (value : Value) : Prop :=
  value.untagged = .null ∨ IsGroup metaKey value ∨
    ∃ items, value.untagged = .sequence items ∧ items ≠ [] ∧ ∀ item ∈ items, IsGroup metaKey item

/-- A document: null, or a mapping of strings. -/
def IsDocument (metaKey : String) (root : Value) : Prop :=
  root.untagged = .null ∨ ∃ entries, root.untagged = .mapping entries ∧
    ∀ entry ∈ entries, HasName entry ∧ IsTopLevel metaKey entry.2

/-! ## Shapes and what they are not -/

theorem isScalar_iff : IsScalar value ↔ ∃ text, value.untagged.scalarText? = some text := by
  unfold IsScalar
  cases value.untagged with
  | sequence items | mapping entries | tagged tag inner => exact ⟨nofun, nofun⟩
  | _ => exact ⟨fun _ => ⟨_, rfl⟩, fun _ => trivial⟩

theorem exists_itemTexts?_iff :
    (∃ texts, itemTexts? items = some texts) ↔ ∀ item ∈ items, IsScalar item := by
  induction items with
  | nil => exact ⟨fun _ item hitem => absurd hitem List.not_mem_nil, fun _ => ⟨[], rfl⟩⟩
  | cons item rest ih =>
    rw [List.forall_mem_cons, ← ih, isScalar_iff]
    constructor
    · rintro ⟨texts, htexts⟩
      obtain ⟨text, more, hitem, hrest, -⟩ := itemTexts?_cons_eq_some_iff.mp htexts
      exact ⟨⟨text, hitem⟩, more, hrest⟩
    · rintro ⟨⟨text, hitem⟩, more, hrest⟩
      exact ⟨_, itemTexts?_cons_eq_some_iff.mpr ⟨text, more, hitem, hrest, rfl⟩⟩

/-! Shapes are told by what a value is past its tags. -/

theorem IsScalar.of_untagged_eq (h : IsScalar value) (same : value.untagged = other.untagged) :
    IsScalar other := by
  unfold IsScalar at h ⊢
  rw [← same]
  exact h

theorem IsGroup.of_untagged_eq (h : IsGroup metaKey value)
    (same : value.untagged = other.untagged) : IsGroup metaKey other := by
  cases h with
  | intro mapping keys metadata contents =>
    exact .intro (same.symm.trans mapping) keys metadata contents

theorem IsContent.of_untagged_eq (h : IsContent metaKey value)
    (same : value.untagged = other.untagged) : IsContent metaKey other := by
  cases h with
  | scalar scalar => exact .scalar (scalar.of_untagged_eq same)
  | group group => exact .group (group.of_untagged_eq same)
  | scalars list scalars => exact .scalars (same.symm.trans list) scalars
  | run list nonempty groups => exact .run (same.symm.trans list) nonempty groups

theorem isGroup_tagged_iff {tag : String} :
    IsGroup metaKey (.tagged tag value) ↔ IsGroup metaKey value :=
  ⟨fun h => h.of_untagged_eq rfl, fun h => h.of_untagged_eq rfl⟩

theorem isContent_tagged_iff {tag : String} :
    IsContent metaKey (.tagged tag value) ↔ IsContent metaKey value :=
  ⟨fun h => h.of_untagged_eq rfl, fun h => h.of_untagged_eq rfl⟩

theorem IsGroup.exists_mapping (h : IsGroup metaKey value) :
    ∃ entries, value.untagged = .mapping entries := by
  cases h with
  | intro mapping _ _ _ => exact ⟨_, mapping⟩

theorem isGroup_mapping_iff :
    IsGroup metaKey (.mapping entries) ↔
      (∀ entry ∈ entries, HasName entry) ∧
      (∀ stated, StandsUnder metaKey entries stated → IsMetadata stated) ∧
      ∀ entry ∈ entries, entry.1.asString? ≠ some metaKey → IsContent metaKey entry.2 := by
  constructor
  · rintro ⟨mapping, keys, metadata, contents⟩
    cases mapping
    exact ⟨keys, metadata, contents⟩
  · rintro ⟨keys, metadata, contents⟩
    exact .intro rfl keys metadata contents

/-- A mapping is no content but as a group. -/
theorem isContent_mapping_iff :
    IsContent metaKey (.mapping entries) ↔ IsGroup metaKey (.mapping entries) := by
  constructor
  · intro h
    cases h with
    | scalar scalar => exact absurd scalar nofun
    | group group => exact group
    | scalars list _ => cases list
    | run list _ _ => cases list
  · exact .group

/-- A group is content that is a mapping. -/
theorem isGroup_iff :
    IsGroup metaKey value ↔ value.isMapping = true ∧ IsContent metaKey value := by
  rw [Value.isMapping_iff]
  constructor
  · exact fun group => ⟨group.exists_mapping, .group group⟩
  · rintro ⟨⟨entries, hentries⟩, content⟩
    have hcontent : IsContent metaKey (.mapping entries) := content.of_untagged_eq hentries
    exact (isContent_mapping_iff.mp hcontent).of_untagged_eq hentries.symm

/-- A list is content as one of scalars, or as a run of groups if it is not empty. -/
theorem isContent_sequence_iff :
    IsContent metaKey (.sequence items) ↔
      (∀ item ∈ items, IsScalar item) ∨ items ≠ [] ∧ ∀ item ∈ items, IsGroup metaKey item := by
  constructor
  · intro h
    cases h with
    | scalar scalar => exact absurd scalar nofun
    | group group =>
      obtain ⟨entries, hentries⟩ := group.exists_mapping
      cases hentries
    | scalars list scalars =>
      cases list
      exact .inl scalars
    | run list nonempty groups =>
      cases list
      exact .inr ⟨nonempty, groups⟩
  · rintro (scalars | ⟨nonempty, groups⟩)
    · exact .scalars rfl scalars
    · exact .run rfl nonempty groups

/-! ## Metadata -/

theorem standsUnder_cons_iff {key first : Value} {rest : List (Value × Value)} :
    StandsUnder name ((key, first) :: rest) value ↔
      key = .string name ∧ first = value ∨ key ≠ .string name ∧ StandsUnder name rest value := by
  constructor
  · rintro ⟨before, after, hentries, hbefore⟩
    cases before with
    | nil =>
      cases hentries
      exact .inl ⟨rfl, rfl⟩
    | cons entry before =>
      cases hentries
      obtain ⟨hfirst, hbefore⟩ := List.forall_mem_cons.mp hbefore
      exact .inr ⟨hfirst, before, after, rfl, hbefore⟩
  · rintro (⟨rfl, rfl⟩ | ⟨hkey, before, after, rfl, hbefore⟩)
    · exact ⟨[], rest, rfl, fun entry hentry => absurd hentry List.not_mem_nil⟩
    · exact ⟨(key, first) :: before, after, rfl, List.forall_mem_cons.mpr ⟨hkey, hbefore⟩⟩

/-- The value of metadata is the one that stands under their key. -/
theorem metaValue?_eq_some_iff :
    l.metaValue? entries = some value ↔ StandsUnder l.metaKey entries value := by
  induction entries with
  | nil =>
    constructor
    · nofun
    · rintro ⟨before, after, hentries, -⟩
      exact absurd hentries.symm (List.append_ne_nil_of_right_ne_nil _ (List.cons_ne_nil _ _))
  | cons entry rest ih =>
    obtain ⟨key, first⟩ := entry
    rw [standsUnder_cons_iff, ← ih]
    cases key with
    | string s =>
      rw [metaValue?]
      by_cases hs : s = l.metaKey
      · rw [if_pos hs]
        simp [hs]
      · rw [if_neg hs]
        simp [hs]
    | _ => simp [metaValue?]

theorem exists_keyText_iff {entry : Value × Value} :
    (∃ name, keyText entry.1 = .ok name) ↔ HasName entry := by
  simp only [keyText_eq_ok_iff, HasName]

theorem exists_metaEntry_iff {entry : Value × Value} :
    (∃ made, l.metaEntry name entry = .ok made) ↔ HasName entry ∧ IsScalar entry.2 := by
  unfold metaEntry
  rw [exists_bind_iff, ← exists_keyText_iff, isScalar_iff]
  cases entry.2.untagged.scalarText? with
  | none =>
    constructor
    · rintro ⟨key, -, made, hmade⟩
      cases hmade
    · rintro ⟨-, text, htext⟩
      cases htext
  | some text =>
    constructor
    · rintro ⟨key, hkey, -⟩
      exact ⟨⟨key, hkey⟩, text, rfl⟩
    · rintro ⟨⟨key, hkey⟩, -⟩
      exact ⟨key, hkey, _, rfl⟩

/-- Metadata are made of what stands under their key, if anything does. -/
theorem exists_metadata_iff :
    (∃ made, l.metadata name entries = .ok made) ↔
      ∀ stated, StandsUnder l.metaKey entries stated → IsMetadata stated := by
  simp only [← metaValue?_eq_some_iff]
  unfold metadata
  cases hvalue : l.metaValue? entries with
  | none => exact ⟨fun _ => nofun, fun _ => ⟨_, rfl⟩⟩
  | some value =>
    have hstated : (∀ stated, some value = some stated → IsMetadata stated) ↔
        IsMetadata value := by
      constructor
      · exact fun h => h value rfl
      · rintro h stated ⟨⟩
        exact h
    rw [hstated, Option.map_some, IsMetadata]
    cases value.untagged with
    | mapping stated =>
      have hentries : (∃ made, (stated.mapM (l.metaEntry name)).map Metadata.ofList = .ok made) ↔
          ∀ entry ∈ stated, HasName entry ∧ IsScalar entry.2 := by
        simp only [exists_map_iff, exists_mapM_iff, exists_metaEntry_iff]
      simp only [hentries, Value.mapping.injEq, exists_eq_left']
    | _ =>
      constructor
      · rintro ⟨made, hmade⟩
        cases hmade
      · rintro ⟨stated, hstated, -⟩
        cases hstated

/-! ## Groups -/

/-- A mapping makes a group when its metadata and its entries can be loaded. -/
theorem exists_group_iff
    (hentries : ∀ g, (∃ g', l.addEntries g entries = .ok g') ↔
      ∀ entry ∈ entries, HasName entry ∧
        (entry.1.asString? ≠ some l.metaKey → IsContent l.metaKey entry.2)) :
    (∃ g, l.group name entries = .ok g) ↔ IsGroup l.metaKey (.mapping entries) := by
  rw [group, exists_bind_iff, isGroup_mapping_iff, ← @exists_metadata_iff l name]
  constructor
  · rintro ⟨metadata, hmetadata, hg⟩
    have hall := (hentries _).mp hg
    exact ⟨fun entry hentry => (hall entry hentry).1, ⟨metadata, hmetadata⟩,
      fun entry hentry => (hall entry hentry).2⟩
  · rintro ⟨hkeys, ⟨metadata, hmetadata⟩, hcontents⟩
    refine ⟨metadata, hmetadata, (hentries _).mpr fun entry hentry => ?_⟩
    exact ⟨hkeys entry hentry, hcontents entry hentry⟩

/-- Scalars are no groups. -/
theorem IsScalar.untagged_ne_mapping (h : IsScalar value) : value.untagged ≠ .mapping entries := by
  intro hmapping
  rw [IsScalar, hmapping] at h
  exact h

/-- A list that is a run is content when its items are groups. -/
theorem isContent_run_iff (hrun : isGroupRun items = true) :
    IsContent metaKey (.sequence items) ↔ ∀ item ∈ items, IsGroup metaKey item := by
  obtain ⟨hne, hmapping⟩ := isGroupRun_iff.mp hrun
  rw [isContent_sequence_iff]
  constructor
  · rintro (scalars | ⟨-, groups⟩)
    · obtain ⟨item, rest, rfl⟩ := List.exists_cons_of_ne_nil hne
      obtain ⟨entries, hentries⟩ := hmapping item List.mem_cons_self
      exact absurd hentries (scalars item List.mem_cons_self).untagged_ne_mapping
    · exact groups
  · exact fun groups => .inr ⟨hne, groups⟩

/-- Any other list is content when its items are scalars. -/
theorem isContent_list_iff (hrun : ¬ isGroupRun items = true) :
    IsContent metaKey (.sequence items) ↔ ∀ item ∈ items, IsScalar item := by
  rw [isContent_sequence_iff]
  constructor
  · rintro (scalars | ⟨hne, groups⟩)
    · exact scalars
    · exact absurd (isGroupRun_iff.mpr ⟨hne, fun item hitem =>
        (groups item hitem).exists_mapping⟩) hrun
  · exact .inl

theorem exists_addItems_iff :
    (∃ g', addItems name g items = .ok g') ↔ ∀ item ∈ items, IsScalar item := by
  rw [addItems_eq, ← exists_itemTexts?_iff]
  cases itemTexts? items with
  | none => exact ⟨nofun, nofun⟩
  | some texts => exact ⟨fun _ => ⟨texts, rfl⟩, fun _ => ⟨_, rfl⟩⟩

mutual

/-- **One entry.** A value can be added to a group, whichever and under whatever name, when it is
content. -/
theorem exists_addEntry_iff : ∀ (value : Value) {name : String} {g : Group},
    (∃ g', l.addEntry name g value = .ok g') ↔ IsContent l.metaKey value
  | .tagged tag value, name, g => by
    rw [addEntry, isContent_tagged_iff]
    exact exists_addEntry_iff value
  | .mapping entries, name, g => by
    rw [addEntry_mapping, exists_map_iff, isContent_mapping_iff]
    exact exists_group_iff (exists_addEntries_iff entries)
  | .sequence [], _, _ =>
    ⟨fun _ => .scalars rfl fun _ hitem => absurd hitem List.not_mem_nil, fun _ => ⟨_, rfl⟩⟩
  | .sequence (item :: rest), name, g => by
    rw [addEntry]
    -- a list of mappings is read as a run, and any other one as a list of scalars
    by_cases hrun : isGroupRun (item :: rest) = true
    · have hmapping := (isGroupRun_iff.mp hrun).2
      rw [if_pos hrun, addChildren_eq, exists_map_iff, isContent_run_iff hrun]
      exact exists_rows_iff (item :: rest) hmapping
    · rw [if_neg hrun, exists_addItems_iff, isContent_list_iff hrun]
  | .null, _, _ | .bool _, _, _ | .int _, _, _ | .float _, _, _ | .string _, _, _ =>
    ⟨fun _ => .scalar trivial, fun _ => ⟨_, rfl⟩⟩

/-- **A mapping.** Its entries can be added when all keys are strings, and what stands under those
that do not read like the key of metadata is content. -/
theorem exists_addEntries_iff : ∀ (entries : List (Value × Value)) (g : Group),
    (∃ g', l.addEntries g entries = .ok g') ↔ ∀ entry ∈ entries, HasName entry ∧
      (entry.1.asString? ≠ some l.metaKey → IsContent l.metaKey entry.2)
  | [], g => ⟨fun _ _ hentry => absurd hentry List.not_mem_nil, fun _ => ⟨g, rfl⟩⟩
  | (key, value) :: rest, g => by
    rw [List.forall_mem_cons]
    constructor
    · rintro ⟨g', h⟩
      obtain ⟨name, between, hname, hbetween, hrest⟩ := addEntries_cons_iff.mp h
      refine ⟨⟨⟨name, hname⟩, fun hmeta => ?_⟩,
        (exists_addEntries_iff rest between).mp ⟨g', hrest⟩⟩
      have hne : name ≠ l.metaKey := fun heq => hmeta (heq ▸ hname)
      rw [if_neg hne] at hbetween
      exact (exists_addEntry_iff value).mp ⟨between, hbetween⟩
    · rintro ⟨⟨⟨name, hname⟩, hcontent⟩, hrest⟩
      have hfirst : ∃ between,
          (if name = l.metaKey then .ok g else l.addEntry name g value) = .ok between := by
        -- an entry that reads like the key of metadata is passed over, whatever it holds
        by_cases hmeta : name = l.metaKey
        · exact ⟨g, if_pos hmeta⟩
        · rw [if_neg hmeta]
          refine (exists_addEntry_iff value).mpr (hcontent fun heq => hmeta ?_)
          exact Option.some.inj (hname.symm.trans heq)
      obtain ⟨between, hbetween⟩ := hfirst
      obtain ⟨g', hg'⟩ := (exists_addEntries_iff rest between).mpr hrest
      exact ⟨g', addEntries_cons_iff.mpr ⟨name, between, hname, hbetween, hg'⟩⟩

/-- **An item of a run.** A mapping makes its groups when it is a group. -/
theorem exists_itemGroups_iff : ∀ (item : Value),
    (∃ entries, item.untagged = .mapping entries) → ∀ {name : String},
    ((∃ row, l.itemGroups name item = .ok row) ↔ IsGroup l.metaKey item)
  | .tagged _ item, hmapping, _ => by
    rw [isGroup_tagged_iff]
    exact exists_itemGroups_iff item hmapping
  | .mapping entries, _, _ => exists_map_iff.trans (exists_group_iff (exists_addEntries_iff entries))
  | .null, h, _ | .bool _, h, _ | .int _, h, _ | .float _, h, _ | .string _, h, _
  | .sequence _, h, _ => nomatch h

/-- **A run.** Mappings make their groups when all of them are groups. -/
theorem exists_rows_iff : ∀ (items : List Value),
    (∀ item ∈ items, ∃ entries, item.untagged = .mapping entries) → ∀ {name : String},
    ((∃ rows, items.mapM (l.itemGroups name) = .ok rows) ↔ ∀ item ∈ items, IsGroup l.metaKey item)
  | [], _, _ => ⟨fun _ _ hitem => absurd hitem List.not_mem_nil, fun _ => ⟨[], rfl⟩⟩
  | first :: rest, hmapping, name => by
    obtain ⟨hfirst, hrest⟩ := List.forall_mem_cons.mp hmapping
    rw [exists_mapM_iff, List.forall_mem_cons, List.forall_mem_cons,
      exists_itemGroups_iff first hfirst, ← exists_mapM_iff, exists_rows_iff rest hrest]

end

/-! ## Tags -/

/-- Tags do not make a scalar of what is none. -/
theorem isScalar_bare_iff : IsScalar value.bare ↔ IsScalar value := by
  rw [isScalar_iff, isScalar_iff, Value.scalarText?_bare]

theorem isMapping_bare : ∀ value : Value, value.bare.isMapping = value.isMapping
  | .tagged _ value => isMapping_bare value
  | .null | .bool _ | .int _ | .float _ | .string _ | .sequence _ | .mapping _ => rfl

/-- Metadata are the same with tags and without. -/
theorem metadata_bareEntries_iff :
    (∀ stated, StandsUnder metaKey (Value.bareEntries entries) stated → IsMetadata stated) ↔
      ∀ stated, StandsUnder metaKey entries stated → IsMetadata stated := by
  rw [← @exists_metadata_iff { metaKey } "", ← @exists_metadata_iff { metaKey } "",
    metadata_bareEntries]

mutual

/-- Nor do tags make contents of what are none. -/
theorem isContent_bare_iff : ∀ value : Value, IsContent metaKey value.bare ↔ IsContent metaKey value
  | .tagged tag value => by
    rw [Value.bare, isContent_tagged_iff]
    exact isContent_bare_iff value
  | .mapping entries => by
    have hkeys : (∀ entry ∈ Value.bareEntries entries, HasName entry) ↔
        ∀ entry ∈ entries, HasName entry := by
      rw [Value.bareEntries_eq_map, List.forall_mem_map]
      rfl
    rw [Value.bare, isContent_mapping_iff, isContent_mapping_iff, isGroup_mapping_iff,
      isGroup_mapping_iff, hkeys, metadata_bareEntries_iff, contents_bareEntries_iff entries]
  | .sequence items => by
    rw [Value.bare, isContent_sequence_iff, isContent_sequence_iff, groups_bareItems_iff items,
      Value.bareItems_eq_map, List.forall_mem_map, Ne, List.map_eq_nil_iff]
    simp only [isScalar_bare_iff]
  | .null | .bool _ | .int _ | .float _ | .string _ => Iff.rfl

theorem contents_bareEntries_iff : ∀ entries : List (Value × Value),
    (∀ entry ∈ Value.bareEntries entries, entry.1.asString? ≠ some metaKey →
      IsContent metaKey entry.2) ↔
    ∀ entry ∈ entries, entry.1.asString? ≠ some metaKey → IsContent metaKey entry.2
  | [] => Iff.rfl
  | (key, value) :: rest => by
    rw [Value.bareEntries, List.forall_mem_cons, List.forall_mem_cons,
      contents_bareEntries_iff rest, isContent_bare_iff value]

theorem groups_bareItems_iff : ∀ items : List Value,
    (∀ item ∈ Value.bareItems items, IsGroup metaKey item) ↔ ∀ item ∈ items, IsGroup metaKey item
  | [] => Iff.rfl
  | item :: rest => by
    rw [Value.bareItems, List.forall_mem_cons, List.forall_mem_cons, groups_bareItems_iff rest,
      isGroup_iff, isMapping_bare, isContent_bare_iff item, ← isGroup_iff]

end

theorem isGroup_bare_iff : IsGroup metaKey value.bare ↔ IsGroup metaKey value := by
  rw [isGroup_iff, isMapping_bare, isContent_bare_iff, ← isGroup_iff]

theorem isTopLevel_bare_iff : IsTopLevel metaKey value.bare ↔ IsTopLevel metaKey value := by
  unfold IsTopLevel
  rw [isGroup_bare_iff, Value.untagged_bare, ← Value.bare_untagged]
  cases hvalue : value.untagged with
  | tagged tag inner => exact absurd hvalue (Value.untagged_ne_tagged tag inner value)
  | sequence items =>
    have hempty : Value.bareItems items ≠ [] ↔ items ≠ [] := by
      rw [Value.bareItems_eq_map, Ne, List.map_eq_nil_iff]
    simp only [Value.bare, Value.sequence.injEq, exists_eq_left', groups_bareItems_iff, hempty,
      reduceCtorEq, false_or]
  | _ => simp only [Value.bare, reduceCtorEq, false_and, exists_false]

/-- So data are a document with their tags when they are one without. -/
theorem isDocument_bare_iff {root : Value} :
    IsDocument metaKey root.bare ↔ IsDocument metaKey root := by
  unfold IsDocument
  rw [Value.untagged_bare, ← Value.bare_untagged]
  cases hroot : root.untagged with
  | tagged tag inner => exact absurd hroot (Value.untagged_ne_tagged tag inner root)
  | mapping entries =>
    simp only [Value.bare, Value.mapping.injEq, exists_eq_left', reduceCtorEq, false_or]
    rw [Value.bareEntries_eq_map, List.forall_mem_map]
    show (∀ entry ∈ entries, HasName entry ∧ IsTopLevel metaKey entry.2.bare) ↔ _
    simp only [isTopLevel_bare_iff]
  | _ => simp only [Value.bare, reduceCtorEq, false_and, exists_false]

/-! ## Documents -/

/-- **The top.** An entry makes its groups when its key is a string and its value may stand at the
top. -/
theorem exists_topLevelGroups_iff {entry : Value × Value} :
    (∃ row, l.topLevelGroups entry = .ok row) ↔
      HasName entry ∧ IsTopLevel l.metaKey entry.2 := by
  rw [topLevelGroups, exists_bind_iff, ← exists_keyText_iff]
  constructor
  · rintro ⟨name, hname, row, h⟩
    refine ⟨⟨name, hname⟩, ?_⟩
    cases hvalue : entry.2.untagged with
    | null => exact .inl hvalue
    | mapping entries =>
      rw [hvalue] at h
      have hgroup := (exists_group_iff (exists_addEntries_iff entries)).mp
        (exists_map_iff.mp ⟨row, h⟩)
      exact .inr (.inl (hgroup.of_untagged_eq hvalue.symm))
    | sequence items =>
      rw [hvalue] at h
      dsimp only at h
      by_cases hrun : isGroupRun items = true
      · obtain ⟨hne, hmapping⟩ := isGroupRun_iff.mp hrun
        rw [if_pos hrun] at h
        have hgroups := (exists_rows_iff items hmapping).mp (exists_map_iff.mp ⟨row, h⟩)
        exact .inr (.inr ⟨items, hvalue, hne, hgroups⟩)
      · rw [if_neg hrun] at h
        cases h
    | _ =>
      rw [hvalue] at h
      cases h
  · rintro ⟨⟨name, hname⟩, htop⟩
    refine ⟨name, hname, ?_⟩
    rcases htop with hnull | hgroup | ⟨items, hitems, hne, hgroups⟩
    · rw [hnull]
      exact ⟨_, rfl⟩
    · obtain ⟨entries, hentries⟩ := hgroup.exists_mapping
      rw [hentries]
      exact exists_map_iff.mpr ((exists_group_iff (exists_addEntries_iff entries)).mpr
        (hgroup.of_untagged_eq hentries))
    · have hmapping : ∀ item ∈ items, ∃ entries, item.untagged = .mapping entries :=
        fun item hitem => (hgroups item hitem).exists_mapping
      rw [hitems]
      dsimp only
      rw [if_pos (isGroupRun_iff.mpr ⟨hne, hmapping⟩)]
      exact exists_map_iff.mpr ((exists_rows_iff items hmapping).mpr hgroups)

theorem exists_groups_iff {root : Value} :
    (∃ groups, l.groups root = .ok groups) ↔ IsDocument l.metaKey root := by
  unfold Loader.groups IsDocument
  cases root.untagged with
  | null => exact ⟨fun _ => .inl rfl, fun _ => ⟨_, rfl⟩⟩
  | mapping entries =>
    dsimp only
    rw [exists_map_iff, exists_mapM_iff]
    simp only [exists_topLevelGroups_iff]
    constructor
    · exact fun h => .inr ⟨entries, rfl, h⟩
    · rintro (hnull | ⟨_, ⟨⟩, h⟩)
      · cases hnull
      · exact h
  | _ =>
    constructor
    · rintro ⟨groups, hgroups⟩
      cases hgroups
    · rintro (hnull | ⟨entries, hentries, -⟩)
      · cases hnull
      · cases hentries

/-- A document is made when its groups are. -/
theorem exists_build_iff {source : String} {root : Value} :
    (∃ d, l.build source root = .ok d) ↔ IsDocument l.metaKey root := by
  rw [← exists_groups_iff, build]
  cases l.groups root with
  | error fault => exact ⟨nofun, nofun⟩
  | ok groups => exact ⟨fun _ => ⟨groups, rfl⟩, fun _ => ⟨_, rfl⟩⟩

/-- There is one way to fail. -/
theorem eq_invalidSource_of_build {source : String} {root : Value} {e : Error}
    (h : l.build source root = .error e) :
    ∃ fault : ShapeFault, l.groups root = .error fault ∧
      e = .invalidSource source fault.message := by
  unfold build at h
  cases hgroups : l.groups root with
  | error fault =>
    rw [hgroups] at h
    exact ⟨fault, rfl, (Except.error.inj h).symm⟩
  | ok groups =>
    rw [hgroups] at h
    cases h

/-- **Data that are accepted.** Data make a document exactly when they have the shape of one, past
all tags: null, or a mapping of strings to nulls, groups and runs of groups, where groups hold
metadata, scalars, lists of scalars, groups and runs of groups. All other data are an invalid
source, and no other error arises. Of the loader only the key of metadata counts, and neither the
name of the source nor any tag around a value does. -/
theorem build_accepts_iff (l : Loader) (source : String) (root : Value) :
    ((∃ d, l.build source root = .ok d) ↔ IsDocument l.metaKey root) ∧
    (¬ IsDocument l.metaKey root →
      ∃ fault : ShapeFault, l.build source root = .error (.invalidSource source fault.message)) ∧
    (∀ (other : Loader) (source' : String), other.metaKey = l.metaKey →
      ((∃ d, other.build source' root = .ok d) ↔ ∃ d, l.build source root = .ok d)) ∧
    ((∃ d, l.build source root.bare = .ok d) ↔ ∃ d, l.build source root = .ok d) := by
  refine ⟨exists_build_iff, ?_, ?_, ?_⟩
  · intro hshape
    cases hbuild : l.build source root with
    | ok d => exact absurd (exists_build_iff.mp ⟨d, hbuild⟩) hshape
    | error e =>
      obtain ⟨fault, -, rfl⟩ := eq_invalidSource_of_build hbuild
      exact ⟨fault, rfl⟩
  · intro other source' hkey
    rw [exists_build_iff, exists_build_iff, hkey]
  · rw [exists_build_iff, exists_build_iff, isDocument_bare_iff]

/-- A list of two groups, with two tags around the list and around the first item. The key of
metadata is another one, and with a tag it is passed over. -/
def taggedRun : Value :=
  .mapping [(.tagged "k" (.string "server"),
    .tagged "a" (.tagged "b" (.sequence [
      .tagged "c" (.tagged "d" (.mapping [
        (.string "labels", .mapping [(.string "role", .null)]),
        (.tagged "k" (.string "labels"), .sequence [.sequence []]),
        (.string "ports", .sequence [.int 1, .tagged "e" .null])])),
      .mapping []])))]

/-- The list is accepted, by a loader with that key for metadata. By the default loader it is
refused, since a list in a list is no content. -/
theorem build_accepts_tagged_run :
    IsDocument "labels" taggedRun ∧
      (∃ d, Loader.build { metaKey := "labels", lowercaseMetaKeys := false } "x" taggedRun = .ok d) ∧
      (∃ d, Loader.build { metaKey := "labels" } "y" taggedRun.bare = .ok d) ∧
      ¬ IsDocument "_meta" taggedRun ∧
      ∃ fault : ShapeFault,
        ({} : Loader).build "x" taggedRun = .error (.invalidSource "x" fault.message) := by
  obtain ⟨haccepted, -, hother, -⟩ :=
    build_accepts_iff { metaKey := "labels", lowercaseMetaKeys := false } "x" taggedRun
  obtain ⟨-, -, -, hbare⟩ := build_accepts_iff { metaKey := "labels" } "y" taggedRun
  obtain ⟨hdefault, hrefused, -, -⟩ := build_accepts_iff {} "x" taggedRun
  have hbuild : ∃ d,
      Loader.build { metaKey := "labels", lowercaseMetaKeys := false } "x" taggedRun = .ok d :=
    ⟨_, rfl⟩
  have hshape : ¬ IsDocument "_meta" taggedRun := by
    intro hdocument
    obtain ⟨d, hd⟩ := hdefault.mpr hdocument
    cases hd
  exact ⟨haccepted.mp hbuild, hbuild, hbare.mpr ((hother _ "y" rfl).mpr hbuild), hshape,
    hrefused hshape⟩

end Loader

end Settings
