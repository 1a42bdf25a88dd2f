import Settings.Proofs.FilterText
import Settings.Proofs.Labels
import Settings.Proofs.SortedEntries
/-!
# Metadata that is loaded, and filters

A loader puts the keys of metadata in lowercase, as they stand in the data; a filter trims its keys
first. Where there is nothing to be trimmed the two meet, and of several entries whose keys become
the same in lowercase both know the last one: the loader keeps no other
(`Loader.find?_metadata_iff`). So a filter selects a top-level group exactly when the last such
entry of the mapping that the group is made of says what the filter demands
(`Loader.filter_selects_iff`).

What a group is made of is told by its position: `Loader.origins` goes through the data in the order
of the groups (`Loader.isMadeOf_of_build`).
-/

namespace Settings

namespace Loader

open Yaml (Value)

variable {l : Loader} {d : Document} {root value key : Value} {g : Group} {row : List Group}
  {source name text : String} {entries : List (Value × Value)}

/-! ## What groups are made of -/

/-- What an entry at the top makes groups of: null, a mapping, or the items of a run. -/
def originsOf (value : Value) : List Value :=
  match value.untagged with
  | .null => [.null]
  | _ => runOf value

/-- What the top-level groups are made of, one by one. -/
def origins (root : Value) : List Value :=
  match root.untagged with
  | .mapping entries => entries.flatMap fun entry => originsOf entry.2
  | _ => []

/-- A group is made of null, without contents, or of a mapping. -/
def IsMadeOf (l : Loader) (value : Value) (g : Group) : Prop :=
  value.untagged = .null ∧ g = Group.named g.identifier ∨ l.Makes g.identifier value g

theorem isMadeOf_of_topLevelGroups (h : l.topLevelGroups (key, value) = .ok row) :
    List.Forall₂ l.IsMadeOf (originsOf value) row := by
  obtain ⟨name, -, -, hrow⟩ := row_of_topLevelGroups h
  unfold originsOf
  by_cases hnull : value.untagged = .null
  · rw [topLevelGroups, bind_eq_ok_iff] at h
    obtain ⟨name, -, h⟩ := h
    dsimp only at h
    rw [hnull] at h
    obtain rfl := Except.ok.inj h
    rw [hnull]
    exact .cons (.inl ⟨rfl, rfl⟩) .nil
  · have hmakes : List.Forall₂ l.IsMadeOf (runOf value) row := by
      refine (makes_of_rowOf (hrow hnull)).imp fun item g hitem => .inr ?_
      obtain ⟨entries, hentries, hgroup⟩ := hitem
      exact ⟨entries, hentries, (identifier_group hgroup).symm ▸ hgroup⟩
    split
    · next heq => exact absurd heq hnull
    · exact hmakes

theorem isMadeOf_of_makesRows {rows : List (List Group)} (h : l.MakesRows entries rows) :
    List.Forall₂ l.IsMadeOf (entries.flatMap fun entry => originsOf entry.2) rows.flatten := by
  induction h with
  | nil => exact .nil
  | cons hrow _ ih =>
    rw [List.flatMap_cons, List.flatten_cons]
    exact List.rel_append (isMadeOf_of_topLevelGroups hrow) ih

/-- Every top-level group is made of the value in its place, and then flagged. -/
theorem isMadeOf_of_build (h : l.build source root = .ok d) :
    List.Forall₂ (fun value g => ∃ made flag, g = Group.flagged made flag ∧ l.IsMadeOf value made)
      (origins root) d.groups := by
  obtain ⟨groups, hgroups, hflagged, -, -⟩ := groups_of_build h
  have hmade : List.Forall₂ l.IsMadeOf (origins root) groups := by
    unfold origins
    cases hroot : root.untagged with
    | mapping entries =>
      obtain ⟨rows, hrows, rfl⟩ := makesRows_of_groups hgroups hroot
      exact isMadeOf_of_makesRows hrows
    | null =>
      rw [Loader.groups, hroot] at hgroups
      obtain rfl := Except.ok.inj hgroups
      exact .nil
    | _ =>
      rw [Loader.groups, hroot] at hgroups
      cases hgroups
  rw [hflagged, flagRepeats_eq_map, List.forall₂_map_right_iff]
  exact hmade.imp fun value g hg => ⟨g, _, rfl, hg⟩

/-! ## What metadata say -/

/-- The entries that a value states as metadata: those of the mapping under the key of metadata. -/
def statedIn (l : Loader) (value : Value) : List (Value × Value) :=
  match value.untagged with
  | .mapping entries =>
    match (l.metaValue? entries).map Value.untagged with
    | some (.mapping stated) => stated
    | _ => []
  | _ => []

/-- The key of an entry in lowercase. -/
def lowerKey? (entry : Value × Value) : Option String := entry.1.asString?.map Text.lowercase

/-- Of the entries with a key in lowercase, the last one says a text. -/
def LastSays (entries : List (Value × Value)) (key text : String) : Prop :=
  ∃ before entry after, entries = before ++ entry :: after ∧ lowerKey? entry = some key ∧
    entry.2.untagged.scalarText? = some text ∧ ∀ later ∈ after, lowerKey? later ≠ some key

theorem metaEntry_eq_ok_iff (lower : l.lowercaseMetaKeys = true) {entry : Value × Value}
    {key : String} :
    l.metaEntry name entry = .ok (key, text) ↔
      lowerKey? entry = some key ∧ entry.2.untagged.scalarText? = some text := by
  unfold metaEntry lowerKey?
  simp only [bind_eq_ok_iff, keyText_eq_ok_iff, Option.map_eq_some_iff, lower, if_true]
  constructor
  · rintro ⟨written, hwritten, h⟩
    cases htext : entry.2.untagged.scalarText? with
    | none => rw [htext] at h; cases h
    | some text =>
      rw [htext] at h
      cases h
      exact ⟨⟨written, hwritten, rfl⟩, rfl⟩
  · rintro ⟨⟨written, hwritten, rfl⟩, htext⟩
    refine ⟨written, hwritten, ?_⟩
    rw [htext]

/-- Among entries that can be read as metadata, the last one under a key says what is found. -/
theorem lookup_reverse_of_metaEntry (lower : l.lowercaseMetaKeys = true)
    {texts : List (String × String)} (h : entries.mapM (l.metaEntry name) = .ok texts)
    {key : String} : texts.reverse.lookup key = some text ↔ LastSays entries key text := by
  rw [lookup_reverse_of_mapM h]
  constructor
  · rintro ⟨before, entry, after, rfl, hentry, hlast⟩
    obtain ⟨hkey, htext⟩ := (metaEntry_eq_ok_iff lower).mp hentry
    refine ⟨before, entry, after, rfl, hkey, htext, fun later hlater hsame => ?_⟩
    -- an entry further on says something too
    obtain ⟨⟨key', text'⟩, hread⟩ :=
      exists_ok_of_mapM h (List.mem_append_right before (List.mem_cons_of_mem entry hlater))
    obtain ⟨hkey', -⟩ := (metaEntry_eq_ok_iff lower).mp hread
    obtain rfl : key = key' := Option.some.inj (hsame.symm.trans hkey')
    exact hlast later hlater text' hread
  · rintro ⟨before, entry, after, rfl, hkey, htext, hlast⟩
    refine ⟨before, entry, after, rfl, (metaEntry_eq_ok_iff lower).mpr ⟨hkey, htext⟩, ?_⟩
    exact fun later hlater other hread =>
      hlast later hlater ((metaEntry_eq_ok_iff lower).mp hread).1

theorem not_lastSays_nil {key : String} : ¬ LastSays [] key text := by
  rintro ⟨before, entry, after, hentries, -⟩
  exact absurd hentries.symm (List.append_ne_nil_of_right_ne_nil _ (List.cons_ne_nil _ _))

/-- **Metadata that is loaded.** Under a key in lowercase, a group has the text that the last entry
with that key says, if there is one. -/
theorem find?_metadata_iff (lower : l.lowercaseMetaKeys = true) (h : l.IsMadeOf value g)
    {key : String} :
    g.metadata.find? key = some text ↔ LastSays (l.statedIn value) key text := by
  unfold statedIn
  rcases h with ⟨hnull, hg⟩ | ⟨entries, hentries, hgroup⟩
  · rw [hnull, hg]
    exact ⟨nofun, fun h => absurd h not_lastSays_nil⟩
  · rw [hentries]
    have hmetadata := metadata_group hgroup
    unfold metadata at hmetadata
    dsimp only
    cases hmeta : (l.metaValue? entries).map Value.untagged with
    | none =>
      rw [hmeta] at hmetadata
      rw [← Except.ok.inj hmetadata]
      exact ⟨nofun, fun h => absurd h not_lastSays_nil⟩
    | some stated =>
      rw [hmeta] at hmetadata
      cases stated with
      | mapping stated =>
        obtain ⟨texts, htexts, hsorted⟩ := map_eq_ok_iff.mp hmetadata
        rw [← hsorted, Metadata.find?, Metadata.ofList, Sorted.lookup_ofList]
        exact lookup_reverse_of_metaEntry lower htexts
      | _ => cases hmetadata

/-! ## Filters -/

/-- **Metadata and filters.** A document is made of some data, whichever way it is loaded; let its
loader put the keys of metadata in lowercase. Take a text without blanks at its ends and without
commas, and a key that is not empty, in any spelling that is the same in lowercase, which may have
neither blanks at its ends nor commas nor colons in it. Every top-level group is made of the value
in its place, and the filter of the key and the text selects it exactly when, of the entries that
the value states as metadata under the key in lowercase, the last one says the text. -/
theorem filter_selects_iff (loaded : l.Loads d) (lower : l.lowercaseMetaKeys = true)
    {key sought text : String} (nonempty : key ≠ "")
    (same : Text.lowercase sought = Text.lowercase key) (trimmed : Text.Trimmed sought)
    (comma : ',' ∉ sought.toList) (colon : ':' ∉ sought.toList) (trimmedText : Text.Trimmed text)
    (commaText : ',' ∉ text.toList) :
    (∃ source root, l.build source root = .ok d) ∧
    ∀ source root, l.build source root = .ok d →
      (origins root).length = d.groups.length ∧
      ∀ position value g, (origins root)[position]? = some value →
        d.groups[position]? = some g →
        (∃ made flag, g = Group.flagged made flag ∧ l.IsMadeOf value made) ∧
        ((g, position) ∈ d.nodesAt ("[" ++ sought ++ ":" ++ text ++ "]") ↔
          LastSays (l.statedIn value) (Text.lowercase key) text) := by
  refine ⟨loaded.exists_build, fun source root hbuild => ?_⟩
  have hmade := isMadeOf_of_build hbuild
  refine ⟨hmade.length_eq, fun position value g hvalue hg => ?_⟩
  obtain ⟨g', hg', made, flag, rfl, hmadeOf⟩ := exists_getElem?_of_forall₂ hmade hvalue
  obtain rfl := Option.some.inj (hg'.symm.trans hg)
  refine ⟨⟨made, flag, rfl, hmadeOf⟩, ?_⟩
  have hsought : sought ≠ "" := by
    rw [Ne, ← Text.lowercase_eq_empty_iff, same, Text.lowercase_eq_empty_iff]
    exact nonempty
  have hparse := Filter.parse_pair hsought trimmed colon comma trimmedText commaText
  have hmatches : Filter.matchesGroup ⟨[(Text.lowercase sought, text)]⟩ (made.flagged flag) = true ↔
      made.metadata.find? (Text.lowercase key) = some text := by
    rw [Filter.matchesGroup, List.all_cons, List.all_nil, Bool.and_true, beq_iff_eq, same,
      Group.metadata_flagged]
  rw [Document.mem_nodesAt_iff hparse, hmatches, find?_metadata_iff lower hmadeOf]
  exact and_iff_right hg

/-- A mapping whose metadata have a key in two spellings, which are the same in lowercase. -/
def respeltValue : Value :=
  .mapping [(.string "_meta", .mapping [(.string "Role", .string "x"),
    (.string "region", .string "eu"), (.string "ROLE", .string "[x]")])]

/-- The group that is made of it. -/
def respeltGroup : Group where
  identifier := "a"
  metadata := .ofList [("region", "eu"), ("role", "[x]")]

/-- A filter with a third spelling selects the group by the text that stands last, although it has
brackets in it. Another group, which states nothing, is not selected. -/
theorem filter_selects_respelt :
    ({} : Loader).Loads { groups := [respeltGroup, { identifier := "b" }] } ∧
      ({} : Loader).lowercaseMetaKeys = true ∧ "Role" ≠ "" ∧
      Text.lowercase "rolE" = Text.lowercase "Role" ∧ Text.Trimmed "rolE" ∧
      ',' ∉ "rolE".toList ∧ ':' ∉ "rolE".toList ∧ Text.Trimmed "[x]" ∧ ',' ∉ "[x]".toList ∧
      LastSays (({} : Loader).statedIn respeltValue) "role" "[x]" ∧
      (respeltGroup, 0) ∈
        Document.nodesAt { groups := [respeltGroup, { identifier := "b" }] } "[rolE:[x]]" ∧
      ({ identifier := "b" }, 1) ∉
        Document.nodesAt { groups := [respeltGroup, { identifier := "b" }] } "[rolE:[x]]" := by
  have hbuild : ({} : Loader).build "" (.mapping [(.string "a", respeltValue),
      (.string "b", .mapping [])]) = .ok { groups := [respeltGroup, { identifier := "b" }] } := rfl
  have hloads := Loads.data hbuild
  have hnonempty : "Role" ≠ "" := by decide
  have hsame : Text.lowercase "rolE" = Text.lowercase "Role" := by decide +kernel
  have hrole : Text.lowercase "Role" = "role" := by decide +kernel
  have hsought : Text.Trimmed "rolE" ∧ ',' ∉ "rolE".toList ∧ ':' ∉ "rolE".toList := by
    decide +kernel
  have htext : Text.Trimmed "[x]" ∧ ',' ∉ "[x]".toList := by decide +kernel
  obtain ⟨-, hselects⟩ := filter_selects_iff hloads rfl hnonempty hsame hsought.1 hsought.2.1
    hsought.2.2 htext.1 htext.2
  rw [hrole] at hselects
  obtain ⟨-, hgroups⟩ := hselects "" _ hbuild
  have hlast : LastSays (({} : Loader).statedIn respeltValue) "role" "[x]" :=
    ⟨[(.string "Role", .string "x"), (.string "region", .string "eu")], _, [], rfl,
      congrArg some (by decide +kernel), rfl, nofun⟩
  exact ⟨hloads, rfl, hnonempty, hsame, hsought.1, hsought.2.1, hsought.2.2, htext.1, htext.2,
    hlast, (hgroups 0 _ _ rfl rfl).2.mpr hlast,
    fun hmem => not_lastSays_nil ((hgroups 1 _ _ rfl rfl).2.mp hmem)⟩

end Loader

end Settings
