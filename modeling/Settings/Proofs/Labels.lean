import Settings.Proofs.Addressability
import Settings.Proofs.Asking
import Settings.Proofs.Contents
/-!
# Labels of top-level groups

The label of a top-level group counts the groups of its name that stand before it, and an address
selects by such a count. Both look at the flag of the group, so they fit together once all flags are
set, and in a document that a loader makes they are (`Loader.Loads.flagged`). The label is then the
text of the segment that selects the group (`Document.label_eq_text`), it is read back, and no other
group has it (`Document.resolve_label`).

The command for the groups of a filter lists some of the labels that the command for all groups
lists, in the same order (`Command.labelsOf_sublist`). `Loader.labels_are_addresses` puts all of
this together.
-/

namespace Settings

/-! ## Documents that a loader makes -/

namespace Loader

variable {l : Loader} {d : Document} {source text : String}

/-- The documents that a loader makes: of data, of a text, of bytes, of the data that a text opens
with, or of a file. -/
inductive Loads (l : Loader) (d : Document) : Prop
  | data {source : String} {root : Yaml.Value} (h : l.build source root = .ok d)
  | text {source text : String} (h : l.loadNamed source text = .ok d)
  | bytes {bytes : ByteArray} (h : l.loadBytes bytes = .ok d)
  | frontMatter {source text : String} (h : l.loadFrontMatter source text = .ok d)
  | file {files : Files} {path : String} (h : l.loadFile files path = .ok d)

theorem build_null (l : Loader) (source : String) :
    l.build source .null = .ok l.emptyDocument := by
  unfold build emptyDocument
  refine congrArg Except.ok ?_
  unfold Document.flagRepeats Document.afterWrite
  dsimp only
  cases l.document.cachePolicy <;> rfl

theorem exists_build_of_loadNamed (h : l.loadNamed source text = .ok d) :
    ∃ root, l.build source root = .ok d := by
  unfold loadNamed at h
  dsimp only at h
  split at h
  · exact ⟨.null, (build_null l source).trans h⟩
  · split at h
    · exact ⟨_, h⟩
    · cases h

theorem exists_build_of_loadFrontMatter (h : l.loadFrontMatter source text = .ok d) :
    ∃ root, l.build source root = .ok d := by
  unfold loadFrontMatter at h
  dsimp only at h
  split at h
  · exact ⟨_, h⟩
  · exact ⟨.null, (build_null l source).trans h⟩

/-- Of a file, only one that is there, is not too large and holds a text makes a document. -/
theorem exists_build_of_loadFile {files : Files} {path : String}
    (h : l.loadFile files path = .ok d) : ∃ root, l.build path root = .ok d := by
  unfold loadFile at h
  split at h
  · cases h
  · cases h
  · split at h
    · cases h
    · split at h
      · cases h
      · split at h
        · exact exists_build_of_loadFrontMatter h
        · exact exists_build_of_loadNamed h

/-- Whichever way a document is loaded, it is made of some data. -/
theorem Loads.exists_build (h : l.Loads d) : ∃ source root, l.build source root = .ok d := by
  cases h with
  | data h => exact ⟨_, _, h⟩
  | text h => exact ⟨_, exists_build_of_loadNamed h⟩
  | bytes h =>
    unfold loadBytes at h
    split at h
    · exact ⟨_, exists_build_of_loadNamed h⟩
    · cases h
  | frontMatter h => exact ⟨_, exists_build_of_loadFrontMatter h⟩
  | file h => exact ⟨_, exists_build_of_loadFile h⟩

/-- A document whose flags are set, which remembers nothing, and which has the options of its
loader. -/
structure IsFresh (l : Loader) (d : Document) : Prop where
  flagged : Flagged d.groups
  entries : d.cache.entries = []
  options : d.options = l.document

/-- Whatever it is made of, a document is fresh. -/
theorem Loads.isFresh (h : l.Loads d) : l.IsFresh d := by
  obtain ⟨source, root, hbuild⟩ := h.exists_build
  obtain ⟨groups, -, hgroups, hoptions, hentries⟩ := groups_of_build hbuild
  exact ⟨hgroups ▸ flagged_flagRepeats groups, hentries, hoptions⟩

end Loader

/-! ## Labels as addresses -/

namespace Document

variable {d : Document} {g g' : Group} {position position' : Nat}

/-- A label is the text of the segment for the group. -/
theorem label_eq_text (d : Document) (g : Group) (position : Nat) :
    d.label g position = (siblingSegment d.groups position g).text := by
  unfold label siblingSegment Segment.text
  cases g.repeated <;> rfl

theorem wellFormed_siblingSegment (hname : PlainName g.identifier)
    (hlength : d.groups.length ≤ Number.offsetBound) (hg : d.groups[position]? = some g) :
    (siblingSegment d.groups position g).WellFormed := by
  refine ⟨hname, fun n hn => ?_⟩
  unfold siblingSegment at hn
  by_cases hrepeated : g.repeated = true
  · rw [if_pos hrepeated] at hn
    have hn' : precedingNamed d.groups g.identifier position = n := Option.some.inj hn
    have hposition := (List.getElem?_eq_some_iff.mp hg).1
    have hle := precedingNamed_le d.groups g.identifier position
    omega
  · rw [if_neg hrepeated] at hn
    cases hn

/-- A label is read as the one segment that it is the text of. -/
theorem parse_label (hname : PlainName g.identifier)
    (hlength : d.groups.length ≤ Number.offsetBound) (hg : d.groups[position]? = some g) :
    Address.parse (d.label g position) = .ok ⟨[siblingSegment d.groups position g]⟩ := by
  have htext : d.label g position = (Address.mk [siblingSegment d.groups position g]).text := by
    rw [Address.text, List.map_singleton, String.intercalate_singleton, label_eq_text]
  rw [htext]
  refine Address.parse_text (List.cons_ne_nil _ _) fun s hs => ?_
  rw [List.mem_singleton.mp hs]
  exact wellFormed_siblingSegment hname hlength hg

/-- Where flags are set, the label of a group leads to its position. -/
theorem resolve_label (hflagged : Flagged d.groups) (hdepth : 1 ≤ d.options.maxDepth)
    (hname : PlainName g.identifier) (hlength : d.groups.length ≤ Number.offsetBound)
    (hg : d.groups[position]? = some g) :
    d.resolve (d.label g position) = .ok (.group [position]) := by
  have hselect := selectSibling?_siblingSegment hflagged hg
  rw [resolve_of_parse (parse_label hname hlength hg)]
  show (if 1 ≤ d.options.maxDepth then
    d.root.locate [siblingSegment d.groups position g] else _) = _
  rw [if_pos hdepth, Group.locate_cons_of_child (g := d.root) hselect]
  rfl

theorem reveal_position (hg : d.groups[position]? = some g) :
    d.reveal (.group [position]) = .ok (.group g) := by
  have hnode : d.atTrail? [position] = some g := by
    rw [atTrail?, hg]
    rfl
  rw [reveal, hnode]

end Document

/-! ## Labels that commands list -/

namespace Command

/-- Of the top-level groups, a filter selects some in their order. -/
theorem nodesAt_sublist (d : Document) (filter : String) :
    (d.nodesAt filter).Sublist (selectNamed none d) := by
  have hall : selectNamed none d = d.groups.zipIdx :=
    List.filter_eq_self.mpr fun _ _ => rfl
  rw [hall, Document.nodesAt]
  split
  · exact List.nil_sublist _
  · cases Filter.parse filter with
    | error e => exact List.nil_sublist _
    | ok f => exact List.filter_sublist

theorem labelsOf_sublist (c : Command) (files : Files) (filter file : String) :
    (c.labelsOf files (·.nodesAt filter) file).Sublist
      (c.labelsOf files (selectNamed none) file) := by
  unfold labelsOf
  cases c.loader.loadFile files file with
  | error e => exact List.Sublist.refl _
  | ok d => exact (nodesAt_sublist d filter).map _

end Command

/-- **Labels are addresses.** In a document that a loader makes, whose top-level groups have names
that an address can hold, the label of every top-level group leads to that group and to no other,
and different groups have different labels. And whatever the filter, where all files load, the
command for the groups of the filter prints for each file some of the labels that the command for
all groups prints for it, in the same order; files without such labels are left out.

That the groups are no more than offsets can count is no restriction of documents in memory. -/
theorem Loader.labels_are_addresses {l : Loader} {d : Document} (made : l.Loads d)
    (names : ∀ g ∈ d.groups, PlainName g.identifier) (depth : 1 ≤ d.options.maxDepth)
    (length : d.groups.length ≤ Number.offsetBound) :
    (∀ position g, d.groups[position]? = some g →
      d.resolve (d.label g position) = .ok (.group [position]) ∧
      (d.query (d.label g position)).1 = .ok (.group g)) ∧
    (∀ position position' g g', d.groups[position]? = some g → d.groups[position']? = some g' →
      d.label g position = d.label g' position' → position = position') ∧
    (∀ (c : Command) (files : Files) (names : List String) (filter : String),
      c.resolver.resolve files c.paths = .ok names →
      (∀ file ∈ names, ∃ loaded, c.loader.loadFile files file = .ok loaded) →
      (∀ file ∈ names, (c.labelsOf files (·.nodesAt filter) file).Sublist
        (c.labelsOf files (Command.selectNamed none) file)) ∧
      (Command.run { c with question := .groups none } files).output =
        printLabels c.format names.length (c.listing files (Command.selectNamed none) names) ∧
      (Command.run { c with question := .nodes filter } files).output =
        let found := (c.listing files (·.nodesAt filter) names).filter fun (_, labels) =>
          !labels.isEmpty
        if found.isEmpty then "" else printLabels c.format names.length found) := by
  have hfresh := made.isFresh
  have hresolve : ∀ position g, d.groups[position]? = some g →
      d.resolve (d.label g position) = .ok (.group [position]) := fun position g hg =>
    Document.resolve_label hfresh.flagged depth (names g (List.mem_of_getElem? hg)) length hg
  refine ⟨?_, ?_, ?_⟩
  · intro position g hg
    refine ⟨hresolve position g hg, ?_⟩
    rw [Document.query_of_entries_eq_nil hfresh.entries, Document.lookup, hresolve position g hg]
    exact Document.reveal_position hg
  · -- one label is resolved to one position
    intro position position' g g' hg hg' hlabel
    have hsame := hresolve position g hg
    rw [hlabel, hresolve position' g' hg'] at hsame
    cases hsame
    rfl
  · intro c files names filter hnames hloaded
    refine ⟨fun file _ => c.labelsOf_sublist files filter file, ?_, ?_⟩
    · show (c.runGroups files none).output = _
      rw [Command.runGroups_of_loaded hnames hloaded]
    · show (c.runNodes files filter).output = _
      rw [Command.runNodes_of_loaded hnames hloaded]
      dsimp only
      split <;> rfl

/-- Two groups of one name, the first of them with metadata, and another group. -/
def namesakeData : Yaml.Value :=
  .mapping [
    (.string "a", .sequence [
      .mapping [(.string "_meta", .mapping [(.string "k", .string "v")])], .mapping []]),
    (.string "b", .mapping [])]

/-- The document that is made of them. -/
def namesakeDocument : Document where
  groups := [{ identifier := "a", repeated := true, metadata := .ofList [("k", "v")] },
    { identifier := "a", repeated := true }, { identifier := "b" }]

/-- A file with the same data. -/
def namesakeFiles : Files where
  working := .directory [("f.yaml", .file "a: [{_meta: {k: v}}, {}]\nb: {}\n".toUTF8)]

/-- The command for all groups of the file. -/
def namesakeCommand : Command := { question := .groups none, paths := ["f.yaml"] }

/-- The second of the two groups has the label `a[1]`, which leads to it, and the other group has
its name for a label. The filter selects the first group, and its label is the first of the three.
-/
theorem Loader.labels_are_addresses_namesakes :
    ({} : Loader).Loads namesakeDocument ∧
      (∀ g ∈ namesakeDocument.groups, PlainName g.identifier) ∧
      1 ≤ namesakeDocument.options.maxDepth ∧
      namesakeDocument.groups.length ≤ Number.offsetBound ∧
      (namesakeDocument.query "a[1]").1 = .ok (.group { identifier := "a", repeated := true }) ∧
      (namesakeDocument.query "b").1 = .ok (.group { identifier := "b" }) ∧
      (namesakeCommand.run namesakeFiles).output = "a[0]\na[1]\nb\n" ∧
      (Command.run { namesakeCommand with question := .nodes "[k:v]" } namesakeFiles).output =
        "a[0]\n" ∧
      (namesakeCommand.labelsOf namesakeFiles (·.nodesAt "[k:v]") "f.yaml").Sublist
        (namesakeCommand.labelsOf namesakeFiles (Command.selectNamed none) "f.yaml") := by
  have hmade : ({} : Loader).Loads namesakeDocument := @Loads.data _ _ "" namesakeData rfl
  have hnames : ∀ g ∈ namesakeDocument.groups, PlainName g.identifier := by
    simp only [namesakeDocument, List.forall_mem_cons]
    exact ⟨by decide, by decide, by decide, fun _ hg => absurd hg List.not_mem_nil⟩
  have hloaded : ∃ d, namesakeCommand.loader.loadFile namesakeFiles "f.yaml" = .ok d := by
    have hok : (namesakeCommand.loader.loadFile namesakeFiles "f.yaml").isOk = true := by
      decide +kernel
    cases hload : namesakeCommand.loader.loadFile namesakeFiles "f.yaml" with
    | error e => rw [hload] at hok; cases hok
    | ok d => exact ⟨d, rfl⟩
  obtain ⟨haddress, -, hlisted⟩ :=
    Loader.labels_are_addresses hmade hnames (by decide) (by decide)
  obtain ⟨hsublist, -, -⟩ := hlisted namesakeCommand namesakeFiles ["f.yaml"] "[k:v]"
    (by decide +kernel) (List.forall_mem_singleton.mpr hloaded)
  exact ⟨hmade, hnames, by decide, by decide, (haddress 1 _ rfl).2, (haddress 2 _ rfl).2,
    by decide +kernel, by decide +kernel, hsublist "f.yaml" List.mem_cons_self⟩

end Settings
