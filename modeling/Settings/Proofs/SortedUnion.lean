import Settings.Proofs.Resolving
import Settings.Proofs.Walking
/-!
# Resolution is a sorted union

Every path stands for some places: a file for its own, and a directory for those of the files that a
walk takes below it (`Resolver.StandsFor`). What paths are resolved to are these places together,
each of them once and in their order (`Resolver.isUnion_of_resolve`). Since such a row is determined
by the places that are in it, it makes no difference in which order paths are given, how often, or
whether a file is given besides a directory that it is found in. `Resolver.resolve_is_sorted_union`
puts this together with the one way to fail, which is a path that leads nowhere.
-/

namespace Settings

namespace Resolver

variable {r : Resolver} {files : Files} {paths paths' names names' found : List String}
  {path : String}

/-! ## One path -/

/-- The places that a path stands for, as components. A file stands for its own place, whatever it
is called, and a directory for those of the files at the end of the rows that are chosen below it.
-/
inductive StandsFor (r : Resolver) (files : Files) (path : String) : List PathComponent → Prop
  | file {content : ByteArray} : files.at? path = some (.file content) →
      StandsFor r files path (Path.components path)
  | below {entries : List (String × FileTree)} {names : List String} {content : ByteArray} :
      files.at? path = some (.directory entries) →
      (FileTree.directory entries).Leads names (.file content) → r.Chooses names →
      StandsFor r files path (Path.components path ++ names.map .normal)

theorem exists_expand (h : files.at? path ≠ none) : ∃ found, r.expand files path = .ok found := by
  unfold expand
  cases hat : files.at? path with
  | none => exact absurd hat h
  | some t => cases t <;> exact ⟨_, rfl⟩

theorem expand_of_none (h : files.at? path = none) :
    r.expand files path = .error (.fileNotFound path) := by
  rw [expand, h]

/-- What is found for a path has the places that it stands for. -/
theorem mem_components_expand_iff (hproper : files.Proper) (h : r.expand files path = .ok found)
    (place : List PathComponent) :
    place ∈ found.map Path.components ↔ r.StandsFor files path place := by
  unfold expand at h
  cases hat : files.at? path with
  | none =>
    rw [hat] at h
    cases h
  | some t =>
    rw [hat] at h
    cases t with
    | file content =>
      cases h
      constructor
      · intro hmem
        obtain rfl : place = Path.components path := by simpa using hmem
        exact .file hat
      · rintro (hfile | ⟨hdirectory, -, -⟩)
        · simp
        · rw [hat] at hdirectory
          cases hdirectory
    | directory entries =>
      cases h
      have htree := hproper.at? hat
      have hpath := Files.ne_empty_of_at? hat
      have hbelow : ∀ {names : List String} {content : ByteArray},
          (FileTree.directory entries).Leads names (.file content) →
          Path.components (Path.below path names) =
            Path.components path ++ names.map .normal :=
        fun hleads => Path.components_below hpath (htree _ _ hleads)
      constructor
      · intro hmem
        obtain ⟨file, hfile, rfl⟩ := List.mem_map.mp hmem
        obtain ⟨names, content, hleads, hchosen, rfl⟩ := (mem_filesAt_iff htree hpath).mp hfile
        rw [hbelow hleads]
        exact .below hat hleads hchosen
      · rintro (hfile | ⟨hdirectory, hleads, hchosen⟩)
        · rw [hat] at hfile
          cases hfile
        · rw [hat] at hdirectory
          cases hdirectory
          rw [← hbelow hleads]
          exact List.mem_map_of_mem ((mem_filesAt_iff htree hpath).mpr ⟨_, _, hleads, hchosen, rfl⟩)

/-! ## Several paths -/

/-- No place is lost where repeated ones are dropped. -/
theorem mem_components_dropRepeated_iff (paths : List String) (place : List PathComponent) :
    place ∈ (dropRepeated paths).map Path.components ↔ place ∈ paths.map Path.components := by
  have hfold : ∀ kept : List String, place ∈ (paths.foldl
      (fun kept path => if kept.any (Path.same path) then kept else kept ++ [path]) kept).map
        Path.components ↔ place ∈ kept.map Path.components ∨ place ∈ paths.map Path.components := by
    induction paths with
    | nil => simp
    | cons path rest ih =>
      intro kept
      rw [List.foldl_cons]
      by_cases hold : kept.any (Path.same path) = true
      · -- a path with the components of this one has been kept
        obtain ⟨earlier, hearlier, hsame⟩ := List.any_eq_true.mp hold
        have hplace : Path.components path ∈ kept.map Path.components := by
          rw [eq_of_beq hsame]
          exact List.mem_map_of_mem hearlier
        rw [if_pos hold, ih, List.map_cons, List.mem_cons]
        constructor
        · exact Or.imp_right .inr
        · rintro (hkept | rfl | hrest)
          · exact .inl hkept
          · exact .inl hplace
          · exact .inr hrest
      · rw [if_neg hold, ih]
        simp [or_assoc]
  rw [dropRepeated, hfold, List.map_nil, List.mem_nil_iff, false_or]

/-- The one way to fail: a path leads nowhere, and all before it lead somewhere. -/
theorem resolve_of_missing {before after : List String}
    (hbefore : ∀ other ∈ before, files.at? other ≠ none) (hpath : files.at? path = none) :
    r.resolve files (before ++ path :: after) = .error (.fileNotFound path) := by
  have hmissing : (before ++ path :: after).mapM (r.expand files) =
      .error (.fileNotFound path) := by
    induction before with
    | nil =>
      rw [List.nil_append, List.mapM_cons, expand_of_none hpath]
      rfl
    | cons first rest ih =>
      obtain ⟨hfirst, hrest⟩ := List.forall_mem_cons.mp hbefore
      obtain ⟨found, hfound⟩ := exists_expand (r := r) hfirst
      rw [List.cons_append, List.mapM_cons, hfound, ih hrest]
      rfl
  rw [resolve, hmissing]
  rfl

theorem exists_resolve (h : ∀ path ∈ paths, files.at? path ≠ none) :
    ∃ names, r.resolve files paths = .ok names := by
  have hfound : ∃ found, paths.mapM (r.expand files) = .ok found :=
    exists_mapM_iff.mpr fun path hpath => exists_expand (h path hpath)
  obtain ⟨found, hfound⟩ := hfound
  rw [resolve, hfound]
  exact ⟨_, rfl⟩

/-- A row of paths, each before the next, with the places that some paths stand for. -/
structure IsUnion (r : Resolver) (files : Files) (paths names : List String) : Prop where
  sorted : names.Pairwise Path.Before
  places : ∀ place, place ∈ names.map Path.components ↔
    ∃ path ∈ paths, r.StandsFor files path place

/-- Paths are resolved to the row of the places that they stand for. -/
theorem isUnion_of_resolve (hproper : files.Proper) (h : r.resolve files paths = .ok names) :
    r.IsUnion files paths names := by
  unfold resolve at h
  cases hfound : paths.mapM (r.expand files) with
  | error e => rw [hfound] at h; cases h
  | ok found =>
    rw [hfound] at h
    obtain rfl := Except.ok.inj h
    have hperm := List.mergeSort_perm (dropRepeated found.flatten) Path.precedes
    constructor
    · exact before_mergeSort (separate_dropRepeated _)
    · intro place
      rw [(hperm.map Path.components).mem_iff, mem_components_dropRepeated_iff, List.map_flatten,
        List.mem_flatten]
      constructor
      · rintro ⟨places, hplaces, hplace⟩
        obtain ⟨here, hhere, rfl⟩ := List.mem_map.mp hplaces
        obtain ⟨path, hpath, hexpand⟩ := (mem_of_mapM_iff hfound).mp hhere
        exact ⟨path, hpath, (mem_components_expand_iff hproper hexpand place).mp hplace⟩
      · rintro ⟨path, hpath, hstands⟩
        obtain ⟨here, hexpand⟩ := exists_ok_of_mapM hfound hpath
        have hhere : here ∈ found := (mem_of_mapM_iff hfound).mpr ⟨path, hpath, hexpand⟩
        exact ⟨here.map Path.components, List.mem_map_of_mem hhere,
          (mem_components_expand_iff hproper hexpand place).mpr hstands⟩

/-- The places determine the row. -/
theorem IsUnion.map_components_eq (h : r.IsUnion files paths names)
    (h' : r.IsUnion files paths' names')
    (hsame : ∀ place, (∃ path ∈ paths', r.StandsFor files path place) ↔
      ∃ path ∈ paths, r.StandsFor files path place) :
    names'.map Path.components = names.map Path.components := by
  refine Path.map_components_eq_of_before h'.sorted h.sorted fun place => ?_
  rw [h'.places, h.places, hsame]

/-- What one of some paths stands for is no new place when it is named besides them. -/
theorem exists_standsFor_iff (hmore : paths ⊆ paths')
    (hother : ∀ other ∈ paths', other ∈ paths ∨ ∃ content,
      files.at? other = some (.file content) ∧
        ∃ path ∈ paths, r.StandsFor files path (Path.components other))
    (place : List PathComponent) :
    (∃ path ∈ paths', r.StandsFor files path place) ↔
      ∃ path ∈ paths, r.StandsFor files path place := by
  constructor
  · rintro ⟨other, hmem, hplace⟩
    rcases hother other hmem with hpath | ⟨content, hfile, path, hpath, hstands⟩
    · exact ⟨other, hpath, hplace⟩
    · -- the only place that a file stands for is its own
      rcases hplace with _ | ⟨hdirectory, -, -⟩
      · exact ⟨path, hpath, hstands⟩
      · rw [hfile] at hdirectory
        cases hdirectory
  · rintro ⟨path, hpath, hplace⟩
    exact ⟨path, hmore hpath, hplace⟩

/-- **Resolution is a sorted union.** If a path leads nowhere, and all before it lead somewhere,
that path is reported. Otherwise the paths are resolved to a row of paths, each before the next in
the order of components, with exactly the places that they stand for: those of the files among them,
and those of the files at the end of the rows of names that are chosen below the directories among
them. And it makes no difference to these places if the paths are given in another order, or again,
or if files are named besides them in places that one of them stands for. -/
theorem resolve_is_sorted_union (r : Resolver) {files : Files} (hproper : files.Proper)
    (paths : List String) :
    (∀ before path after, paths = before ++ path :: after →
      (∀ other ∈ before, files.at? other ≠ none) → files.at? path = none →
        r.resolve files paths = .error (.fileNotFound path)) ∧
    ((∀ path ∈ paths, files.at? path ≠ none) →
      ∃ names, r.resolve files paths = .ok names ∧ names.Pairwise Path.Before ∧
        (∀ place, place ∈ names.map Path.components ↔
          ∃ path ∈ paths, r.StandsFor files path place) ∧
        ∀ paths', paths ⊆ paths' →
          (∀ other ∈ paths', other ∈ paths ∨ ∃ content,
            files.at? other = some (.file content) ∧
              ∃ path ∈ paths, r.StandsFor files path (Path.components other)) →
            ∃ names', r.resolve files paths' = .ok names' ∧
              names'.map Path.components = names.map Path.components) := by
  constructor
  · rintro before path after rfl hbefore hpath
    exact resolve_of_missing hbefore hpath
  · intro hpaths
    obtain ⟨names, hnames⟩ := exists_resolve (r := r) hpaths
    have hunion := isUnion_of_resolve hproper hnames
    refine ⟨names, hnames, hunion.sorted, hunion.places, fun paths' hmore hother => ?_⟩
    have hpaths' : ∀ path ∈ paths', files.at? path ≠ none := by
      intro path hpath
      rcases hother path hpath with hold | ⟨content, hfile, -⟩
      · exact hpaths path hold
      · simp [hfile]
    obtain ⟨names', hnames'⟩ := exists_resolve (r := r) hpaths'
    exact ⟨names', hnames', hunion.map_components_eq (isUnion_of_resolve hproper hnames')
      (exists_standsFor_iff hmore hother)⟩

/-- A file besides a directory, in which there are a hidden file, a file, and a directory with two
files. -/
def nestedFiles : Files where
  working := .directory
    [("d", .directory
        [(".b.md", .file .empty), ("a.yaml", .file .empty),
          ("sub", .directory [("b.MD", .file .empty), ("notes.txt", .file .empty)])]),
      ("extra.conf", .file .empty)]

theorem proper_nestedFiles : nestedFiles.Proper := by
  constructor
  · unfold nestedFiles
    simp [FileTree.proper_directory_iff, FileTree.proper_file, Path.ProperName]
  · simp [nestedFiles]

theorem resolve_nestedFiles : Resolver.resolve {} nestedFiles ["d", "extra.conf"] =
    .ok ["d/a.yaml", "d/sub/b.MD", "extra.conf"] := by
  have hexpand : ["d", "extra.conf"].mapM (Resolver.expand {} nestedFiles) =
      .ok [["d/a.yaml", "d/sub/b.MD"], ["extra.conf"]] := by decide +kernel
  have hbefore : ["d/a.yaml", "d/sub/b.MD", "extra.conf"].Pairwise Path.Before := by
    decide +kernel
  rw [resolve, hexpand]
  show Except.ok ((dropRepeated ["d/a.yaml", "d/sub/b.MD", "extra.conf"]).mergeSort _) = _
  rw [mergeSort_dropRepeated_of_before hbefore]

/-- The file with the extension in uppercase is found in the directory below. So it is not found
again where it is named as well, with one slash more; nor is anything where paths are repeated. -/
theorem resolve_is_sorted_union_nested :
    Resolver.resolve {} nestedFiles ["d", "gone", "lost"] = .error (.fileNotFound "gone") ∧
    ∃ names, Resolver.resolve {} nestedFiles ["d//sub/b.MD", "extra.conf", "d", "extra.conf"] =
        .ok names ∧
      names.map Path.components =
        [[.normal "d", .normal "a.yaml"], [.normal "d", .normal "sub", .normal "b.MD"],
          [.normal "extra.conf"]] := by
  constructor
  · exact (resolve_is_sorted_union {} proper_nestedFiles _).1 ["d"] "gone" ["lost"] rfl
      (List.forall_mem_singleton.mpr nofun) rfl
  · obtain ⟨names, hnames, -, -, hmore⟩ :=
      (resolve_is_sorted_union {} proper_nestedFiles ["d", "extra.conf"]).2
        (List.forall_mem_cons.mpr ⟨nofun, List.forall_mem_singleton.mpr nofun⟩)
    obtain rfl := Except.ok.inj (hnames.symm.trans resolve_nestedFiles)
    have hbelow : Resolver.StandsFor {} nestedFiles "d" (Path.components "d//sub/b.MD") := by
      have hsub : (FileTree.directory [("b.MD", .file .empty), ("notes.txt", .file .empty)]).Leads
          ["b.MD"] (.file .empty) := .enter List.mem_cons_self (.here _)
      have hplace : Path.components "d//sub/b.MD" =
          Path.components "d" ++ ["sub", "b.MD"].map .normal := by decide +kernel
      rw [hplace]
      exact .below rfl (.enter (by simp) hsub) ⟨nofun, by decide, by decide +kernel⟩
    have hrest : ["extra.conf", "d", "extra.conf"] ⊆ ["d", "extra.conf"] := by simp
    obtain ⟨names', hnames', hsame⟩ := hmore ["d//sub/b.MD", "extra.conf", "d", "extra.conf"]
      (by simp) (List.forall_mem_cons.mpr
        ⟨.inr ⟨_, rfl, "d", List.mem_cons_self, hbelow⟩, fun _ hother => .inl (hrest hother)⟩)
    refine ⟨names', hnames', hsame.trans ?_⟩
    decide +kernel

end Resolver

end Settings
