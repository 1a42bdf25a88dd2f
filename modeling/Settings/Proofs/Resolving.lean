import Settings.Loader
import Settings.Files.Resolver
import Settings.Proofs.PathComponents
import Settings.Proofs.Results
/-!
# Resolved files

Of the paths that are found, the first of those with the same components is kept, so that no file is
named twice (`Resolver.nodup_of_resolve`); and these are put in order, so that each comes before the
next (`Resolver.before_mergeSort`). Files that do so from the beginning are resolved to themselves
(`Resolver.resolve_of_files`). Whatever else was named with it, that is true of a file on its own
(`Resolver.resolve_singleton`), and only a file can be loaded (`Loader.exists_file_of_loadFile`).
-/

namespace Settings

namespace Path

theorem same_self (path : String) : same path path = true := beq_self_eq_true _

theorem same_comm (p q : String) : same p q = same q p := BEq.comm

theorem before_iff_same {p q : String} :
    Before p q ↔ precedes p q = true ∧ same q p = false := by
  rw [before_iff, same, beq_eq_false_iff_ne, ne_comm]

end Path

namespace Resolver

variable {r : Resolver} {files : Files} {paths names : List String} {path : String}

/-- No two paths of a row have the same components. -/
def Separate (paths : List String) : Prop := paths.Pairwise fun p q => Path.same q p = false

/-- What is kept stays separate from path to path. -/
theorem separate_dropRepeated (paths : List String) : Separate (dropRepeated paths) := by
  have hfold : ∀ kept, Separate kept → Separate (paths.foldl
      (fun kept path => if kept.any (Path.same path) then kept else kept ++ [path]) kept) := by
    induction paths with
    | nil => exact fun _ h => h
    | cons path rest ih =>
      intro kept h
      rw [List.foldl_cons]
      by_cases hold : kept.any (Path.same path) = true
      · rw [if_pos hold]
        exact ih kept h
      · rw [if_neg hold]
        refine ih _ (List.pairwise_append.mpr ⟨h, List.pairwise_singleton _ _, ?_⟩)
        intro p hp q hq
        rw [List.mem_singleton.mp hq]
        exact Bool.eq_false_iff.mpr fun hsame => hold (List.any_eq_true.mpr ⟨p, hp, hsame⟩)
  exact hfold [] List.Pairwise.nil

theorem Separate.nodup (h : Separate paths) : paths.Nodup := by
  refine h.imp fun hsame heq => ?_
  rw [heq, Path.same_self] at hsame
  cases hsame

/-- No file is named twice. -/
theorem nodup_of_resolve (h : r.resolve files paths = .ok names) : names.Nodup := by
  unfold resolve at h
  cases hfound : paths.mapM (r.expand files) with
  | error e => rw [hfound] at h; cases h
  | ok found =>
    rw [hfound] at h
    obtain rfl := Except.ok.inj h
    exact (List.mergeSort_perm _ _).nodup_iff.mpr (separate_dropRepeated _).nodup

/-- Where no two paths have the same components, none is dropped. -/
theorem dropRepeated_of_separate (h : Separate paths) : dropRepeated paths = paths := by
  have hfold : ∀ kept, Separate (kept ++ paths) → paths.foldl
      (fun kept path => if kept.any (Path.same path) then kept else kept ++ [path]) kept =
        kept ++ paths := by
    clear h
    induction paths with
    | nil => exact fun kept _ => (List.append_nil kept).symm
    | cons path rest ih =>
      intro kept h
      rw [List.append_cons] at h
      have hnew : ¬ kept.any (Path.same path) = true := by
        rw [List.any_eq_true]
        rintro ⟨p, hp, hsame⟩
        have hne := (List.pairwise_append.mp (List.pairwise_append.mp h).1).2.2 p hp path
          (List.mem_singleton_self path)
        rw [hsame] at hne
        cases hne
      rw [List.foldl_cons, if_neg hnew, ih _ h, ← List.append_cons]
  exact hfold [] h

/-- Paths each come before the next if they are in order, and no two have the same components. -/
theorem pairwise_before_iff : paths.Pairwise Path.Before ↔
    paths.Pairwise (fun p q => Path.precedes p q = true) ∧ Separate paths := by
  rw [Separate, ← List.pairwise_and_iff]
  exact List.Pairwise.iff fun p q => Path.before_iff_same

/-- So they do once they have been put in order. -/
theorem before_mergeSort (h : Separate paths) :
    (paths.mergeSort Path.precedes).Pairwise Path.Before := by
  have hsorted : (paths.mergeSort Path.precedes).Pairwise fun p q => Path.precedes p q = true :=
    @List.pairwise_mergeSort _ Path.precedes (fun _ _ _ => Path.precedes_trans)
      Path.precedes_total _
  have hseparate : Separate (paths.mergeSort Path.precedes) := by
    refine ((List.mergeSort_perm _ _).pairwise_iff fun {p q} hsame => ?_).mpr h
    rwa [Path.same_comm]
  exact pairwise_before_iff.mpr ⟨hsorted, hseparate⟩

/-- If they do so already, nothing is dropped or moved. -/
theorem mergeSort_dropRepeated_of_before (h : paths.Pairwise Path.Before) :
    (dropRepeated paths).mergeSort Path.precedes = paths := by
  obtain ⟨hsorted, hseparate⟩ := pairwise_before_iff.mp h
  rw [dropRepeated_of_separate hseparate, List.mergeSort_of_pairwise hsorted]

/-- Files that each come before the next are resolved to themselves. -/
theorem resolve_of_files (hfiles : ∀ path ∈ paths, ∃ content, files.at? path = some (.file content))
    (hbefore : paths.Pairwise Path.Before) : r.resolve files paths = .ok paths := by
  have hexpand : paths.mapM (r.expand files) = .ok (paths.map fun path => [path]) := by
    rw [mapM_eq_ok_iff, List.map_map]
    refine List.map_congr_left fun path hpath => ?_
    obtain ⟨content, hfile⟩ := hfiles path hpath
    rw [expand, hfile]
    rfl
  have hflatten : (paths.map fun path => [path]).flatten = paths := by
    rw [← List.flatMap_def, List.flatMap_singleton']
  rw [resolve, hexpand]
  show Except.ok ((dropRepeated (paths.map fun path => [path]).flatten).mergeSort Path.precedes) = _
  rw [hflatten, mergeSort_dropRepeated_of_before hbefore]

theorem resolve_singleton {content : ByteArray} (h : files.at? path = some (.file content)) :
    r.resolve files [path] = .ok [path] :=
  resolve_of_files (List.forall_mem_singleton.mpr ⟨content, h⟩) (List.pairwise_singleton _ _)

end Resolver

end Settings
