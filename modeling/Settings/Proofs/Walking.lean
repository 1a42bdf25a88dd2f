import Settings.Files.Resolver
import Settings.Proofs.PathComponents
/-!
# Walking through directories

What stands below a directory stands at the end of a row of names (`FileTree.Leads`). A walk takes
the files at the end of the rows that a resolver chooses: rows of visible names, not too many of
them, the last of which has one of the extensions (`Resolver.Chooses`). `Resolver.mem_filesAt_iff`
says so. A file that is taken has the components of the directory, and the names after them
(`Path.components_below`).
-/

namespace Settings

/-! ## Trees -/

namespace FileTree

variable {t t' : FileTree} {names : List String}

/-- Names lead from a tree to a tree below it, one name for each directory on the way. -/
inductive Leads : FileTree → List String → FileTree → Prop
  | here (t : FileTree) : Leads t [] t
  | enter {entries : List (String × FileTree)} {name : String} {names : List String}
      {t t' : FileTree} : (name, t) ∈ entries → Leads t names t' →
      Leads (.directory entries) (name :: names) t'

/-- All names in a tree are names that a directory can hold. -/
def Proper (t : FileTree) : Prop :=
  ∀ names t', Leads t names t' → ∀ name ∈ names, Path.ProperName name

theorem Proper.of_mem {entries : List (String × FileTree)} {name : String}
    (h : Proper (.directory entries)) (hmem : (name, t) ∈ entries) : t.Proper :=
  fun names t' hleads other hother =>
    h (name :: names) t' (.enter hmem hleads) other (List.mem_cons_of_mem _ hother)

theorem proper_file (content : ByteArray) : (file content).Proper := by
  intro names t' hleads
  cases hleads
  simp

theorem proper_directory_iff {entries : List (String × FileTree)} :
    (directory entries).Proper ↔ ∀ entry ∈ entries, Path.ProperName entry.1 ∧ entry.2.Proper := by
  constructor
  · intro h entry hmem
    exact ⟨h [entry.1] entry.2 (.enter hmem (.here _)) _ List.mem_cons_self, h.of_mem hmem⟩
  · intro h names t' hleads
    cases hleads with
    | here => simp
    | enter hmem hleads =>
      obtain ⟨hname, ht⟩ := h _ hmem
      exact List.forall_mem_cons.mpr ⟨hname, ht _ _ hleads⟩

/-- Wherever a path leads, it is to one of the trees that it starts from, or below. -/
theorem proper_of_follow {inside : List FileTree} {parts : List String}
    (h : ∀ t ∈ inside, t.Proper) (hfollow : follow inside parts = some t) : t.Proper := by
  induction parts generalizing inside with
  | nil =>
    cases inside with
    | nil => simp [follow] at hfollow
    | cons here outside =>
      simp only [follow, Option.some.injEq] at hfollow
      exact hfollow ▸ h here List.mem_cons_self
  | cons part rest ih =>
    cases inside with
    | nil => simp [follow] at hfollow
    | cons here outside =>
      obtain ⟨hhere, houtside⟩ := List.forall_mem_cons.mp h
      cases here with
      | file content => simp [follow] at hfollow
      | directory entries =>
        rw [follow] at hfollow
        split at hfollow
        · exact ih h hfollow
        · split at hfollow
          · refine ih ?_ hfollow
            split
            · exact List.forall_mem_singleton.mpr hhere
            · exact houtside
          · split at hfollow
            · next entry hentry =>
              obtain ⟨front, back, rfl, -⟩ := List.lookup_eq_some_iff.mp hentry
              have hmem : (part, entry) ∈ front ++ (part, entry) :: back := by simp
              exact ih (List.forall_mem_cons.mpr ⟨hhere.of_mem hmem, h⟩) hfollow
            · cases hfollow

end FileTree

/-- All names that a program can see are names that a directory can hold. -/
structure Files.Proper (files : Files) : Prop where
  working : files.working.Proper
  around : ∀ t ∈ files.around, t.Proper

theorem Files.Proper.at? {files : Files} {path : String} {t : FileTree} (h : files.Proper)
    (hat : files.at? path = some t) : t.Proper := by
  unfold Files.at? at hat
  split at hat
  · cases hat
  · split at hat
    · obtain ⟨outermost, houtermost, hfollow⟩ := Option.bind_eq_some_iff.mp hat
      have hmem := List.mem_of_getLast? houtermost
      exact FileTree.proper_of_follow (List.forall_mem_singleton.mpr (h.around _ hmem)) hfollow
    · exact FileTree.proper_of_follow (List.forall_mem_cons.mpr ⟨h.working, h.around⟩) hat

theorem Files.ne_empty_of_at? {files : Files} {path : String} {t : FileTree}
    (h : files.at? path = some t) : path ≠ "" := by
  rintro rfl
  cases h

/-! ## Paths below a directory -/

namespace Path

variable {directory : String} {names : List String}

/-- The path at the end of a row of names. -/
def below (directory : String) (names : List String) : String := names.foldl join directory

/-- It has the components of the directory, and the names after them. -/
theorem components_below (hdirectory : directory ≠ "") (hnames : ∀ name ∈ names, ProperName name) :
    components (below directory names) = components directory ++ names.map .normal := by
  induction names generalizing directory with
  | nil => simp [below]
  | cons name rest ih =>
    obtain ⟨hname, hrest⟩ := List.forall_mem_cons.mp hnames
    have hbelow := ih (join_ne_empty directory hname.1) hrest
    rw [components_join hdirectory hname, List.append_assoc] at hbelow
    exact hbelow

/-- The extension of a row of names is that of the last one, in lowercase. -/
def rowExtension? (names : List String) : Option String :=
  (names.getLast?.bind nameExtension?).map Text.lowercase

theorem extension?_below (hdirectory : directory ≠ "") (hnames : ∀ name ∈ names, ProperName name)
    (hne : names ≠ []) : extension? (below directory names) = rowExtension? names := by
  obtain ⟨front, last, rfl⟩ := (List.eq_nil_or_concat names).resolve_left hne
  rw [List.concat_eq_append] at hnames ⊢
  rw [extension?, components_below hdirectory hnames, List.map_append, List.map_singleton,
    ← List.append_assoc, List.getLast?_concat, rowExtension?, List.getLast?_concat]
  rfl

end Path

/-! ## Walks -/

namespace Resolver

variable {r : Resolver} {path file : String} {depth : Nat} {t : FileTree}
  {entries : List (String × FileTree)}

/-- A walk looks at the entries whose names are seen. -/
theorem mem_filesIn_iff : file ∈ r.filesIn path depth entries ↔
    ∃ name t, (name, t) ∈ entries ∧ r.sees name = true ∧
      file ∈ r.filesAt (Path.join path name) depth t := by
  induction entries with
  | nil => simp [filesIn]
  | cons entry rest ih =>
    obtain ⟨name, t⟩ := entry
    rw [filesIn, List.mem_append, ih]
    constructor
    · rintro (hhere | ⟨name', t', hmem, hsees, hfile⟩)
      · by_cases hsees : r.sees name = true
        · rw [if_pos hsees] at hhere
          exact ⟨name, t, List.mem_cons_self, hsees, hhere⟩
        · rw [if_neg hsees] at hhere
          exact absurd hhere List.not_mem_nil
      · exact ⟨name', t', List.mem_cons_of_mem _ hmem, hsees, hfile⟩
    · rintro ⟨name', t', hmem, hsees, hfile⟩
      rcases List.mem_cons.mp hmem with heq | hmem
      · cases heq
        exact .inl (by rwa [if_pos hsees])
      · exact .inr ⟨name', t', hmem, hsees, hfile⟩

/-- It enters a directory if that is not too deep. -/
theorem mem_filesAt_directory_iff : file ∈ r.filesAt path depth (.directory entries) ↔
    (∀ limit, r.maxDepth = some limit → depth < limit) ∧
      file ∈ r.filesIn path (depth + 1) entries := by
  have hlimit : r.maxDepth.any (· ≤ depth) = false ↔
      ∀ limit, r.maxDepth = some limit → depth < limit := by
    cases r.maxDepth <;> simp
  rw [filesAt, ← hlimit]
  cases r.maxDepth.any (· ≤ depth) <;> simp

/-- What a walk that has come so many levels down to a path asks of a row of names, and the file at
its end. -/
structure Reaches (r : Resolver) (path : String) (depth : Nat) (names : List String)
    (file : String) : Prop where
  place : file = Path.below path names
  seen : ∀ name ∈ names, r.sees name = true
  level : names ≠ [] → ∀ limit, r.maxDepth = some limit → depth + names.length ≤ limit
  taken : r.takes file = true

/-- One level further up. -/
theorem Reaches.enter_iff {name : String} {names : List String} :
    r.Reaches path depth (name :: names) file ↔
      (∀ limit, r.maxDepth = some limit → depth < limit) ∧ r.sees name = true ∧
        r.Reaches (Path.join path name) (depth + 1) names file := by
  constructor
  · rintro ⟨hplace, hseen, hlevel, htaken⟩
    obtain ⟨hname, hnames⟩ := List.forall_mem_cons.mp hseen
    have hlevel' := hlevel (List.cons_ne_nil _ _)
    refine ⟨fun limit hlimit => ?_, hname, hplace, hnames, fun _ limit hlimit => ?_, htaken⟩
    · have := hlevel' limit hlimit
      rw [List.length_cons] at this
      omega
    · have := hlevel' limit hlimit
      rw [List.length_cons] at this
      omega
  · rintro ⟨hdepth, hname, hplace, hseen, hlevel, htaken⟩
    refine ⟨hplace, List.forall_mem_cons.mpr ⟨hname, hseen⟩, fun _ limit hlimit => ?_, htaken⟩
    have hhere := hdepth limit hlimit
    rw [List.length_cons]
    cases names with
    | nil =>
      rw [List.length_nil]
      omega
    | cons next rest =>
      have := hlevel (List.cons_ne_nil _ _) limit hlimit
      omega

/-- What a walk takes is at the end of a row that it asks for. -/
theorem exists_reaches_of_mem_filesAt (t : FileTree) (path : String) (depth : Nat)
    (h : file ∈ r.filesAt path depth t) :
    ∃ names content, t.Leads names (.file content) ∧ r.Reaches path depth names file := by
  match t with
  | .file content =>
    rw [filesAt] at h
    by_cases htakes : r.takes path = true
    · rw [if_pos htakes, List.mem_singleton] at h
      subst h
      exact ⟨[], content, .here _, rfl, by simp, by simp, htakes⟩
    · rw [if_neg htakes] at h
      exact absurd h List.not_mem_nil
  | .directory entries =>
    obtain ⟨hdepth, hbelow⟩ := mem_filesAt_directory_iff.mp h
    obtain ⟨name, t', hmem, hsees, hfile⟩ := mem_filesIn_iff.mp hbelow
    obtain ⟨names, content, hleads, hreaches⟩ :=
      exists_reaches_of_mem_filesAt t' (Path.join path name) (depth + 1) hfile
    exact ⟨name :: names, content, .enter hmem hleads,
      Reaches.enter_iff.mpr ⟨hdepth, hsees, hreaches⟩⟩
termination_by sizeOf t
decreasing_by
  have hsize := List.sizeOf_lt_of_mem hmem
  simp at hsize ⊢
  omega

/-- The other way round, the walk finds every such row. -/
theorem mem_filesAt_of_leads {names : List String} {content : ByteArray}
    (hleads : t.Leads names (.file content)) (h : r.Reaches path depth names file) :
    file ∈ r.filesAt path depth t := by
  generalize hend : FileTree.file content = goal at hleads
  induction hleads generalizing path depth with
  | here t =>
    subst hend
    obtain rfl : file = path := h.place
    rw [filesAt, if_pos h.taken]
    exact List.mem_cons_self
  | enter hmem _ ih =>
    obtain ⟨hdepth, hsees, hbelow⟩ := Reaches.enter_iff.mp h
    exact mem_filesAt_directory_iff.mpr ⟨hdepth, mem_filesIn_iff.mpr
      ⟨_, _, hmem, hsees, ih hbelow hend⟩⟩

/-- The rows of names that a resolver chooses, from a directory down to a file: not longer than the
limit, without a hidden name unless those are included, and with a chosen extension at the end,
where the empty one stands for none. -/
structure Chooses (r : Resolver) (names : List String) : Prop where
  level : ∀ limit, r.maxDepth = some limit → names.length ≤ limit
  visible : r.includeHidden = false → ∀ name ∈ names, name.toList.head? ≠ some '.'
  extension : (Path.rowExtension? names).getD "" ∈ r.extensions

/-- A walk from a directory asks for the rows that the resolver chooses. -/
theorem reaches_iff_chooses {names : List String} (hpath : path ≠ "")
    (hnames : ∀ name ∈ names, Path.ProperName name) (hne : names ≠ []) :
    r.Reaches path 0 names file ↔ r.Chooses names ∧ file = Path.below path names := by
  have hseen : (∀ name ∈ names, r.sees name = true) ↔
      (r.includeHidden = false → ∀ name ∈ names, name.toList.head? ≠ some '.') := by
    cases hhidden : r.includeHidden <;> simp [sees, Path.isHidden, hhidden]
  have htakes : r.takes (Path.below path names) = true ↔
      (Path.rowExtension? names).getD "" ∈ r.extensions := by
    rw [takes, Path.extension?_below hpath hnames hne, List.contains_iff_mem]
  constructor
  · rintro ⟨rfl, hvisible, hlevel, htaken⟩
    refine ⟨⟨fun limit hlimit => ?_, hseen.mp hvisible, htakes.mp htaken⟩, rfl⟩
    have := hlevel hne limit hlimit
    omega
  · rintro ⟨⟨hlevel, hvisible, hextension⟩, rfl⟩
    refine ⟨rfl, hseen.mpr hvisible, fun _ limit hlimit => ?_, htakes.mpr hextension⟩
    have := hlevel limit hlimit
    omega

/-- **What a walk takes.** From a directory it takes the files at the end of the rows that the
resolver chooses, and no others. -/
theorem mem_filesAt_iff (hproper : (FileTree.directory entries).Proper) (hpath : path ≠ "") :
    file ∈ r.filesAt path 0 (.directory entries) ↔
      ∃ names content, (FileTree.directory entries).Leads names (.file content) ∧
        r.Chooses names ∧ file = Path.below path names := by
  have hrow : ∀ {names : List String} {content : ByteArray},
      (FileTree.directory entries).Leads names (.file content) →
        (r.Reaches path 0 names file ↔ r.Chooses names ∧ file = Path.below path names) := by
    intro names content hleads
    refine reaches_iff_chooses hpath (hproper names _ hleads) ?_
    rintro rfl
    cases hleads
  constructor
  · intro h
    obtain ⟨names, content, hleads, hreaches⟩ := exists_reaches_of_mem_filesAt _ path 0 h
    exact ⟨names, content, hleads, (hrow hleads).mp hreaches⟩
  · rintro ⟨names, content, hleads, hchosen⟩
    exact mem_filesAt_of_leads hleads ((hrow hleads).mpr hchosen)

end Resolver

end Settings
