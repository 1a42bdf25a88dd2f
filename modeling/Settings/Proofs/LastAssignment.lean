import Settings.Proofs.Asking
import Settings.Proofs.Labels
import Settings.Proofs.Overrides
import Settings.Proofs.Resolving
/-!
# The last assignment wins

The items of a command line are read as assignments one by one, so the last item for an address is
the last assignment to it (`lookup_reverse_of_readAssignment`), and a file that is asked for that
address answers with what it assigns (`Command.answerOf_after_last`).
`Invocation.last_assignment_wins` puts this together for whole command lines.
-/

namespace Settings

/-! ## Items -/

/-- What an item of a command line assigns: it is cut at its first equals sign, the address before
that is trimmed, and the text behind it is taken as it is. -/
def assignment? (item : String) : Option (String × String) :=
  (Text.cutFirst '=' item.toList).map fun (left, right) =>
    (Text.trimmed (String.ofList left), String.ofList right)

theorem readAssignment_eq_ok_iff {item path : String} {value : Scalar} :
    readAssignment item = .ok (path, value) ↔
      assignment? item = some (path, value.text) ∧ path ≠ "" := by
  obtain ⟨text⟩ := value
  unfold readAssignment assignment?
  cases Text.cutFirst '=' item.toList with
  | none => exact ⟨nofun, fun h => nomatch h.1⟩
  | some cut =>
    obtain ⟨left, right⟩ := cut
    dsimp only [Option.map_some]
    rw [Option.some.injEq, Prod.mk.injEq]
    by_cases hempty : (Text.trimmed (String.ofList left)).isEmpty = true
    · rw [if_pos hempty]
      constructor
      · nofun
      · rintro ⟨⟨rfl, -⟩, hne⟩
        exact absurd (String.isEmpty_iff.mp hempty) hne
    · rw [if_neg hempty, Except.ok.injEq, Prod.mk.injEq, Scalar.mk.injEq]
      constructor
      · rintro ⟨rfl, rfl⟩
        exact ⟨⟨rfl, rfl⟩, mt String.isEmpty_iff.mpr hempty⟩
      · exact And.left

/-- The last item for an address is the last assignment to it. -/
theorem lookup_reverse_of_readAssignment {before later : List String} {item path text : String}
    {assignments : List (String × Scalar)}
    (hread : (before ++ item :: later).mapM readAssignment = .ok assignments)
    (hitem : assignment? item = some (path, text))
    (hlast : ∀ other ∈ later, ∀ text', assignment? other ≠ some (path, text')) :
    assignments.reverse.lookup path = some ⟨text⟩ := by
  -- the item can be read, so its address is not empty
  obtain ⟨⟨path', value⟩, hitem'⟩ :=
    exists_ok_of_mapM hread (List.mem_append_right before List.mem_cons_self)
  obtain ⟨hassigned, hne⟩ := readAssignment_eq_ok_iff.mp hitem'
  rw [hitem] at hassigned
  obtain ⟨rfl, -⟩ := Prod.mk.inj (Option.some.inj hassigned)
  refine (lookup_reverse_of_mapM hread).mpr ⟨before, item, later, rfl, ?_, ?_⟩
  · exact readAssignment_eq_ok_iff.mpr ⟨hitem, hne⟩
  · exact fun other hother value' hread' =>
      hlast other hother value'.text (readAssignment_eq_ok_iff.mp hread').1

/-! ## Command lines -/

/-- What a file answers after assignments, of which the last one to the field that is asked for is
known. -/
theorem Command.answerOf_after_last {c : Command} {files : Files} {name field file : String}
    {assignments : List (String × Scalar)} {value : Scalar} {answer : Except Miss Json}
    (hoptions : c.loader.document = {}) (hname : PlainName name) (hfield : PlainName field)
    (hlast : assignments.reverse.lookup (name ++ "." ++ field) = some value)
    (h : c.answerOf files (name ++ "." ++ field) none assignments file = .ok answer) :
    ∃ d, c.loader.loadFile files file = .ok d ∧
      answer = .ok (match d.fieldOf? name field with
        | some (.array _) => .array [.string value.text]
        | _ => .string value.text) := by
  obtain ⟨d, hload, hask⟩ := bind_eq_ok_iff.mp h
  obtain ⟨after, hset, hanswer⟩ := bind_eq_ok_iff.mp hask
  have hfresh := (Loader.Loads.file hload).isFresh
  have hdefault : d.options = {} := hfresh.options.trans hoptions
  have hcoherent : d.Coherent [] :=
    Document.coherent_of_entries_eq_nil (by rw [hdefault]) hfresh.entries
  have hdepth : 2 ≤ d.options.maxDepth := by
    rw [hdefault]
    show 2 ≤ 64
    omega
  rw [hcoherent.query_assignAll hdepth hname hfield hset hlast] at hanswer
  dsimp only at hanswer
  rw [d.rendered_assignedTo] at hanswer
  exact ⟨d, hload, (Except.ok.inj hanswer).symm⟩

/-- Documents that a command loads have the default options. -/
theorem Given.document_of_command {g : Given} {verb : Verb} {c : Command}
    (h : g.command verb = .ok c) : c.loader.document = {} := by
  unfold command at h
  by_cases hcontradictory : g.isContradictory = true
  · rw [if_pos hcontradictory] at h
    cases h
  · rw [if_neg hcontradictory] at h
    obtain ⟨-, -, h⟩ := bind_eq_ok_iff.mp h
    obtain ⟨question, -, h⟩ := bind_eq_ok_iff.mp h
    cases h
    rfl

/-- A command line that is read is that of a command that is given. -/
theorem exists_given_of_readCommandLine {r : WordsRead} {words : List String} {i : Invocation}
    (h : readCommandLine r words = .ok i) :
    ∃ (g : Given) (verb : Verb), g.command verb = .ok i.command := by
  induction words generalizing r with
  | nil => cases h
  | cons word rest ih =>
    unfold readCommandLine at h
    split at h
    · cases h
    · split at h
      · -- a verb: the words behind it are read, and the command is made of them
        obtain ⟨given, -, h⟩ := bind_eq_ok_iff.mp h
        obtain ⟨command, hcommand, h⟩ := bind_eq_ok_iff.mp h
        split at h
        · cases h
        · cases h
          exact ⟨given, _, hcommand⟩
      · split at h
        · split at h
          · cases h
          · split at h
            · cases h
            · cases h
        -- options before the verb
        · obtain ⟨more, -, h⟩ := bind_eq_ok_iff.mp h
          exact ih h
        · obtain ⟨more, -, h⟩ := bind_eq_ok_iff.mp h
          exact ih h
        · cases h

/-- **The last assignment wins.** Read a command line that asks for a field of a group, both with
names that an address can hold, as no type. Among the items that it is to assign, let one assign to
that very address, and none further on do so. Unless the command ends in an error, every file
reports the text of that item, or the list of it where the field of the first group of the name was
an array to begin with. What the other items assign makes no difference, nor does whether the file
has the group and the field. -/
theorem Invocation.last_assignment_wins {arguments before later : List String} {item text : String}
    {name field : String} {i : Invocation} {files : Files}
    (parsed : Invocation.parse arguments = .ok i)
    (asked : i.command.question =
      .value (name ++ "." ++ field) none (before ++ item :: later))
    (hname : PlainName name) (hfield : PlainName field)
    (assigned : assignment? item = some (name ++ "." ++ field, text))
    (last : ∀ other ∈ later, ∀ text', assignment? other ≠ some (name ++ "." ++ field, text'))
    (succeeds : ¬ (i.run files).IsError) :
    ∃ names, i.command.resolver.resolve files i.command.paths = .ok names ∧
      (names ≠ [] → ∃ answers : List (String × Json),
        i.run files = { output := printAnswers i.command.format names.length answers } ∧
        answers.map Prod.fst = names ∧
        ∀ file value, (file, value) ∈ answers → ∃ d, i.command.loader.loadFile files file = .ok d ∧
          value = match d.fieldOf? name field with
            | some (.array _) => .array [.string text]
            | _ => .string text) := by
  obtain ⟨given, verb, hgiven⟩ := exists_given_of_readCommandLine parsed
  have hoptions := Given.document_of_command hgiven
  have hrun : i.command.run files =
      i.command.runValue files (name ++ "." ++ field) none (before ++ item :: later) := by
    rw [Command.run, asked]
  have hnoerror : ¬ (i.command.run files).IsError := mt Invocation.isError_run.mpr succeeds
  have hways := i.command.valueRun_runValue files (name ++ "." ++ field) none
    (before ++ item :: later)
  rw [← hrun] at hways
  generalize houtcome : i.command.run files = outcome at hways hnoerror
  cases hways with
  | failed log e => exact absurd (Outcome.isError_ofError log e) hnoerror
  | idle hresolve => exact ⟨[], hresolve, fun hne => absurd rfl hne⟩
  | @answered names assignments answers hresolve hne hread hask =>
    obtain ⟨hnames, hanswers⟩ := askEach_eq_ok_iff.mp hask
    have hlast := lookup_reverse_of_readAssignment hread assigned last
    have hfound : ∀ x ∈ answers, ∃ d, i.command.loader.loadFile files x.1 = .ok d ∧
        x.2 = .ok (match d.fieldOf? name field with
          | some (.array _) => .array [.string text]
          | _ => .string text) := fun x hx =>
      i.command.answerOf_after_last hoptions hname hfield hlast (hanswers x hx)
    have hall : ∀ x ∈ answers, ∃ value, x.2 = .ok value := fun x hx =>
      (hfound x hx).elim fun _ h => ⟨_, h.2⟩
    have hanswered : answers ≠ [] := by
      rintro rfl
      exact hne hnames.symm
    refine ⟨names, hresolve, fun _ => ⟨Command.valuesOf answers, ?_, ?_, ?_⟩⟩
    · -- there are no warnings to be left out
      rw [Invocation.run, houtcome, i.command.report_of_forall_ok _ _ hanswered hall]
      split <;> rfl
    · exact (Command.map_fst_valuesOf hall).trans hnames
    · intro file value hvalue
      obtain ⟨d, hload, hanswer⟩ := hfound _ (Command.mem_valuesOf_iff.mp hvalue)
      exact ⟨d, hload, Except.ok.inj hanswer⟩

/-- A file in which the field is an array, and one without the group. -/
def overriddenFiles : Files where
  working := .directory
    [("a.yaml", .file "g:\n  f: [1, 2]\n".toUTF8), ("b.yaml", .file "h:\n".toUTF8)]

/-- A command line with two items for the field that is asked for, among others. -/
def overridingLine : List String :=
  ["get", "--path", "g.f", "--set=g.f=first", "--set=g.h=x", "--set= g.f = a=b ",
    "--set=g[0].f=other", "--set=g.f.x=deep", "--format", "json", "a.yaml", "b.yaml"]

/-- What it says. -/
def overridingInvocation : Invocation where
  command := {
    question := .value "g.f" none
      ["g.f=first", "g.h=x", " g.f = a=b ", "g[0].f=other", "g.f.x=deep"]
    paths := ["a.yaml", "b.yaml"]
    format := .json }
  quiet := false

theorem resolve_overriddenFiles :
    overridingInvocation.command.resolver.resolve overriddenFiles
      overridingInvocation.command.paths = .ok ["a.yaml", "b.yaml"] := by
  refine Resolver.resolve_of_files ?_ ?_
  · exact List.forall_mem_cons.mpr ⟨⟨_, rfl⟩, List.forall_mem_singleton.mpr ⟨_, rfl⟩⟩
  · decide +kernel

theorem not_isError_overriding : ¬ (overridingInvocation.run overriddenFiles).IsError := by
  have hrun : overridingInvocation.run overriddenFiles =
      overridingInvocation.command.askValues overriddenFiles "g.f" none
        [("g.f", ⟨"first"⟩), ("g.h", ⟨"x"⟩), ("g.f", ⟨" a=b "⟩), ("g[0].f", ⟨"other"⟩),
          ("g.f.x", ⟨"deep"⟩)] ["a.yaml", "b.yaml"] := by
    show overridingInvocation.command.runValue overriddenFiles "g.f" none
      ["g.f=first", "g.h=x", " g.f = a=b ", "g[0].f=other", "g.f.x=deep"] = _
    rw [Command.runValue, resolve_overriddenFiles]
    rfl
  rw [hrun]
  rintro (hstatus | hfailure)
  · revert hstatus
    decide +kernel
  · refine hfailure (Option.isNone_iff_eq_none.mp ?_)
    decide +kernel

/-- The item in the middle wins, with all that stands behind its first equals sign. The field stays
an array where it was one. -/
theorem Invocation.last_assignment_wins_middle :
    Invocation.parse overridingLine = .ok overridingInvocation ∧
      assignment? " g.f = a=b " = some ("g.f", " a=b ") ∧
      ¬ (overridingInvocation.run overriddenFiles).IsError ∧
      overridingInvocation.run overriddenFiles =
        { output :=
            "\x7b\n  \"a.yaml\": [\n    \" a=b \"\n  ],\n  \"b.yaml\": \" a=b \"\n\x7d\n" } := by
  have hlater : ∀ other ∈ ["g[0].f=other", "g.f.x=deep"], ∀ text,
      assignment? other ≠ some ("g" ++ "." ++ "f", text) :=
    List.forall_mem_cons.mpr ⟨nofun, List.forall_mem_singleton.mpr nofun⟩
  obtain ⟨names, hnames, hanswers⟩ := @Invocation.last_assignment_wins overridingLine
    ["g.f=first", "g.h=x"] ["g[0].f=other", "g.f.x=deep"] " g.f = a=b " " a=b " "g" "f"
    overridingInvocation overriddenFiles rfl rfl (by decide) (by decide) rfl hlater
    not_isError_overriding
  rw [resolve_overriddenFiles] at hnames
  obtain rfl := Except.ok.inj hnames
  obtain ⟨answers, hrun, hkeys, hvalues⟩ := hanswers (List.cons_ne_nil _ _)
  obtain ⟨⟨_, array⟩, rest, rfl, rfl, hrest⟩ := List.map_eq_cons_iff.mp hkeys
  obtain ⟨⟨_, scalar⟩, _, rfl, rfl, hnone⟩ := List.map_eq_cons_iff.mp hrest
  obtain rfl := List.map_eq_nil_iff.mp hnone
  -- what the field was in each file
  have hfield : ∀ file old d,
      (overridingInvocation.command.loader.loadFile overriddenFiles file).toOption.map
        (·.fieldOf? "g" "f") = some old →
      overridingInvocation.command.loader.loadFile overriddenFiles file = .ok d →
      d.fieldOf? "g" "f" = old := by
    intro file old d hold hload
    rw [hload] at hold
    exact Option.some.inj hold
  obtain ⟨d, hload, rfl⟩ := hvalues "a.yaml" array List.mem_cons_self
  have hold := hfield "a.yaml" (some (.array [⟨"1"⟩, ⟨"2"⟩])) d (by decide +kernel) hload
  obtain ⟨d', hload', rfl⟩ := hvalues "b.yaml" scalar (List.mem_cons_of_mem _ List.mem_cons_self)
  have hold' := hfield "b.yaml" none d' (by decide +kernel) hload'
  rw [hold, hold'] at hrun
  refine ⟨rfl, rfl, not_isError_overriding, hrun.trans ?_⟩
  have hprinted : printAnswers .json 2
      [("a.yaml", .array [.string " a=b "]), ("b.yaml", .string " a=b ")] =
        "\x7b\n  \"a.yaml\": [\n    \" a=b \"\n  ],\n  \"b.yaml\": \" a=b \"\n\x7d\n" := by
    decide +kernel
  rw [← hprinted]
  rfl

end Settings
