import Settings.Command.Execution
/-!
# Asking files

A command asks its files one after the other. `askEach_eq_ok_iff` says what there is when none of
them fails: an answer for every file, in the order of the files. From it follow the ways that each
command can end. A command for a value ends in an error, it has no files, or it reports the answers
of all of them, and there is no other way (`Command.valueRun_runValue`); where nothing fails, that
is what it does (`Command.runValue_of_answers`). The commands for groups list the labels of every
file (`Command.runNodes_of_loaded`, `Command.runGroups_of_loaded`).
-/

namespace Settings

/-! ## Asking one file after the other -/

section

variable {α : Type} {ask : String → Except Error α} {names : List String}
  {answers : List (String × α)}

/-- All files are asked without an error exactly when there is an answer for each of them. -/
theorem askEach_eq_ok_iff :
    askEach ask names = (answers, none) ↔
      answers.map Prod.fst = names ∧ ∀ x ∈ answers, ask x.1 = .ok x.2 := by
  induction names generalizing answers with
  | nil =>
    rw [askEach, List.map_eq_nil_iff]
    constructor
    · intro h
      obtain rfl : [] = answers := congrArg Prod.fst h
      exact ⟨rfl, fun x hx => absurd hx List.not_mem_nil⟩
    · rintro ⟨rfl, -⟩
      rfl
  | cons file rest ih =>
    rw [askEach]
    cases hask : ask file with
    | error e =>
      constructor
      · intro h
        cases congrArg Prod.snd h
      · rintro ⟨hnames, hanswers⟩
        obtain ⟨x, more, rfl, rfl, -⟩ := List.map_eq_cons_iff.mp hnames
        have hx := hanswers x List.mem_cons_self
        rw [hask] at hx
        cases hx
    | ok answer =>
      cases hrest : askEach ask rest with
      | mk more failure =>
        show ((file, answer) :: more, failure) = (answers, none) ↔ _
        constructor
        · intro h
          obtain ⟨rfl, rfl⟩ := Prod.mk.inj h
          obtain ⟨hnames, hanswers⟩ := ih.mp hrest
          exact ⟨by rw [List.map_cons, hnames], List.forall_mem_cons.mpr ⟨hask, hanswers⟩⟩
        · rintro ⟨hnames, hanswers⟩
          obtain ⟨⟨_, found⟩, others, rfl, rfl, hothers⟩ := List.map_eq_cons_iff.mp hnames
          obtain ⟨hx, hall⟩ := List.forall_mem_cons.mp hanswers
          have hrest' := ih.mpr ⟨hothers, hall⟩
          rw [hrest] at hrest'
          obtain ⟨rfl, rfl⟩ := Prod.mk.inj hrest'
          obtain rfl : answer = found := Except.ok.inj (hask.symm.trans hx)
          rfl

theorem length_of_askEach (h : askEach ask names = (answers, none)) :
    answers.length = names.length := by
  rw [← (askEach_eq_ok_iff.mp h).1, List.length_map]

/-- Where an answer is known for every file, these are the answers. -/
theorem askEach_of_ok {answer : String → α} (h : ∀ file ∈ names, ask file = .ok (answer file)) :
    askEach ask names = (names.map fun file => (file, answer file), none) := by
  rw [askEach_eq_ok_iff, List.map_map]
  refine ⟨List.map_id names, ?_⟩
  intro x hx
  obtain ⟨file, hfile, rfl⟩ := List.mem_map.mp hx
  exact h file hfile

end

/-! ## How a command ends -/

/-- A command ends in an error if it is refused, or if the error is passed on. -/
def Outcome.IsError (o : Outcome) : Prop := o.status = Outcome.refused ∨ o.failure ≠ none

/-- That warnings are left out makes no difference to that. -/
theorem Invocation.isError_run {i : Invocation} {files : Files} :
    (i.run files).IsError ↔ (i.command.run files).IsError := by
  unfold run
  split
  · exact Iff.rfl
  · exact Iff.rfl

theorem Outcome.isError_ofError (log : List Note) (e : Error) : (ofError log e).IsError := by
  unfold ofError
  split
  · exact .inl rfl
  · exact .inr nofun

namespace Command

variable {c : Command} {files : Files} {path : String} {type : Option ValueType}
  {items names : List String} {assignments : List (String × Scalar)}
  {answers : List (String × Except Miss Json)}

/-- What a file answers: it is loaded, assigned to, and asked. -/
def answerOf (c : Command) (files : Files) (path : String) (type : Option ValueType)
    (assignments : List (String × Scalar)) (file : String) : Except Error (Except Miss Json) := do
  (← c.loader.loadFile files file).askValue path type assignments

/-- The warnings about the files in which an address leads nowhere. -/
def missNotes (path : String) (answers : List (String × Except Miss Json)) : List Note :=
  answers.filterMap fun (file, answer) =>
    match answer with
    | .ok _ => none
    | .error miss => some (missNote path file miss)

/-- The values of the files in which it leads to one. -/
def valuesOf (answers : List (String × Except Miss Json)) : List (String × Json) :=
  answers.filterMap fun (file, answer) =>
    match answer with
    | .ok value => some (file, value)
    | .error _ => none

theorem mem_valuesOf_iff {file : String} {value : Json} :
    (file, value) ∈ valuesOf answers ↔ (file, .ok value) ∈ answers := by
  unfold valuesOf
  rw [List.mem_filterMap]
  constructor
  · rintro ⟨⟨file', _ | value'⟩, hmem, h⟩
    · cases h
    · cases h
      exact hmem
  · exact fun hmem => ⟨_, hmem, rfl⟩

theorem map_fst_valuesOf (h : ∀ x ∈ answers, ∃ value, x.2 = .ok value) :
    (valuesOf answers).map Prod.fst = answers.map Prod.fst := by
  induction answers with
  | nil => rfl
  | cons answer rest ih =>
    obtain ⟨⟨value, hvalue⟩, hrest⟩ := List.forall_mem_cons.mp h
    obtain ⟨file, found⟩ := answer
    cases hvalue
    exact congrArg (file :: ·) (ih hrest)

theorem missNotes_eq_nil (h : ∀ x ∈ answers, ∃ value, x.2 = .ok value) :
    missNotes path answers = [] := by
  refine List.filterMap_eq_nil_iff.mpr ?_
  rintro ⟨file, found⟩ hx
  obtain ⟨value, rfl⟩ := h _ hx
  rfl

/-- The value of one file stands alone. -/
theorem printAnswers_one (format : Format) (file : String) (value : Json) :
    printAnswers format 1 [(file, value)] = asLine (value.text format) := by
  rw [printAnswers, if_pos rfl, List.take_succ_cons, List.take_zero, List.map_singleton,
    String.join_cons, String.join_nil, String.append_empty]

/-- What is reported of the answers of so many files. -/
def report (c : Command) (path : String) (count : Nat) (answers : List (String × Except Miss Json)) :
    Outcome where
  status := if (missNotes path answers).isEmpty then Outcome.found else Outcome.missed
  output :=
    if (valuesOf answers).isEmpty then "" else printAnswers c.format count (valuesOf answers)
  log := missNotes path answers

/-- Where an address leads to a value in every file, all values are printed, without a warning. -/
theorem report_of_forall_ok (c : Command) (path : String) (count : Nat) (hne : answers ≠ [])
    (h : ∀ x ∈ answers, ∃ value, x.2 = .ok value) :
    c.report path count answers =
      { output := printAnswers c.format count (valuesOf answers) } := by
  have hsome : (valuesOf answers).isEmpty = false := by
    rw [List.isEmpty_eq_false_iff, Ne, ← List.map_eq_nil_iff (f := Prod.fst), map_fst_valuesOf h,
      List.map_eq_nil_iff]
    exact hne
  rw [report, missNotes_eq_nil h, hsome]
  rfl

theorem askValues_of_answers
    (h : askEach (c.answerOf files path type assignments) names = (answers, none)) :
    c.askValues files path type assignments names = c.report path names.length answers := by
  have hask : askEach (fun file => do
      (← c.loader.loadFile files file).askValue path type assignments) names = (answers, none) := h
  rw [askValues, hask]
  rfl

/-- Where nothing fails, the answers of all files are reported. -/
theorem runValue_of_answers (hresolve : c.resolver.resolve files c.paths = .ok names)
    (hne : names ≠ []) (hread : items.mapM readAssignment = .ok assignments)
    (hask : askEach (c.answerOf files path type assignments) names = (answers, none)) :
    c.runValue files path type items = c.report path names.length answers := by
  unfold runValue
  rw [hresolve, hread, ← askValues_of_answers hask]
  cases names with
  | nil => exact absurd rfl hne
  | cons file rest => rfl

/-- Where asking a file fails, the warnings so far stay in the log, before the error. -/
theorem runValue_of_failure (hresolve : c.resolver.resolve files c.paths = .ok names)
    (hne : names ≠ []) (hread : items.mapM readAssignment = .ok assignments) {e : Error}
    (hask : askEach (c.answerOf files path type assignments) names = (answers, some e)) :
    c.runValue files path type items = .ofError (missNotes path answers) e := by
  have hask' : askEach (fun file => do
      (← c.loader.loadFile files file).askValue path type assignments) names =
      (answers, some e) := hask
  unfold runValue
  rw [hresolve, hread]
  cases names with
  | nil => exact absurd rfl hne
  | cons file rest =>
    show c.askValues files path type assignments (file :: rest) = _
    rw [askValues, hask']
    rfl

/-- The ways that a command for a value ends. -/
inductive ValueRun (c : Command) (files : Files) (path : String) (type : Option ValueType)
    (items : List String) : Outcome → Prop
  | failed (log : List Note) (e : Error) : ValueRun c files path type items (.ofError log e)
  | idle (hresolve : c.resolver.resolve files c.paths = .ok []) :
      ValueRun c files path type items
        { status := Outcome.missed, log := [⟨.warning, "No files found to process"⟩] }
  | answered {names : List String} {assignments : List (String × Scalar)}
      {answers : List (String × Except Miss Json)}
      (hresolve : c.resolver.resolve files c.paths = .ok names) (hne : names ≠ [])
      (hread : items.mapM readAssignment = .ok assignments)
      (hask : askEach (c.answerOf files path type assignments) names = (answers, none)) :
      ValueRun c files path type items (c.report path names.length answers)

/-- There is no other way. -/
theorem valueRun_runValue (c : Command) (files : Files) (path : String) (type : Option ValueType)
    (items : List String) : c.ValueRun files path type items (c.runValue files path type items) := by
  cases hresolve : c.resolver.resolve files c.paths with
  | error e =>
    rw [runValue, hresolve]
    exact .failed [] e
  | ok names =>
    by_cases hne : names = []
    · subst hne
      rw [runValue, hresolve]
      exact .idle hresolve
    cases hread : items.mapM readAssignment with
    | error e =>
      rw [runValue, hresolve, hread]
      cases names with
      | nil => exact absurd rfl hne
      | cons file rest => exact .failed [] e
    | ok assignments =>
      cases hask : askEach (c.answerOf files path type assignments) names with
      | mk answers failure =>
        cases failure with
        | none =>
          rw [runValue_of_answers hresolve hne hread hask]
          exact .answered hresolve hne hread hask
        | some e =>
          rw [runValue_of_failure hresolve hne hread hask]
          exact .failed _ e

/-! ## Labels -/

/-- The labels that a command lists for a file, where `select` says which groups they are of. -/
def labelsOf (c : Command) (files : Files) (select : Document → List (Group × Nat))
    (file : String) : List String :=
  match c.loader.loadFile files file with
  | .ok d => d.labels (select d)
  | .error _ => []

/-- The labels for each of some files. -/
def listing (c : Command) (files : Files) (select : Document → List (Group × Nat))
    (names : List String) : List (String × List String) :=
  names.map fun file => (file, c.labelsOf files select file)

theorem askLabels_of_loaded (hloaded : ∀ file ∈ names, ∃ d, c.loader.loadFile files file = .ok d)
    (select : Document → List (Group × Nat)) :
    c.askLabels files select names = (c.listing files select names, none) := by
  refine askEach_of_ok fun file hfile => ?_
  obtain ⟨d, hd⟩ := hloaded file hfile
  rw [labelsOf, hd]
  rfl

/-- Where all files load, the command for the groups of a filter prints the labels for those files
that have some. -/
theorem runNodes_of_loaded (hresolve : c.resolver.resolve files c.paths = .ok names)
    (hloaded : ∀ file ∈ names, ∃ d, c.loader.loadFile files file = .ok d) (filter : String) :
    c.runNodes files filter =
      let found := (c.listing files (·.nodesAt filter) names).filter fun (_, labels) =>
        !labels.isEmpty
      if found.isEmpty then { status := Outcome.missed }
      else { output := printLabels c.format names.length found } := by
  unfold runNodes
  rw [hresolve]
  dsimp only
  rw [askLabels_of_loaded hloaded]

/-- The command for all groups prints the labels for every file. -/
theorem runGroups_of_loaded (hresolve : c.resolver.resolve files c.paths = .ok names)
    (hloaded : ∀ file ∈ names, ∃ d, c.loader.loadFile files file = .ok d) :
    c.runGroups files none =
      { output := printLabels c.format names.length
          (c.listing files (selectNamed none) names) } := by
  have hpattern : (none : Option String).mapM Pattern.parse = .ok none := rfl
  unfold runGroups
  rw [hpattern]
  dsimp only
  rw [hresolve]
  dsimp only
  rw [askLabels_of_loaded hloaded]

end Command

end Settings
