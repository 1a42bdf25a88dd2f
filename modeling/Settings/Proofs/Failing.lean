import Settings.Proofs.Performing
import Settings.Proofs.Resolving
/-!
# Errors leave no output behind

Where a command that is performed step by step fails, nothing has been printed
(`Command.tidy_perform`): going through the files is silent, and all that can fail comes before the
first line, since the printing itself is sure (`Progress.sure_printEntries`). Performing a command
comes to the same as carrying it out, so this is true of every command line
(`Invocation.error_prints_nothing`).
-/

namespace Settings

/-! ## Printing is sure -/

section

variable {encode : Json → Except String String}
  (complete : ∀ value, encode value = .ok value.pretty)

include complete

namespace Progress

/-- Whatever the values of the files are, there is no error in printing them. -/
theorem sure_printEntries (format : Format) (count : Nat) (entries : List (String × Json)) :
    (printEntries encode format count entries).Sure := by
  unfold printEntries
  split
  · split
    · exact (prints_printValue complete format _).sure
    · exact sure_pure ()
  · cases format with
    | text => exact (Prints.forM (prints_printFile complete) entries).sure
    | json => exact (prints_printValue complete .json _).sure

/-- Were an encoder to fail, it could do so when lines have been printed. -/
example : (printEntries (fun _ => .error "refused") .text 2
    [("a.yaml", .string "1"), ("b.yaml", .object [])]).printed =
      ["a.yaml:\n", "  1\n", "b.yaml:\n"] := by decide +kernel

end Progress

end

/-! ## Going through the files is silent -/

namespace Command

open Progress

variable {c : Command} {files : Files} {path : String} {type : Option ValueType}
  {assignments : List (String × Scalar)} {encode : Json → Except String String}

theorem silent_findValue (soFar : Findings) (file : String) :
    (c.findValue files path type assignments soFar file).Silent := by
  refine (silent_compute _).bind fun d => (silent_compute _).bind fun d => ?_
  split
  · exact (silent_compute _).bind fun value => silent_pure _
  · exact (silent_say _).bind fun _ => silent_pure _

theorem silent_findLabels (select : Document → List (Group × Nat)) (wanted : Bool)
    (entries : List (String × Json)) (file : String) :
    (c.findLabels files select wanted entries file).Silent := by
  refine (silent_compute _).bind fun d => ?_
  dsimp only
  split
  · exact silent_pure _
  · exact silent_pure _

/-! ## Errors come before the first line -/

section

variable (complete : ∀ value, encode value = .ok value.pretty)

include complete

theorem tidy_performValue (items : List String) :
    (c.performValue encode files path type items).Tidy := by
  refine (silent_compute _).bind_tidy fun names => ?_
  split
  · exact ((silent_say _).bind fun _ => silent_pure _).tidy
  · refine (silent_compute _).bind_tidy fun assignments => ?_
    refine (Silent.foldlM silent_findValue names {}).bind_tidy fun findings => ?_
    split
    · exact (sure_pure _).tidy
    · exact ((sure_printEntries complete _ _ _).bind fun _ => sure_pure _).tidy

theorem tidy_performNodes (filter : String) : (c.performNodes encode files filter).Tidy := by
  refine (silent_compute _).bind_tidy fun names => ?_
  refine (Silent.foldlM (silent_findLabels _ _) names []).bind_tidy fun entries => ?_
  split
  · exact (sure_pure _).tidy
  · exact ((sure_printEntries complete _ _ _).bind fun _ => sure_pure _).tidy

theorem tidy_performGroups (namePattern : Option String) :
    (c.performGroups encode files namePattern).Tidy := by
  refine (silent_compute _).bind_tidy fun pattern => (silent_compute _).bind_tidy fun names => ?_
  refine (Silent.foldlM (silent_findLabels _ _) names []).bind_tidy fun entries => ?_
  exact ((sure_printEntries complete _ _ _).bind fun _ => sure_pure _).tidy

/-- Nothing has been printed where a command fails. -/
theorem tidy_perform (c : Command) (files : Files) : (c.perform encode files).Tidy := by
  unfold perform
  split
  · exact tidy_performValue complete _
  · exact tidy_performNodes complete _
  · exact tidy_performGroups complete _

end

/-! ## The status -/

theorem status_findValue {soFar : Findings} (h : soFar.status ≠ Outcome.refused) (file : String) :
    (c.findValue files path type assignments soFar file).Yields
      fun findings => findings.status ≠ Outcome.refused := by
  refine yields_bind fun d => yields_bind fun d => ?_
  split
  · exact yields_bind fun value => yields_pure h
  · exact yields_bind fun _ => yields_pure (by decide : Outcome.missed ≠ Outcome.refused)

/-- Only an error gives the status of what is refused. -/
theorem status_perform (c : Command) (files : Files) :
    (c.perform encode files).Yields (· ≠ Outcome.refused) := by
  unfold perform
  split
  · refine yields_bind fun names => ?_
    split
    · exact yields_bind fun _ => yields_pure (by decide)
    · refine yields_bind fun assignments => ?_
      refine (Yields.foldlM (fun soFar file h => status_findValue h file) names
        (by decide)).bind fun findings hstatus => ?_
      split
      · exact yields_pure hstatus
      · exact yields_bind fun _ => yields_pure hstatus
  · refine yields_bind fun names => yields_bind fun entries => ?_
    split
    · exact yields_pure (by decide)
    · exact yields_bind fun _ => yields_pure (by decide)
  · refine yields_bind fun pattern => yields_bind fun names => yields_bind fun entries => ?_
    exact yields_bind fun _ => yields_pure (by decide)

end Command

namespace Invocation

/-- **Errors leave no output behind.** Any command line is carried out on any files as its command
is performed on them, with an encoder that encodes every value. It ends in an error, whether that is
logged or passed on, exactly if performing the command does; and then not a line has been printed,
however many files had been answered by then. -/
theorem error_prints_nothing {encode : Json → Except String String}
    (complete : ∀ value, encode value = .ok value.pretty) (i : Invocation) (files : Files) :
    let performed := i.command.perform encode files
    i.run files = (if i.quiet then performed.outcome.quiet else performed.outcome) ∧
    ((i.run files).IsError ↔ ∃ e, performed.result = .error e) ∧
    ∀ e, performed.result = .error e → performed.printed = [] ∧ (i.run files).output = "" := by
  intro performed
  have hrun : i.run files = (if i.quiet then performed.outcome.quiet else performed.outcome) := by
    rw [run, ← Command.outcome_perform complete]
  refine ⟨hrun, ?_, fun e he => ?_⟩
  · rw [isError_run, ← Command.outcome_perform complete]
    exact Progress.isError_outcome_iff (i.command.status_perform files)
  · have hprinted := Command.tidy_perform complete i.command files e he
    have houtput : performed.outcome.output = "" := by
      rw [Progress.outcome, he]
      show String.join performed.printed = ""
      rw [hprinted, String.join_nil]
    refine ⟨hprinted, ?_⟩
    rw [hrun]
    split
    · exact houtput
    · exact houtput

/-- Two files with a field, which is a number in the first one only. -/
def numberedFiles : Files where
  working := .directory
    [("a.yaml", .file "g:\n  f: 1\n".toUTF8), ("b.yaml", .file "g:\n  f: x\n".toUTF8)]

/-- Both files are asked for the field as a number. -/
def askingNumbers : Invocation where
  command := { question := .value "g.f" (some .int) [], paths := ["a.yaml", "b.yaml"] }
  quiet := false

theorem resolve_numberedFiles :
    askingNumbers.command.resolver.resolve numberedFiles askingNumbers.command.paths =
      .ok ["a.yaml", "b.yaml"] := by
  refine Resolver.resolve_of_files ?_ ?_
  · exact List.forall_mem_cons.mpr ⟨⟨_, rfl⟩, List.forall_mem_singleton.mpr ⟨_, rfl⟩⟩
  · decide +kernel

theorem isError_askingNumbers : (askingNumbers.run numberedFiles).IsError := by
  have hrun : askingNumbers.run numberedFiles =
      askingNumbers.command.askValues numberedFiles "g.f" (some .int) []
        ["a.yaml", "b.yaml"] := by
    show askingNumbers.command.runValue numberedFiles "g.f" (some .int) [] = _
    rw [Command.runValue, resolve_numberedFiles]
    rfl
  rw [hrun]
  exact .inl (by decide +kernel)

/-- The first file is answered, and on its own its answer is printed; nothing is printed of it where
the second file is refused. -/
theorem error_prints_nothing_second_file :
    (Command.run { askingNumbers.command with paths := ["a.yaml"] } numberedFiles).output = "1\n" ∧
      (askingNumbers.run numberedFiles).IsError ∧
      (askingNumbers.run numberedFiles).output = "" ∧
      (askingNumbers.command.perform (fun value => .ok value.pretty) numberedFiles).printed =
        [] := by
  obtain ⟨-, herror, hprints⟩ := @error_prints_nothing (fun value => .ok value.pretty)
    (fun _ => rfl) askingNumbers numberedFiles
  obtain ⟨e, he⟩ := herror.mp isError_askingNumbers
  exact ⟨by decide +kernel, isError_askingNumbers, (hprints e he).2, (hprints e he).1⟩

end Invocation

end Settings
