import Settings.Proofs.Asking
import Settings.Proofs.Progress
import Settings.Proofs.Resolving
import Settings.Proofs.SortedEntries
/-!
# Commands step by step

`Command.run` says what comes of a command once it is over. Here a command is performed: it resolves
its files, reads its assignments, loads one file after the other, sorts the answers as they come in,
and prints one line after the other, and each of these steps may fail, the encoding of JSON
included, which stands between two lines of output where several files are printed as text. What the
encoder does is left open; it comes from elsewhere, and it is known to encode every value. With such
an encoder both come to the same (`Command.outcome_perform`).
-/

namespace Settings

/-! ## Encoding -/

section

variable (encode : Json → Except String String)

namespace Json

/-- The text of a value, as it is encoded. A fault in it is an error of the request. -/
def encoded (value : Json) : Except Error String := (encode value).mapError .validation

mutual

/-- A value as plain text, where objects are encoded. -/
def encodedPlain : Json → Except Error String
  | .string s => .ok s
  | .array items => do return "\n".intercalate (← encodedPlainAll items)
  | .object members => encoded encode (.object members)
  | value => .ok value.atomText

/-- The items of a list as plain text. -/
def encodedPlainAll : List Json → Except Error (List String)
  | [] => .ok []
  | item :: rest => do return (← encodedPlain item) :: (← encodedPlainAll rest)

end

/-- The text of a value in a layout. -/
def encodedText (format : Format) (value : Json) : Except Error String :=
  match format with
  | .text => value.encodedPlain encode
  | .json => value.encoded encode

end Json

/-! ## Printing -/

namespace Progress

/-- Prints a value that stands alone. -/
def printValue (format : Format) (value : Json) : Progress Unit := do
  printLine (← compute (value.encodedText encode format))

/-- Prints a file among several ones: its name, and then the lines of its value, which is not
encoded before its name is printed. -/
def printFile (entry : String × Json) : Progress Unit := do
  printLine (entry.1 ++ ":")
  let text ← compute (entry.2.encodedPlain encode)
  (Text.lines text.toList).forM fun line => printLine ("  " ++ String.ofList line)

/-- Prints the values of several files, which are sorted by the names of the files. -/
def printFiles (format : Format) (entries : List (String × Json)) : Progress Unit :=
  match format with
  | .text => entries.forM (printFile encode)
  | .json => printValue encode .json (.object entries)

/-- Prints the sorted values of so many files, some of which may have none. -/
def printEntries (format : Format) (count : Nat) (entries : List (String × Json)) : Progress Unit :=
  if count = 1 then
    match entries.head? with
    | some entry => printValue encode format entry.2
    | none => pure ()
  else printFiles encode format entries

end Progress

end

/-! ## Commands -/

/-- What has been found in the files so far, sorted by their names, and the status so far. -/
structure Findings where
  entries : List (String × Json) := []
  status : Nat := Outcome.found

namespace Command

open Progress

/-- Asks a file for the value at an address, after assignments. -/
def findValue (c : Command) (files : Files) (path : String) (type : Option ValueType)
    (assignments : List (String × Scalar)) (soFar : Findings) (file : String) :
    Progress Findings := do
  let d ← compute (c.loader.loadFile files file)
  let d ← compute (d.assignAll assignments)
  match (d.query path).1 with
  | .ok found =>
    let value ← compute (found.rendered type)
    return { soFar with entries := Sorted.insert file value soFar.entries }
  | .error miss =>
    say (missNote path file miss)
    return { soFar with status := Outcome.missed }

/-- Performs the command for the value at an address. -/
def performValue (c : Command) (encode : Json → Except String String) (files : Files)
    (path : String) (type : Option ValueType) (items : List String) : Progress Nat := do
  let names ← compute (c.resolver.resolve files c.paths)
  if names.isEmpty then
    say ⟨.warning, "No files found to process"⟩
    return Outcome.missed
  else
    let assignments ← compute (items.mapM readAssignment)
    let findings ← names.foldlM (c.findValue files path type assignments) {}
    if findings.entries.isEmpty then
      return findings.status
    else
      printEntries encode c.format names.length findings.entries
      return findings.status

/-- Asks a file for the labels of some of its top-level groups, and takes them in as a list. Files
without such groups are taken in if that is wanted. -/
def findLabels (c : Command) (files : Files) (select : Document → List (Group × Nat))
    (wanted : Bool) (entries : List (String × Json)) (file : String) :
    Progress (List (String × Json)) := do
  let d ← compute (c.loader.loadFile files file)
  let labels := d.labels (select d)
  if wanted || !labels.isEmpty then
    return Sorted.insert file (.array (labels.map .string)) entries
  else return entries

/-- Performs the command for the groups that a filter selects. -/
def performNodes (c : Command) (encode : Json → Except String String) (files : Files)
    (filter : String) : Progress Nat := do
  let names ← compute (c.resolver.resolve files c.paths)
  let entries ← names.foldlM (c.findLabels files (·.nodesAt filter) false) []
  if entries.isEmpty then
    return Outcome.missed
  else
    printEntries encode c.format names.length entries
    return Outcome.found

/-- Performs the command for all groups. -/
def performGroups (c : Command) (encode : Json → Except String String) (files : Files)
    (namePattern : Option String) : Progress Nat := do
  let pattern ← compute ((namePattern.mapM Pattern.parse).mapError fun _ => .badPattern)
  let names ← compute (c.resolver.resolve files c.paths)
  let entries ← names.foldlM (c.findLabels files (selectNamed pattern) true) []
  printEntries encode c.format names.length entries
  return Outcome.found

/-- Performs a command. -/
def perform (c : Command) (encode : Json → Except String String) (files : Files) : Progress Nat :=
  match c.question with
  | .value path type items => c.performValue encode files path type items
  | .nodes filter => c.performNodes encode files filter
  | .groups namePattern => c.performGroups encode files namePattern

end Command

/-! ## What is printed -/

section

variable {encode : Json → Except String String}

namespace Json

theorem encoded_eq (complete : ∀ value, encode value = .ok value.pretty) (value : Json) :
    value.encoded encode = .ok value.pretty := by
  rw [encoded, complete]
  rfl

mutual

theorem encodedPlain_eq (complete : ∀ value, encode value = .ok value.pretty) :
    ∀ value : Json, value.encodedPlain encode = .ok value.plain
  | .string s => rfl
  | .array items => by
    rw [encodedPlain, encodedPlainAll_eq complete items, plain]
    rfl
  | .object members => by
    rw [encodedPlain, encoded_eq complete, plain]
  | .null => rfl
  | .bool b => rfl
  | .int n => rfl
  | .float x => rfl

theorem encodedPlainAll_eq (complete : ∀ value, encode value = .ok value.pretty) :
    ∀ items : List Json, encodedPlainAll encode items = .ok (plainAll items)
  | [] => rfl
  | item :: rest => by
    rw [encodedPlainAll, encodedPlain_eq complete item, encodedPlainAll_eq complete rest, plainAll]
    rfl

end

end Json

variable (complete : ∀ value, encode value = .ok value.pretty)

include complete

theorem Json.encodedText_eq (format : Format) (value : Json) :
    value.encodedText encode format = .ok (value.text format) := by
  cases format with
  | text => exact encodedPlain_eq complete value
  | json => exact encoded_eq complete value

namespace Progress

theorem prints_printValue (format : Format) (value : Json) :
    (printValue encode format value).Prints (asLine (value.text format)) := by
  rw [printValue, value.encodedText_eq complete, compute_ok_bind]
  exact prints_printLine _

theorem prints_printFile (entry : String × Json) :
    (printFile encode entry).Prints (keyedText entry.1 entry.2) := by
  rw [printFile, entry.2.encodedPlain_eq complete, compute_ok_bind]
  exact (prints_printLine _).bind (Prints.forM (fun line => prints_printLine _) _)

/-- What is printed of sorted answers is the output that they have. -/
theorem prints_printEntries (format : Format) {count : Nat} {answers : List (String × Json)}
    (h : answers.length ≤ count) :
    (printEntries encode format count (Sorted.ofList answers)).Prints
      (printAnswers format count answers) := by
  unfold printEntries
  by_cases hcount : count = 1
  · subst hcount
    rw [if_pos rfl, Sorted.ofList_of_length_le_one h]
    match answers, h with
    | [], _ => exact prints_pure
    | [(file, value)], _ =>
      rw [Command.printAnswers_one]
      exact prints_printValue complete format value
  · rw [if_neg hcount, printAnswers, if_neg hcount]
    cases format with
    | text => exact Prints.forM (prints_printFile complete) _
    | json => exact prints_printValue complete .json _

end Progress

end

/-! ## Going through the files -/

/-- What becomes of the findings when an answer is taken in. -/
def Findings.takeIn (soFar : Findings) : String × Except Miss Json → Findings
  | (file, .ok value) => { soFar with entries := Sorted.insert file value soFar.entries }
  | (_, .error _) => { soFar with status := Outcome.missed }

namespace Command

open Progress

variable {c : Command} {files : Files} {path : String} {type : Option ValueType}
  {assignments : List (String × Scalar)} {names : List String} {failure : Option Error}

/-- What is said about an answer. -/
def notesOn (path : String) : String × Except Miss Json → List Note
  | (_, .ok _) => []
  | (file, .error miss) => [missNote path file miss]

theorem flatMap_notesOn (path : String) (answers : List (String × Except Miss Json)) :
    answers.flatMap (notesOn path) = missNotes path answers := by
  induction answers with
  | nil => rfl
  | cons answer rest ih =>
    rw [List.flatMap_cons, ih]
    obtain ⟨file, _ | _⟩ := answer <;> rfl

/-- The values are sorted, and the status tells whether something has been said. -/
theorem foldl_takeIn (path : String) (answers : List (String × Except Miss Json))
    (soFar : Findings) :
    answers.foldl Findings.takeIn soFar =
      { entries := (valuesOf answers).foldl (fun sorted (file, value) =>
          Sorted.insert file value sorted) soFar.entries
        status := if (missNotes path answers).isEmpty then soFar.status else Outcome.missed } := by
  induction answers generalizing soFar with
  | nil => rfl
  | cons answer rest ih =>
    rw [List.foldl_cons, ih]
    obtain ⟨file, miss | value⟩ := answer
    · show _ = { entries := _, status := Outcome.missed : Findings }
      rw [Findings.takeIn, ite_self]
      rfl
    · rfl

theorem findValue_eq (soFar : Findings) (file : String) :
    c.findValue files path type assignments soFar file =
      compute (c.answerOf files path type assignments file) >>= fun answer =>
        { result := .ok (soFar.takeIn (file, answer)), log := notesOn path (file, answer) } := by
  unfold findValue answerOf
  cases c.loader.loadFile files file with
  | error e => rfl
  | ok d =>
    show _ = compute (d.askValue path type assignments) >>= _
    rw [compute_ok_bind, Document.askValue]
    cases d.assignAll assignments with
    | error e => rfl
    | ok d =>
      show _ = @compute (Except Miss Json) (match (d.query path).1 with
        | .ok found => (found.rendered type).map .ok
        | .error miss => .ok (.error miss)) >>= _
      rw [compute_ok_bind]
      cases (d.query path).1 with
      | error miss => rfl
      | ok found =>
        dsimp only
        cases found.rendered type with
        | error e => rfl
        | ok value => rfl

/-- The values that are found are sorted, and a warning makes the status that of a miss. -/
theorem foldlM_findValue {answers : List (String × Except Miss Json)}
    (h : askEach (c.answerOf files path type assignments) names = (answers, failure)) :
    names.foldlM (c.findValue files path type assignments) {} =
      { result := failure.elim (Except.ok
          { entries := Sorted.ofList (valuesOf answers)
            status := if (missNotes path answers).isEmpty then Outcome.found else Outcome.missed })
          Except.error
        log := missNotes path answers } := by
  rw [foldlM_of_askEach findValue_eq h, flatMap_notesOn, foldl_takeIn path]
  rfl

/-- The labels that are taken in, as lists. -/
def labelLists (wanted : Bool) (answers : List (String × List String)) : List (String × Json) :=
  (answers.filter fun (_, labels) => wanted || !labels.isEmpty).map
    fun (file, labels) => (file, .array (labels.map .string))

/-- Labels are taken in as a list, if there are some or if that is wanted. -/
def takeLabels (wanted : Bool) (entries : List (String × Json)) (answer : String × List String) :
    List (String × Json) :=
  if wanted || !answer.2.isEmpty then
    Sorted.insert answer.1 (.array (answer.2.map .string)) entries
  else entries

theorem length_labelLists_le (wanted : Bool) (answers : List (String × List String)) :
    (labelLists wanted answers).length ≤ answers.length := by
  rw [labelLists, List.length_map]
  exact List.length_filter_le _ answers

theorem foldl_takeLabels (wanted : Bool) (answers : List (String × List String)) :
    answers.foldl (takeLabels wanted) [] = Sorted.ofList (labelLists wanted answers) := by
  rw [Sorted.ofList, labelLists, List.foldl_map, List.foldl_filter]
  rfl

theorem findLabels_eq (select : Document → List (Group × Nat)) (wanted : Bool)
    (entries : List (String × Json)) (file : String) :
    c.findLabels files select wanted entries file =
      compute ((c.loader.loadFile files file).map fun d => d.labels (select d)) >>= fun labels =>
        { result := .ok (takeLabels wanted entries (file, labels)), log := [] } := by
  unfold findLabels
  cases c.loader.loadFile files file with
  | error e => rfl
  | ok d =>
    show _ = { result := .ok (takeLabels wanted entries (file, d.labels (select d))) : Progress _ }
    rw [compute_ok_bind, takeLabels]
    dsimp only
    by_cases hwanted : (wanted || !(d.labels (select d)).isEmpty) = true
    · rw [if_pos hwanted, if_pos hwanted]
      rfl
    · rw [if_neg hwanted, if_neg hwanted]
      rfl

theorem foldlM_findLabels {select : Document → List (Group × Nat)} (wanted : Bool)
    {answers : List (String × List String)}
    (h : c.askLabels files select names = (answers, failure)) :
    names.foldlM (c.findLabels files select wanted) [] =
      { result := failure.elim (Except.ok (Sorted.ofList (labelLists wanted answers)))
          Except.error } := by
  have hloop := @foldlM_of_askEach _ _ _ _ (takeLabels wanted) (fun _ => [])
    (findLabels_eq select wanted) _ _ _ h []
  rw [hloop, foldl_takeLabels, List.flatMap_eq_nil_iff.mpr fun _ _ => rfl]

/-! ## Both come to the same -/

section

variable {encode : Json → Except String String}

theorem performValue_of_names {items : List String}
    (hresolve : c.resolver.resolve files c.paths = .ok names) (hne : names ≠ [])
    (hread : items.mapM readAssignment = .ok assignments) :
    c.performValue encode files path type items =
      names.foldlM (c.findValue files path type assignments) {} >>= fun findings =>
        if findings.entries.isEmpty then pure findings.status
        else printEntries encode c.format names.length findings.entries >>= fun _ =>
          pure findings.status := by
  rw [performValue, hresolve, compute_ok_bind, hread, compute_ok_bind,
    List.isEmpty_eq_false_iff.mpr hne]
  rfl

variable (complete : ∀ value, encode value = .ok value.pretty)

include complete

theorem outcome_performValue (items : List String) :
    (c.performValue encode files path type items).outcome =
      c.runValue files path type items := by
  cases hresolve : c.resolver.resolve files c.paths with
  | error e =>
    rw [performValue, runValue, hresolve]
    exact outcome_error e []
  | ok names =>
    by_cases hne : names = []
    · subst hne
      rw [performValue, runValue, hresolve]
      rfl
    cases hread : items.mapM readAssignment with
    | error e =>
      rw [performValue, runValue, hresolve, hread, compute_ok_bind,
        List.isEmpty_eq_false_iff.mpr hne]
      cases names with
      | nil => exact absurd rfl hne
      | cons file rest => exact outcome_error e []
    | ok assignments =>
      rw [performValue_of_names hresolve hne hread]
      cases hask : askEach (c.answerOf files path type assignments) names with
      | mk answers failure =>
        rw [foldlM_findValue hask]
        cases failure with
        | some e =>
          rw [runValue_of_failure hresolve hne hread hask]
          exact outcome_error e _
        | none =>
          have hlength : (valuesOf answers).length ≤ names.length :=
            length_of_askEach hask ▸ List.length_filterMap_le _ answers
          have hempty := Sorted.isEmpty_ofList (valuesOf answers)
          rw [runValue_of_answers hresolve hne hread hask, report]
          by_cases hvalues : (valuesOf answers).isEmpty = true
          · rw [if_pos hvalues]
            exact prints_pure.outcome (if_pos (hempty.trans hvalues))
          · rw [if_neg hvalues]
            exact (prints_printEntries complete c.format hlength).outcome
              (if_neg (hempty ▸ hvalues))

theorem outcome_performNodes (filter : String) :
    (c.performNodes encode files filter).outcome = c.runNodes files filter := by
  unfold performNodes runNodes
  cases hresolve : c.resolver.resolve files c.paths with
  | error e => exact outcome_error e []
  | ok names =>
    rw [compute_ok_bind]
    dsimp only
    cases hask : c.askLabels files (·.nodesAt filter) names with
    | mk answers failure =>
      rw [foldlM_findLabels false hask]
      cases failure with
      | some e => exact outcome_error e []
      | none =>
        have hlength : (labelLists false answers).length ≤ names.length :=
          length_of_askEach hask ▸ length_labelLists_le false answers
        have hempty : (Sorted.ofList (labelLists false answers)).isEmpty =
            (answers.filter fun (_, labels) => !labels.isEmpty).isEmpty := by
          rw [Sorted.isEmpty_ofList, labelLists, List.isEmpty_map]
          rfl
        dsimp only
        split
        · next hnone => exact prints_pure.outcome (if_pos (hempty.trans hnone))
        · next hsome =>
          exact (prints_printEntries complete c.format hlength).outcome
            (if_neg (hempty ▸ hsome))

theorem outcome_performGroups (namePattern : Option String) :
    (c.performGroups encode files namePattern).outcome = c.runGroups files namePattern := by
  unfold performGroups runGroups
  cases namePattern.mapM Pattern.parse with
  | error fault => exact outcome_error .badPattern []
  | ok pattern =>
    show (compute (.ok pattern) >>= _).outcome = _
    rw [compute_ok_bind]
    cases hresolve : c.resolver.resolve files c.paths with
    | error e => exact outcome_error e []
    | ok names =>
      rw [compute_ok_bind]
      dsimp only
      cases hask : c.askLabels files (selectNamed pattern) names with
      | mk answers failure =>
        rw [foldlM_findLabels true hask]
        cases failure with
        | some e => exact outcome_error e []
        | none =>
          have hlength : (labelLists true answers).length ≤ names.length :=
            length_of_askEach hask ▸ length_labelLists_le true answers
          have hall : labelLists true answers =
              answers.map fun (file, labels) => (file, .array (labels.map .string)) :=
            congrArg (List.map _) (List.filter_eq_self.mpr fun _ _ => rfl)
          have hprints := prints_printEntries complete c.format hlength
          dsimp only
          rw [printLabels, ← hall]
          exact hprints.outcome rfl

/-- A command that is performed comes to what the command comes to. -/
theorem outcome_perform (c : Command) (files : Files) :
    (c.perform encode files).outcome = c.run files := by
  unfold perform run
  cases c.question with
  | value path type items => exact outcome_performValue complete items
  | nodes filter => exact outcome_performNodes complete filter
  | groups namePattern => exact outcome_performGroups complete namePattern

end

end Command

end Settings
