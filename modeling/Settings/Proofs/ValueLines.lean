import Settings.Proofs.Accounting
/-!
# Values on lines

As text, the value of a file is printed in one of two ways. Where it is the only file, the texts of
a list are joined with line feeds and printed. Where there are several, what has been joined is cut
into lines again, and these are printed with an indent below the name of the file. Cutting undoes
joining (`Text.lines_intercalate`), but for one case: an empty text at the end has been joined to
nothing behind its line feed, and so it is no line.

`Invocation.prints_values_on_lines` says what becomes of whole command lines. Both ways print the
same lines, one for each text and in order, unless the last text is empty; that one is left out
below the name of a file.
-/

namespace Settings

/-! ## Joining and cutting -/

namespace Text

variable {texts : List String}

/-- A text that can stand on a line: there is no line feed in it, and no carriage return. -/
def OneLine (s : String) : Prop := '\n' ∉ s.toList ∧ '\r' ∉ s.toList

instance (s : String) : Decidable (OneLine s) := inferInstanceAs (Decidable (_ ∧ _))

theorem OneLine.append {s t : String} (hs : OneLine s) (ht : OneLine t) : OneLine (s ++ t) := by
  obtain ⟨hfeed, hreturn⟩ := hs
  obtain ⟨hfeed', hreturn'⟩ := ht
  constructor <;> simp [*]

theorem dropReturn_of_not_mem {line : List Char} (h : '\r' ∉ line) : dropReturn line = line := by
  have hlast : line.getLast? ≠ some '\r' := fun hlast => h (List.mem_of_getLast? hlast)
  rw [dropReturn, stripLast?, if_neg hlast]
  rfl

/-- Pieces are lines, but for an empty one at the end. -/
theorem linesOfPieces_eq {parts : List (List Char)} (h : ∀ p ∈ parts, '\r' ∉ p) :
    linesOfPieces parts = if parts.getLast? = some [] then parts.dropLast else parts := by
  induction parts with
  | nil => rfl
  | cons p rest ih =>
    obtain ⟨hp, hrest⟩ := List.forall_mem_cons.mp h
    cases rest with
    | nil => cases p <;> rfl
    | cons q others =>
      -- this piece is not the last one, so it is a line even if it is empty
      rw [linesOfPieces, dropReturn_of_not_mem hp, ih hrest, List.getLast?_cons_cons,
        List.dropLast_cons_cons]
      · split <;> rfl
      · exact List.cons_ne_nil _ _

/-- Texts, less the last one if it is empty. -/
def withoutEmptyEnd (texts : List String) : List String :=
  if texts.getLast? = some "" then texts.dropLast else texts

theorem withoutEmptyEnd_concat (texts : List String) : withoutEmptyEnd (texts ++ [""]) = texts := by
  simp [withoutEmptyEnd]

theorem withoutEmptyEnd_eq_self_iff : withoutEmptyEnd texts = texts ↔ texts.getLast? ≠ some "" := by
  unfold withoutEmptyEnd
  by_cases hlast : texts.getLast? = some ""
  · obtain ⟨front, rfl⟩ := List.getLast?_eq_some_iff.mp hlast
    simp
  · simp [hlast]

/-- **Cutting what has been joined.** The lines are the texts, but for an empty one at the end. -/
theorem lines_intercalate (hne : texts ≠ []) (h : ∀ t ∈ texts, OneLine t) :
    lines ("\n".intercalate texts).toList = (withoutEmptyEnd texts).map String.toList := by
  have hfeed : ∀ p ∈ texts.map String.toList, '\n' ∉ p := by
    intro p hp
    obtain ⟨t, ht, rfl⟩ := List.mem_map.mp hp
    exact (h t ht).1
  have hreturn : ∀ p ∈ texts.map String.toList, '\r' ∉ p := by
    intro p hp
    obtain ⟨t, ht, rfl⟩ := List.mem_map.mp hp
    exact (h t ht).2
  have hpieces : pieces '\n' ("\n".intercalate texts).toList = texts.map String.toList := by
    rw [String.toList_intercalate]
    exact pieces_intercalate hfeed (mt List.map_eq_nil_iff.mp hne)
  have hlast : (texts.map String.toList).getLast? = some [] ↔ texts.getLast? = some "" := by
    rw [List.getLast?_map]
    cases texts.getLast? <;> simp
  rw [lines, hpieces, linesOfPieces_eq hreturn, withoutEmptyEnd]
  simp only [hlast]
  split
  · rw [List.map_dropLast]
  · rfl

end Text

/-! ## Texts on lines -/

/-- Texts with an indent, each on a line of its own. -/
def asLines (indent : String) (texts : List String) : String :=
  String.join (texts.map fun t => asLine (indent ++ t))

/-- It is as if an empty text had been joined to the others. -/
theorem asLines_eq_intercalate (indent : String) (texts : List String) :
    asLines indent texts = "\n".intercalate (texts.map (indent ++ ·) ++ [""]) := by
  induction texts with
  | nil => rfl
  | cons t rest ih =>
    have hne : rest.map (indent ++ ·) ++ [""] ≠ [] := by simp
    rw [List.map_cons, List.cons_append, String.intercalate_cons_of_ne_nil hne, ← ih]
    unfold asLines
    rw [List.map_cons, String.join_cons]
    rfl

/-- The lines of texts on lines are the texts, with the indent. -/
theorem lines_asLines {indent : String} {texts : List String} (hindent : Text.OneLine indent)
    (h : ∀ t ∈ texts, Text.OneLine t) :
    Text.lines (asLines indent texts).toList = texts.map fun t => (indent ++ t).toList := by
  -- the empty text that is joined to the others is the one that is no line
  have hempty : Text.OneLine "" := by decide
  have hlines : ∀ t ∈ texts.map (indent ++ ·) ++ [""], Text.OneLine t := by
    intro t ht
    rcases List.mem_append.mp ht with ht | ht
    · obtain ⟨s, hs, rfl⟩ := List.mem_map.mp ht
      exact hindent.append (h s hs)
    · exact List.mem_singleton.mp ht ▸ hempty
  rw [asLines_eq_intercalate, Text.lines_intercalate (by simp) hlines,
    Text.withoutEmptyEnd_concat, List.map_map]
  rfl

/-- So it can be seen which texts stand there. -/
theorem asLines_inj {indent : String} {texts texts' : List String} (hindent : Text.OneLine indent)
    (h : ∀ t ∈ texts, Text.OneLine t) (h' : ∀ t ∈ texts', Text.OneLine t) :
    asLines indent texts = asLines indent texts' ↔ texts = texts' := by
  constructor
  · intro heq
    have hlines : Text.lines (asLines indent texts).toList =
        Text.lines (asLines indent texts').toList := by rw [heq]
    rw [lines_asLines hindent h, lines_asLines hindent h'] at hlines
    refine List.map_injective_iff.mpr ?_ hlines
    intro s t hst
    have hlist : s.toList = t.toList := by simpa using hst
    exact String.toList_inj.mp hlist
  · rintro rfl
    rfl

/-! ## The part of a file -/

namespace Json

theorem plainAll_map_string (texts : List String) : plainAll (texts.map .string) = texts := by
  induction texts with
  | nil => rfl
  | cons t rest ih => rw [List.map_cons, plainAll, plain, ih]

theorem plain_strings (texts : List String) :
    plain (.array (texts.map .string)) = "\n".intercalate texts := by
  rw [plain, plainAll_map_string]

end Json

/-- What is printed for a file if so many are asked: its value alone, or the lines of it under its
name. -/
def filePart (count : Nat) (file : String) (value : Json) : String :=
  if count = 1 then asLine value.plain else keyedText file value

section

variable {count : Nat} {texts : List String}

/-- On its own, the texts of a list stand on lines. -/
theorem filePart_one (file : String) (hne : texts ≠ []) :
    filePart 1 file (.array (texts.map .string)) = asLines "" texts := by
  rw [filePart, if_pos rfl, Json.plain_strings, asLines_eq_intercalate,
    String.intercalate_append_of_ne_nil (mt List.map_eq_nil_iff.mp hne) (List.cons_ne_nil _ _)]
  simp [asLine]

/-- Under a name they do so too, but for an empty one at the end. -/
theorem filePart_of_ne_one (hcount : count ≠ 1) (file : String) (hne : texts ≠ [])
    (h : ∀ t ∈ texts, Text.OneLine t) :
    filePart count file (.array (texts.map .string)) =
      asLine (file ++ ":") ++ asLines "  " (Text.withoutEmptyEnd texts) := by
  rw [filePart, if_neg hcount, keyedText, Json.plain_strings, Text.lines_intercalate hne h, asLines,
    List.map_map]
  simp [Function.comp_def]

/-- Which is all of them exactly if there is none such. -/
theorem filePart_eq_iff (hcount : count ≠ 1) (file : String) (hne : texts ≠ [])
    (h : ∀ t ∈ texts, Text.OneLine t) :
    filePart count file (.array (texts.map .string)) =
      asLine (file ++ ":") ++ asLines "  " texts ↔ texts.getLast? ≠ some "" := by
  have hsome : ∀ t ∈ Text.withoutEmptyEnd texts, Text.OneLine t := by
    intro t ht
    unfold Text.withoutEmptyEnd at ht
    split at ht
    · exact h t (List.dropLast_subset _ ht)
    · exact h t ht
  rw [filePart_of_ne_one hcount file hne h, String.append_right_inj,
    asLines_inj (by decide) hsome h, Text.withoutEmptyEnd_eq_self_iff]

end

/-- Answers are printed file by file, in the order of the bytes of their names. -/
theorem printAnswers_text {names : List String} (hnodup : names.Nodup) (value : String → Json) :
    ∃ order : List String, order.Perm names ∧
      order.Pairwise (fun x y => Text.bytes x < Text.bytes y) ∧
      printAnswers .text names.length (names.map fun file => (file, value file)) =
        String.join (order.map fun file => filePart names.length file (value file)) := by
  let entries := names.map fun file => (file, value file)
  have hkeys : entries.map Prod.fst = names := by
    rw [List.map_map]
    exact List.map_id names
  by_cases hone : names.length = 1
  · obtain ⟨file, rfl⟩ := List.length_eq_one_iff.mp hone
    refine ⟨[file], .refl _, List.pairwise_singleton _ _, ?_⟩
    rw [List.map_singleton, List.map_singleton, List.length_singleton,
      Command.printAnswers_one]
    simp [filePart, Json.text]
  · have hperm : (Sorted.ofList entries).Perm entries := Sorted.ofList_perm (hkeys.symm ▸ hnodup)
    -- the entries are the given ones, so each name still has its own value
    have hvalue : ∀ x ∈ Sorted.ofList entries, x.2 = value x.1 := by
      intro x hx
      obtain ⟨file, -, rfl⟩ := List.mem_map.mp (hperm.mem_iff.mp hx)
      rfl
    refine ⟨(Sorted.ofList entries).map Prod.fst, hkeys ▸ hperm.map Prod.fst, ?_, ?_⟩
    · exact List.pairwise_map.mpr ((Sorted.increasing_ofList entries).imp Text.bytes_lt_of_lt)
    · rw [printAnswers, if_neg hone, List.map_map]
      refine congrArg String.join (List.map_congr_left fun x hx => ?_)
      show keyedText x.1 x.2 = filePart names.length x.1 (value x.1)
      rw [hvalue x hx, filePart, if_neg hone]

/-! ## Whole command lines -/

/-- What is printed for what an address leads to, if no type is asked for. -/
def Found.untyped : Found → Json
  | .value (.scalar s) => .string s.text
  | .value (.array items) => .array ((items.map Scalar.text).map .string)
  | .group g => g.summary

theorem Found.rendered_none (found : Found) : found.rendered none = .ok found.untyped := by
  rcases found with (s | items) | g
  · rfl
  · have hitems : items.mapM (Scalar.rendered none) =
        .ok ((items.map Scalar.text).map .string) := by
      rw [mapM_eq_ok_iff, List.map_map, List.map_map]
      rfl
    rw [rendered, hitems]
    rfl
  · rfl

namespace Command

variable {c : Command} {files : Files} {path : String} {assignments : List (String × Scalar)}

/-- What an address leads to in a file that is loaded and assigned to. -/
def foundIn (c : Command) (files : Files) (path : String) (assignments : List (String × Scalar))
    (file : String) : Except Error (Except Miss Found) := do
  let d ← (← c.loader.loadFile files file).assignAll assignments
  .ok (d.query path).1

/-- It is answered as it is. -/
theorem answerOf_of_foundIn {file : String} {found : Found}
    (h : c.foundIn files path assignments file = .ok (.ok found)) :
    c.answerOf files path none assignments file = .ok (.ok found.untyped) := by
  obtain ⟨d, hload, hasked⟩ := bind_eq_ok_iff.mp h
  obtain ⟨after, hset, hfound⟩ := bind_eq_ok_iff.mp hasked
  refine bind_eq_ok_iff.mpr ⟨d, hload, bind_eq_ok_iff.mpr ⟨after, hset, ?_⟩⟩
  rw [Except.ok.inj hfound]
  dsimp only
  rw [found.rendered_none]
  rfl

end Command

namespace Invocation

variable {i : Invocation} {files : Files} {path : String} {items names : List String}
  {assignments : List (String × Scalar)} {found : String → Found}

/-- Where the address leads somewhere in every file, all that it leads to is printed. -/
theorem run_of_found (asked : i.command.question = .value path none items)
    (resolved : i.command.resolver.resolve files i.command.paths = .ok names)
    (nonempty : names ≠ []) (read : items.mapM readAssignment = .ok assignments)
    (leads : ∀ file ∈ names,
      i.command.foundIn files path assignments file = .ok (.ok (found file))) :
    i.run files =
      { output := printAnswers i.command.format names.length
          (names.map fun file => (file, (found file).untyped)) } := by
  have hask := askEach_of_ok fun file hfile => Command.answerOf_of_foundIn (leads file hfile)
  have hcommand := Command.runValue_of_answers resolved nonempty read hask
  rw [Command.report_of_forall_ok] at hcommand
  · have hvalues : Command.valuesOf
        (names.map fun file => (file, Except.ok (found file).untyped)) =
          names.map fun file => (file, (found file).untyped) := by
      rw [Command.valuesOf, List.filterMap_map]
      exact List.filterMap_eq_map ▸ rfl
    have hrun : i.command.run files = i.command.runValue files path none items := by
      rw [Command.run, asked]
    -- there are no warnings to be left out
    rw [run, hrun, hcommand, hvalues]
    split <;> rfl
  · simpa using nonempty
  · intro x hx
    obtain ⟨file, -, rfl⟩ := List.mem_map.mp hx
    exact ⟨_, rfl⟩

/-- **Values on lines.** Let a command line ask for a value as no type, to be printed as text, and
let the address lead somewhere in each of the files. What is printed are the parts of the files, in
the order of the bytes of their names. Where the address leads to a list in a file, with texts that
can stand on lines, the part of that file is as follows. If it is the only one, there is a line for
each text, in order. If there are several, the name of the file is on a line, and below it, with an
indent, the same lines, but for that of an empty text at the end. So the lines of both ways are the
same exactly if the last text is not empty. -/
theorem prints_values_on_lines (asked : i.command.question = .value path none items)
    (plain : i.command.format = .text)
    (resolved : i.command.resolver.resolve files i.command.paths = .ok names)
    (nonempty : names ≠ []) (read : items.mapM readAssignment = .ok assignments)
    (leads : ∀ file ∈ names,
      i.command.foundIn files path assignments file = .ok (.ok (found file))) :
    (∃ order : List String, order.Perm names ∧
      order.Pairwise (fun x y => Text.bytes x < Text.bytes y) ∧
      i.run files =
        { output := String.join
            (order.map fun file => filePart names.length file (found file).untyped) }) ∧
    ∀ file ∈ names, ∀ values, found file = .value (.array values) → values ≠ [] →
      (∀ s ∈ values, Text.OneLine s.text) →
        (names.length = 1 →
          filePart names.length file (found file).untyped =
            asLines "" (values.map Scalar.text)) ∧
        (names.length ≠ 1 →
          filePart names.length file (found file).untyped =
            asLine (file ++ ":") ++
              asLines "  " (Text.withoutEmptyEnd (values.map Scalar.text)) ∧
          (filePart names.length file (found file).untyped =
            asLine (file ++ ":") ++ asLines "  " (values.map Scalar.text) ↔
              (values.map Scalar.text).getLast? ≠ some "")) := by
  constructor
  · have hnodup := Resolver.nodup_of_resolve resolved
    obtain ⟨order, hperm, hsorted, hprinted⟩ :=
      printAnswers_text hnodup fun file => (found file).untyped
    refine ⟨order, hperm, hsorted, ?_⟩
    rw [run_of_found asked resolved nonempty read leads, plain, hprinted]
  · intro file _ values hfound hvalues hline
    have hne : values.map Scalar.text ≠ [] := mt List.map_eq_nil_iff.mp hvalues
    have hlines : ∀ t ∈ values.map Scalar.text, Text.OneLine t := by
      intro t ht
      obtain ⟨s, hs, rfl⟩ := List.mem_map.mp ht
      exact hline s hs
    rw [hfound]
    refine ⟨fun hone => ?_, fun hmany => ⟨?_, ?_⟩⟩
    · rw [hone]
      exact filePart_one file hne
    · exact filePart_of_ne_one hmany file hne hlines
    · exact filePart_eq_iff hmany file hne hlines

/-- Two files with a list, in one of which it ends with an empty text, and in one begins with it. -/
def emptyEnds : Files where
  working := .directory
    [("a.yaml", .file "g:\n  f: [x, '']\n".toUTF8), ("b.yaml", .file "g:\n  f: ['', y]\n".toUTF8)]

/-- Both files are asked for the list. -/
def askingEmptyEnds : Invocation where
  command := { question := .value "g.f" none [], paths := ["a.yaml", "b.yaml"] }
  quiet := false

/-- What it is in each of them. -/
def listInEmptyEnds : String → List Scalar
  | "a.yaml" => [⟨"x"⟩, ⟨""⟩]
  | _ => [⟨""⟩, ⟨"y"⟩]

theorem resolve_emptyEnds :
    askingEmptyEnds.command.resolver.resolve emptyEnds askingEmptyEnds.command.paths =
      .ok ["a.yaml", "b.yaml"] := by
  refine Resolver.resolve_of_files ?_ ?_
  · exact List.forall_mem_cons.mpr ⟨⟨_, rfl⟩, List.forall_mem_singleton.mpr ⟨_, rfl⟩⟩
  · decide +kernel

/-- What is found is a list if it has the members of it. -/
theorem found_eq_of_decide {found : Except Error (Except Miss Found)} {values : List Scalar}
    (h : (match found with
      | .ok (.ok (.value (.array values'))) => decide (values' = values)
      | _ => false) = true) : found = .ok (.ok (.value (.array values))) := by
  split at h
  · rw [of_decide_eq_true h]
  · cases h

theorem foundIn_emptyEnds : ∀ file ∈ ["a.yaml", "b.yaml"],
    askingEmptyEnds.command.foundIn emptyEnds "g.f" [] file =
      .ok (.ok (.value (.array (listInEmptyEnds file)))) := by
  refine List.forall_mem_cons.mpr ⟨found_eq_of_decide ?_,
    List.forall_mem_singleton.mpr (found_eq_of_decide ?_)⟩
  all_goals decide +kernel

/-- The empty text is left out where it is the last one, and only there. -/
theorem prints_values_on_lines_empty_ends :
    filePart 2 "a.yaml" (.array [.string "x", .string ""]) =
      asLine "a.yaml:" ++ asLines "  " ["x"] ∧
    filePart 2 "b.yaml" (.array [.string "", .string "y"]) =
      asLine "b.yaml:" ++ asLines "  " ["", "y"] ∧
    ∃ order : List String, order.Perm ["a.yaml", "b.yaml"] ∧
      order.Pairwise (fun x y => Text.bytes x < Text.bytes y) ∧
      askingEmptyEnds.run emptyEnds =
        { output := String.join (order.map fun file =>
            filePart 2 file (Found.value (.array (listInEmptyEnds file))).untyped) } := by
  obtain ⟨hrun, hparts⟩ := prints_values_on_lines rfl rfl resolve_emptyEnds
    (List.cons_ne_nil _ _) rfl foundIn_emptyEnds
  have hlines : ∀ file ∈ ["a.yaml", "b.yaml"], ∀ s ∈ listInEmptyEnds file,
      Text.OneLine s.text := by decide
  have hmany : ["a.yaml", "b.yaml"].length ≠ 1 := by decide
  have hfirst := hparts "a.yaml" (by decide) _ rfl (by decide) (hlines _ (by decide))
  have hsecond := hparts "b.yaml" (by decide) _ rfl (by decide) (hlines _ (by decide))
  exact ⟨(hfirst.2 hmany).1, (hsecond.2 hmany).2.mpr (by decide), hrun⟩

/-- There is no line for the last text of the first file among several, though there is one if that
file is the only one. -/
theorem empty_end_is_not_printed :
    askingEmptyEnds.command.foundIn emptyEnds "g.f" [] "a.yaml" =
      .ok (.ok (.value (.array [⟨"x"⟩, ⟨""⟩]))) ∧
    ((askingEmptyEnds.alone "a.yaml").run emptyEnds).output = asLines "" ["x", ""] ∧
    (askingEmptyEnds.run emptyEnds).output = "a.yaml:\n  x\nb.yaml:\n  \n  y\n" ∧
    (askingEmptyEnds.run emptyEnds).output ≠
      String.join [asLine "a.yaml:" ++ asLines "  " ["x", ""],
        asLine "b.yaml:" ++ asLines "  " ["", "y"]] := by
  have hrun := run_of_found rfl resolve_emptyEnds (List.cons_ne_nil _ _) rfl foundIn_emptyEnds
  have hfirst := foundIn_emptyEnds "a.yaml" (by decide)
  have hresolve : (askingEmptyEnds.alone "a.yaml").command.resolver.resolve emptyEnds
      (askingEmptyEnds.alone "a.yaml").command.paths = .ok ["a.yaml"] :=
    Resolver.resolve_singleton rfl
  have hleads : ∀ file ∈ ["a.yaml"],
      (askingEmptyEnds.alone "a.yaml").command.foundIn emptyEnds "g.f" [] file =
        .ok (.ok (.value (.array (listInEmptyEnds file)))) :=
    List.forall_mem_singleton.mpr hfirst
  have halone := run_of_found rfl hresolve (List.cons_ne_nil _ _) rfl hleads
  refine ⟨hfirst, ?_, ?_, ?_⟩
  · rw [halone]
    decide +kernel
  · rw [hrun]
    decide +kernel
  · rw [hrun]
    decide +kernel

end Invocation

end Settings
