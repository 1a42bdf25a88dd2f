import Settings.Proofs.Equality
/-!
# Sequences of writes to fields

Three operations write to a field of a group: assigning, inserting and appending. Each of them
changes what stands under one name, by what stood there (`FieldWrite.result`), and nothing else
(`Group.write_eq`). So after any sequence of writes the names stand in the order of their first
writes, and what stands under a name comes of the writes to that name alone.
`Group.fields_after_writes` puts this together.
-/

namespace Settings

/-- A write to a field of a group. -/
inductive FieldWrite
  | assign (name : String) (value : Scalar)
  | insert (name : String) (value : FieldValue)
  | append (name : String) (item : Scalar)
  deriving DecidableEq, Repr

namespace FieldWrite

/-- The name that is written to. -/
def name : FieldWrite → String
  | assign name _ => name
  | insert name _ => name
  | append name _ => name

def isInsert : FieldWrite → Bool
  | insert _ _ => true
  | _ => false

/-- What stands under the name after a write, by what stood there before. -/
def result : FieldWrite → Option FieldValue → FieldValue
  | assign _ value, some (.array _) => .array [value]
  | assign _ value, _ => .scalar value
  | insert _ value, _ => value
  | append _ item, some (.array items) => .array (items ++ [item])
  | append _ item, _ => .array [item]

/-- What stands under a name after writes to it, by what stood there before. -/
def resultAll (writes : List FieldWrite) (old : Option FieldValue) : Option FieldValue :=
  writes.foldl (fun value w => some (w.result value)) old

variable {w : FieldWrite} {writes : List FieldWrite} {items : List Scalar}

theorem resultAll_cons (w : FieldWrite) (writes : List FieldWrite) (old : Option FieldValue) :
    resultAll (w :: writes) old = resultAll writes (some (w.result old)) := rfl

theorem result_array (h : w.isInsert = false) (items : List Scalar) :
    ∃ items', w.result (some (.array items)) = .array items' := by
  cases w with
  | assign name value => exact ⟨[value], rfl⟩
  | insert name value => cases h
  | append name item => exact ⟨items ++ [item], rfl⟩

/-- Without insertions an array stays an array. -/
theorem resultAll_array (h : ∀ w ∈ writes, w.isInsert = false) :
    ∃ items', resultAll writes (some (.array items)) = some (.array items') := by
  induction writes generalizing items with
  | nil => exact ⟨items, rfl⟩
  | cons w rest ih =>
    obtain ⟨hw, hrest⟩ := List.forall_mem_cons.mp h
    obtain ⟨items', hresult⟩ := result_array hw items
    rw [resultAll_cons, hresult]
    exact ih hrest

end FieldWrite

namespace Group

variable {g : Group} {writes : List FieldWrite} {name : String}

/-- The operation on a group that a write stands for. -/
def write (g : Group) : FieldWrite → Group
  | .assign name value => g.assign name value
  | .insert name value => g.insertField name value
  | .append name item => g.appendItem name item

def writeAll (g : Group) (writes : List FieldWrite) : Group := writes.foldl write g

/-! ## One write -/

theorem write_eq (g : Group) (w : FieldWrite) :
    g.write w = { g with fields := Fields.write w.name w.result g.fields } := by
  cases w with
  | assign name value =>
    have hchange : (fun old : Option FieldValue => (old.getD (.scalar value)).assigned value) =
        (FieldWrite.assign name value).result := by
      funext old
      rcases old with _ | ⟨_ | _⟩ <;> rfl
    rw [write, Group.assign, hchange, FieldWrite.name]
  | insert name value => rfl
  | append name item =>
    have hchange : (fun old : Option FieldValue => (old.getD (.array [])).appended item) =
        (FieldWrite.append name item).result := by
      funext old
      rcases old with _ | ⟨_ | _⟩ <;> rfl
    rw [write, Group.appendItem, hchange, FieldWrite.name]

theorem names_write (g : Group) (w : FieldWrite) :
    (g.write w).fields.entries.map Field.name =
      if w.name ∈ g.fields.entries.map Field.name then g.fields.entries.map Field.name
      else g.fields.entries.map Field.name ++ [w.name] := by
  rw [write_eq]
  exact Field.map_name_writeIn w.name w.result g.fields.entries

theorem field?_write_self (g : Group) (w : FieldWrite) :
    (g.write w).field? w.name = some (w.result (g.field? w.name)) := by
  rw [write_eq]
  exact Fields.find?_write_self w.name w.result g.fields

theorem field?_write_of_ne {w : FieldWrite} (h : w.name ≠ name) (g : Group) :
    (g.write w).field? name = g.field? name := by
  rw [write_eq]
  exact Fields.find?_write_of_ne (Ne.symm h) w.result g.fields

/-! ## Sequences of writes -/

theorem writeAll_cons (g : Group) (w : FieldWrite) (writes : List FieldWrite) :
    g.writeAll (w :: writes) = (g.write w).writeAll writes := rfl

theorem writeAll_append (g : Group) (writes more : List FieldWrite) :
    g.writeAll (writes ++ more) = (g.writeAll writes).writeAll more :=
  List.foldl_append

/-- Writes change nothing of a group but its fields. -/
theorem writeAll_eq (g : Group) (writes : List FieldWrite) :
    g.writeAll writes = { g with fields := (g.writeAll writes).fields } := by
  induction writes generalizing g with
  | nil =>
    cases g
    rfl
  | cons w rest ih =>
    calc g.writeAll (w :: rest)
        = { g.write w with fields := ((g.write w).writeAll rest).fields } := ih (g.write w)
      _ = { g with fields := (g.writeAll (w :: rest)).fields } := by
        rw [write_eq, writeAll_cons, write_eq]

/-- The names that are there stay where they are. After them stand the others that are written to,
in the order of their first writes. -/
theorem names_writeAll (g : Group) (writes : List FieldWrite) :
    (g.writeAll writes).fields.entries.map Field.name =
      g.fields.entries.map Field.name ++
        ((writes.map FieldWrite.name).filter fun name =>
          name ∉ g.fields.entries.map Field.name).eraseDups := by
  induction writes generalizing g with
  | nil => exact (List.append_nil _).symm
  | cons w rest ih =>
    rw [writeAll_cons, ih, names_write, List.map_cons]
    by_cases hw : w.name ∈ g.fields.entries.map Field.name
    · rw [if_pos hw, List.filter_cons_of_neg (by simpa using hw)]
    · rw [if_neg hw, List.filter_cons_of_pos (by simpa using hw), List.eraseDups_cons,
        List.append_assoc, List.singleton_append, List.filter_filter]
      -- a later write to the same name finds it among the names that are there
      congr 4
      funext other
      rw [Bool.eq_iff_iff]
      simp [and_comm]

/-- What stands under a name comes of what stood there and of the writes to that name. -/
theorem field?_writeAll (g : Group) (writes : List FieldWrite) (name : String) :
    (g.writeAll writes).field? name =
      FieldWrite.resultAll (writes.filter fun w => w.name = name) (g.field? name) := by
  induction writes generalizing g with
  | nil => rfl
  | cons w rest ih =>
    rw [writeAll_cons, ih]
    by_cases hw : w.name = name
    · subst hw
      rw [field?_write_self, List.filter_cons_of_pos (by simp), FieldWrite.resultAll_cons]
    · rw [field?_write_of_ne hw, List.filter_cons_of_neg (by simpa using hw)]

/-- **Fields are an ordered map.** Take a group and any sequence of writes to its fields. Afterwards
every name stands once, and under it the value of the field that has it. The names that were there
stay in their places, and the new ones follow in the order of their first writes; so a write to a
name that is there moves none. What stands under a name is made by the writes to that name alone,
one after the other, from what stood there. Only an insertion turns an array into a scalar. The rest
of the group is as before.

That no name stands twice is part of what `Fields` are, so every write has had to keep it
(`Field.nodup_writeIn`). And there is no key beside the name of a field, so that each stands under
its own name lies in the representation and needs no proof. -/
theorem fields_after_writes (g : Group) (writes : List FieldWrite) :
    ((g.writeAll writes).fields.entries.map Field.name).Nodup ∧
    (∀ name value, ⟨name, value⟩ ∈ (g.writeAll writes).fields.entries ↔
      (g.writeAll writes).field? name = some value) ∧
    (g.writeAll writes).fields.entries.map Field.name =
      g.fields.entries.map Field.name ++
        ((writes.map FieldWrite.name).filter fun name =>
          name ∉ g.fields.entries.map Field.name).eraseDups ∧
    (∀ w : FieldWrite, w.name ∈ (g.writeAll writes).fields.entries.map Field.name →
      ((g.writeAll writes).write w).fields.entries.map Field.name =
        (g.writeAll writes).fields.entries.map Field.name) ∧
    (∀ name, (g.writeAll writes).field? name =
      FieldWrite.resultAll (writes.filter fun w => w.name = name) (g.field? name)) ∧
    (∀ more : List FieldWrite, (∀ w ∈ more, w.isInsert = false) →
      ∀ name items, (g.writeAll writes).field? name = some (.array items) →
        ∃ items', (g.writeAll (writes ++ more)).field? name = some (.array items')) ∧
    g.writeAll writes = { g with fields := (g.writeAll writes).fields } := by
  refine ⟨(g.writeAll writes).fields.distinct, ?_, names_writeAll g writes, ?_,
    field?_writeAll g writes, ?_, writeAll_eq g writes⟩
  · intro name value
    constructor
    · exact Fields.find?_of_mem
    · exact Fields.mem_of_find?
  · intro w hw
    rw [names_write, if_pos hw]
  · intro more hmore name items hitems
    rw [writeAll_append, field?_writeAll, hitems]
    exact FieldWrite.resultAll_array fun w hw => hmore w (List.mem_of_mem_filter hw)

/-- A group with an array and a scalar. -/
def hostsAndPort : Group where
  identifier := "server"
  fields := .ofList [⟨"hosts", .array [⟨"a"⟩]⟩, ⟨"port", .scalar ⟨"80"⟩⟩]

/-- Writes to four names in turns. The array becomes a scalar and an array again. -/
def mixedWrites : List FieldWrite :=
  [.assign "hosts" ⟨"b"⟩, .append "role" ⟨"x"⟩, .append "port" ⟨"81"⟩,
    .insert "hosts" (.scalar ⟨"c"⟩), .assign "eu" ⟨"y"⟩, .assign "port" ⟨"82"⟩,
    .append "hosts" ⟨"d"⟩, .append "role" ⟨"z"⟩]

theorem fields_after_mixed_writes :
    ((hostsAndPort.writeAll mixedWrites).fields.entries.map Field.name).Nodup ∧
    (hostsAndPort.writeAll mixedWrites).fields.entries.map Field.name =
      ["hosts", "port", "role", "eu"] ∧
    (hostsAndPort.writeAll mixedWrites).field? "hosts" = some (.array [⟨"d"⟩]) ∧
    (hostsAndPort.writeAll mixedWrites).field? "port" = some (.array [⟨"82"⟩]) ∧
    (hostsAndPort.writeAll mixedWrites).field? "role" = some (.array [⟨"x"⟩, ⟨"z"⟩]) ∧
    (hostsAndPort.writeAll mixedWrites).field? "eu" = some (.scalar ⟨"y"⟩) ∧
    ∃ items, (hostsAndPort.writeAll (mixedWrites ++ [.assign "hosts" ⟨"e"⟩])).field? "hosts" =
      some (.array items) := by
  obtain ⟨hdistinct, -, hnames, -, hvalues, harrays, -⟩ :=
    fields_after_writes hostsAndPort mixedWrites
  have hhosts := hvalues "hosts"
  refine ⟨hdistinct, hnames, hhosts, hvalues "port", hvalues "role", hvalues "eu", ?_⟩
  exact harrays [.assign "hosts" ⟨"e"⟩] (by decide) "hosts" [⟨"d"⟩] hhosts

end Group

end Settings
