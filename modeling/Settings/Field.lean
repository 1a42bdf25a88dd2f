import Settings.Scalar
/-!
# Fields

A field is a named scalar or a named array of scalars. A group keeps its fields in an order in which
each name stands once (`Fields`): writing to a name that is there changes the field in its place,
and writing to a new name puts a field at the end.
-/

namespace Settings

/-- What a field holds. -/
inductive FieldValue
  | scalar (value : Scalar)
  | array (items : List Scalar)
  deriving DecidableEq, Repr, Inhabited

/-- A name and what it stands for. -/
structure Field where
  name : String
  value : FieldValue
  deriving DecidableEq, Repr, Inhabited

namespace FieldValue

def isArray : FieldValue → Bool
  | scalar _ => false
  | array _ => true

/-- The value at an offset: a scalar is the same at every offset, an array without an offset is
meant as a whole, and with one it is the item there. -/
def atOffset (v : FieldValue) (offset : Option Nat) : Except Miss FieldValue :=
  match v, offset with
  | scalar s, _ => .ok (scalar s)
  | array items, none => .ok (array items)
  | array items, some i =>
    match items[i]? with
    | some item => .ok (scalar item)
    | none => .error (.indexOutOfRange i items.length)

/-- Assigning a scalar keeps the mode: an array becomes the array of that one item. -/
def assigned (s : Scalar) : FieldValue → FieldValue
  | scalar _ => scalar s
  | array _ => array [s]

/-- Appending to an array puts the item at its end; a scalar gives way to the array of that item. -/
def appended (s : Scalar) : FieldValue → FieldValue
  | scalar _ => array [s]
  | array items => array (items ++ [s])

end FieldValue

namespace Field

variable {name : String} {fields : List Field} {change : Option FieldValue → FieldValue}

/-- The value under a name in a list of fields. -/
def valueIn? (name : String) : List Field → Option FieldValue
  | [] => none
  | f :: rest => if f.name = name then some f.value else valueIn? name rest

/-- Writes to a name in a list of fields: `change` is given the value that is there, if any. -/
def writeIn (name : String) (change : Option FieldValue → FieldValue) : List Field → List Field
  | [] => [⟨name, change none⟩]
  | f :: rest =>
    if f.name = name then ⟨name, change (some f.value)⟩ :: rest else f :: writeIn name change rest

/-- What is found under a name is the value of a field of that name. -/
theorem mem_of_valueIn? {value : FieldValue} (h : valueIn? name fields = some value) :
    ⟨name, value⟩ ∈ fields := by
  induction fields with
  | nil => cases h
  | cons f rest ih =>
    rw [valueIn?] at h
    by_cases hf : f.name = name
    · rw [if_pos hf] at h
      obtain rfl := Option.some.inj h
      rw [← hf]
      exact List.mem_cons_self
    · rw [if_neg hf] at h
      exact List.mem_cons_of_mem f (ih h)

theorem valueIn?_writeIn_self (name : String) (change : Option FieldValue → FieldValue)
    (fields : List Field) :
    valueIn? name (writeIn name change fields) = some (change (valueIn? name fields)) := by
  induction fields with
  | nil => simp [writeIn, valueIn?]
  | cons f rest ih =>
    by_cases h : f.name = name
    · simp [writeIn, valueIn?, h]
    · simp [writeIn, valueIn?, h, ih]

theorem valueIn?_writeIn_of_ne {other : String} (h : other ≠ name)
    (change : Option FieldValue → FieldValue) (fields : List Field) :
    valueIn? other (writeIn name change fields) = valueIn? other fields := by
  induction fields with
  | nil => simp [writeIn, valueIn?, Ne.symm h]
  | cons f rest ih =>
    by_cases hf : f.name = name
    · simp [writeIn, valueIn?, hf, Ne.symm h]
    · simp [writeIn, valueIn?, hf, ih]

/-- A write leaves the names in their order; a name that was not there comes last. -/
theorem map_name_writeIn (name : String) (change : Option FieldValue → FieldValue)
    (fields : List Field) :
    (writeIn name change fields).map Field.name =
      if name ∈ fields.map Field.name then fields.map Field.name
      else fields.map Field.name ++ [name] := by
  induction fields with
  | nil => rfl
  | cons f rest ih =>
    by_cases hf : f.name = name
    · simp [writeIn, hf]
    · simp only [writeIn, hf, if_false, List.map_cons, ih, List.mem_cons, Ne.symm hf, false_or]
      split <;> rfl

/-- A name that is written to stands once, as the others do. -/
theorem nodup_writeIn (h : (fields.map Field.name).Nodup) :
    ((writeIn name change fields).map Field.name).Nodup := by
  rw [map_name_writeIn]
  by_cases hname : name ∈ fields.map Field.name
  · rw [if_pos hname]
    exact h
  · rw [if_neg hname, (List.perm_append_singleton name _).nodup_iff, List.nodup_cons]
    exact ⟨hname, h⟩

end Field

/-- Fields in an order, no two of which have the same name. So a field is known by its name, and
there is no key beside it. -/
structure Fields where
  entries : List Field
  distinct : (entries.map Field.name).Nodup
  deriving DecidableEq, Repr

namespace Fields

variable {name : String}

/-- No fields. -/
def empty : Fields := ⟨[], List.Pairwise.nil⟩

instance : Inhabited Fields := ⟨empty⟩

/-- The value under a name. -/
def find? (name : String) (fields : Fields) : Option FieldValue :=
  Field.valueIn? name fields.entries

/-- Writes to a name: `change` is given the value that is there, if any. -/
def write (name : String) (change : Option FieldValue → FieldValue) (fields : Fields) : Fields :=
  ⟨Field.writeIn name change fields.entries, Field.nodup_writeIn fields.distinct⟩

/-- Fields from a list; of several of one name the last counts, in the place of the first. -/
def ofList (fields : List Field) : Fields :=
  fields.foldl (fun all f => all.write f.name fun _ => f.value) empty

/-- Whether the same values stand under the same names, in any order. -/
def same (a b : Fields) : Bool :=
  a.entries.length == b.entries.length &&
    a.entries.all fun f => find? f.name b == some f.value

theorem mem_of_find? {value : FieldValue} {fields : Fields}
    (h : find? name fields = some value) : ⟨name, value⟩ ∈ fields.entries :=
  Field.mem_of_valueIn? h

theorem find?_write_self (name : String) (change : Option FieldValue → FieldValue)
    (fields : Fields) :
    find? name (write name change fields) = some (change (find? name fields)) :=
  Field.valueIn?_writeIn_self name change fields.entries

theorem find?_write_of_ne {other : String} (h : other ≠ name)
    (change : Option FieldValue → FieldValue) (fields : Fields) :
    find? other (write name change fields) = find? other fields :=
  Field.valueIn?_writeIn_of_ne h change fields.entries

end Fields

end Settings
