import Settings.Document
import Settings.Files.Tree
import Settings.FrontMatter
import Settings.Text.Utf8
import Settings.Yaml.Composition
/-!
# Loading

A document is made of a mapping. At the top every entry is a group, or a run of groups of one name
if it is a list of mappings:

    server:                    a group
      _meta: role: primary     its metadata
      port: 8080               a scalar field
      hosts: [a, b]            an array field
      tls:                     a child group
        enabled: true
    worker:                    two groups of one name
      - id: 1
      - id: 2

Tags around values make no difference. Markdown files are read for the data that they open with.
-/

namespace Settings

/-- How documents are loaded. -/
structure Loader where
  /-- The key whose entries become the metadata of a group. -/
  metaKey : String := "_meta"
  /-- Whether the keys of metadata are put in lowercase, as filters expect. -/
  lowercaseMetaKeys : Bool := true
  /-- The greatest size of a file in bytes, if there is a limit. -/
  maxFileSize : Option Nat := some (10 * 1024 * 1024)
  /-- The options of the documents that are made. -/
  document : Options := {}
  deriving Repr, Inhabited

namespace Loader

open Yaml (Value)

/-- What is wrong with the shape of data. -/
inductive ShapeFault
  | rootKind (kind : String)
  | topLevelKind (name kind : String)
  | keyKind (description : String)
  | mixedList (name : String)
  | metaKind (metaKey group : String)
  | metaValueKind (key group : String)
  deriving DecidableEq, Repr

def ShapeFault.message : ShapeFault → String
  | rootKind kind => "Expected mapping or null, found " ++ kind
  | topLevelKind name kind =>
    "top-level entry '" ++ name ++ "' must be a mapping or a list of mappings, found " ++ kind
  | keyKind description => "Non-string key found: " ++ description
  | mixedList name => "list '" ++ name ++ "' mixes scalars with nested values"
  | metaKind metaKey group => "'" ++ metaKey ++ "' of group '" ++ group ++ "' must be a mapping"
  | metaValueKind key group =>
    "metadata '" ++ key ++ "' of group '" ++ group ++ "' must be a scalar"

/-- The text of a key, which has to be a string. -/
def keyText (key : Value) : Except ShapeFault String :=
  match key.asString? with
  | some s => .ok s
  | none => .error (.keyKind key.describe)

/-- Whether a list is a run of groups: it is not empty, and every item is a mapping, tagged or not.
-/
def isGroupRun (items : List Value) : Bool := !items.isEmpty && items.all Value.isMapping

/-! ## Metadata -/

/-- The entry of metadata that an entry of a mapping makes. -/
def metaEntry (l : Loader) (group : String) (entry : Value × Value) :
    Except ShapeFault (String × String) := do
  let key ← keyText entry.1
  let key := if l.lowercaseMetaKeys then Text.lowercase key else key
  match entry.2.untagged.scalarText? with
  | some text => .ok (key, text)
  | none => .error (.metaValueKind key group)

/-- The value under the key of metadata; a key with a tag does not count. -/
def metaValue? (l : Loader) : List (Value × Value) → Option Value
  | [] => none
  | (key, value) :: rest =>
    match key with
    | .string s => if s = l.metaKey then some value else l.metaValue? rest
    | _ => l.metaValue? rest

/-- The metadata of a group. -/
def metadata (l : Loader) (group : String) (entries : List (Value × Value)) :
    Except ShapeFault Metadata :=
  match (l.metaValue? entries).map Value.untagged with
  | none => .ok .empty
  | some (.mapping entries) => (entries.mapM (l.metaEntry group)).map Metadata.ofList
  | some _ => .error (.metaKind l.metaKey group)

/-! ## Groups -/

/-- Appends the items of a list of scalars to a field. -/
def addItems (name : String) (g : Group) : List Value → Except ShapeFault Group
  | [] => .ok g
  | item :: rest =>
    match item.untagged.scalarText? with
    | some text => addItems name (g.appendItem name ⟨text⟩) rest
    | none => .error (.mixedList name)

mutual

/-- Adds to a group what the entries of a mapping say, except for its metadata. -/
def addEntries (l : Loader) (g : Group) : List (Value × Value) → Except ShapeFault Group
  | [] => .ok g
  | (key, value) :: rest => do
    let name ← keyText key
    let g ← if name = l.metaKey then .ok g else addEntry l name g value
    addEntries l g rest

/-- Adds to a group what one entry says: a child group or a run of them, an array or a scalar. -/
def addEntry (l : Loader) (name : String) (g : Group) : Value → Except ShapeFault Group
  | .tagged _ value => addEntry l name g value
  | .mapping entries => do
    let metadata ← l.metadata name entries
    return g.addChild (← addEntries l { Group.named name with metadata } entries)
  | .sequence [] => .ok (g.insertField name (.array []))
  | .sequence (item :: rest) =>
    if isGroupRun (item :: rest) then addChildren l name g (item :: rest)
    else addItems name g (item :: rest)
  | scalar => .ok (g.assign name ⟨scalar.scalarText?.getD ""⟩)

/-- Adds a run of child groups. -/
def addChildren (l : Loader) (name : String) (g : Group) : List Value → Except ShapeFault Group
  | [] => .ok g
  | item :: rest => do
    let g ← addChild l name g item
    addChildren l name g rest

/-- Adds a child group that is an item of a run. -/
def addChild (l : Loader) (name : String) (g : Group) : Value → Except ShapeFault Group
  | .tagged _ value => addChild l name g value
  | .mapping entries => do
    let metadata ← l.metadata name entries
    return g.addChild (← addEntries l { Group.named name with metadata } entries)
  | _ => .ok g

end

/-- Makes a group of a mapping. -/
def group (l : Loader) (name : String) (entries : List (Value × Value)) :
    Except ShapeFault Group := do
  let metadata ← l.metadata name entries
  addEntries l { Group.named name with metadata } entries

/-- The groups of an item of a run at the top. -/
def itemGroups (l : Loader) (name : String) (item : Value) : Except ShapeFault (List Group) :=
  match item.untagged with
  | .mapping entries => (l.group name entries).map ([·])
  | _ => .ok []

/-- The groups that an entry at the top makes. -/
def topLevelGroups (l : Loader) (entry : Value × Value) : Except ShapeFault (List Group) := do
  let name ← keyText entry.1
  match entry.2.untagged with
  | .mapping entries => (l.group name entries).map ([·])
  | .null => .ok [Group.named name]
  | .sequence items =>
    if isGroupRun items then (items.mapM (l.itemGroups name)).map List.flatten
    else .error (.topLevelKind name "list")
  | other => .error (.topLevelKind name other.kind)

/-- The groups that data make. -/
def groups (l : Loader) (root : Value) : Except ShapeFault (List Group) :=
  match root.untagged with
  | .mapping entries => (entries.mapM l.topLevelGroups).map List.flatten
  | .null => .ok []
  | other => .error (.rootKind other.kind)

/-! ## Documents -/

/-- Makes a document of data from a source. -/
def build (l : Loader) (source : String) (root : Value) : Except Error Document :=
  match l.groups root with
  | .ok groups => .ok ({ groups, options := l.document : Document }.flagRepeats)
  | .error fault => .error (.invalidSource source fault.message)

/-- A document without groups. -/
def emptyDocument (l : Loader) : Document := { options := l.document }

/-- Loads a text. A blank text makes a document without groups. -/
def loadNamed (l : Loader) (source text : String) : Except Error Document :=
  let chars := text.toList
  if chars.all Text.isBlank then .ok l.emptyDocument
  else
    match Yaml.parse chars with
    | .ok root => l.build source root
    | .error _ => .error .notYaml

def loadString (l : Loader) (text : String) : Except Error Document := l.loadNamed "<string>" text

/-- Loads bytes that should be a text. -/
def loadBytes (l : Loader) (bytes : ByteArray) : Except Error Document :=
  match Text.decodeUtf8 bytes with
  | .ok text => l.loadNamed "<bytes>" text
  | .error fault => .error (.invalidSource "<bytes>" fault.message)

/-- Loads the data that a text opens with. -/
def loadFrontMatter (l : Loader) (source text : String) : Except Error Document :=
  let chars := text.toList
  if ['-', '-', '-'].isPrefixOf (Text.trimLeft chars) then l.build source (FrontMatter.data chars)
  else .ok l.emptyDocument

/-- Loads a file. -/
def loadFile (l : Loader) (files : Files) (path : String) : Except Error Document :=
  match files.at? path with
  | none => .error (.fileNotFound path)
  | some (.directory _) => .error (.invalidSource path "not a regular file")
  | some (.file content) =>
    match l.maxFileSize.filter (· < content.size) with
    | some limit =>
      .error (.validation ("File too large: " ++ Number.natText content.size ++ " bytes (limit: " ++
        Number.natText limit ++ " bytes)"))
    | none =>
      match Text.decodeUtf8 content with
      | .error _ => .error .unreadable
      | .ok text =>
        if Path.isMarkdown path then l.loadFrontMatter path text else l.loadNamed path text

end Loader

/-- The scalar at an address in a file, loaded with the default settings. An address that leads
nowhere gives nothing. -/
def valueInFile (files : Files) (path address : String) : Except Error (Option String) := do
  let d ← ({} : Loader).loadFile files path
  match (d.queryString address).1 with
  | .ok text => .ok (some text)
  | .error e => if e.isMiss then .ok none else .error e

end Settings
