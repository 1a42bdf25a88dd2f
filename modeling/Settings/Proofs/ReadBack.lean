import Settings.Proofs.Contents
import Settings.Proofs.Flags
import Settings.Proofs.Tags
/-!
# Loaded data read back

A walk through data goes from the root over keys, and over positions in runs, to a mapping that
becomes a group (`Loader.Walk`). It spells an address. `Loader.Walk.leads` says that in the document
made of the data this address leads to the group made of that mapping, by induction on the walk: a
step is the selection of a child by its key (`Loader.Enters.selected`), and the entries of a mapping
do not get in each other's way. With the fields of that group, `Loader.query_loaded` reads back all
that the data say.
-/

namespace Settings

/-! ## Plain data -/

namespace Yaml.Value

/-- Whether a key is a string without a tag that an address can hold. -/
def isPlainName : Value → Bool
  | string name => decide (PlainName name)
  | _ => false

mutual

/-- Whether all mappings, at any depth, have plain names for keys, and no key twice. -/
def plainKeys : Value → Bool
  | tagged _ value => plainKeys value
  | sequence items => plainItems items
  | mapping entries => decide (Loader.names entries).Nodup && plainEntries entries
  | _ => true

def plainItems : List Value → Bool
  | [] => true
  | item :: rest => plainKeys item && plainItems rest

def plainEntries : List (Value × Value) → Bool
  | [] => true
  | (key, value) :: rest => isPlainName key && plainKeys value && plainEntries rest

end

theorem plainKeys_untagged : ∀ value : Value, value.untagged.plainKeys = value.plainKeys
  | tagged _ value => by
    rw [untagged, plainKeys]
    exact plainKeys_untagged value
  | null | bool _ | int _ | float _ | string _ | sequence _ | mapping _ => rfl

theorem plainKeys_mapping {entries : List (Value × Value)} :
    (mapping entries).plainKeys = true ↔
      (Loader.names entries).Nodup ∧ plainEntries entries = true := by
  rw [plainKeys, Bool.and_eq_true_iff, decide_eq_true_iff]

theorem plainKeys_of_mem_items {item : Value} {items : List Value} (h : item ∈ items)
    (hplain : plainItems items = true) : item.plainKeys = true := by
  induction items with
  | nil => exact absurd h List.not_mem_nil
  | cons first rest ih =>
    rw [plainItems, Bool.and_eq_true_iff] at hplain
    rcases List.mem_cons.mp h with rfl | hrest
    · exact hplain.1
    · exact ih hrest hplain.2

theorem plain_of_mem_entries {name : String} {value : Value} {entries : List (Value × Value)}
    (h : (string name, value) ∈ entries) (hplain : (mapping entries).plainKeys = true) :
    PlainName name ∧ value.plainKeys = true := by
  have hentries := (plainKeys_mapping.mp hplain).2
  clear hplain
  induction entries with
  | nil => exact absurd h List.not_mem_nil
  | cons first rest ih =>
    obtain ⟨key, other⟩ := first
    rw [plainEntries, Bool.and_eq_true_iff, Bool.and_eq_true_iff] at hentries
    rcases List.mem_cons.mp h with heq | hrest
    · obtain ⟨rfl, rfl⟩ := Prod.mk.inj heq
      exact ⟨of_decide_eq_true hentries.1.1, hentries.1.2⟩
    · exact ih hrest hentries.2

end Yaml.Value

namespace Loader

open Yaml (Value)

variable {l : Loader} {name name' : String} {g : Group} {root value : Value} {s : Segment}
  {entries inner : List (Value × Value)} {outer : List Segment}

/-! ## Walks -/

/-- The ways from an entry into a mapping that becomes a group, with the segment for each. The key
alone stands for a mapping and for the one item of a list; with an offset it stands for an item of a
longer list. Offsets are machine words, and so are positions in lists. -/
inductive Enters (name : String) (value : Value) : Segment → List (Value × Value) → Prop
  | mapping {entries : List (Value × Value)} (hvalue : value.untagged = .mapping entries) :
      Enters name value ⟨name, none⟩ entries
  | only {item : Value} {entries : List (Value × Value)} (hvalue : value.untagged = .sequence [item])
      (hitem : item.untagged = .mapping entries) : Enters name value ⟨name, none⟩ entries
  | item {items : List Value} {j : Nat} {item : Value} {entries : List (Value × Value)}
      (hvalue : value.untagged = .sequence items) (hlength : 2 ≤ items.length)
      (hj : j < Number.offsetBound) (hat : items[j]? = some item)
      (hitem : item.untagged = .mapping entries) : Enters name value ⟨name, some j⟩ entries

/-- The walks through data to the mappings that become groups. A walk has the segments for what it
passes, with the last one apart, and ends at the entries of a mapping. Below the top it never passes
through the entry of the metadata. -/
inductive Walk (l : Loader) (root : Value) :
    List Segment → Segment → List (Value × Value) → Prop
  | top {entries inner : List (Value × Value)} {name : String} {value : Value} {s : Segment}
      (hroot : root.untagged = .mapping entries) (hentry : (.string name, value) ∈ entries)
      (henter : Enters name value s inner) : Walk l root [] s inner
  | deeper {entries inner : List (Value × Value)} {name : String} {value : Value}
      {outer : List Segment} {s t : Segment} (hwalk : Walk l root outer s entries)
      (hentry : (.string name, value) ∈ entries) (hmeta : name ≠ l.metaKey)
      (henter : Enters name value t inner) : Walk l root (outer ++ [s]) t inner

theorem Enters.name_eq (h : Enters name value s entries) : s.name = name := by
  cases h <;> rfl

theorem Enters.wellFormed (h : Enters name value s entries) (hname : PlainName name) :
    s.WellFormed := by
  refine ⟨h.name_eq ▸ hname, fun n hn => ?_⟩
  cases h with
  | mapping => cases hn
  | only => cases hn
  | item hvalue hlength hj hat hitem =>
    cases hn
    exact hj

/-- What is entered is plain if the value is. -/
theorem Enters.plainKeys (h : Enters name value s entries) (hplain : value.plainKeys = true) :
    (Value.mapping entries).plainKeys = true := by
  rw [← Value.plainKeys_untagged] at hplain
  cases h with
  | mapping hvalue =>
    rw [hvalue] at hplain
    exact hplain
  | only hvalue hitem =>
    rw [hvalue, Value.plainKeys] at hplain
    rw [← hitem, Value.plainKeys_untagged]
    exact Value.plainKeys_of_mem_items List.mem_cons_self hplain
  | item hvalue hlength hj hat hitem =>
    rw [hvalue, Value.plainKeys] at hplain
    rw [← hitem, Value.plainKeys_untagged]
    exact Value.plainKeys_of_mem_items (List.mem_of_getElem? hat) hplain

/-- A list with a mapping in it is a run, or else it is refused. -/
theorem isGroupRun_of_rowOf {items : List Value} {item : Value} {row : List Group}
    (h : l.rowOf name value = .ok row) (hvalue : value.untagged = .sequence items)
    (hmem : item ∈ items) (hitem : item.untagged = .mapping entries) :
    isGroupRun items = true := by
  rw [rowOf, hvalue] at h
  dsimp only at h
  by_cases hrun : isGroupRun items = true
  · exact hrun
  · rw [if_neg hrun] at h
    cases htexts : itemTexts? items with
    | none => rw [htexts] at h; cases h
    | some texts =>
      obtain ⟨text, htext⟩ := exists_scalarText?_of_itemTexts? htexts hmem
      rw [hitem] at htext
      cases htext

theorem Enters.untagged_ne_null (h : Enters name value s entries) : value.untagged ≠ .null := by
  cases h with
  | mapping hvalue | only hvalue | item hvalue =>
    rw [hvalue]
    nofun

/-- What is entered is a member of the run, at the place that the segment says. -/
theorem Enters.getElem?_runOf {row : List Group} (h : Enters name value s entries)
    (hrow : l.rowOf name value = .ok row) :
    (∃ item, (runOf value)[s.offset.getD 0]? = some item ∧ item.untagged = .mapping entries) ∧
      s.offset.isSome = decide (2 ≤ (runOf value).length) := by
  cases h with
  | mapping hvalue =>
    rw [runOf_of_mapping hvalue]
    exact ⟨⟨_, rfl, rfl⟩, rfl⟩
  | only hvalue hitem =>
    rw [runOf_of_isGroupRun hvalue (isGroupRun_of_rowOf hrow hvalue List.mem_cons_self hitem)]
    exact ⟨⟨_, rfl, hitem⟩, rfl⟩
  | item hvalue hlength hj hat hitem =>
    have hmem := List.mem_of_getElem? hat
    rw [runOf_of_isGroupRun hvalue (isGroupRun_of_rowOf hrow hvalue hmem hitem)]
    exact ⟨⟨_, hat, hitem⟩, (decide_eq_true hlength).symm⟩

/-- **One step.** In the row of groups that an accepted entry makes, the segment selects the group
made of the mapping that is entered. -/
theorem Enters.selected {row : List Group} (h : Enters name value s entries)
    (hrow : l.rowOf name value = .ok row) :
    ∃ g, l.group name entries = .ok g ∧ row[s.offset.getD 0]? = some g ∧
      s.offset.isSome = decide (2 ≤ row.length) := by
  obtain ⟨⟨item, hat, hitem⟩, hoffset⟩ := h.getElem?_runOf hrow
  have hmakes := makes_of_rowOf hrow
  obtain ⟨g, hg, entries', hentries, hgroup⟩ := exists_getElem?_of_forall₂ hmakes hat
  rw [hitem] at hentries
  cases hentries
  refine ⟨g, hgroup, hg, ?_⟩
  rw [hoffset, hmakes.length_eq]

/-- Below a group made of a mapping, the segment for what an entry leads into selects the group made
of it. -/
theorem Enters.answer {repeated : Bool} (h : Enters name value s inner)
    (hgroup : l.group name' entries = .ok g)
    (hplain : (Value.mapping entries).plainKeys = true) (hentry : (.string name, value) ∈ entries)
    (hmeta : name ≠ l.metaKey) :
    ∃ child, l.group name inner = .ok child ∧ ∀ more,
      (g.flagged repeated).answer (s :: more) = (child.flagged s.offset.isSome).answer more := by
  have hdistinct := (Value.plainKeys_mapping.mp hplain).1
  have hrow := (contents_of_group hgroup hdistinct hentry rfl hmeta).1
  obtain ⟨child, hchild, hat, hoffset⟩ := h.selected hrow
  rw [← h.name_eq] at hat hoffset
  exact ⟨child, hchild, Group.answer_cons_of_row (Group.children_flagged g repeated) hat hoffset⟩

/-- At the top, it selects the group made of that mapping as well. -/
theorem Enters.answer_root {source : String} {d : Document} (h : Enters name value s inner)
    (hbuild : l.build source root = .ok d) (hroot : root.untagged = .mapping entries)
    (hplain : (Value.mapping entries).plainKeys = true) (hentry : (.string name, value) ∈ entries) :
    ∃ child, l.group name inner = .ok child ∧ ∀ more,
      d.root.answer (s :: more) = (child.flagged s.offset.isSome).answer more := by
  obtain ⟨groups, hgroups, hd, -⟩ := groups_of_build hbuild
  obtain ⟨rows, hrows, rfl⟩ := makesRows_of_groups hgroups hroot
  have htop := hrows.contents (Value.plainKeys_mapping.mp hplain).1 hentry rfl
  obtain ⟨name', hname, -, hrow⟩ := row_of_topLevelGroups htop
  cases hname
  obtain ⟨child, hchild, hat, hoffset⟩ := h.selected (hrow h.untagged_ne_null)
  rw [← h.name_eq] at hat hoffset
  exact ⟨child, hchild, Group.answer_cons_of_row hd hat hoffset⟩

/-- **Walks.** A walk through plain data that are accepted ends at a mapping of which a group can be
made, and the segments of the walk lead to that group, with its flags set. -/
theorem Walk.leads {source : String} {d : Document} (h : Walk l root outer s entries)
    (hbuild : l.build source root = .ok d) (hplain : root.plainKeys = true) :
    ∃ g, l.group s.name entries = .ok g ∧ (Value.mapping entries).plainKeys = true ∧
      (∀ t ∈ outer ++ [s], t.WellFormed) ∧
      ∀ more, d.root.answer (outer ++ s :: more) = (g.flagged s.offset.isSome).answer more := by
  -- that the entries reached are plain is what the next step reads them by
  induction h with
  | @top entries inner name value s hroot hentry henter =>
    rw [← Value.plainKeys_untagged, hroot] at hplain
    obtain ⟨g, hg, hanswer⟩ := henter.answer_root hbuild hroot hplain hentry
    obtain ⟨hname, hvalue⟩ := Value.plain_of_mem_entries hentry hplain
    refine ⟨g, henter.name_eq ▸ hg, henter.plainKeys hvalue, ?_, hanswer⟩
    intro t ht
    rw [List.mem_singleton.mp ht]
    exact henter.wellFormed hname
  | @deeper entries inner name value outer s t _ hentry hmeta henter ih =>
    obtain ⟨g, hg, hentries, hsegments, hanswer⟩ := ih
    obtain ⟨child, hchild, hbelow⟩ := henter.answer hg hentries hentry hmeta
    obtain ⟨hname, hvalue⟩ := Value.plain_of_mem_entries hentry hentries
    refine ⟨child, henter.name_eq ▸ hchild, henter.plainKeys hvalue, ?_, ?_⟩
    · intro u hu
      rcases List.mem_append.mp hu with hu | hu
      · exact hsegments u hu
      · rw [List.mem_singleton.mp hu]
        exact henter.wellFormed hname
    · -- the segments so far lead to the group around, and the new one on from there
      intro more
      rw [List.append_assoc, List.singleton_append, hanswer, hbelow]

/-! ## Fields -/

theorem fieldOf_scalar {text : String} (h : value.untagged.scalarText? = some text) :
    fieldOf value = some (.scalar ⟨text⟩) := by
  unfold fieldOf
  cases hvalue : value.untagged with
  | tagged tag inner => exact absurd hvalue (Value.untagged_ne_tagged tag inner value)
  | mapping entries => rw [hvalue] at h; cases h
  | sequence items => rw [hvalue] at h; cases h
  | _ =>
    rw [hvalue] at h
    exact congrArg (Option.map _) h

theorem fieldOf_sequence {items : List Value} {texts : List String}
    (h : value.untagged = .sequence items) (htexts : itemTexts? items = some texts) :
    fieldOf value = some (.array (texts.map Scalar.mk)) := by
  rw [fieldOf, h]
  dsimp only
  rw [if_neg (not_isGroupRun_of_itemTexts? htexts), htexts, Option.map_some]

/-- An entry that gives a field makes no groups. -/
theorem runOf_of_fieldOf {v : FieldValue} (h : fieldOf value = some v) : runOf value = [] := by
  unfold fieldOf at h
  unfold runOf
  cases hvalue : value.untagged with
  | mapping entries => rw [hvalue] at h; cases h
  | sequence items =>
    rw [hvalue] at h
    dsimp only at h ⊢
    by_cases hrun : isGroupRun items = true
    · rw [if_pos hrun] at h
      cases h
    · exact if_neg hrun
  | _ => rfl

/-- In the group made of a mapping, the key of an entry that gives a field leads to that field. -/
theorem answer_of_fieldOf {repeated : Bool} {v : FieldValue} (hgroup : l.group name' entries = .ok g)
    (hplain : (Value.mapping entries).plainKeys = true) (hentry : (.string name, value) ∈ entries)
    (hmeta : name ≠ l.metaKey) (hv : fieldOf value = some v) :
    (g.flagged repeated).answer [⟨name, none⟩] = .ok (.value v) := by
  have hdistinct := (Value.plainKeys_mapping.mp hplain).1
  obtain ⟨hrow, hfield⟩ := contents_of_group hgroup hdistinct hentry rfl hmeta
  have hnone : namesakes g.children name = [] := by
    have hmakes := makes_of_rowOf hrow
    rw [runOf_of_fieldOf hv] at hmakes
    exact List.forall₂_nil_left_iff.mp hmakes
  have hselect : selectSibling? (g.flagged repeated).children name none = none := by
    rw [← Option.map_eq_none_iff (f := Prod.fst), Group.children_flagged, selectSibling?_map_fst,
      Group.namesakes_flagRepeats, hnone]
    rfl
  have hfound : (g.flagged repeated).field? name = some v := by
    rw [Group.field?_flagged, hfield, hv]
  rw [Group.answer_field (s := ⟨name, none⟩) hselect hfound]
  cases v <;> rfl

/-! ## Queries -/

/-- **Loaded data read back.** Make a document of data with plain keys. The address of a walk leads
to the group made of the mapping where the walk ends, with its flags set: it is repeated exactly
when the address ends in an offset. With a key after it, unless it is that of the metadata, the
address leads to the text of the scalar under the key, or to the array of the texts of the list
there. The addresses must not be longer than the document follows them. Tags make no difference:
without any of them the data make the same document. -/
theorem query_loaded {source : String} {d : Document} (h : l.build source root = .ok d)
    (hplain : root.plainKeys = true) :
    (∀ outer s entries, Walk l root outer s entries →
      (∃ g, l.group s.name entries = .ok g ∧
        ((outer ++ [s]).length ≤ l.document.maxDepth →
          (d.query (Address.mk (outer ++ [s])).text).1 =
            .ok (.group (g.flagged s.offset.isSome)))) ∧
      ∀ name value, (.string name, value) ∈ entries → name ≠ l.metaKey →
        (outer ++ [s, ⟨name, none⟩]).length ≤ l.document.maxDepth →
        (∀ text, value.untagged.scalarText? = some text →
          (d.query (Address.mk (outer ++ [s, ⟨name, none⟩])).text).1 =
            .ok (.value (.scalar ⟨text⟩))) ∧
        (∀ items texts, value.untagged = .sequence items → itemTexts? items = some texts →
          (d.query (Address.mk (outer ++ [s, ⟨name, none⟩])).text).1 =
            .ok (.value (.array (texts.map Scalar.mk))))) ∧
    l.build source root.bare = .ok d := by
  refine ⟨?_, build_bare h⟩
  intro outer s entries hwalk
  obtain ⟨g, hg, hentries, hsegments, hanswer⟩ := hwalk.leads h hplain
  obtain ⟨groups, -, -, hoptions, hempty⟩ := groups_of_build h
  constructor
  · refine ⟨g, hg, fun hdepth => ?_⟩
    have hne : outer ++ [s] ≠ [] := List.append_ne_nil_of_right_ne_nil _ (List.cons_ne_nil _ _)
    rw [← hoptions] at hdepth
    rw [Document.query_text hempty hne hsegments hdepth, hanswer, Group.answer_nil]
  · intro name value hentry hmeta hdepth
    have hfield : ∀ v, fieldOf value = some v →
        (d.query (Address.mk (outer ++ [s, ⟨name, none⟩])).text).1 = .ok (.value v) := by
      intro v hv
      have hne : outer ++ [s, ⟨name, none⟩] ≠ [] :=
        List.append_ne_nil_of_right_ne_nil _ (List.cons_ne_nil _ _)
      have hlast : ∀ t ∈ outer ++ [s, ⟨name, none⟩], t.WellFormed := by
        intro t ht
        rw [List.append_cons] at ht
        rcases List.mem_append.mp ht with ht | ht
        · exact hsegments t ht
        · rw [List.mem_singleton.mp ht]
          exact ⟨(Value.plain_of_mem_entries hentry hentries).1, nofun⟩
      rw [← hoptions] at hdepth
      rw [Document.query_text hempty hne hlast hdepth, hanswer]
      exact answer_of_fieldOf hg hentries hentry hmeta hv
    constructor
    · intro text htext
      exact hfield _ (fieldOf_scalar htext)
    · intro items texts hitems htexts
      exact hfield _ (fieldOf_sequence hitems htexts)

/-- The entries of the first of two servers: metadata, and a number with a tag. -/
def firstServer : List (Value × Value) :=
  [(.string "_meta", .mapping [(.string "role", .string "primary")]),
    (.string "port", .tagged "number" (.int 8080))]

/-- A group with a null in it. -/
def security : List (Value × Value) := [(.string "keep", .null)]

/-- The entries of the second server: an empty list and a group. -/
def secondServer : List (Value × Value) :=
  [(.string "hosts", .sequence []), (.string "tls", .mapping security)]

/-- The entries of a group with a list. -/
def worker : List (Value × Value) := [(.string "names", .sequence [.string "a", .bool true])]

/-- Two servers, the first of which has a tag, and a list with one worker. -/
def sample : Value :=
  .mapping [
    (.string "server", .sequence [.tagged "main" (.mapping firstServer), .mapping secondServer]),
    (.string "worker", .sequence [.mapping worker])]

/-- The number with a tag, the empty list, the group and the null in it, and the list of the worker
are read back. -/
theorem query_loaded_sample :
    sample.plainKeys = true ∧ ∃ d, ({} : Loader).build "sample" sample = .ok d ∧
      (d.query "server[0].port").1 = .ok (.value (.scalar ⟨"8080"⟩)) ∧
      (d.query "server[1].hosts").1 = .ok (.value (.array [])) ∧
      (d.query "server[1].tls").1 =
        .ok (.group { identifier := "tls", fields := .ofList [⟨"keep", .scalar ⟨""⟩⟩] }) ∧
      (d.query "server[1].tls.keep").1 = .ok (.value (.scalar ⟨""⟩)) ∧
      (d.query "worker.names").1 = .ok (.value (.array [⟨"a"⟩, ⟨"true"⟩])) ∧
      ({} : Loader).build "sample" sample.bare = .ok d := by
  have hplain : sample.plainKeys = true := by decide
  obtain ⟨d, hd⟩ : ∃ d, ({} : Loader).build "sample" sample = .ok d := ⟨_, rfl⟩
  have hfirst : Walk {} sample [] ⟨"server", some 0⟩ firstServer :=
    .top rfl (.head _) (.item rfl (by decide) (by decide) rfl rfl)
  have hsecond : Walk {} sample [] ⟨"server", some 1⟩ secondServer :=
    .top rfl (.head _) (.item rfl (by decide) (by decide) rfl rfl)
  have hsecurity : Walk {} sample [⟨"server", some 1⟩] ⟨"tls", none⟩ security :=
    .deeper hsecond (.tail _ (.head _)) (by decide) (.mapping rfl)
  have hworker : Walk {} sample [] ⟨"worker", none⟩ worker :=
    .top rfl (.tail _ (.head _)) (.only rfl rfl)
  obtain ⟨hwalks, hbare⟩ := query_loaded hd hplain
  have hport := (hwalks _ _ _ hfirst).2 "port" _ (.tail _ (.head _)) (by decide) (by decide)
  have hhosts := (hwalks _ _ _ hsecond).2 "hosts" _ (.head _) (by decide) (by decide)
  obtain ⟨⟨g, hg, htls⟩, hentries⟩ := hwalks _ _ _ hsecurity
  have hkeep := hentries "keep" _ (.head _) (by decide) (by decide)
  have hnames := (hwalks _ _ _ hworker).2 "names" _ (.head _) (by decide) (by decide)
  obtain rfl := Except.ok.inj hg
  exact ⟨hplain, d, hd, hport.1 _ rfl, hhosts.2 _ _ rfl rfl, htls (by decide), hkeep.1 _ rfl,
    hnames.2 _ _ rfl rfl, hbare⟩

end Loader

end Settings
