import Mathlib.Data.List.Perm.Subperm
import Settings.Proofs.Lookup
/-!
# Groups that say the same

`Group.same` lets the order of fields differ and nothing else. Since no name stands twice among
fields, they say the same exactly if the same is found under every name
(`Fields.same_iff_find?_eq`). So every group says the same as itself (`Group.same_self`), and groups
that say the same answer alike whatever they are asked (`Group.answer_alike`).

A question to a group is put to its children first, and among them to those of one name. So it is
enough that the rows of each name say the same (`RowsAlike`), which leaves room for a different
order of siblings with different names.
-/

namespace Settings

variable {name : String}

/-! ## Fields -/

namespace Field

variable {fields : List Field} {f : Field}

theorem valueIn?_of_mem (hdistinct : (fields.map Field.name).Nodup) (h : f ∈ fields) :
    valueIn? f.name fields = some f.value := by
  induction fields with
  | nil => cases h
  | cons g rest ih =>
    rw [List.map_cons, List.nodup_cons] at hdistinct
    rcases List.mem_cons.mp h with rfl | hrest
    · rw [valueIn?, if_pos rfl]
    · have hne : g.name ≠ f.name := fun hname =>
        hdistinct.1 (hname ▸ List.mem_map_of_mem hrest)
      rw [valueIn?, if_neg hne, ih hdistinct.2 hrest]

theorem valueIn?_eq_none_iff : valueIn? name fields = none ↔ name ∉ fields.map Field.name := by
  induction fields with
  | nil => simp [valueIn?]
  | cons g rest ih =>
    by_cases hg : g.name = name
    · simp [valueIn?, hg]
    · simp [valueIn?, hg, ih, Ne.symm hg]

end Field

namespace Fields

variable {fields others : Fields} {f : Field}

/-- A field is found under its name, since no other has it. -/
theorem find?_of_mem (h : f ∈ fields.entries) : find? f.name fields = some f.value :=
  Field.valueIn?_of_mem fields.distinct h

theorem find?_eq_none_iff : find? name fields = none ↔ name ∉ fields.entries.map Field.name :=
  Field.valueIn?_eq_none_iff

theorem same_iff : same fields others = true ↔
    fields.entries.length = others.entries.length ∧
      ∀ f ∈ fields.entries, find? f.name others = some f.value := by
  rw [same, Bool.and_eq_true, beq_iff_eq, List.all_eq_true]
  simp only [beq_iff_eq]

/-- **Fields that say the same** are those that have the same value under every name. -/
theorem same_iff_find?_eq :
    same fields others = true ↔ ∀ name, find? name fields = find? name others := by
  rw [same_iff]
  constructor
  · rintro ⟨hlength, hvalues⟩ name
    have hmem : ∀ other ∈ fields.entries.map Field.name, other ∈ others.entries.map Field.name := by
      intro other hother
      obtain ⟨f, hf, rfl⟩ := List.mem_map.mp hother
      by_contra hnone
      rw [← find?_eq_none_iff, hvalues f hf] at hnone
      cases hnone
    by_cases hname : name ∈ fields.entries.map Field.name
    · obtain ⟨f, hf, rfl⟩ := List.mem_map.mp hname
      rw [find?_of_mem hf, hvalues f hf]
    · -- there are as many names on either side, so the others have no more of them
      have hperm : (fields.entries.map Field.name).Perm (others.entries.map Field.name) := by
        refine (List.subperm_of_subset fields.distinct hmem).perm_of_length_le (Nat.le_of_eq ?_)
        rw [List.length_map, List.length_map, hlength]
      rw [find?_eq_none_iff.mpr hname, find?_eq_none_iff.mpr (mt hperm.mem_iff.mpr hname)]
  · intro h
    constructor
    · have hperm : (fields.entries.map Field.name).Perm (others.entries.map Field.name) := by
        rw [List.perm_ext_iff_of_nodup fields.distinct others.distinct]
        intro name
        rw [← not_iff_not, ← find?_eq_none_iff, ← find?_eq_none_iff, h]
      simpa using hperm.length_eq
    · intro f hf
      rw [← h, find?_of_mem hf]

end Fields

/-! ## Groups -/

namespace Group

variable {a b : Group}

theorem same_iff : a.same b = true ↔
    a.identifier = b.identifier ∧ a.repeated = b.repeated ∧ a.metadata = b.metadata ∧
      Fields.same a.fields b.fields = true ∧ sameAll a.children b.children = true := by
  cases a
  cases b
  simp only [same, Bool.and_eq_true, beq_iff_eq, and_assoc]

mutual

/-- A group says the same as itself. -/
theorem same_self : ∀ g : Group, g.same g = true
  | ⟨_, _, _, children, _⟩ => by
    rw [same_iff]
    exact ⟨rfl, rfl, rfl, Fields.same_iff_find?_eq.mpr fun _ => rfl, sameAll_self children⟩

theorem sameAll_self : ∀ groups : List Group, sameAll groups groups = true
  | [] => rfl
  | g :: rest => by
    rw [sameAll, Bool.and_eq_true]
    exact ⟨same_self g, sameAll_self rest⟩

end

end Group

/-! ## Rows of siblings -/

variable {row others : List Group} {a b : Group}

theorem sameAll_cons : Group.sameAll (a :: row) (b :: others) = true ↔
    a.same b = true ∧ Group.sameAll row others = true := by
  rw [Group.sameAll, Bool.and_eq_true]

/-- Of two rows that say the same, the members do, one by one. -/
theorem getElem?_of_sameAll (h : Group.sameAll row others = true) (i : Nat) :
    (∃ a b, row[i]? = some a ∧ others[i]? = some b ∧ a.same b = true) ∨
      row[i]? = none ∧ others[i]? = none := by
  induction row generalizing others i with
  | nil =>
    cases others with
    | nil => exact .inr ⟨rfl, rfl⟩
    | cons b others => cases h
  | cons a row ih =>
    cases others with
    | nil => cases h
    | cons b others =>
      obtain ⟨hsame, hrest⟩ := sameAll_cons.mp h
      cases i with
      | zero => exact .inl ⟨a, b, rfl, rfl, hsame⟩
      | succ i => exact ih hrest i

/-- Two rows of siblings are as long, and for each name the siblings that have it say the same, one
by one. -/
structure RowsAlike (row others : List Group) : Prop where
  length : row.length = others.length
  namesakes : ∀ name, Group.sameAll (namesakes row name) (namesakes others name) = true

theorem namesakes_cons (a : Group) (row : List Group) (name : String) :
    namesakes (a :: row) name =
      if a.identifier = name then a :: namesakes row name else namesakes row name := by
  rw [namesakes, List.filter_cons]
  by_cases h : a.identifier = name
  · rw [if_pos h, if_pos (decide_eq_true h), namesakes]
  · rw [if_neg h, if_neg (mt of_decide_eq_true h), namesakes]

theorem RowsAlike.cons (hsame : a.same b = true) (h : RowsAlike row others) :
    RowsAlike (a :: row) (b :: others) where
  length := by rw [List.length_cons, List.length_cons, h.length]
  namesakes := by
    intro name
    have hidentifier : a.identifier = b.identifier := (Group.same_iff.mp hsame).1
    rw [namesakes_cons, namesakes_cons, hidentifier]
    by_cases hname : b.identifier = name
    · rw [if_pos hname, if_pos hname, sameAll_cons]
      exact ⟨hsame, h.namesakes name⟩
    · rw [if_neg hname, if_neg hname]
      exact h.namesakes name

theorem rowsAlike_of_sameAll (h : Group.sameAll row others = true) : RowsAlike row others := by
  induction row generalizing others with
  | nil =>
    cases others with
    | nil => exact ⟨rfl, fun _ => rfl⟩
    | cons b others => cases h
  | cons a row ih =>
    cases others with
    | nil => cases h
    | cons b others =>
      obtain ⟨hsame, hrest⟩ := sameAll_cons.mp h
      exact (ih hrest).cons hsame

/-- Two siblings of different names may change places. -/
theorem rowsAlike_swap (hne : a.identifier ≠ b.identifier) (ha : a.same a = true)
    (hb : b.same b = true) : RowsAlike [a, b] [b, a] := by
  refine ⟨rfl, fun name => ?_⟩
  by_cases hname : a.identifier = name
  · have hname' : b.identifier ≠ name := fun hb => hne (hname.trans hb.symm)
    simp [namesakes, hname, hname', Group.sameAll, ha]
  · by_cases hname' : b.identifier = name
    · simp [namesakes, hname, hname', Group.sameAll, hb]
    · simp [namesakes, hname, hname', Group.sameAll]

/-- In such rows a segment selects siblings that say the same, or none. -/
theorem selectSibling?_alike (h : RowsAlike row others) (name : String) (offset : Option Nat) :
    (∃ a b, (selectSibling? row name offset).map Prod.fst = some a ∧
      (selectSibling? others name offset).map Prod.fst = some b ∧ a.same b = true) ∨
    selectSibling? row name offset = none ∧ selectSibling? others name offset = none := by
  have hrow := selectSibling?_map_fst row name offset
  have hothers := selectSibling?_map_fst others name offset
  rcases getElem?_of_sameAll (h.namesakes name) (offset.getD 0) with ⟨a, b, ha, hb, hsame⟩ | ⟨ha, hb⟩
  · have hflag : a.repeated = b.repeated := (Group.same_iff.mp hsame).2.1
    rw [ha, Option.filter_some] at hrow
    rw [hb, Option.filter_some, ← hflag] at hothers
    by_cases hselect : (offset.isNone || a.repeated) = true
    · rw [if_pos hselect] at hrow hothers
      exact .inl ⟨a, b, hrow, hothers, hsame⟩
    · rw [if_neg hselect, Option.map_eq_none_iff] at hrow hothers
      exact .inr ⟨hrow, hothers⟩
  · rw [ha, Option.filter_none, Option.map_eq_none_iff] at hrow
    rw [hb, Option.filter_none, Option.map_eq_none_iff] at hothers
    exact .inr ⟨hrow, hothers⟩

/-! ## Answers -/

/-- Answers that are equal, up to the order of fields in groups: the same miss, the same scalar or
array, or groups that say the same. -/
inductive Alike : Lookup → Lookup → Prop
  | miss (miss : Miss) : Alike (.error miss) (.error miss)
  | value (value : FieldValue) : Alike (.ok (.value value)) (.ok (.value value))
  | group {a b : Group} : a.same b = true → Alike (.ok (.group a)) (.ok (.group b))

namespace Group

/-- Groups answer alike if the rows of their children do and their fields are the same. -/
theorem answer_cons_alike (hrows : RowsAlike a.children b.children)
    (hfields : ∀ name, a.field? name = b.field? name) {s : Segment} {rest : List Segment}
    (hchild : ∀ child other : Group, child.same other = true →
      Alike (child.answer rest) (other.answer rest)) :
    Alike (a.answer (s :: rest)) (b.answer (s :: rest)) := by
  rcases selectSibling?_alike hrows s.name s.offset with ⟨child, other, hselect, hselect', hsame⟩ |
    ⟨hselect, hselect'⟩
  · obtain ⟨⟨_, position⟩, hfound, rfl⟩ := Option.map_eq_some_iff.mp hselect
    obtain ⟨⟨_, position'⟩, hfound', rfl⟩ := Option.map_eq_some_iff.mp hselect'
    rw [answer_cons_of_child hfound, answer_cons_of_child hfound']
    exact hchild _ _ hsame
  · -- none of the two goes on to a child, so at most the field is found
    by_cases hmiss : rest = [] → a.field? s.name = none
    · rw [answer_cons_of_none hselect hmiss,
        answer_cons_of_none hselect' fun hnil => (hfields s.name).symm.trans (hmiss hnil)]
      exact .miss _
    · obtain ⟨rfl, hfound⟩ := Classical.not_imp.mp hmiss
      obtain ⟨v, hv⟩ := Option.ne_none_iff_exists'.mp hfound
      rw [answer_field hselect hv, answer_field hselect' ((hfields s.name).symm.trans hv)]
      cases v.atOffset s.offset with
      | error miss => exact .miss miss
      | ok item => exact .value item

/-- Groups that say the same answer alike. -/
theorem answer_alike (segments : List Segment) (h : a.same b = true) :
    Alike (a.answer segments) (b.answer segments) := by
  induction segments generalizing a b with
  | nil => exact .group h
  | cons s rest ih =>
    obtain ⟨-, -, -, hfields, hchildren⟩ := same_iff.mp h
    exact answer_cons_alike (rowsAlike_of_sameAll hchildren) (Fields.same_iff_find?_eq.mp hfields)
      fun _ _ hsame => ih hsame

end Group

/-- Documents whose rows are alike answer alike. -/
theorem Document.lookup_alike {d d' : Document} (hoptions : d'.options = d.options)
    (h : RowsAlike d.groups d'.groups) (path : String) :
    Alike (d.lookup path) (d'.lookup path) := by
  cases hparse : Address.parse path with
  | error e =>
    rw [lookup_of_parse_error hparse, lookup_of_parse_error hparse]
    exact .miss _
  | ok address =>
    rw [lookup_of_parse hparse, lookup_of_parse hparse, hoptions]
    split
    · obtain ⟨first, rest, hsegments⟩ :=
        List.exists_cons_of_ne_nil (Address.segments_ne_nil hparse)
      rw [hsegments]
      exact Group.answer_cons_alike (a := d.root) (b := d'.root) h (fun _ => rfl)
        fun _ _ hsame => Group.answer_alike rest hsame
    · exact .miss _

end Settings
