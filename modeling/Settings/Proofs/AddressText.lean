import Settings.Address
import Settings.Proofs.Results
/-!
# Addresses and their text

What can be read as a segment, and that writing an address and reading it gives the address back.
`Segment.read_eq_ok_iff` is the grammar of a segment: a name, or a name and digits in brackets.
`Address.parse_eq_ok_iff` is that of an address: its pieces between points are its segments. From
the two follow the round trip `Address.parse_text`, and `Address.parse_of_split`, which compares the
two ways to read a text: as an address, and as that of a field.
-/

namespace Settings

/-! ## Segments -/

/-- A name that an address can hold: one or more characters, none of which means anything there. -/
def PlainName (name : String) : Prop :=
  name ≠ "" ∧ ∀ c ∈ name.toList, c ≠ '.' ∧ c ≠ '[' ∧ c ≠ ']'

theorem plainName_iff {name : String} :
    (name ≠ "" ∧ (name.toList.all fun c => c ≠ '.' ∧ c ≠ '[' ∧ c ≠ ']') = true) ↔
      PlainName name := by
  rw [PlainName, List.all_eq_true]
  simp only [decide_eq_true_iff]

instance (name : String) : Decidable (PlainName name) := decidable_of_iff _ plainName_iff

namespace Segment

/-- A segment that can be written and read: the name is plain, and the offset fits. -/
structure WellFormed (s : Segment) : Prop where
  name : PlainName s.name
  offset : ∀ n, s.offset = some n → n < Number.offsetBound

/-- A text without an opening bracket is a segment when it is a name. -/
theorem read_plain_eq_ok_iff {text : List Char} {s : Segment} (hopen : '[' ∉ text) :
    read text = .ok s ↔
      s.offset = none ∧ text = s.name.toList ∧ s.name ≠ "" ∧ ']' ∉ text := by
  unfold read
  rw [Text.cutFirst_eq_none_iff.mpr hopen]
  dsimp only
  constructor
  · intro h
    by_cases hclose : ']' ∈ text
    · rw [if_pos hclose] at h; cases h
    · by_cases hempty : text.isEmpty = true
      · rw [if_neg hclose, if_pos hempty] at h; cases h
      · rw [if_neg hclose, if_neg hempty] at h
        cases h
        refine ⟨rfl, String.toList_ofList.symm, ?_, hclose⟩
        rw [Ne, String.ofList_eq_empty_iff, ← List.isEmpty_iff]
        exact hempty
  · obtain ⟨name, offset⟩ := s
    rintro ⟨rfl, rfl, hname, hclose⟩
    have hne : ¬ name.toList.isEmpty = true := by
      rw [List.isEmpty_iff, String.toList_eq_nil_iff]
      exact hname
    rw [if_neg hclose, if_neg hne, String.ofList_toList]

/-- A text with one is a segment when a name stands before it, and after it an offset and the
closing bracket. -/
theorem read_bracketed_eq_ok_iff {name rest : List Char} {s : Segment} (hopen : '[' ∉ name) :
    read (name ++ '[' :: rest) = .ok s ↔
      ∃ n digits, s = ⟨String.ofList name, some n⟩ ∧ name ≠ [] ∧ rest = digits ++ [']'] ∧
        readOffset digits = .ok n := by
  unfold read
  rw [Text.cutFirst_append hopen]
  dsimp only
  constructor
  · intro h
    cases hstrip : Text.stripLast? ']' rest with
    | none => rw [hstrip] at h; cases h
    | some digits =>
      rw [hstrip] at h
      dsimp only at h
      by_cases hempty : name.isEmpty = true
      · rw [if_pos hempty] at h; cases h
      · rw [if_neg hempty] at h
        cases hoffset : readOffset digits with
        | error fault => rw [hoffset] at h; cases h
        | ok n =>
          rw [hoffset] at h
          cases h
          exact ⟨n, digits, rfl, mt List.isEmpty_iff.mpr hempty,
            Text.stripLast?_eq_some_iff.mp hstrip, hoffset⟩
  · rintro ⟨n, digits, rfl, hname, rfl, hoffset⟩
    rw [Text.stripLast?_eq_some_iff.mpr rfl]
    dsimp only
    rw [if_neg (mt List.isEmpty_iff.mp hname), hoffset]
    rfl

/-- A text is read as a segment when it is the name alone, or the name and an offset in brackets.
The name ends before the first opening bracket. -/
theorem read_eq_ok_iff {text : List Char} {s : Segment} :
    read text = .ok s ↔
      s.name ≠ "" ∧ '[' ∉ s.name.toList ∧
        match s.offset with
        | none => text = s.name.toList ∧ ']' ∉ text
        | some n => ∃ digits, text = s.name.toList ++ '[' :: (digits ++ [']']) ∧
            readOffset digits = .ok n := by
  constructor
  · intro h
    cases hcut : Text.cutFirst '[' text with
    | none =>
      have hopen := Text.cutFirst_eq_none_iff.mp hcut
      obtain ⟨hoffset, rfl, hname, hclose⟩ := (read_plain_eq_ok_iff hopen).mp h
      rw [hoffset]
      exact ⟨hname, hopen, rfl, hclose⟩
    | some cut =>
      obtain ⟨rfl, hopen⟩ := Text.eq_of_cutFirst hcut
      obtain ⟨n, digits, rfl, hname, hrest, hoffset⟩ := (read_bracketed_eq_ok_iff hopen).mp h
      rw [String.toList_ofList, Ne, String.ofList_eq_empty_iff]
      exact ⟨hname, hopen, digits, by rw [hrest], hoffset⟩
  · obtain ⟨name, offset⟩ := s
    rintro ⟨hname, hopen, hshape⟩
    cases offset with
    | none =>
      obtain ⟨rfl, hclose⟩ := hshape
      exact (read_plain_eq_ok_iff hopen).mpr ⟨rfl, rfl, hname, hclose⟩
    | some n =>
      obtain ⟨digits, rfl, hoffset⟩ := hshape
      refine (read_bracketed_eq_ok_iff hopen).mpr ⟨n, digits, ?_, ?_, rfl, hoffset⟩
      · rw [String.ofList_toList]
      · exact mt String.toList_eq_nil_iff.mp hname

theorem readOffset_natText {n : Nat} (h : n < Number.offsetBound) :
    readOffset (Number.natText n).toList = .ok n := by
  have hempty : (Number.natText n).toList.isEmpty = false := by
    rw [List.isEmpty_eq_false_iff]
    exact Number.natText_toList_ne_nil n
  have hdigits : (Number.natText n).toList.all Char.isDigit = true :=
    List.all_eq_true.mpr fun c hc => Number.isDigit_of_mem_natText hc
  have hfits : (some n).filter (· < Number.offsetBound) = some n := by
    rw [Option.filter_some, if_pos (decide_eq_true h)]
  rw [readOffset, hempty, hdigits, Number.readDigits?_natText, hfits]
  rfl

/-- A segment is read back from its text if its name and its offset leave it what it is. A closing
bracket may stand in the name where an offset follows. -/
theorem read_text_of_fits {s : Segment} (hname : s.name ≠ "") (hopen : '[' ∉ s.name.toList)
    (hclose : s.offset = none → ']' ∉ s.name.toList)
    (hfits : ∀ n, s.offset = some n → n < Number.offsetBound) : read s.text.toList = .ok s := by
  rw [read_eq_ok_iff]
  refine ⟨hname, hopen, ?_⟩
  obtain ⟨name, offset⟩ := s
  cases offset with
  | none => exact ⟨rfl, hclose rfl⟩
  | some n =>
    refine ⟨(Number.natText n).toList, ?_, readOffset_natText (hfits n rfl)⟩
    simp [text]

theorem read_text {s : Segment} (h : s.WellFormed) : read s.text.toList = .ok s := by
  obtain ⟨hname, hchars⟩ := h.name
  apply read_text_of_fits hname
  · exact fun hopen => (hchars _ hopen).2.1 rfl
  · exact fun _ hclose => (hchars _ hclose).2.2 rfl
  · exact h.offset

/-- To write a segment puts no point into it. -/
theorem point_not_mem_text {s : Segment} (h : '.' ∉ s.name.toList) : '.' ∉ s.text.toList := by
  obtain ⟨name, offset⟩ := s
  cases offset with
  | none => exact h
  | some n =>
    have hdigits : '.' ∉ (Number.natText n).toList := fun hpoint =>
      absurd (Number.isDigit_of_mem_natText hpoint) (by decide)
    simp [text, h, hdigits]

theorem parse_eq_ok_iff {text : String} {s : Segment} :
    parse text = .ok s ↔ read text.toList = .ok s := by
  unfold parse
  cases read text.toList with
  | error fault => exact ⟨nofun, nofun⟩
  | ok t =>
    show Except.ok t = Except.ok s ↔ Except.ok t = Except.ok s
    rw [Except.ok.injEq, Except.ok.injEq]

end Segment

/-! ## Addresses -/

namespace Address

/-- A text is read as an address when its pieces between points are read as the segments. -/
theorem parse_eq_ok_iff {path : String} {a : Address} :
    parse path = .ok a ↔
      (Text.pieces '.' path.toList).map Segment.read = a.segments.map .ok := by
  obtain ⟨segments⟩ := a
  have hreader : ∀ (piece : List Char) (s : Segment),
      Segment.parse (String.ofList piece) = .ok s ↔ Segment.read piece = .ok s := by
    intro piece s
    rw [Segment.parse_eq_ok_iff, String.toList_ofList]
  unfold parse
  by_cases hempty : path.isEmpty = true
  · -- the one piece of the empty text is empty, and no segment
    obtain rfl := String.isEmpty_iff.mp hempty
    rw [if_pos hempty]
    constructor
    · nofun
    · intro h
      cases segments <;> cases h
  · rw [if_neg hempty, ← mapM_eq_ok_iff_of_reader hreader]
    cases (Text.pieces '.' path.toList).mapM fun piece => Segment.parse (String.ofList piece) with
    | error e => exact ⟨nofun, nofun⟩
    | ok read =>
      show Except.ok (mk read) = Except.ok (mk segments) ↔ _
      rw [Except.ok.injEq, Except.ok.injEq, mk.injEq]

/-- Every address that can be read has a segment. -/
theorem segments_ne_nil {path : String} {a : Address} (h : parse path = .ok a) :
    a.segments ≠ [] := by
  intro hnil
  have hpieces := parse_eq_ok_iff.mp h
  rw [hnil, List.map_nil, List.map_eq_nil_iff] at hpieces
  exact Text.pieces_ne_nil _ _ hpieces

/-- The pieces of a written address are the texts of its segments, if these have no points. -/
theorem pieces_text_of_points {a : Address} (hne : a.segments ≠ [])
    (h : ∀ s ∈ a.segments, '.' ∉ s.text.toList) :
    Text.pieces '.' a.text.toList = a.segments.map fun s => s.text.toList := by
  have hpoint : ∀ piece ∈ a.segments.map fun s => s.text.toList, '.' ∉ piece := by
    intro piece hpiece
    obtain ⟨s, hs, rfl⟩ := List.mem_map.mp hpiece
    exact h s hs
  have htext : a.text.toList = ['.'].intercalate (a.segments.map fun s => s.text.toList) := by
    rw [text, String.toList_intercalate, List.map_map]
    rfl
  rw [htext]
  exact Text.pieces_intercalate hpoint (mt List.map_eq_nil_iff.mp hne)

theorem pieces_text {a : Address} (hne : a.segments ≠ []) (h : ∀ s ∈ a.segments, s.WellFormed) :
    Text.pieces '.' a.text.toList = a.segments.map fun s => s.text.toList :=
  pieces_text_of_points hne fun s hs =>
    Segment.point_not_mem_text fun hpoint => ((h s hs).name.2 _ hpoint).1 rfl

/-- Another segment is written after a point. -/
theorem text_concat {segments : List Segment} (h : segments ≠ []) (s : Segment) :
    (mk (segments ++ [s])).text = (mk segments).text ++ "." ++ s.text := by
  unfold text
  rw [List.map_append, List.map_singleton, String.intercalate_append_of_ne_nil
    (mt List.map_eq_nil_iff.mp h) (List.cons_ne_nil _ _), String.intercalate_singleton]

/-- An address is read back from its text. -/
theorem parse_text {a : Address} (hne : a.segments ≠ []) (h : ∀ s ∈ a.segments, s.WellFormed) :
    parse a.text = .ok a := by
  rw [parse_eq_ok_iff, pieces_text hne h, List.map_map]
  exact List.map_congr_left fun s hs => Segment.read_text (h s hs)

end Address

/-! ## Addresses of fields -/

/-- A text is split as the address of a field when it has a last point, with something before it and
something after it. -/
theorem splitFieldAddress_eq_ok_iff {path name field : String} :
    splitFieldAddress path = .ok (name, field) ↔
      Text.cutLast '.' path.toList = some (name.toList, field.toList) ∧ name ≠ "" ∧ field ≠ "" := by
  have hempty : ∀ s : List Char, s.isEmpty = true ↔ String.ofList s = "" := fun s => by
    rw [List.isEmpty_iff, String.ofList_eq_empty_iff]
  unfold splitFieldAddress
  cases Text.cutLast '.' path.toList with
  | none => exact ⟨nofun, fun h => nomatch h.1⟩
  | some cut =>
    obtain ⟨before, after⟩ := cut
    dsimp only
    rw [Option.some.injEq, Prod.mk.injEq]
    by_cases hparts : (before.isEmpty || after.isEmpty) = true
    · rw [if_pos hparts]
      rw [Bool.or_eq_true, hempty, hempty] at hparts
      constructor
      · nofun
      · rintro ⟨⟨rfl, rfl⟩, hname, hfield⟩
        rw [String.ofList_toList, String.ofList_toList] at hparts
        exact absurd hparts (not_or.mpr ⟨hname, hfield⟩)
    · rw [if_neg hparts]
      rw [Bool.or_eq_true, hempty, hempty, not_or] at hparts
      constructor
      · intro h
        cases h
        exact ⟨⟨String.toList_ofList.symm, String.toList_ofList.symm⟩, hparts⟩
      · rintro ⟨⟨rfl, rfl⟩, -⟩
        rw [String.ofList_toList, String.ofList_toList]

/-- The text of a field's address is cut at its last point. -/
theorem toList_of_splitFieldAddress {path name field : String}
    (h : splitFieldAddress path = .ok (name, field)) :
    path.toList = name.toList ++ '.' :: field.toList ∧ '.' ∉ field.toList :=
  Text.eq_of_cutLast (splitFieldAddress_eq_ok_iff.mp h).1

/-- The address of a field is its group, a point and its name. -/
theorem eq_join_iff_of_split {path name field name' field' : String}
    (hsplit : splitFieldAddress path = .ok (name', field')) (hpoint : '.' ∉ field.toList) :
    path = name ++ "." ++ field ↔ (name', field') = (name, field) := by
  obtain ⟨htext, hpoint'⟩ := toList_of_splitFieldAddress hsplit
  have hjoin : (name ++ "." ++ field).toList = name.toList ++ '.' :: field.toList := by
    simp [String.toList_append]
  constructor
  · intro hpath
    -- both have their last point in the same place
    have hcut := Text.cutLast_append hpoint name.toList
    rw [← hjoin, ← hpath, htext, Text.cutLast_append hpoint'] at hcut
    obtain ⟨hname, hfield⟩ := Prod.mk.inj (Option.some.inj hcut)
    rw [String.toList_injective hname, String.toList_injective hfield]
  · rintro heq
    cases heq
    exact String.toList_injective (htext.trans hjoin.symm)

theorem splitFieldAddress_join {name field : String} (hname : name ≠ "") (hfield : field ≠ "")
    (hpoint : '.' ∉ field.toList) :
    splitFieldAddress (name ++ "." ++ field) = .ok (name, field) := by
  have hjoin : (name ++ "." ++ field).toList = name.toList ++ '.' :: field.toList := by
    simp [String.toList_append]
  rw [splitFieldAddress_eq_ok_iff, hjoin, Text.cutLast_append hpoint]
  exact ⟨rfl, hname, hfield⟩

/-- A segment is its name exactly when it has no offset. -/
theorem Segment.name_eq_iff_of_read {text : String} {s : Segment} (h : read text.toList = .ok s) :
    s.name = text ↔ s.offset = none := by
  obtain ⟨-, -, hshape⟩ := read_eq_ok_iff.mp h
  obtain ⟨name, offset⟩ := s
  cases offset with
  | none =>
    obtain ⟨htext, -⟩ := hshape
    exact ⟨fun _ => rfl, fun _ => String.toList_injective htext.symm⟩
  | some n =>
    obtain ⟨digits, htext, -⟩ := hshape
    constructor
    · -- the brackets make the text longer than the name
      intro hname
      have hlength := congrArg List.length htext
      rw [hname, List.length_append, List.length_cons] at hlength
      omega
    · nofun

namespace Address

/-- Two segments without offsets. -/
def Flat (a : Address) : Prop := a.segments.length = 2 ∧ ∀ s ∈ a.segments, s.offset = none

/-- An address that is read as that of a field as well has two segments or more. If it has two, the
name of each is the part that it stands for exactly when it has no offset. -/
theorem parse_of_split {path name field : String} {a : Address} (hparse : parse path = .ok a)
    (hsplit : splitFieldAddress path = .ok (name, field)) :
    ∃ first second rest, a.segments = first :: second :: rest ∧
      (rest = [] → (first.name = name ↔ first.offset = none) ∧
        (second.name = field ↔ second.offset = none)) := by
  obtain ⟨htext, hpoint⟩ := toList_of_splitFieldAddress hsplit
  obtain ⟨segments⟩ := a
  have hread := parse_eq_ok_iff.mp hparse
  rw [htext, Text.pieces_append, Text.pieces_of_not_mem hpoint, List.map_append] at hread
  obtain ⟨outer, inner, rfl, houter, hinner⟩ := List.map_eq_append_iff.mp hread.symm
  obtain ⟨last, rfl, hlast⟩ := List.map_eq_singleton_iff.mp hinner
  -- the group part has a piece more than it has points
  have hlength : outer.length = name.toList.count '.' + 1 := by
    rw [← Text.length_pieces, ← List.length_map Segment.read, ← houter, List.length_map]
  obtain ⟨first, more, rfl⟩ := List.exists_cons_of_length_pos (by omega : 0 < outer.length)
  cases more with
  | nil =>
    have hname : '.' ∉ name.toList := by
      rw [← List.count_eq_zero]
      rw [List.length_singleton] at hlength
      omega
    rw [Text.pieces_of_not_mem hname] at houter
    have hfirst := (List.cons.inj houter).1.symm
    exact ⟨first, last, [], rfl, fun _ =>
      ⟨Segment.name_eq_iff_of_read hfirst, Segment.name_eq_iff_of_read hlast.symm⟩⟩
  | cons second more =>
    refine ⟨first, second, more ++ [last], rfl, fun hnil => ?_⟩
    exact absurd hnil (List.append_ne_nil_of_right_ne_nil _ (List.cons_ne_nil _ _))

/-- The segments of a flat address are the two parts of its text. -/
theorem segments_of_flat {path name field : String} {a : Address} (hparse : parse path = .ok a)
    (hsplit : splitFieldAddress path = .ok (name, field)) (h : a.Flat) :
    a.segments = [⟨name, none⟩, ⟨field, none⟩] := by
  obtain ⟨⟨first, offset⟩, ⟨second, offset'⟩, rest, hsegments, hnames⟩ :=
    parse_of_split hparse hsplit
  obtain ⟨hlength, hoffsets⟩ := h
  rw [hsegments] at hlength hoffsets
  obtain rfl : rest = [] := List.eq_nil_of_length_eq_zero (by simpa using hlength)
  obtain ⟨hfirst, hsecond⟩ := hnames rfl
  have hnone := hoffsets _ List.mem_cons_self
  have hnone' := hoffsets _ (List.mem_cons_of_mem _ List.mem_cons_self)
  rw [hsegments, ← hfirst.mpr hnone, ← hsecond.mpr hnone']
  dsimp only at hnone hnone'
  rw [hnone, hnone']

end Address

end Settings
