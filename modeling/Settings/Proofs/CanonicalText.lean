import Mathlib.Data.List.Forall2
import Mathlib.Data.List.Induction
import Settings.Proofs.Lookup
import Settings.Proofs.SegmentGrammar
/-!
# Canonical addresses

An address may be spelled in several ways, since offsets may have leading zeros. To write it spells
it in one of them, and to read that gives the address back, also where the name of a segment holds
a closing bracket that the grammar does not have (`Segment.read_text_of_read`). What was read is
written in the same way exactly when it had no leading zero that could be left out
(`Segment.text_eq_iff_of_read`). `Address.parse_text_canonical` puts this together with the round
trip from the other end, `Address.parse_text`.
-/

namespace Settings

/-! ## Digits -/

namespace Number

variable {digits : List Char} {n : Nat}

/-- The first of several digits is a zero. -/
def Padded (digits : List Char) : Prop := ∃ c rest, digits = '0' :: c :: rest

theorem head?_toDigits_ne_zero (h : 0 < n) : (Nat.toDigits 10 n).head? ≠ some '0' := by
  induction n using Nat.strongRecOn with
  | ind n ih =>
    rw [Nat.toDigits_eq_if (by decide)]
    split
    · have hne : n ≠ 0 := by omega
      simp [Nat.digitChar_eq_zero, hne]
    · rw [List.head?_append_of_ne_nil _ Nat.toDigits_ne_nil]
      exact ih (n / 10) (by omega) (by omega)

theorem not_padded_toDigits (n : Nat) : ¬ Padded (Nat.toDigits 10 n) := by
  rintro ⟨c, rest, h⟩
  rcases Nat.eq_zero_or_pos n with rfl | hpos
  · rw [Nat.toDigits_zero] at h
    simp at h
  · apply head?_toDigits_ne_zero hpos
    rw [h]
    rfl

theorem digitChar_of_isDigit {c : Char} (h : c.isDigit = true) :
    (c.toNat - '0'.toNat) < 10 ∧ (c.toNat - '0'.toNat).digitChar = c := by
  have hrange := Char.isDigit_iff_toNat.mp h
  have hzero : '0'.toNat = 48 := rfl
  have hnine : '9'.toNat = 57 := rfl
  have hlt : c.toNat - '0'.toNat < 10 := by omega
  refine ⟨hlt, ?_⟩
  rw [← Char.toNat_inj, Nat.toNat_digitChar_of_lt_ten hlt]
  omega

/-- Digits that are not padded are the notation of their value. -/
theorem toDigits_ofDigitChars (hne : digits ≠ []) (hdigits : ∀ c ∈ digits, c.isDigit = true)
    (h : ¬ Padded digits) : Nat.toDigits 10 (Nat.ofDigitChars 10 digits 0) = digits := by
  induction digits using List.reverseRecOn with
  | nil => exact absurd rfl hne
  | append_singleton init c ih =>
    obtain ⟨hlt, hchar⟩ := digitChar_of_isDigit (hdigits c (by simp))
    rw [Nat.ofDigitChars_append, Nat.ofDigitChars_cons, Nat.ofDigitChars_nil]
    cases init with
    | nil =>
      rw [Nat.ofDigitChars_nil, Nat.mul_zero, Nat.zero_add, Nat.toDigits_of_lt_base hlt, hchar]
      rfl
    | cons d init =>
      have hinit : ¬ Padded (d :: init) := by
        rintro ⟨e, rest, heq⟩
        exact h ⟨e, rest ++ [c], by rw [heq]; rfl⟩
      have hvalue := ih (List.cons_ne_nil d init)
        (fun e he => hdigits e (List.mem_append_left _ he)) hinit
      -- a value of zero would be one zero in front of `c`
      have hpos : 0 < Nat.ofDigitChars 10 (d :: init) 0 := by
        rw [Nat.pos_iff_ne_zero]
        intro hzero
        rw [hzero, Nat.toDigits_zero] at hvalue
        exact h ⟨c, [], by rw [← hvalue]; rfl⟩
      rw [← Nat.toDigits_append_toDigits (by decide) hpos hlt, hvalue,
        Nat.toDigits_of_lt_base hlt, hchar]

/-- A number is written with the digits that it was read from exactly when they are not padded. -/
theorem natText_eq_iff (hne : digits ≠ []) (hdigits : ∀ c ∈ digits, c.isDigit = true) :
    (natText (Nat.ofDigitChars 10 digits 0)).toList = digits ↔ ¬ Padded digits := by
  rw [natText, String.toList_ofList]
  constructor
  · intro h
    rw [← h]
    exact not_padded_toDigits _
  · exact toDigits_ofDigitChars hne hdigits

end Number

/-! ## Segments -/

namespace Segment

variable {text piece name digits : List Char} {s : Segment}

/-- In a text, an offset has a zero that could be left out: an opening bracket, a zero and another
digit stand there in a row. -/
def PadsOffset (text : List Char) : Prop := ∃ c, c.isDigit = true ∧ ['[', '0', c] <:+: text

theorem not_padsOffset (h : '[' ∉ text) : ¬ PadsOffset text := by
  rintro ⟨c, -, hwithin⟩
  exact h (hwithin.subset List.mem_cons_self)

/-- The only opening bracket of a segment is that of its offset. -/
theorem padsOffset_bracketed_iff (hopen : '[' ∉ name)
    (hdigits : ∀ c ∈ digits, c.isDigit = true) :
    PadsOffset (name ++ '[' :: (digits ++ [']'])) ↔ Number.Padded digits := by
  constructor
  · rintro ⟨c, hc, before, after, heq⟩
    have hcount := congrArg (List.count '[') heq
    have hopen' : '[' ∉ digits := fun hmem => absurd (hdigits _ hmem) (by decide)
    have hbefore : '[' ∉ before := by
      rw [← List.count_eq_zero]
      simp [List.count_eq_zero.mpr hopen, List.count_eq_zero.mpr hopen'] at hcount
      omega
    have hcut := Text.cutFirst_append hopen (digits ++ [']'])
    rw [← heq, List.append_assoc, List.cons_append, Text.cutFirst_append hbefore] at hcut
    obtain ⟨-, hdigits⟩ := Prod.mk.inj (Option.some.inj hcut)
    -- `c` is a digit, so the closing bracket comes after it
    rcases digits with _ | ⟨d, _ | ⟨e, rest⟩⟩
    · simp at hdigits
    · obtain ⟨-, rfl, -⟩ : '0' = d ∧ c = ']' ∧ after = [] := by simpa using hdigits
      cases hc
    · obtain ⟨rfl, -, -⟩ : '0' = d ∧ c = e ∧ after = rest ++ [']'] := by simpa using hdigits
      exact ⟨e, rest, rfl⟩
  · rintro ⟨c, rest, rfl⟩
    exact ⟨c, hdigits c (by simp), name, rest ++ [']'], by simp⟩

/-- A segment that was read is written in the same way exactly when its offset is not padded. -/
theorem text_eq_iff_of_read (h : read piece = .ok s) :
    s.text.toList = piece ↔ ¬ PadsOffset piece := by
  obtain ⟨hname, hopen, hshape⟩ := read_eq_ok_iff.mp h
  obtain ⟨name, offset⟩ := s
  cases offset with
  | none =>
    obtain ⟨rfl, -⟩ := hshape
    exact iff_of_true rfl (not_padsOffset hopen)
  | some n =>
    obtain ⟨digits, rfl, hoffset⟩ := hshape
    obtain ⟨hne, hdigits, rfl, -⟩ := readOffset_eq_ok_iff.mp hoffset
    rw [padsOffset_bracketed_iff hopen hdigits, ← Number.natText_eq_iff hne hdigits]
    simp [Segment.text]

/-- What was read is read again from what is written. -/
theorem read_text_of_read (h : read piece = .ok s) : read s.text.toList = .ok s := by
  obtain ⟨hname, hopen, hshape⟩ := read_eq_ok_iff.mp h
  apply read_text_of_fits hname hopen
  · intro hnone
    rw [hnone] at hshape
    obtain ⟨rfl, hclose⟩ := hshape
    exact hclose
  · intro n hsome
    rw [hsome] at hshape
    obtain ⟨digits, -, hoffset⟩ := hshape
    exact (readOffset_eq_ok_iff.mp hoffset).fits

/-- The name of a segment stands in what it was read from, so there is no point in it either. -/
theorem point_not_mem_text_of_read (h : read piece = .ok s) (hpoint : '.' ∉ piece) :
    '.' ∉ s.text.toList := by
  apply point_not_mem_text
  intro hname
  apply hpoint
  obtain ⟨-, -, hshape⟩ := read_eq_ok_iff.mp h
  cases hoffset : s.offset with
  | none =>
    rw [hoffset] at hshape
    obtain ⟨rfl, -⟩ := hshape
    exact hname
  | some n =>
    rw [hoffset] at hshape
    obtain ⟨digits, rfl, -⟩ := hshape
    exact List.mem_append_left _ hname

end Segment

/-! ## Pieces -/

namespace Text

variable {c : Char} {w a b s : List Char}

/-- What has no `c` in it stands in a text on one side of a `c`. -/
theorem infix_append_cons_iff (hc : c ∉ w) (hne : w ≠ []) :
    w <:+: a ++ c :: b ↔ w <:+: a ∨ w <:+: b := by
  constructor
  · intro h
    rcases List.infix_append_iff.mp h with hleft | hright | ⟨first, last, rfl, hfirst, hlast⟩
    · exact .inl hleft
    · rcases List.infix_cons_iff.mp hright with hprefix | hwithin
      · rcases List.prefix_cons_iff.mp hprefix with hnil | ⟨rest, rfl, -⟩
        · exact absurd hnil hne
        · exact absurd List.mem_cons_self hc
      · exact .inr hwithin
    · -- the part after `a` is empty, or it begins with `c`
      rcases List.prefix_cons_iff.mp hlast with rfl | ⟨rest, rfl, -⟩
      · rw [List.append_nil]
        exact .inl hfirst.isInfix
      · exact absurd (List.mem_append_right _ List.mem_cons_self) hc
  · rintro (hleft | hright)
    · exact List.infix_append_of_infix_left hleft
    · exact List.infix_append_of_infix_right (List.infix_cons hright)

theorem infix_intercalate_iff (hc : c ∉ w) (hne : w ≠ []) (parts : List (List Char)) :
    w <:+: [c].intercalate parts ↔ ∃ p ∈ parts, w <:+: p := by
  induction parts with
  | nil => simp [hne]
  | cons p rest ih =>
    cases rest with
    | nil => simp
    | cons q rest =>
      rw [List.intercalate_cons_cons, List.append_assoc, List.singleton_append,
        infix_append_cons_iff hc hne, ih]
      simp

/-- What has no `c` in it stands in one of the pieces. -/
theorem infix_iff_exists_piece (hc : c ∉ w) (hne : w ≠ []) (s : List Char) :
    w <:+: s ↔ ∃ p ∈ pieces c s, w <:+: p := by
  rw [pieces_eq_splitOn, ← infix_intercalate_iff hc hne, List.intercalate_splitOn]

end Text

/-- An offset of an address is padded when it is so in one of the pieces. -/
theorem Segment.padsOffset_iff_exists_piece (text : List Char) :
    PadsOffset text ↔ ∃ piece ∈ Text.pieces '.' text, PadsOffset piece := by
  have hpiece : ∀ c : Char, c.isDigit = true →
      (['[', '0', c] <:+: text ↔ ∃ piece ∈ Text.pieces '.' text, ['[', '0', c] <:+: piece) := by
    intro c hc
    apply Text.infix_iff_exists_piece _ (List.cons_ne_nil _ _)
    intro hmem
    have hpoint : '.' = c := by simpa using hmem
    rw [← hpoint] at hc
    cases hc
  constructor
  · rintro ⟨c, hc, hwithin⟩
    obtain ⟨piece, hmem, hin⟩ := (hpiece c hc).mp hwithin
    exact ⟨piece, hmem, c, hc, hin⟩
  · rintro ⟨piece, hmem, c, hc, hin⟩
    exact ⟨c, hc, (hpiece c hc).mpr ⟨piece, hmem, hin⟩⟩

/-! ## Addresses -/

namespace Address

variable {path : String} {a : Address}

/-- The pieces of an address that is read, and its segments, one by one. -/
theorem forall₂_read_of_parse (h : parse path = .ok a) :
    List.Forall₂ (fun piece s => Segment.read piece = .ok s) (Text.pieces '.' path.toList)
      a.segments := by
  have hpieces := parse_eq_ok_iff.mp h
  rw [← List.forall₂_eq_eq_eq, List.forall₂_map_left_iff, List.forall₂_map_right_iff] at hpieces
  exact hpieces

theorem exists_piece_of_parse (h : parse path = .ok a) {s : Segment} (hs : s ∈ a.segments) :
    ∃ piece ∈ Text.pieces '.' path.toList, Segment.read piece = .ok s := by
  have hmem : Except.ok s ∈ (Text.pieces '.' path.toList).map Segment.read := by
    rw [parse_eq_ok_iff.mp h]
    exact List.mem_map_of_mem hs
  obtain ⟨piece, hpiece, hread⟩ := List.mem_map.mp hmem
  exact ⟨piece, hpiece, hread⟩

/-- The pieces of an address that was read and written are the texts of its segments. -/
theorem pieces_text_of_parse (h : parse path = .ok a) :
    Text.pieces '.' a.text.toList = a.segments.map fun s => s.text.toList := by
  apply pieces_text_of_points (segments_ne_nil h)
  intro s hs
  obtain ⟨piece, hpiece, hread⟩ := exists_piece_of_parse h hs
  exact Segment.point_not_mem_text_of_read hread (Text.not_mem_of_mem_pieces hpiece)

theorem parse_text_of_parse (h : parse path = .ok a) : parse a.text = .ok a := by
  rw [parse_eq_ok_iff, pieces_text_of_parse h, List.map_map]
  apply List.map_congr_left
  intro s hs
  obtain ⟨piece, -, hread⟩ := exists_piece_of_parse h hs
  exact Segment.read_text_of_read hread

/-- An address is written as it was read when each of its segments is. -/
theorem text_eq_iff_map_text (h : parse path = .ok a) :
    a.text = path ↔ (a.segments.map fun s => s.text.toList) = Text.pieces '.' path.toList := by
  rw [← pieces_text_of_parse h]
  constructor
  · intro htext
    rw [htext]
  · intro hpieces
    rw [Text.pieces_eq_splitOn, Text.pieces_eq_splitOn] at hpieces
    have hjoin := congrArg (['.'].intercalate ·) hpieces
    simp only [List.intercalate_splitOn] at hjoin
    exact String.toList_injective hjoin

theorem text_eq_iff_of_parse (h : parse path = .ok a) :
    a.text = path ↔ ¬ Segment.PadsOffset path.toList := by
  rw [text_eq_iff_map_text h, Segment.padsOffset_iff_exists_piece]
  have hread := forall₂_read_of_parse h
  generalize Text.pieces '.' path.toList = pieces, a.segments = segments at hread
  induction hread with
  | nil => simp
  | @cons piece s pieces segments hpiece _ ih =>
    have hfirst := Segment.text_eq_iff_of_read hpiece
    simp [hfirst, ih]

/-- Two spellings of one address lead to the same target in any document. -/
theorem resolve_text_of_parse (h : parse path = .ok a) (d : Document) :
    d.resolve a.text = d.resolve path := by
  rw [Document.resolve_of_parse (parse_text_of_parse h), Document.resolve_of_parse h]

/-- **Canonical addresses.** Let a text be read as an address. The address has one segment more than
the text has points. To write it and to read that gives it back, and what is written is the text
itself exactly when no offset in the text has a leading zero that could be left out. In every
document both lead to the same target, and where nothing is remembered both are answered alike. And
every row of segments whose names are plain and whose offsets fit is read back from its written
form. -/
theorem parse_text_canonical :
    (∀ (path : String) (a : Address), parse path = .ok a →
      a.segments.length = path.toList.count '.' + 1 ∧
      parse a.text = .ok a ∧
      (a.text = path ↔ ¬ Segment.PadsOffset path.toList) ∧
      ∀ d : Document, d.resolve a.text = d.resolve path ∧
        (d.cache.entries = [] → (d.query a.text).1 = (d.query path).1)) ∧
    ∀ segments : List Segment, segments ≠ [] → (∀ s ∈ segments, s.WellFormed) →
      parse (".".intercalate (segments.map Segment.text)) = .ok ⟨segments⟩ := by
  constructor
  · intro path a h
    refine ⟨?_, parse_text_of_parse h, text_eq_iff_of_parse h, ?_⟩
    · rw [← (forall₂_read_of_parse h).length_eq, Text.length_pieces]
    · intro d
      have hresolve := resolve_text_of_parse h d
      refine ⟨hresolve, fun hempty => ?_⟩
      rw [Document.query_of_entries_eq_nil hempty, Document.query_of_entries_eq_nil hempty,
        Document.lookup, Document.lookup, hresolve]
  · intro segments hne hsegments
    exact @parse_text ⟨segments⟩ hne hsegments

/-- A group with an array of two items. -/
def hostsDocument : Document where
  groups := [{ identifier := "a", fields := .ofList [⟨"hosts", .array [⟨"x"⟩, ⟨"y"⟩]⟩] }]

/-- The address of the second item. -/
def hostsAddress : Address := ⟨[⟨"a", none⟩, ⟨"hosts", some 1⟩]⟩

/-- With a leading zero the address is another text, and the answer is the same. -/
theorem parse_text_padded_host :
    parse "a.hosts[01]" = .ok hostsAddress ∧
      hostsAddress.text = "a.hosts[1]" ∧
      parse "a.hosts[1]" = .ok hostsAddress ∧
      Segment.PadsOffset "a.hosts[01]".toList ∧
      ¬ Segment.PadsOffset "a.hosts[1]".toList ∧
      hostsDocument.cache.entries = [] ∧
      (hostsDocument.query "a.hosts[01]").1 = .ok (.value (.scalar ⟨"y"⟩)) ∧
      (hostsDocument.query "a.hosts[1]").1 = .ok (.value (.scalar ⟨"y"⟩)) ∧
      (∀ s ∈ hostsAddress.segments, s.WellFormed) ∧
      parse (".".intercalate (hostsAddress.segments.map Segment.text)) = .ok hostsAddress := by
  have hparse : parse "a.hosts[01]" = .ok hostsAddress := by decide
  have htext : hostsAddress.text = "a.hosts[1]" := by decide
  have hempty : hostsDocument.cache.entries = [] := rfl
  have hwellFormed : ∀ s ∈ hostsAddress.segments, s.WellFormed := by
    intro s hs
    rcases List.mem_cons.mp hs with rfl | hs
    · exact ⟨by decide, nofun⟩
    · obtain rfl := List.mem_singleton.mp hs
      refine ⟨by decide, ?_⟩
      rintro n ⟨⟩
      decide
  obtain ⟨hread, hwrite⟩ := parse_text_canonical
  obtain ⟨-, hback, hpadded, hanswer⟩ := hread "a.hosts[01]" hostsAddress hparse
  obtain ⟨-, -, hcanonical, -⟩ := hread "a.hosts[1]" hostsAddress (htext ▸ hback)
  obtain ⟨-, hquery⟩ := hanswer hostsDocument
  have hitem : (hostsDocument.query "a.hosts[01]").1 = .ok (.value (.scalar ⟨"y"⟩)) := by rfl
  refine ⟨hparse, htext, htext ▸ hback, ?_, hcanonical.mp htext, hempty, hitem, ?_, hwellFormed,
    hwrite hostsAddress.segments (List.cons_ne_nil _ _) hwellFormed⟩
  · by_contra hunpadded
    exact absurd (hpadded.mpr hunpadded) (by decide)
  · rw [← htext, hquery hempty, hitem]

end Address

end Settings
