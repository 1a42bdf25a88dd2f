import Settings.Proofs.AddressText
/-!
# The grammar of segments

A segment is an identifier, or an identifier and an offset in brackets (`Segment.Spells`). The
reader looks for an opening bracket first. If there is none, it refuses a closing bracket anywhere;
if there is one, it never looks for a closing bracket before it. So it reads all that the grammar
has, and besides that the texts whose name holds a closing bracket and that have an offset
(`Segment.SpellsUnmatched`). `Segment.parse_eq_ok_iff_grammar` says so, and that it reads nothing
else.
-/

namespace Settings

namespace Segment

variable {text name digits : List Char} {n : Nat} {s : Segment}

/-! ## Offsets -/

/-- One or more decimal digits and the number that they spell, which fits in sixty-four bits. -/
structure SpellsOffset (digits : List Char) (n : Nat) : Prop where
  nonempty : digits ≠ []
  decimal : ∀ c ∈ digits, c.isDigit = true
  value : Nat.ofDigitChars 10 digits 0 = n
  fits : n < UInt64.size

theorem readOffset_of_decimal (hne : digits ≠ []) (hdecimal : ∀ c ∈ digits, c.isDigit = true) :
    readOffset digits =
      if Nat.ofDigitChars 10 digits 0 < Number.offsetBound then
        .ok (Nat.ofDigitChars 10 digits 0)
      else .error .offsetTooLarge := by
  have hempty : digits.isEmpty = false := List.isEmpty_eq_false_iff.mpr hne
  have hall : digits.all Char.isDigit = true := List.all_eq_true.mpr hdecimal
  have hvalue : Number.readDigits? 10 digits = some (Nat.ofDigitChars 10 digits 0) := by
    simp [Number.readDigits?, hempty, Number.readDigitsOnto_ten hdecimal]
  rw [readOffset, hempty, hall, hvalue, Option.filter_some]
  by_cases hfits : Nat.ofDigitChars 10 digits 0 < Number.offsetBound
  · simp [hfits]
  · simp [hfits]

/-- Offsets are read as they are spelled. -/
theorem readOffset_eq_ok_iff : readOffset digits = .ok n ↔ SpellsOffset digits n := by
  have hbound : Number.offsetBound = UInt64.size := rfl
  constructor
  · intro h
    by_cases hrefused : (digits.isEmpty || !digits.all Char.isDigit) = true
    · rw [readOffset, if_pos hrefused] at h
      cases h
    · simp only [Bool.or_eq_true, Bool.not_eq_true', not_or, Bool.not_eq_true, Bool.not_eq_false,
        List.isEmpty_eq_false_iff, List.all_eq_true] at hrefused
      obtain ⟨hne, hdigits⟩ := hrefused
      rw [readOffset_of_decimal hne hdigits] at h
      split at h
      · next hfits =>
        cases h
        exact ⟨hne, hdigits, rfl, hbound ▸ hfits⟩
      · cases h
  · rintro ⟨hne, hdigits, rfl, hfits⟩
    rw [readOffset_of_decimal hne hdigits, if_pos (hbound ▸ hfits)]

/-! ## The grammar -/

/-- One or more characters, none of which is a bracket. -/
structure Identifier (name : List Char) : Prop where
  nonempty : name ≠ []
  unopened : '[' ∉ name
  unclosed : ']' ∉ name

/-- The grammar: an identifier is a segment without an offset, and an identifier with digits in
brackets after it is one with the offset that they spell. -/
inductive Spells : List Char → Segment → Prop
  | plain {name : List Char} (identifier : Identifier name) :
      Spells name ⟨String.ofList name, none⟩
  | bracketed {name digits : List Char} {n : Nat} (identifier : Identifier name)
      (offset : SpellsOffset digits n) :
      Spells (name ++ '[' :: (digits ++ [']'])) ⟨String.ofList name, some n⟩

/-- What is read although the grammar does not have it: in front of an offset stands a name with a
closing bracket that nothing opens. -/
inductive SpellsUnmatched : List Char → Segment → Prop
  | bracketed {name digits : List Char} {n : Nat} (unopened : '[' ∉ name) (closed : ']' ∈ name)
      (offset : SpellsOffset digits n) :
      SpellsUnmatched (name ++ '[' :: (digits ++ [']'])) ⟨String.ofList name, some n⟩

/-- A text before whose first opening bracket a closing one stands spells no segment. -/
theorem SpellsUnmatched.not_spells {other : Segment} (h : SpellsUnmatched text s) :
    ¬ Spells text other := by
  intro hspells
  cases h with
  | @bracketed name digits n unopened closed offset =>
    generalize htext : name ++ '[' :: (digits ++ [']']) = text at hspells
    cases hspells with
    | plain identifier =>
      apply identifier.unclosed
      rw [← htext]
      exact List.mem_append_left _ closed
    | @bracketed name' digits' n' identifier offset' =>
      -- both names end before the first opening bracket
      have hcut := Text.cutFirst_append unopened (digits ++ [']'])
      rw [htext, Text.cutFirst_append identifier.unopened] at hcut
      obtain ⟨rfl, -⟩ := Prod.mk.inj (Option.some.inj hcut)
      exact identifier.unclosed closed

/-- A text without an opening bracket is read when it is an identifier. -/
theorem read_eq_ok_iff_identifier (hopen : '[' ∉ text) :
    read text = .ok s ↔ Identifier text ∧ s = ⟨String.ofList text, none⟩ := by
  rw [read_plain_eq_ok_iff hopen]
  obtain ⟨name, offset⟩ := s
  constructor
  · rintro ⟨rfl, rfl, hname, hclose⟩
    refine ⟨⟨mt String.toList_eq_nil_iff.mp hname, hopen, hclose⟩, ?_⟩
    rw [String.ofList_toList]
  · rintro ⟨⟨hne, -, hclose⟩, hs⟩
    cases hs
    refine ⟨rfl, String.toList_ofList.symm, ?_, hclose⟩
    simpa using hne

/-- The reader takes what the grammar has and what it overlooks, and nothing else. -/
theorem read_eq_ok_iff_grammar :
    read text = .ok s ↔ Spells text s ∨ SpellsUnmatched text s := by
  constructor
  · intro h
    cases hcut : Text.cutFirst '[' text with
    | none =>
      have hopen := Text.cutFirst_eq_none_iff.mp hcut
      obtain ⟨hidentifier, rfl⟩ := (read_eq_ok_iff_identifier hopen).mp h
      exact .inl (.plain hidentifier)
    | some cut =>
      obtain ⟨rfl, hopen⟩ := Text.eq_of_cutFirst hcut
      obtain ⟨n, digits, rfl, hname, hrest, hoffset⟩ := (read_bracketed_eq_ok_iff hopen).mp h
      rw [hrest]
      rw [readOffset_eq_ok_iff] at hoffset
      by_cases hclose : ']' ∈ cut.1
      · exact .inr (.bracketed hopen hclose hoffset)
      · exact .inl (.bracketed ⟨hname, hopen, hclose⟩ hoffset)
  · rintro (hspells | hunmatched)
    · cases hspells with
      | plain identifier =>
        exact (read_eq_ok_iff_identifier identifier.unopened).mpr ⟨identifier, rfl⟩
      | bracketed identifier offset =>
        rw [read_bracketed_eq_ok_iff identifier.unopened]
        exact ⟨_, _, rfl, identifier.nonempty, rfl, readOffset_eq_ok_iff.mpr offset⟩
    · cases hunmatched with
      | bracketed unopened closed offset =>
        rw [read_bracketed_eq_ok_iff unopened]
        exact ⟨_, _, rfl, List.ne_nil_of_mem closed, rfl, readOffset_eq_ok_iff.mpr offset⟩

/-- A text that is not read as a segment is an invalid path. -/
theorem parse_eq_invalidPath {path : String} (h : ∀ s, parse path ≠ .ok s) :
    ∃ reason, parse path = .error (.invalidPath path reason) := by
  cases hread : read path.toList with
  | ok s => exact absurd (parse_eq_ok_iff.mpr hread) (h s)
  | error fault =>
    refine ⟨fault.message, ?_⟩
    unfold parse
    rw [hread]
    rfl

/-- **The grammar of segments.** A text is read as a segment exactly when it is an identifier, or an
identifier with digits in brackets after it whose value is below `2 ^ 64`, or when it is of the
second form but for a closing bracket in its name. The segment has that name and that offset, and
every other text is an invalid path. So "read if and only if the grammar has it" holds of a text
exactly if it is not of the third form, which has to have a closing bracket before its first opening
one. -/
theorem parse_eq_ok_iff_grammar (path : String) :
    (∀ s, parse path = .ok s ↔ Spells path.toList s ∨ SpellsUnmatched path.toList s) ∧
    ((∀ s, parse path = .ok s ↔ Spells path.toList s) ↔ ∀ s, ¬ SpellsUnmatched path.toList s) ∧
    ((∀ s, ¬ Spells path.toList s ∧ ¬ SpellsUnmatched path.toList s) →
      ∃ reason, parse path = .error (.invalidPath path reason)) := by
  have hread : ∀ s, parse path = .ok s ↔ Spells path.toList s ∨ SpellsUnmatched path.toList s :=
    fun s => parse_eq_ok_iff.trans read_eq_ok_iff_grammar
  refine ⟨hread, ⟨?_, ?_⟩, ?_⟩
  · intro hgrammar s hunmatched
    have hspells := (hgrammar s).mp ((hread s).mpr (.inr hunmatched))
    exact hunmatched.not_spells hspells
  · intro hmatched s
    rw [hread]
    exact or_iff_left (hmatched s)
  · intro hneither
    apply parse_eq_invalidPath
    intro s hparse
    rcases (hread s).mp hparse with hspells | hunmatched
    · exact (hneither s).1 hspells
    · exact (hneither s).2 hunmatched

/-- Leading zeros are digits like others, and a closing bracket is no name. -/
theorem parse_grammar_hosts :
    Spells "hosts[007]".toList ⟨"hosts", some 7⟩ ∧
      parse "hosts[007]" = .ok ⟨"hosts", some 7⟩ ∧
      (∀ s, ¬ Spells "hosts]".toList s ∧ ¬ SpellsUnmatched "hosts]".toList s) ∧
      ∃ reason, parse "hosts]" = .error (.invalidPath "hosts]" reason) := by
  have hspells : Spells "hosts[007]".toList ⟨"hosts", some 7⟩ :=
    @Spells.bracketed "hosts".toList ['0', '0', '7'] 7 ⟨by decide, by decide, by decide⟩
      ⟨by decide, by simp, rfl, by decide⟩
  obtain ⟨hread, -, -⟩ := parse_eq_ok_iff_grammar "hosts[007]"
  obtain ⟨hread', -, hrefused⟩ := parse_eq_ok_iff_grammar "hosts]"
  have hneither : ∀ s, ¬ Spells "hosts]".toList s ∧ ¬ SpellsUnmatched "hosts]".toList s := by
    intro s
    have herror : parse "hosts]" = .error (AddressFault.unmatchedBracket.toError "hosts]") := rfl
    have hnone : ¬ parse "hosts]" = .ok s := by
      rw [herror]
      nofun
    rwa [hread', not_or] at hnone
  exact ⟨hspells, (hread _).mpr (.inl hspells), hneither, hrefused hneither⟩

/-- A closing bracket in a name is overlooked as soon as an offset follows: a text is read that the
grammar does not have. -/
theorem parse_unmatched_bracket :
    parse "a]b[1]" = .ok ⟨"a]b", some 1⟩ ∧ (∀ s, ¬ Spells "a]b[1]".toList s) ∧
      ¬ ∀ s, parse "a]b[1]" = .ok s ↔ Spells "a]b[1]".toList s := by
  have hunmatched : SpellsUnmatched "a]b[1]".toList ⟨"a]b", some 1⟩ :=
    @SpellsUnmatched.bracketed "a]b".toList ['1'] 1 (by decide) (by decide)
      ⟨by decide, by simp, rfl, by decide⟩
  have hparse : parse "a]b[1]" = .ok ⟨"a]b", some 1⟩ := rfl
  refine ⟨hparse, fun s => hunmatched.not_spells, ?_⟩
  intro hgrammar
  exact hunmatched.not_spells ((hgrammar _).mp hparse)

end Segment

end Settings
