import Mathlib.Algebra.Group.Int.Defs
import Settings.Proofs.Rounding
import Settings.Proofs.Trimming
import Settings.Scalar
/-!
# Integers in scalars

An integer is spelled by decimal digits with at most one sign before them (`Number.SpellsInt`). The
reader takes these texts and no others (`Number.readSigned?_eq_some_iff`), whatever zeros are in
front, and what is written for an integer is one of them (`Number.spellsInt_intText`). Around the
spelling of a scalar there may be blanks. `Scalar.toInt_reads_spelling` puts this together, and adds
that the truth value of a scalar that is an integer goes by the integer, although it is taken from
the floating-point number nearest to it.
-/

namespace Settings

/-! ## Spelling -/

namespace Number

variable {s digits : List Char} {c : Char} {n : Nat} {i : Int}

/-- One or more decimal digits, and the number that they spell. -/
structure SpellsNat (digits : List Char) (n : Nat) : Prop where
  nonempty : digits ≠ []
  decimal : ∀ c ∈ digits, c.isDigit = true
  value : Nat.ofDigitChars 10 digits 0 = n

/-- Decimal digits with at most one sign before them, and the integer that they spell. -/
inductive SpellsInt : List Char → Int → Prop
  | unsigned {digits : List Char} {n : Nat} : SpellsNat digits n → SpellsInt digits n
  | plus {digits : List Char} {n : Nat} : SpellsNat digits n → SpellsInt ('+' :: digits) n
  | minus {digits : List Char} {n : Nat} : SpellsNat digits n → SpellsInt ('-' :: digits) (-n)

/-- The digits below ten are the decimal ones; letters are worth more. -/
theorem isDigit_of_digitValue? {d : Nat} (h : digitValue? c = some d) (hd : d < 10) :
    c.isDigit = true := by
  unfold digitValue? at h
  split at h
  · assumption
  · split at h
    · cases h
      omega
    · split at h
      · cases h
        omega
      · cases h

theorem isDigit_of_readDigitsOnto {acc : Nat} (h : readDigitsOnto 10 acc s = some n) :
    ∀ c ∈ s, c.isDigit = true := by
  induction s generalizing acc with
  | nil => exact fun c hc => absurd hc List.not_mem_nil
  | cons c rest ih =>
    rw [readDigitsOnto] at h
    cases hvalue : digitValue? c with
    | none =>
      rw [hvalue] at h
      cases h
    | some d =>
      rw [hvalue] at h
      dsimp only at h
      by_cases hd : d < 10
      · rw [if_pos hd] at h
        exact List.forall_mem_cons.mpr ⟨isDigit_of_digitValue? hvalue hd, ih h⟩
      · rw [if_neg hd] at h
        cases h

/-- The reader of digits takes what they spell. -/
theorem readDigits?_eq_some_iff : readDigits? 10 s = some n ↔ SpellsNat s n := by
  unfold readDigits?
  constructor
  · intro h
    by_cases hempty : s.isEmpty = true
    · rw [if_pos hempty] at h
      cases h
    · rw [if_neg hempty] at h
      have hdecimal := isDigit_of_readDigitsOnto h
      rw [readDigitsOnto_ten hdecimal] at h
      exact ⟨mt List.isEmpty_iff.mpr hempty, hdecimal, Option.some.inj h⟩
  · rintro ⟨hne, hdecimal, hvalue⟩
    rw [if_neg (mt List.isEmpty_iff.mp hne), readDigitsOnto_ten hdecimal, hvalue]

/-- Digits are no sign. -/
theorem SpellsNat.ne_cons (h : SpellsNat digits n) (hc : c.isDigit = false) (rest : List Char) :
    digits ≠ c :: rest := by
  rintro rfl
  rw [h.decimal c List.mem_cons_self] at hc
  cases hc

/-- The reader of integers takes what is spelled with a sign or without one. -/
theorem readSigned?_eq_some_iff : readSigned? 10 s = some i ↔ SpellsInt s i := by
  constructor
  · intro h
    unfold readSigned? at h
    split at h
    · obtain ⟨n, hn, rfl⟩ := Option.map_eq_some_iff.mp h
      exact .plus (readDigits?_eq_some_iff.mp hn)
    · obtain ⟨n, hn, rfl⟩ := Option.map_eq_some_iff.mp h
      exact .minus (readDigits?_eq_some_iff.mp hn)
    · obtain ⟨n, hn, rfl⟩ := Option.map_eq_some_iff.mp h
      exact .unsigned (readDigits?_eq_some_iff.mp hn)
  · intro h
    cases h with
    | unsigned hspells =>
      have hread := readDigits?_eq_some_iff.mpr hspells
      unfold readSigned?
      split
      · exact absurd rfl (hspells.ne_cons (by decide) _)
      · exact absurd rfl (hspells.ne_cons (by decide) _)
      · rw [hread]
        rfl
    | plus hspells =>
      rw [readSigned?, readDigits?_eq_some_iff.mpr hspells]
      rfl
    | minus hspells =>
      rw [readSigned?, readDigits?_eq_some_iff.mpr hspells]
      rfl

theorem readSigned64?_eq_some_iff : readSigned64? s = some i ↔ SpellsInt s i ∧ FitsSigned i := by
  rw [readSigned64?, Option.filter_eq_some_iff, readSigned?_eq_some_iff, decide_eq_true_eq]

/-- What is written for an integer spells it. -/
theorem spellsInt_intText (i : Int) : SpellsInt (intText i).toList i := by
  have hdigits : SpellsNat (natText i.natAbs).toList i.natAbs :=
    readDigits?_eq_some_iff.mp (readDigits?_natText _)
  unfold intText
  by_cases hneg : i < 0
  · rw [if_pos hneg, String.toList_append]
    have hspells := SpellsInt.minus hdigits
    rwa [show -(i.natAbs : Int) = i by omega] at hspells
  · rw [if_neg hneg]
    have hspells := SpellsInt.unsigned hdigits
    rwa [show (i.natAbs : Int) = i by omega] at hspells

/-! ## Characters -/

/-- A spelling is made of decimal digits and signs. -/
theorem SpellsInt.forall_mem (h : SpellsInt s i) :
    ∀ c ∈ s, c.isDigit = true ∨ c = '+' ∨ c = '-' := by
  cases h with
  | unsigned hspells => exact fun c hc => .inl (hspells.decimal c hc)
  | plus hspells =>
    exact List.forall_mem_cons.mpr ⟨.inr (.inl rfl), fun c hc => .inl (hspells.decimal c hc)⟩
  | minus hspells =>
    exact List.forall_mem_cons.mpr ⟨.inr (.inr rfl), fun c hc => .inl (hspells.decimal c hc)⟩

theorem SpellsInt.ne_nil (h : SpellsInt s i) : s ≠ [] := by
  cases h with
  | unsigned hspells => exact hspells.nonempty
  | plus _ => exact List.cons_ne_nil _ _
  | minus _ => exact List.cons_ne_nil _ _

theorem toNat_of_isDigit (h : c.isDigit = true) : 48 ≤ c.toNat ∧ c.toNat ≤ 57 :=
  Char.isDigit_iff_toNat.mp h

/-- So there are no blanks in it. -/
theorem SpellsInt.trim (h : SpellsInt s i) : Text.trim s = s := by
  refine Text.trim_of_forall_not_blank fun c hc => ?_
  rcases h.forall_mem c hc with hdigit | rfl | rfl
  · have hrange := toNat_of_isDigit hdigit
    simp [Text.isBlank]
    omega
  · decide
  · decide

/-- Nor is it a word. -/
theorem SpellsInt.not_sameAsciiLetters (h : SpellsInt s i) :
    Text.sameAsciiLetters s "true".toList = false := by
  obtain ⟨c, rest, rfl⟩ := List.exists_cons_of_ne_nil h.ne_nil
  have hfirst : c.toLower ≠ 't' := by
    rcases h.forall_mem c List.mem_cons_self with hdigit | rfl | rfl
    · have hrange := toNat_of_isDigit hdigit
      have hlower : c.toLower = c := by
        unfold Char.toLower
        rw [dif_neg]
        rintro ⟨hupper, -⟩
        have hge : 65 ≤ c.toNat := UInt32.le_iff_toNat_le.mp hupper
        omega
      rw [hlower]
      rintro rfl
      exact absurd hdigit (by decide)
    · decide
    · decide
  simp [Text.sameAsciiLetters, hfirst]

end Number

/-! ## Scalars -/

namespace Scalar

variable {s : Scalar} {n : Int}

theorem toInt_eq_ok_iff_core :
    s.toInt = .ok n ↔ Number.SpellsInt s.core n ∧ Number.FitsSigned n := by
  rw [← Number.readSigned64?_eq_some_iff, toInt]
  cases Number.readSigned64? s.core with
  | none => simp
  | some m => simp

/-- A scalar that is not read as an integer is refused with its whole text. -/
theorem toInt_eq_error (h : ∀ n, s.toInt ≠ .ok n) :
    s.toInt = .error (.typeConversion s.text "integer") := by
  unfold toInt at h ⊢
  cases hread : Number.readSigned64? s.core with
  | none => rfl
  | some n =>
    rw [hread] at h
    exact absurd rfl (h n)

/-- A scalar spells an integer between blanks. -/
def Spells (s : Scalar) (n : Int) : Prop :=
  ∃ (before after : Text.Gap) (body : String),
    s.text = before.val ++ body ++ after.val ∧ Number.SpellsInt body.toList n

/-- Blanks around a spelling do not count. -/
theorem core_padded (before after : Text.Gap) {body : String} (h : Number.SpellsInt body.toList n) :
    core ⟨before.val ++ body ++ after.val⟩ = body.toList := by
  rw [core, String.toList_append, String.toList_append]
  exact Text.trim_padded before.property.forall_mem after.property.forall_mem h.trim

theorem spells_iff_core : s.Spells n ↔ Number.SpellsInt s.core n := by
  constructor
  · rintro ⟨before, after, body, htext, hspells⟩
    obtain ⟨text⟩ := s
    obtain rfl : text = before.val ++ body ++ after.val := htext
    rwa [core_padded before after hspells]
  · intro hspells
    obtain ⟨before, after, htext, hbefore, hafter⟩ := Text.exists_padding s.text.toList
    have hgap : ∀ {blanks : List Char}, (∀ c ∈ blanks, Text.isBlank c = true) →
        Text.Blank (String.ofList blanks) := by
      intro blanks hblanks
      rw [Text.Blank, String.toList_ofList]
      exact List.all_eq_true.mpr hblanks
    refine ⟨⟨_, hgap hbefore⟩, ⟨_, hgap hafter⟩, String.ofList s.core, ?_, ?_⟩
    · apply String.toList_inj.mp
      simpa [core] using htext
    · rwa [String.toList_ofList]

/-- A scalar that is an integer is true exactly when the integer is at least one. -/
theorem toBool_of_spellsInt (hspells : Number.SpellsInt s.core n) (hfits : Number.FitsSigned n) :
    s.toBool = true ↔ 1 ≤ n := by
  have hread := Number.readSigned64?_eq_some_iff.mpr ⟨hspells, hfits⟩
  rw [toBool, hspells.not_sameAsciiLetters, Bool.or_false, isPositiveNumber, hread]
  exact Number.Binary64.atLeastOne_ofInt n

/-- **Integers in scalars.** A scalar is read as an integer exactly when its text is, between
blanks, one or more decimal digits with at most one sign before them that spell an integer of
sixty-four bits, and it is read as that integer. Every other scalar is refused, and the error names
its text with the blanks. What is written for an integer of sixty-four bits is read back, whatever
blanks are put around it. And a scalar that is read as an integer is true exactly when the integer
is at least one. -/
theorem toInt_reads_spelling (s : Scalar) :
    (∀ n, s.toInt = .ok n ↔ s.Spells n ∧ -2 ^ 63 ≤ n ∧ n ≤ 2 ^ 63 - 1) ∧
    ((∀ n, s.Spells n → ¬ (-2 ^ 63 ≤ n ∧ n ≤ 2 ^ 63 - 1)) →
      s.toInt = .error (.typeConversion s.text "integer")) ∧
    (∀ n : Int, -2 ^ 63 ≤ n ∧ n ≤ 2 ^ 63 - 1 → ∀ before after : Text.Gap,
      toInt ⟨before.val ++ (ofInt n).text ++ after.val⟩ = .ok n) ∧
    (∀ n, s.toInt = .ok n → (s.toBool = true ↔ 1 ≤ n)) := by
  have hfits : ∀ n : Int, Number.FitsSigned n ↔ -2 ^ 63 ≤ n ∧ n ≤ 2 ^ 63 - 1 := by
    intro n
    unfold Number.FitsSigned
    omega
  have hread : ∀ {s : Scalar} {n : Int},
      s.toInt = .ok n ↔ s.Spells n ∧ -2 ^ 63 ≤ n ∧ n ≤ 2 ^ 63 - 1 := by
    intro s n
    rw [toInt_eq_ok_iff_core, spells_iff_core, hfits]
  refine ⟨fun n => hread, ?_, ?_, ?_⟩
  · intro hnone
    refine toInt_eq_error fun n hn => ?_
    obtain ⟨hspells, hrange⟩ := hread.mp hn
    exact hnone n hspells hrange
  · intro n hrange before after
    exact hread.mpr ⟨⟨before, after, _, rfl, Number.spellsInt_intText n⟩, hrange⟩
  · intro n hn
    obtain ⟨hspells, hrange⟩ := toInt_eq_ok_iff_core.mp hn
    exact toBool_of_spellsInt hspells hrange

/-- The least integer is read back from between blanks, and is not true. Without its sign it is out
of range, and that is refused with the blank. -/
theorem toInt_reads_spelling_least :
    (-2 ^ 63 ≤ (-2 ^ 63 : Int) ∧ (-2 ^ 63 : Int) ≤ 2 ^ 63 - 1) ∧
      toInt ⟨" -9223372036854775808\u3000"⟩ = .ok (-2 ^ 63) ∧
      toBool ⟨" -9223372036854775808\u3000"⟩ = false ∧
      (∀ n, Spells ⟨" 9223372036854775808"⟩ n → ¬ (-2 ^ 63 ≤ n ∧ n ≤ 2 ^ 63 - 1)) ∧
      toInt ⟨" 9223372036854775808"⟩ =
        .error (.typeConversion " 9223372036854775808" "integer") := by
  have hrange : -2 ^ 63 ≤ (-2 ^ 63 : Int) ∧ (-2 ^ 63 : Int) ≤ 2 ^ 63 - 1 := by decide
  obtain ⟨-, -, hwritten, htrue⟩ := toInt_reads_spelling ⟨" -9223372036854775808\u3000"⟩
  have hleast := hwritten (-2 ^ 63) hrange ⟨" ", by decide⟩ ⟨"\u3000", by decide⟩
  have hbeyond : ∀ n, Spells ⟨" 9223372036854775808"⟩ n → ¬ (-2 ^ 63 ≤ n ∧ n ≤ 2 ^ 63 - 1) := by
    intro n hspells
    have hread := Number.readSigned?_eq_some_iff.mpr (spells_iff_core.mp hspells)
    have hvalue : Number.readSigned? 10 (core ⟨" 9223372036854775808"⟩) = some (2 ^ 63) := by
      decide +kernel
    obtain rfl : (2 ^ 63 : Int) = n := Option.some.inj (hvalue.symm.trans hread)
    decide
  refine ⟨hrange, hleast, ?_, hbeyond, (toInt_reads_spelling _).2.1 hbeyond⟩
  exact Bool.eq_false_iff.mpr fun h => absurd ((htrue _ hleast).mp h) (by decide)

end Scalar

end Settings
