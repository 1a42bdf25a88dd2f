import Settings.Number.Binary64
/-!
# Whole numbers in floating point

A whole number other than zero has fifty-three bits at the exponent that is chosen for it
(`Binary64.leastNormal_le_inUnits`), and rounding takes none of them away
(`Binary64.div_le_roundHalfEven`). So however large it is, and in whichever direction it is rounded,
a positive whole number does not fall below one, and the others stay below
(`Binary64.atLeastOne_ofInt`).
-/

namespace Settings.Number.Binary64

variable {m n q : Nat} {e : Int}

/-! ## Rounding -/

/-- Rounding to a whole number loses at most what is left by the division. -/
theorem div_le_roundHalfEven (num den : Nat) : num / den ≤ roundHalfEven num den := by
  unfold roundHalfEven
  dsimp only
  repeat' split
  all_goals omega

/-- At the exponent that makes fifty-three bits of its greatest one, a whole number has no fewer. -/
theorem leastNormal_le_inUnits (hm : m ≠ 0) :
    leastNormal * (inUnits m 1 (Nat.log2 m - 52)).2 ≤ (inUnits m 1 (Nat.log2 m - 52)).1 := by
  have hlog : 2 ^ Nat.log2 m ≤ m := Nat.log2_self_le hm
  have hleast : leastNormal = 2 ^ 52 := rfl
  rw [inUnits, hleast, Nat.shiftLeft_eq, Nat.shiftLeft_eq, Nat.one_mul, ← Nat.pow_add]
  dsimp only
  generalize Nat.log2 m = k at hlog ⊢
  calc 2 ^ (52 + ((k : Int) - 52).toNat)
      = 2 ^ k * 2 ^ (-((k : Int) - 52)).toNat := by
        rw [← Nat.pow_add]
        congr 1
        omega
    _ ≤ m * 2 ^ (-((k : Int) - 52)).toNat := Nat.mul_le_mul_right _ hlog

theorem exponentFor_one (hm : m ≠ 0) : exponentFor m 1 = Nat.log2 m - 52 := by
  have hlog : Nat.log2 1 = 0 := by decide
  have hbits := Nat.not_lt.mpr (leastNormal_le_inUnits hm)
  rw [exponentFor, hlog]
  simp only [Int.natCast_zero, Int.sub_zero, hbits, if_false]
  have hleast : leastExponent = -1074 := rfl
  omega

/-- The ways to round: out of range, to the nearest mantissa, or with a carry into a further bit,
which makes the exponent greater by one. -/
theorem ofRatio_cases (negative : Bool) (hm : m ≠ 0) (den : Nat) :
    let e := exponentFor m den
    let q := roundHalfEven (inUnits m den e).1 (inUnits m den e).2
    ofRatio negative m den = infinite negative ∨ ofRatio negative m den = finite negative q e ∨
      q = 2 * leastNormal ∧ ofRatio negative m den = finite negative leastNormal (e + 1) := by
  intro e q
  have hround : ofRatio negative m den =
      let rounded := if q = 2 * leastNormal then (leastNormal, e + 1) else (q, e)
      if rounded.2 > greatestExponent then infinite negative
      else finite negative rounded.1 rounded.2 := by
    rw [ofRatio, if_neg hm]
  rw [hround]
  by_cases hcarry : q = 2 * leastNormal
  · rw [if_pos hcarry]
    by_cases hrange : e + 1 > greatestExponent
    · exact .inl (if_pos hrange)
    · exact .inr (.inr ⟨hcarry, if_neg hrange⟩)
  · rw [if_neg hcarry]
    by_cases hrange : e > greatestExponent
    · exact .inl (if_pos hrange)
    · exact .inr (.inl (if_neg hrange))

/-! ## Comparing with one -/

/-- Fifty-three bits at an exponent that does not put all of them behind the point. -/
theorem atLeastOne_finite (hq : leastNormal ≤ q) (he : -52 ≤ e) :
    (finite false q e).atLeastOne = true := by
  have hleast : leastNormal = 2 ^ 52 := rfl
  rw [atLeastOne, Bool.not_false, Bool.true_and, decide_eq_true_eq, Nat.shiftLeft_eq,
    Nat.shiftLeft_eq, Nat.one_mul]
  calc 2 ^ (-e).toNat ≤ 2 ^ 52 := Nat.pow_le_pow_right Nat.two_pos (by omega)
    _ ≤ q := hleast ▸ hq
    _ ≤ q * 2 ^ e.toNat := Nat.le_mul_of_pos_right q (Nat.two_pow_pos _)

/-- Nothing with a minus sign is at least one. -/
theorem atLeastOne_ofRatio_negative (num den : Nat) :
    (ofRatio true num den).atLeastOne = false := by
  by_cases hnum : num = 0
  · rw [ofRatio, if_pos hnum]
    rfl
  · rcases ofRatio_cases true hnum den with hnew | hnew | ⟨-, hnew⟩
    · rw [hnew, atLeastOne, Bool.not_true]
    · rw [hnew, atLeastOne, Bool.not_true, Bool.false_and]
    · rw [hnew, atLeastOne, Bool.not_true, Bool.false_and]

/-- A positive whole number is at least one after rounding, even if it is out of range. -/
theorem atLeastOne_ofRatio_one (hm : m ≠ 0) : (ofRatio false m 1).atLeastOne = true := by
  have hcases := ofRatio_cases false hm 1
  have hbits := leastNormal_le_inUnits hm
  rw [exponentFor_one hm] at hcases
  rcases hcases with hnew | hnew | ⟨-, hnew⟩
  · rw [hnew, atLeastOne, Bool.not_false]
  · rw [hnew]
    have hpos : 0 < (inUnits m 1 (Nat.log2 m - 52)).2 := by
      show 0 < 1 <<< _
      rw [Nat.shiftLeft_eq, Nat.one_mul]
      exact Nat.two_pow_pos _
    have hquotient := (Nat.le_div_iff_mul_le hpos).mpr hbits
    exact atLeastOne_finite (Nat.le_trans hquotient (div_le_roundHalfEven _ _)) (by omega)
  · rw [hnew]
    exact atLeastOne_finite (Nat.le_refl _) (by omega)

/-- **Whole numbers keep their side of one.** The floating-point number nearest to a whole number is
at least one exactly when the whole number is. -/
theorem atLeastOne_ofInt (n : Int) : (ofInt n).atLeastOne = true ↔ 1 ≤ n := by
  unfold ofInt
  rcases Int.lt_trichotomy n 0 with hneg | rfl | hpos
  · rw [decide_eq_true hneg, atLeastOne_ofRatio_negative]
    exact ⟨nofun, fun hone => absurd hneg (by omega)⟩
  · decide
  · rw [decide_eq_false (by omega), atLeastOne_ofRatio_one (by omega)]
    exact ⟨fun _ => hpos, fun _ => rfl⟩

end Settings.Number.Binary64
