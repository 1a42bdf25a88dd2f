/-!
# Integers in decimal notation

Reading an integer from its digits, with or without a sign, in any base up to sixteen, and within
bounds. Only ASCII digits count, and at least one is needed. Every reader takes any number of
leading zeros.
-/

namespace Settings.Number

/-- What a digit is worth; letters count from ten on, in either case. -/
def digitValue? (c : Char) : Option Nat :=
  if c.isDigit then some (c.toNat - '0'.toNat)
  else if 'a' ≤ c && c ≤ 'f' then some (c.toNat - 'a'.toNat + 10)
  else if 'A' ≤ c && c ≤ 'F' then some (c.toNat - 'A'.toNat + 10)
  else none

/-- Reads further digits onto the number read so far. -/
def readDigitsOnto (base : Nat) : Nat → List Char → Option Nat
  | acc, [] => some acc
  | acc, c :: rest =>
    match digitValue? c with
    | some d => if d < base then readDigitsOnto base (acc * base + d) rest else none
    | none => none

/-- The number that one or more digits spell. -/
def readDigits? (base : Nat) (s : List Char) : Option Nat :=
  if s.isEmpty then none else readDigitsOnto base 0 s

/-- The number that an optional sign and one or more digits spell. -/
def readSigned? (base : Nat) : List Char → Option Int
  | '+' :: rest => (readDigits? base rest).map Int.ofNat
  | '-' :: rest => (readDigits? base rest).map fun n => -Int.ofNat n
  | s => (readDigits? base s).map Int.ofNat

/-- The integers that fit in sixty-four bits with a sign: from `-2 ^ 63` on, and below `2 ^ 63`. -/
def FitsSigned (n : Int) : Prop := -0x8000000000000000 ≤ n ∧ n < 0x8000000000000000

instance (n : Int) : Decidable (FitsSigned n) := inferInstanceAs (Decidable (_ ∧ _))

/-- The first number that is too large for an offset: `2 ^ 64`. -/
def offsetBound : Nat := 0x10000000000000000

/-- A signed decimal integer of sixty-four bits. -/
def readSigned64? (s : List Char) : Option Int :=
  (readSigned? 10 s).filter fun n => FitsSigned n

/-- A decimal count below `offsetBound`; a plus sign before it is allowed. -/
def readCount? (s : List Char) : Option Nat :=
  let digits := match s with
    | '+' :: rest => rest
    | _ => s
  (readDigits? 10 digits).filter (· < offsetBound)

/-- The decimal notation of a natural number, without leading zeros. -/
def natText (n : Nat) : String := String.ofList (Nat.toDigits 10 n)

theorem digitValue?_of_isDigit {c : Char} (h : c.isDigit = true) :
    digitValue? c = some (c.toNat - '0'.toNat) := by
  rw [digitValue?, if_pos h]

theorem readDigitsOnto_ten {s : List Char} (h : ∀ c ∈ s, c.isDigit = true) (acc : Nat) :
    readDigitsOnto 10 acc s = some (Nat.ofDigitChars 10 s acc) := by
  induction s generalizing acc with
  | nil => rw [readDigitsOnto, Nat.ofDigitChars_nil]
  | cons c rest ih =>
    have hc := h c List.mem_cons_self
    have hbound : c.toNat - '0'.toNat < 10 := by
      have hrange := Char.isDigit_iff_toNat.mp hc
      have hzero : '0'.toNat = 48 := rfl
      have hnine : '9'.toNat = 57 := rfl
      omega
    rw [readDigitsOnto, digitValue?_of_isDigit hc]
    simp only [hbound, if_true]
    rw [ih (fun d hd => h d (List.mem_cons_of_mem _ hd)), Nat.ofDigitChars_cons, Nat.mul_comm]

theorem isDigit_of_mem_natText {n : Nat} {c : Char} (h : c ∈ (natText n).toList) :
    c.isDigit = true := by
  rw [natText, String.toList_ofList] at h
  exact Nat.isDigit_of_mem_toDigits (by decide) (by decide) h

theorem natText_toList_ne_nil (n : Nat) : (natText n).toList ≠ [] := by
  rw [natText, String.toList_ofList]
  exact Nat.toDigits_ne_nil

/-- A written number is read back. -/
theorem readDigits?_natText (n : Nat) : readDigits? 10 (natText n).toList = some n := by
  have hempty : ¬ (natText n).toList.isEmpty = true := by
    rw [List.isEmpty_iff]
    exact natText_toList_ne_nil n
  rw [readDigits?, if_neg hempty, readDigitsOnto_ten fun c hc => isDigit_of_mem_natText hc]
  rw [natText, String.toList_ofList, Nat.ofDigitChars_ten_toDigits]

/-- The decimal notation of an integer; only a negative one has a sign. -/
def intText (n : Int) : String := if n < 0 then "-" ++ natText n.natAbs else natText n.natAbs

end Settings.Number
