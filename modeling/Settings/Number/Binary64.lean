/-!
# Binary floating point

Numbers of the format binary64 as sign, mantissa and exponent, with the rounding that makes one out
of a decimal. All arithmetic is on natural numbers, so what is rounded where can be read off: the
nearest number is taken, and of two equally near ones the one with the even mantissa.
-/

namespace Settings.Number

/-- A number of the format binary64. A finite one stands for `mantissa * 2 ^ exponent`; it is in
canonical form when the mantissa is below `2 ^ 53`, the exponent is at least `-1074`, and the
mantissa reaches `2 ^ 52` unless the exponent is `-1074`. -/
inductive Binary64
  | finite (negative : Bool) (mantissa : Nat) (exponent : Int)
  | infinite (negative : Bool)
  | notANumber
  deriving DecidableEq, Repr, Inhabited

namespace Binary64

/-- The least exponent of a finite number. -/
def leastExponent : Int := -1074

/-- The greatest exponent of a finite number. -/
def greatestExponent : Int := 971

/-- The least mantissa that takes fifty-three bits: `2 ^ 52`. -/
def leastNormal : Nat := 0x10000000000000

/-- Zero with a sign. -/
def zero (negative : Bool) : Binary64 := .finite negative 0 leastExponent

/-- The whole number nearest to `num / den`; a half goes to the even neighbour. -/
def roundHalfEven (num den : Nat) : Nat :=
  let q := num / den
  let r := num % den
  if 2 * r < den then q
  else if 2 * r > den then q + 1
  else if q % 2 = 0 then q else q + 1

/-- `num / den` in units of `2 ^ e`, as a quotient of natural numbers. -/
def inUnits (num den : Nat) (e : Int) : Nat × Nat :=
  (num <<< (-e).toNat, den <<< e.toNat)

/-- The exponent at which `num / den` has fifty-three bits, or the least one if that is greater. -/
def exponentFor (num den : Nat) : Int :=
  let guess : Int := (Nat.log2 num : Int) - (Nat.log2 den : Int) - 52
  let (n, d) := inUnits num den guess
  max leastExponent (if n < leastNormal * d then guess - 1 else guess)

/-- The number nearest to `num / den`, with the given sign. -/
def ofRatio (negative : Bool) (num den : Nat) : Binary64 :=
  if num = 0 then zero negative
  else
    let e := exponentFor num den
    let (n, d) := inUnits num den e
    let q := roundHalfEven n d
    let (q, e) := if q = 2 * leastNormal then (leastNormal, e + 1) else (q, e)
    if e > greatestExponent then .infinite negative else .finite negative q e

/-- The number nearest to `digits * 10 ^ exponent`. Decimals out of all range are settled by their
size alone, so that a huge exponent costs nothing. -/
def ofDecimal (negative : Bool) (digits : Nat) (exponent : Int) : Binary64 :=
  let size : Int := (Nat.toDigits 10 digits).length + exponent
  if digits = 0 || size < -400 then zero negative
  else if size > 400 then .infinite negative
  else ofRatio negative (digits * Nat.pow 10 exponent.toNat) (Nat.pow 10 (-exponent).toNat)

/-- The nearest number to an integer. -/
def ofInt (n : Int) : Binary64 := ofRatio (n < 0) n.natAbs 1

def isFinite : Binary64 → Bool
  | .finite .. => true
  | _ => false

/-- Whether a number is at least one. Infinity is; what is not a number is not. -/
def atLeastOne : Binary64 → Bool
  | .finite negative m e => !negative && 1 <<< (-e).toNat ≤ m <<< e.toNat
  | .infinite negative => !negative
  | .notANumber => false

/-- Equality as a key: the two zeros are the same, and what is not a number equals itself. -/
def sameKey : Binary64 → Binary64 → Bool
  | .finite _ 0 _, .finite _ 0 _ => true
  | a, b => a == b

/-- The sixty-four bits of a number, the sign first. -/
def bits : Binary64 → Nat
  | .finite negative m e =>
    let magnitude :=
      if m < leastNormal then m else (e + 1075).toNat * leastNormal + (m - leastNormal)
    (if negative then 0x8000000000000000 else 0) + magnitude
  | .infinite negative => (if negative then 0x8000000000000000 else 0) + 0x7FF0000000000000
  | .notANumber => 0x7FF8000000000000

end Binary64

end Settings.Number
