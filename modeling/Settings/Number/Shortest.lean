import Settings.Number.Binary64
/-!
# The fewest digits that read back

A finite binary64 number is the rounding of every real in an interval around it. Of the decimals in
that interval the one on the coarsest grid `10 ^ k` has the fewest digits; where a grid has several
points inside, the nearest to the number is taken. Only the two neighbours of the number on a grid
need to be looked at, for if any point of the grid is inside, one of these is.
-/

namespace Settings.Number

/-- Which of two equally near decimals is taken. -/
inductive Tie
  | toEven
  | up
  deriving DecidableEq, Repr

/-- The interval that rounds to `mantissa * 2 ^ exponent`: its ends and the number itself, as
multiples of `2 ^ (exponent - 2)`. -/
structure RoundingInterval where
  low : Nat
  value : Nat
  high : Nat
  closed : Bool

/-- Below a power of two the numbers stand twice as dense. The ends belong to the interval when the
mantissa is even, since ties are rounded to even. -/
def RoundingInterval.of (mantissa : Nat) (exponent : Int) : RoundingInterval :=
  let narrow := mantissa = Binary64.leastNormal ∧ Binary64.leastExponent < exponent
  { low := 4 * mantissa - (if narrow then 1 else 2)
    value := 4 * mantissa
    high := 4 * mantissa + 2
    closed := mantissa % 2 = 0 }

/-- The best point of the grid `10 ^ k` in the interval, as a multiple of `10 ^ k`. Both sides are
brought to one unit, in which `step` is the distance between grid points. -/
def bestOnGrid? (tie : Tie) (i : RoundingInterval) (exponent k : Int) : Option Nat :=
  let p := exponent - 2
  let scale := Nat.pow 10 (-k).toNat <<< p.toNat
  let step := Nat.pow 10 k.toNat <<< (-p).toNat
  let inside (n : Nat) : Bool :=
    if i.closed then i.low * scale ≤ n * step && n * step ≤ i.high * scale
    else i.low * scale < n * step && n * step < i.high * scale
  let below := i.value * scale / step
  let rest := i.value * scale % step
  match inside below, inside (below + 1) with
  | false, false => none
  | true, false => some below
  | false, true => some (below + 1)
  | true, true =>
    if 2 * rest < step then some below
    else if 2 * rest > step then some (below + 1)
    else match tie with
      | .toEven => some (if below % 2 = 0 then below else below + 1)
      | .up => some (below + 1)

/-- The first grid from `k` downwards that has a point in the interval. -/
def coarsestGrid (tie : Tie) (i : RoundingInterval) (exponent : Int) : Nat → Int → Nat × Int
  | 0, k => (i.value, k)
  | fuel + 1, k =>
    match bestOnGrid? tie i exponent k with
    | some n => (n, k)
    | none => coarsestGrid tie i exponent fuel (k - 1)

/-- The shortest decimal that reads back as `mantissa * 2 ^ exponent`, for a positive mantissa: its
digits and its power of ten. The search starts on a grid coarser than the number, and ends after at
most seventeen digits. -/
def shortest (tie : Tie) (mantissa : Nat) (exponent : Int) : Nat × Int :=
  let start := ((Nat.log2 mantissa : Int) + exponent) * 30103 / 100000 + 2
  coarsestGrid tie (.of mantissa exponent) exponent 40 start

end Settings.Number
