import Settings.Number.Shortest
/-!
# Texts of floating-point numbers

All texts show the shortest digits; a `Layout` says how these are laid out. There are three of them:
the plain one without exponents, the one of JSON, and the one of numbers read from YAML.
-/

namespace Settings.Number

/-- How the digits of a number are laid out. -/
structure Layout where
  tie : Tie
  /-- Whether a number whose point stands this many digits to the right of its first one is written
  without an exponent. -/
  positional : Int → Bool
  /-- What follows a whole number that is written without an exponent. -/
  wholeEnd : String
  /-- What stands before the digits of an exponent that is not negative. -/
  exponentPlus : String
  infinity : String
  notANumber : String

namespace Layout

/-- Never an exponent, and no point in a whole number. -/
def plain : Layout := ⟨.up, fun _ => true, "", "", "inf", "NaN"⟩

/-- From `1e-5` up to below `1e16` without an exponent. -/
def moderate (point : Int) : Bool := -5 < point && point ≤ 16

/-- Whole numbers end in `.0` and positive exponents have a sign. -/
def json : Layout := ⟨.toEven, moderate, ".0", "+", "null", "null"⟩

/-- Like JSON, but a positive exponent has no sign. -/
def yaml : Layout := ⟨.toEven, moderate, ".0", "", ".inf", ".nan"⟩

/-- Digits with the point after the first `point` of them, filled up with zeros on either side. -/
def positionalText (layout : Layout) (digits : List Char) (point : Int) : List Char :=
  if point ≤ 0 then ['0', '.'] ++ List.replicate (-point).toNat '0' ++ digits
  else if digits.length ≤ point then
    digits ++ List.replicate (point.toNat - digits.length) '0' ++ layout.wholeEnd.toList
  else digits.take point.toNat ++ '.' :: digits.drop point.toNat

/-- One digit, the point and the others, and the exponent. -/
def scientificText (layout : Layout) (digits : List Char) (exponent : Int) : List Char :=
  let mantissa := match digits with
    | d :: rest => if rest.isEmpty then [d] else d :: '.' :: rest
    | [] => []
  let sign := if exponent < 0 then ['-'] else layout.exponentPlus.toList
  mantissa ++ 'e' :: sign ++ Nat.toDigits 10 exponent.natAbs

/-- The text of a positive finite number. -/
def magnitudeText (layout : Layout) (mantissa : Nat) (exponent : Int) : List Char :=
  let (n, k) := shortest layout.tie mantissa exponent
  let digits := Nat.toDigits 10 n
  let point := digits.length + k
  if layout.positional point then layout.positionalText digits point
  else layout.scientificText digits (point - 1)

/-- The text of a number. A zero is one digit, with its sign. -/
def text (layout : Layout) : Binary64 → String
  | .notANumber => layout.notANumber
  | .infinite negative => (if negative then "-" else "") ++ layout.infinity
  | .finite negative m e =>
    (if negative then "-" else "") ++
      (if m = 0 then "0" ++ layout.wholeEnd else String.ofList (layout.magnitudeText m e))

end Layout

end Settings.Number
