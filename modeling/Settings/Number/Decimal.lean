import Settings.Number.Binary64
import Settings.Number.Integer
/-!
# Reading decimal notation

The grammar of a floating-point text: an optional sign, then `inf`, `infinity` or `nan` in any case
of letters, or digits with an optional point among, before or behind them and an optional exponent.
-/

namespace Settings.Number

/-- Digits and a power of ten, the parts of an unsigned decimal. -/
structure Decimal where
  digits : Nat
  exponent : Int
  deriving DecidableEq, Repr

/-- The number that a row of digits spells; no digits spell zero. -/
def digitsValue (s : List Char) : Nat := s.foldl (fun acc c => acc * 10 + (c.toNat - '0'.toNat)) 0

/-- The exponent after `e` or `E`; where there is none, it is zero. -/
def readExponent? : List Char → Option Int
  | [] => some 0
  | c :: rest => if c = 'e' || c = 'E' then readSigned? 10 rest else none

/-- An unsigned decimal: digits before or behind the point, or both, and an exponent. -/
def readDecimal? (s : List Char) : Option Decimal :=
  let whole := s.takeWhile Char.isDigit
  let (fraction, rest) :=
    match s.dropWhile Char.isDigit with
    | '.' :: rest => (rest.takeWhile Char.isDigit, rest.dropWhile Char.isDigit)
    | rest => ([], rest)
  if whole.isEmpty && fraction.isEmpty then none
  else (readExponent? rest).map fun e => ⟨digitsValue (whole ++ fraction), e - fraction.length⟩

/-- The number that a floating-point text spells. -/
def readBinary64? (s : List Char) : Option Binary64 :=
  let (negative, body) :=
    match s with
    | '-' :: rest => (true, rest)
    | '+' :: rest => (false, rest)
    | _ => (false, s)
  let word := String.ofList (body.map Char.toLower)
  if word = "inf" || word = "infinity" then some (.infinite negative)
  else if word = "nan" then some .notANumber
  else (readDecimal? body).map fun d => .ofDecimal negative d.digits d.exponent

end Settings.Number
