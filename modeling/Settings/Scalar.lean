import Settings.Error
import Settings.Json
import Settings.Number.Decimal
import Settings.Text.Blank
import Settings.Text.Case
/-!
# Scalars

A scalar is a text, and it is read as an integer, a floating-point number or a truth value only when
asked for. Blanks around the text do not count.
-/

namespace Settings

/-- The text of one value. -/
structure Scalar where
  text : String
  deriving DecidableEq, Repr, Inhabited

namespace Scalar

def ofInt (n : Int) : Scalar := ⟨Number.intText n⟩

/-- The number in full, without an exponent. -/
def ofFloat (x : Number.Binary64) : Scalar := ⟨Number.Layout.plain.text x⟩

def ofBool (b : Bool) : Scalar := ⟨if b then "true" else "false"⟩

/-- The characters between the blanks at either end. -/
def core (s : Scalar) : List Char := Text.trim s.text.toList

/-- The scalar as a signed integer of sixty-four bits. -/
def toInt (s : Scalar) : Except Error Int :=
  match Number.readSigned64? s.core with
  | some n => .ok n
  | none => .error (.typeConversion s.text "integer")

/-- The scalar as a floating-point number. -/
def toFloat (s : Scalar) : Except Error Number.Binary64 :=
  match Number.readBinary64? s.core with
  | some x => .ok x
  | none => .error (.typeConversion s.text "float")

/-- Whether the scalar spells a number of at least one. An integer is taken as the floating-point
number nearest to it; any other number has to be finite. -/
def isPositiveNumber (s : Scalar) : Bool :=
  match Number.readSigned64? s.core with
  | some n => (Number.Binary64.ofInt n).atLeastOne
  | none =>
    match Number.readBinary64? s.core with
    | some x => x.isFinite && x.atLeastOne
    | none => false

/-- A number of at least one is true, and so is the word `true`; all else is false. -/
def toBool (s : Scalar) : Bool :=
  s.isPositiveNumber || Text.sameAsciiLetters s.core "true".toList

end Scalar

/-- What a scalar can be read as. -/
inductive ValueType
  | string
  | int
  | float
  | bool
  deriving DecidableEq, Repr

/-- The JSON value of a scalar read as a type. JSON has no place for infinities and non-numbers. -/
def ValueType.toJson (type : ValueType) (s : Scalar) : Except Error Json :=
  match type with
  | .string => .ok (.string s.text)
  | .int => s.toInt.map .int
  | .float =>
    s.toFloat.bind fun x =>
      if x.isFinite then .ok (.float x) else .error (.typeConversion s.text "float")
  | .bool => .ok (.bool s.toBool)

end Settings
