import Settings.Error
import Settings.Number.Integer
import Settings.Text.Split
/-!
# Addresses

An address is a row of segments joined by points. A segment is a name, or a name and an offset in
brackets:

    address  ::=  segment { "." segment }
    segment  ::=  name | name "[" digit { digit } "]"
    name     ::=  one or more characters other than ".", "[" and "]"

The offset is below `2 ^ 64`, and it may have leading zeros.
-/

namespace Settings

/-- A name with an optional offset among things of that name. -/
structure Segment where
  name : String
  offset : Option Nat
  deriving DecidableEq, Repr, Inhabited

/-- What is wrong with a text that should be an address or a part of one. -/
inductive AddressFault
  | unmatchedBracket
  | emptySegment
  | unterminatedOffset
  | emptyName
  | notAnOffset (text : String)
  | offsetTooLarge
  | emptyAddress
  | noField
  deriving DecidableEq, Repr

def AddressFault.message : AddressFault → String
  | unmatchedBracket => "unmatched ']'"
  | emptySegment => "empty segment"
  | unterminatedOffset => "unterminated offset"
  | emptyName => "empty segment name"
  | notAnOffset text => "offset '" ++ text ++ "' is not a non-negative integer"
  | offsetTooLarge => "number too large to fit in target type"
  | emptyAddress => "empty path"
  | noField => "expected <group>.<field>"

/-- The error of a text with a fault. -/
def AddressFault.toError (text : String) (fault : AddressFault) : Error :=
  .invalidPath text fault.message

namespace Segment

/-- Reads the digits of an offset. -/
def readOffset (digits : List Char) : Except AddressFault Nat :=
  if digits.isEmpty || !digits.all Char.isDigit then
    .error (.notAnOffset (String.ofList digits))
  else
    match (Number.readDigits? 10 digits).filter (· < Number.offsetBound) with
    | some n => .ok n
    | none => .error .offsetTooLarge

/-- Reads a segment. Without an opening bracket all of it is the name; with one, the name ends at
the first, and the last character has to close it. -/
def read (text : List Char) : Except AddressFault Segment :=
  match Text.cutFirst '[' text with
  | none =>
    if ']' ∈ text then .error .unmatchedBracket
    else if text.isEmpty then .error .emptySegment
    else .ok ⟨String.ofList text, none⟩
  | some (name, rest) =>
    match Text.stripLast? ']' rest with
    | none => .error .unterminatedOffset
    | some digits =>
      if name.isEmpty then .error .emptyName
      else (readOffset digits).map fun n => ⟨String.ofList name, some n⟩

/-- Reads a segment from a string. -/
def parse (text : String) : Except Error Segment :=
  (read text.toList).mapError (AddressFault.toError text)

/-- The written form of a segment. -/
def text (s : Segment) : String :=
  match s.offset with
  | none => s.name
  | some n => s.name ++ "[" ++ Number.natText n ++ "]"

end Segment

/-- A row of segments, the outermost first. -/
structure Address where
  segments : List Segment
  deriving DecidableEq, Repr, Inhabited

namespace Address

/-- Reads an address: every piece between points is a segment. The first faulty one is reported. -/
def parse (text : String) : Except Error Address :=
  if text.isEmpty then .error (AddressFault.emptyAddress.toError text)
  else
    ((Text.pieces '.' text.toList).mapM fun piece => Segment.parse (String.ofList piece)).map
      Address.mk

/-- The written form of an address. -/
def text (a : Address) : String := ".".intercalate (a.segments.map Segment.text)

end Address

/-- Splits the address of a field at its last point: what stands before names a group, and what
stands after it the field. Neither may be empty, and neither is looked into. -/
def splitFieldAddress (text : String) : Except Error (String × String) :=
  match Text.cutLast '.' text.toList with
  | some (group, field) =>
    if group.isEmpty || field.isEmpty then .error (AddressFault.noField.toError text)
    else .ok (String.ofList group, String.ofList field)
  | none => .error (AddressFault.noField.toError text)

end Settings
