/-!
# Text in UTF-8

Decoding of bytes. Bytes that are no text are refused with the place of the first fault and the
number of bytes that it spans: a sequence that breaks off within the text has the length of what was
good of it, and one that breaks off at the end has no length.
-/

namespace Settings.Text

/-- The first fault of bytes that are no text. -/
structure Utf8Fault where
  /-- The number of bytes before the fault. -/
  start : Nat
  /-- The number of bytes that the fault spans, where it is not the end of the bytes. -/
  length : Option Nat
  deriving DecidableEq, Repr

def Utf8Fault.message (f : Utf8Fault) : String :=
  match f.length with
  | some n => "invalid utf-8 sequence of " ++ String.ofList (Nat.toDigits 10 n) ++
      " bytes from index " ++ String.ofList (Nat.toDigits 10 f.start)
  | none => "incomplete utf-8 byte sequence from index " ++ String.ofList (Nat.toDigits 10 f.start)

/-- The ranges that the bytes behind a leading byte have to be in. The first of them is narrower
where a longer sequence would spell a shorter one, a surrogate or too great a number. -/
def tailRanges? (lead : Nat) : Option (List (Nat × Nat)) :=
  let any := (0x80, 0xBF)
  if lead < 0x80 then some []
  else if 0xC2 ≤ lead && lead ≤ 0xDF then some [any]
  else if lead = 0xE0 then some [(0xA0, 0xBF), any]
  else if lead = 0xED then some [(0x80, 0x9F), any]
  else if 0xE1 ≤ lead && lead ≤ 0xEF then some [any, any]
  else if lead = 0xF0 then some [(0x90, 0xBF), any, any]
  else if 0xF1 ≤ lead && lead ≤ 0xF3 then some [any, any, any]
  else if lead = 0xF4 then some [(0x80, 0x8F), any, any]
  else none

/-- Checks bytes from a place on. `expected` are the ranges of the bytes that are still due of the
sequence before that place, of which `seen` bytes are there. -/
def firstFault? : (place seen : Nat) → (expected : List (Nat × Nat)) → List UInt8 → Option Utf8Fault
  | _, _, [], [] => none
  | place, seen, _ :: _, [] => some ⟨place - seen, none⟩
  | place, seen, (low, high) :: due, byte :: rest =>
    if low ≤ byte.toNat && byte.toNat ≤ high then firstFault? (place + 1) (seen + 1) due rest
    else some ⟨place - seen, some seen⟩
  | place, _, [], byte :: rest =>
    match tailRanges? byte.toNat with
    | some due => firstFault? (place + 1) 1 due rest
    | none => some ⟨place, some 1⟩

/-- Decodes bytes. -/
def decodeUtf8 (bytes : ByteArray) : Except Utf8Fault String :=
  match String.fromUTF8? bytes with
  | some s => .ok s
  | none => .error ((firstFault? 0 0 [] bytes.toList).getD ⟨0, none⟩)

end Settings.Text
