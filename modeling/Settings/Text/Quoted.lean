/-!
# Quoted text

The written form of a text between double quotes: quotes, backslashes and control characters are
escaped, all else stands for itself. Reading the written form gives the text back.
-/

namespace Settings.Text

/-- The digit that stands for a number below sixteen. -/
def hexDigit (n : Nat) : Char := Nat.digitChar n

/-- What stands for one character between the quotes. -/
def escapeChar (c : Char) : List Char :=
  if c = '"' then ['\\', '"']
  else if c = '\\' then ['\\', '\\']
  else if c = '\n' then ['\\', 'n']
  else if c = '\r' then ['\\', 'r']
  else if c = '\t' then ['\\', 't']
  else if c = '\x08' then ['\\', 'b']
  else if c = '\x0c' then ['\\', 'f']
  else if c.toNat < 0x20 then
    ['\\', 'u', '0', '0', hexDigit (c.toNat / 16), hexDigit (c.toNat % 16)]
  else [c]

/-- The written form, quotes included. -/
def quoted (s : String) : String :=
  String.ofList ('"' :: s.toList.flatMap escapeChar ++ ['"'])

/-- What a hexadecimal digit in lowercase is worth. -/
def hexValue? (c : Char) : Option Nat :=
  if c.isDigit then some (c.toNat - '0'.toNat)
  else if 'a' ≤ c && c ≤ 'f' then some (c.toNat - 'a'.toNat + 10)
  else none

/-- Reads what stands between the quotes, up to the closing one, which has to be the last character.
-/
def unescape : List Char → Option (List Char)
  | ['"'] => some []
  | '\\' :: 'u' :: '0' :: '0' :: a :: b :: rest => do
    let high ← hexValue? a
    let low ← hexValue? b
    (unescape rest).map (Char.ofNat (16 * high + low) :: ·)
  | '\\' :: c :: rest =>
    let plain := match c with
      | 'n' => some '\n'
      | 'r' => some '\r'
      | 't' => some '\t'
      | 'b' => some '\x08'
      | 'f' => some '\x0c'
      | '"' => some '"'
      | '\\' => some '\\'
      | _ => none
    match plain with
    | some p => (unescape rest).map (p :: ·)
    | none => none
  | c :: rest => if c = '"' then none else (unescape rest).map (c :: ·)
  | [] => none

/-- The text whose written form is given. -/
def unquoted? (s : String) : Option String :=
  match s.toList with
  | '"' :: rest => (unescape rest).map String.ofList
  | _ => none

end Settings.Text
