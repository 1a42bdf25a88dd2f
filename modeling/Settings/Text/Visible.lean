import Settings.Text.CaseTable
import Settings.Text.InvisibleTable
/-!
# Text made visible

The written form of a text for messages: between double quotes, with everything escaped that would
not show. A character without an escape of its own is given by its code point.
-/

namespace Settings.Text

/-- What stands for one character. -/
def visibleChar (c : Char) : List Char :=
  if c = '"' then ['\\', '"']
  else if c = '\\' then ['\\', '\\']
  else if c = '\n' then ['\\', 'n']
  else if c = '\r' then ['\\', 'r']
  else if c = '\t' then ['\\', 't']
  else if c = '\x00' then ['\\', '0']
  else if inRanges invisibleRanges c.toNat then
    ['\\', 'u', '\x7b'] ++ Nat.toDigits 16 c.toNat ++ ['\x7d']
  else [c]

/-- The written form of a text, quotes included. -/
def visible (s : String) : String := String.ofList ('"' :: s.toList.flatMap visibleChar ++ ['"'])

end Settings.Text
