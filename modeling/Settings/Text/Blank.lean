/-!
# White space

The characters with the Unicode property `White_Space`, and trimming by them. Trimming takes blanks
off both ends and leaves the middle alone; a text is blank exactly when nothing is left of it.
-/

namespace Settings.Text

/-- The twenty-five characters that carry the property `White_Space`. -/
def isBlank (c : Char) : Bool :=
  let n := c.toNat
  (0x09 ≤ n && n ≤ 0x0D) || n == 0x20 || n == 0x85 || n == 0xA0 || n == 0x1680 ||
    (0x2000 ≤ n && n ≤ 0x200A) || n == 0x2028 || n == 0x2029 || n == 0x202F || n == 0x205F ||
    n == 0x3000

/-- Drops the blanks at the front. -/
def trimLeft (s : List Char) : List Char := s.dropWhile isBlank

/-- Drops the blanks at the back. -/
def trimRight (s : List Char) : List Char := (s.reverse.dropWhile isBlank).reverse

/-- Drops the blanks at both ends. -/
def trim (s : List Char) : List Char := trimRight (trimLeft s)

@[simp] theorem trim_nil : trim [] = [] := rfl

/-- Trimming as a function on strings. -/
def trimmed (s : String) : String := String.ofList (trim s.toList)

end Settings.Text
