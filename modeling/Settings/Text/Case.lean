import Settings.Text.CaseTable
/-!
# Lowercase

The full lowercase mapping of a text. Two rules go beyond a table look-up: `İ` becomes `i` with a
dot above, and a capital sigma at the end of a word becomes the final small sigma.
-/

namespace Settings.Text

/-- Whether the run gives the code point a lowercase. -/
def LowercaseRun.covers (run : LowercaseRun) (n : Nat) : Bool :=
  run.first ≤ n && n ≤ run.last && (n - run.first) % run.step == 0

/-- The lowercase of a character whose lowercase is one character; other characters stay. -/
def lowerChar (c : Char) : Char :=
  if c.toNat < 0x80 then c.toLower
  else match lowercaseRuns.find? (·.covers c.toNat) with
    | some run => Char.ofNat ((c.toNat : Int) + run.distance).toNat
    | none => c

/-- Past the case-ignorable characters there is a cased one. -/
def casedAhead (s : List Char) : Bool :=
  match s.dropWhile fun c => inRanges caseIgnorableRanges c.toNat with
  | [] => false
  | c :: _ => inRanges casedRanges c.toNat

/-- Lowercases `s`, which follows the characters of `before`, the nearest first. -/
def lowerAfter : (before s : List Char) → List Char
  | _, [] => []
  | before, c :: rest =>
    let here :=
      if c = 'Σ' then [if casedAhead before && !casedAhead rest then 'ς' else 'σ']
      else if c = 'İ' then ['i', '\u0307']
      else [lowerChar c]
    here ++ lowerAfter (c :: before) rest

/-- The lowercase of a text. -/
def lowercase (s : String) : String := String.ofList (lowerAfter [] s.toList)

/-- Equality of ASCII texts up to the case of letters; other characters must be the same. -/
def sameAsciiLetters (s t : List Char) : Bool := s.map Char.toLower == t.map Char.toLower

end Settings.Text
