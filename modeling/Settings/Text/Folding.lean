import Settings.Text.Case
/-!
# Characters that differ in case

Two characters differ in case alone when they have the same folded form. That form is the lowercase,
except for a few letters with a second small form, such as the final sigma, which fold to the first.
-/

namespace Settings.Text

/-- Small letters of a second form, each with the letter of the first form. -/
def secondForms : List (Char × Char) :=
  [('ſ', 's'), ('ϐ', 'β'), ('ϵ', 'ε'), ('ϑ', 'θ'), ('\u0345', 'ι'), ('\u1FBE', 'ι'), ('ϰ', 'κ'),
   ('µ', 'μ'), ('ϖ', 'π'), ('ϱ', 'ρ'), ('ς', 'σ'), ('ϕ', 'φ'), ('\u1C80', 'в'), ('\u1C81', 'д'),
   ('\u1C82', 'о'), ('\u1C83', 'с'), ('\u1C84', 'т'), ('\u1C85', 'т'), ('\u1C86', 'ъ'),
   ('\u1C87', 'ѣ'), ('\u1C88', '\uA64B'), ('ẛ', 'ṡ'), ('\u1FD3', '\u0390'), ('\u1FE3', '\u03B0'),
   ('\uFB06', '\uFB05')]

/-- The form that a character shares with all that differ from it in case alone. -/
def foldChar (c : Char) : Char := lowerChar ((secondForms.lookup c).getD c)

/-- The character whose lowercase in a run is the code point, if there is one. -/
def LowercaseRun.source? (run : LowercaseRun) (n : Nat) : Option Char :=
  let m := ((n : Int) - run.distance).toNat
  if run.covers m then some (Char.ofNat m) else none

/-- All characters that differ from one in case alone, and itself. -/
def caseForms (c : Char) : List Char :=
  let small := foldChar c
  let capitals := lowercaseRuns.filterMap (·.source? small.toNat)
  let others := (secondForms.filter (·.2 = small)).map Prod.fst
  small :: capitals ++ others

end Settings.Text
