import Settings.Pattern.Basic
/-!
# What is wrong with a pattern

The faults of a text that should be a pattern.
-/

namespace Settings.Pattern

/-- Why a text is no pattern. -/
inductive Fault
  | backreference
  | badClassMember
  | badClassRange
  | badCount
  | badGroupName
  | badHexadecimal
  | badWordEdge
  | danglingMinus
  | emptyFlags
  | lookAround
  | noCodePoint
  | notText
  | nothingToRepeat
  | repeatedFlag
  | repeatedMinus
  | repeatedName
  | reversedCounts
  | tooDeep
  | tooLarge
  | unclosedClass
  | unclosedCounts
  | unclosedGroup
  | unfinishedEscape
  | unfinishedFlags
  | unknownEscape
  | unknownFlag
  | unknownProperty
  | unopenedGroup
  deriving DecidableEq, Repr

end Settings.Pattern
