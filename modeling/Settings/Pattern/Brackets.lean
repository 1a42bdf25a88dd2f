import Settings.Pattern.Escape
/-!
# Classes in brackets

Members of a class are characters, ranges, escapes, classes with a name and further brackets. Two
ampersands, hyphens or tildes stand for intersection, difference and symmetric difference of what is
before and behind them; they bind equally, to the left.
-/

namespace Settings.Pattern

/-- What joins two classes. -/
inductive SetOperation
  | intersection
  | difference
  | symmetricDifference
  deriving DecidableEq, Repr

def SetOperation.apply : SetOperation → CharSet → CharSet → CharSet
  | intersection => .intersection
  | difference => .difference
  | symmetricDifference => .symmetricDifference

/-- A class of which a part has been read: the members since the latest operation, and what that
operation is to be applied to. -/
structure Brackets where
  members : CharSet := .nothing
  before : Option (CharSet × SetOperation) := none

namespace Brackets

def add (b : Brackets) (set : CharSet) : Brackets := { b with members := .union b.members set }

/-- The class as far as it has been read. -/
def value (b : Brackets) (flags : Flags) : CharSet :=
  match b.before with
  | none => b.members
  | some (left, operation) => operation.apply (flags.fold left) (flags.fold b.members)

/-- Goes on behind an operation. -/
def operate (b : Brackets) (flags : Flags) (operation : SetOperation) : Brackets :=
  { members := .nothing, before := some (b.value flags, operation) }

end Brackets

/-! ## Members -/

/-- Reads a character or an escape. -/
def readMember (flags : Flags) : List Char → Except Fault (Member × List Char)
  | [] => .error .unclosedClass
  | '\\' :: rest => readEscape flags rest
  | c :: rest => .ok (.char c false, rest)

/-- The characters that a member of a class stands for. -/
def memberSet (flags : Flags) : Member → Except Fault CharSet
  | .char c byte =>
    if flags.has .unicode || byte || c.toNat < 0x80 then .ok (.single c) else .error .notText
  | .set set => .ok set
  | .look _ => .error .badClassMember

/-- The character that bounds a range. -/
def bound : Member → Except Fault Char
  | .char c _ => .ok c
  | _ => .error .badClassRange

/-- Reads a member or a range. A hyphen before the closing bracket or before another hyphen makes no
range. -/
def readRange (flags : Flags) (s : List Char) : Except Fault (CharSet × List Char) := do
  let (first, rest) ← readMember flags s
  match flags.skip rest with
  | '-' :: behind =>
    match flags.skip behind with
    | ']' :: _ | '-' :: _ => return (← memberSet flags first, '-' :: behind)
    | behind =>
      let (last, rest) ← readMember flags behind
      let (_, _) := (← memberSet flags first, ← memberSet flags last)
      let (low, high) := (← bound first, ← bound last)
      if low ≤ high then return (.range low high, rest) else .error .badClassRange
  | rest => return (← memberSet flags first, rest)

/-- Reads a class with a name, such as `[:digit:]`, from behind its opening bracket. What has not
that form, or a name that no class has, is none. -/
def readNamed? : List Char → Option (Bool × CharSet × List Char)
  | ':' :: rest =>
    let (negated, rest) := match rest with
      | '^' :: rest => (true, rest)
      | rest => (false, rest)
    match Text.cutFirst ':' rest with
    | some (name, ']' :: rest) =>
      (CharSet.named? (String.ofList name)).map fun set => (negated, set, rest)
    | _ => none
  | _ => none

/-! ## Brackets -/

/-- Reads hyphens. -/
def readHyphens (flags : Flags) : Nat → Brackets → List Char → Brackets × List Char
  | n + 1, b, '-' :: rest => readHyphens flags n (b.add (.single '-')) (flags.skip rest)
  | _, b, s => (b, s)

/-- Reads what is special behind an opening bracket: a circumflex, which negates, hyphens, and a
closing bracket in the first place, all of which stand for themselves. -/
def readOpening (flags : Flags) (s : List Char) : Bool × Brackets × List Char :=
  let s := flags.skip s
  let (negated, s) := match s with
    | '^' :: rest => (true, flags.skip rest)
    | s => (false, s)
  match s with
  | ']' :: rest => (negated, ({} : Brackets).add (.single ']'), flags.skip rest)
  | s => (negated, readHyphens flags s.length {} s)

/-- Reads the rest of a class up to its closing bracket. Every step uses up a character, so `fuel`
need not exceed the length of the rest. -/
def readBrackets (flags : Flags) : (fuel : Nat) → (negated : Bool) → Brackets → List Char →
    Except Fault (CharSet × List Char)
  | 0, _, _, _ => .error .unclosedClass
  | fuel + 1, negated, b, s =>
    let operate (operation : SetOperation) (rest : List Char) :=
      readBrackets flags fuel negated (b.operate flags operation) rest
    match flags.skip s with
    | [] => .error .unclosedClass
    | ']' :: rest => (flags.finish negated (b.value flags)).map fun set => (set, rest)
    | '[' :: rest => do
      let (set, rest) ←
        match readNamed? rest with
        | some (negated, set, rest) => (flags.finish negated set).map fun set => (set, rest)
        | none =>
          let (negated, opening, rest) := readOpening flags rest
          readBrackets flags fuel negated opening rest
      readBrackets flags fuel negated (b.add set) rest
    | '&' :: '&' :: rest => operate .intersection rest
    | '-' :: '-' :: rest => operate .difference rest
    | '~' :: '~' :: rest => operate .symmetricDifference rest
    | s => do
      let (set, rest) ← readRange flags s
      readBrackets flags fuel negated (b.add set) rest

/-- Reads a class from behind its opening bracket. -/
def readClass (flags : Flags) (s : List Char) : Except Fault (CharSet × List Char) :=
  let (negated, opening, rest) := readOpening flags s
  readBrackets flags (rest.length + 1) negated opening rest

end Settings.Pattern
