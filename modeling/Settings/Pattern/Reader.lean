import Settings.Pattern.Brackets
import Settings.Pattern.Matching
/-!
# Reading patterns

A pattern is read from left to right. What is open at a place is kept as a stack of groups, each
with the branches and parts that have been read of it.
-/

namespace Settings.Pattern

/-- What stands in a sequence. Setting flags leaves nothing that could be repeated. -/
inductive Part
  | pattern (p : Pattern)
  | setting

/-- A group of which a part has been read: its finished branches and the parts of the branch that is
being read, both latest first, and the flags that hold. -/
structure Level where
  flags : Flags := {}
  branches : List Pattern := []
  parts : List Part := []

namespace Level

def push (level : Level) (p : Pattern) : Level := { level with parts := .pattern p :: level.parts }

/-- The branch that is being read. -/
def branch (level : Level) : Pattern :=
  ofParts (level.parts.reverse.filterMap fun
    | .pattern p => some p
    | .setting => none)

/-- Begins another branch. -/
def nextBranch (level : Level) : Level :=
  { level with branches := level.branch :: level.branches, parts := [] }

/-- All that has been read of the group. -/
def whole (level : Level) : Pattern := ofBranches (level.branch :: level.branches).reverse

/-- Repeats the latest part. -/
def repeatLast (level : Level) (least : Nat) (most : Option Nat) : Except Fault Level :=
  match level.parts with
  | .pattern p :: others => .ok { level with parts := .pattern (.repeated p least most) :: others }
  | _ => .error .nothingToRepeat

end Level

/-- The group that is being read, the groups around it from the inside out, and the names of groups
that have been used. -/
structure Reading where
  level : Level := {}
  outer : List Level := []
  names : List String := []

namespace Reading

def push (r : Reading) (p : Pattern) : Reading := { r with level := r.level.push p }

/-- Begins a group in which some flags hold. -/
def enter (r : Reading) (flags : Flags) : Reading :=
  { r with level := { flags }, outer := r.level :: r.outer }

/-- Ends a group. -/
def leave (r : Reading) : Except Fault Reading :=
  match r.outer with
  | [] => .error .unopenedGroup
  | around :: outer => .ok { r with level := around.push (.group r.level.whole), outer }

/-- Whether a name of a group may begin with a character. -/
def beginsName (c : Char) : Bool :=
  let category := Text.Category.ofChar c
  c == '_' || category == .letterNumber || Text.Category.letters.contains category

/-- Whether a name of a group may go on with a character. -/
def continuesName (c : Char) : Bool :=
  beginsName c || ['.', '[', ']'].contains c ||
    Text.Category.numbers.contains (Text.Category.ofChar c)

/-- Begins a group with a name, from behind the opening angle. -/
def enterNamed (r : Reading) (s : List Char) : Except Fault (Reading × List Char) :=
  match Text.cutFirst '>' s with
  | some (first :: others, rest) =>
    let name := String.ofList (first :: others)
    if !beginsName first || !others.all continuesName then .error .badGroupName
    else if r.names.contains name then .error .repeatedName
    else .ok ({ r.enter r.level.flags with names := name :: r.names }, rest)
  | _ => .error .badGroupName

/-- Reads what follows an opening bracket: a name or flags of a group, flags alone, or nothing. -/
def openGroup (r : Reading) (s : List Char) : Except Fault (Reading × List Char) :=
  match r.level.flags.skip s with
  | '?' :: '=' :: _ | '?' :: '!' :: _ | '?' :: '<' :: '=' :: _ | '?' :: '<' :: '!' :: _ =>
    .error .lookAround
  | '?' :: 'P' :: '<' :: rest | '?' :: '<' :: rest => r.enterNamed rest
  | '?' :: rest => do
    let (flags, named, rest) ← r.level.flags.read [] false false rest
    match rest with
    | ':' :: rest => return (r.enter flags, rest)
    | _ =>
      if named then
        return ({ r with level := { r.level with flags, parts := .setting :: r.level.parts } },
          rest.drop 1)
      else .error .emptyFlags
  | rest => .ok (r.enter r.level.flags, rest)

end Reading

/-! ## Repetitions -/

/-- The first number that is too large for a count. -/
def countBound : Nat := 0x100000000

/-- Reads a count, if there is one. Blanks around it do not count. -/
def readCount (flags : Flags) (s : List Char) : Except Fault (Option Nat × List Char) :=
  let s := s.dropWhile Text.isBlank
  let (digits, rest) := flags.takeWhile Char.isDigit s.length s
  let rest := flags.skip (rest.dropWhile Text.isBlank)
  match Number.readDigits? 10 digits with
  | none => .ok (none, rest)
  | some n => if n < countBound then .ok (some n, rest) else .error .badCount

/-- Reads counts from behind the opening brace. -/
def readCounts (flags : Flags) (s : List Char) : Except Fault (Nat × Option Nat × List Char) := do
  let (least, rest) ← readCount flags (flags.skip s)
  match rest, least with
  | '\x7d' :: rest, some least => return (least, some least, rest)
  | ',' :: rest, some least =>
    match flags.skip rest with
    | '\x7d' :: rest => return (least, none, rest)
    | rest =>
      let (most, rest) ← readCount flags rest
      match rest, most with
      | '\x7d' :: rest, some most =>
        if least ≤ most then return (least, some most, rest) else .error .reversedCounts
      | '\x7d' :: _, none => .error .badCount
      | _, _ => .error .unclosedCounts
  | '\x7d' :: _, none | ',' :: _, none => .error .badCount
  | _, _ => .error .unclosedCounts

/-- Drops the mark of a reluctant repetition. -/
def dropReluctant : List Char → List Char
  | '?' :: rest => rest
  | s => s

/-! ## Patterns -/

/-- The pattern of a character or an escape outside of brackets. -/
def memberPattern (flags : Flags) : Member → Except Fault Pattern
  | .char c byte =>
    if byte && !flags.has .unicode && 0x80 ≤ c.toNat then .error .notText
    else .ok (.char (flags.fold (.single c)))
  | .set set => .ok (.char set)
  | .look condition => .ok (.look condition)

/-- Reads one thing. -/
def readThing (r : Reading) (s : List Char) : Except Fault (Reading × List Char) :=
  let flags := r.level.flags
  let repeated (least : Nat) (most : Option Nat) (rest : List Char) :=
    (r.level.repeatLast least most).map fun level => ({ r with level }, dropReluctant rest)
  match s with
  | [] => .ok (r, [])
  | '(' :: rest => r.openGroup rest
  | ')' :: rest => r.leave.map fun r => (r, rest)
  | '|' :: rest => .ok ({ r with level := r.level.nextBranch }, rest)
  | '[' :: rest => (readClass flags rest).map fun (set, rest) => (r.push (.char set), rest)
  | '?' :: rest => repeated 0 (some 1) rest
  | '*' :: rest => repeated 0 none rest
  | '+' :: rest => repeated 1 none rest
  | '\x7b' :: rest => do
    let (least, most, rest) ← readCounts flags rest
    repeated least most (flags.skip rest)
  | '.' :: rest => (flags.accept flags.point).map fun set => (r.push (.char set), rest)
  | '^' :: rest => .ok (r.push (.look flags.circumflex), rest)
  | '$' :: rest => .ok (r.push (.look flags.dollar), rest)
  | s => do
    let (member, rest) ← readMember flags s
    return (r.push (← memberPattern flags member), rest)

/-- Reads all of a pattern. Every step uses up a character, so `fuel` need not exceed the length of
the text. -/
def readThings : (fuel : Nat) → Reading → List Char → Except Fault Reading
  | 0, r, _ => .ok r
  | fuel + 1, r, s =>
    match r.level.flags.skip s with
    | [] => .ok r
    | s => do
      let (r, rest) ← readThing r s
      readThings fuel r rest

/-- Reads a pattern. One that is nested too deeply, or that takes too many steps when its
repetitions are written out, is refused. -/
def parse (text : String) : Except Fault Pattern := do
  let s := text.toList
  let r ← readThings s.length {} s
  if !r.outer.isEmpty then .error .unclosedGroup
  else
    let p := r.level.whole
    if maxDepth < p.depth then .error .tooDeep
    else if maxWeight < p.weight then .error .tooLarge
    else return p

end Settings.Pattern
