import Settings.Proofs.Asking
/-!
# Progress

A program that prints as it goes has printed something by the time it fails, and failing takes
nothing back. `Progress` is what is to be seen of a part of such a program, and parts are put
together by `Progress.bind`: what the first one has printed stays, whatever becomes of the second.

Three properties are about failing. A part is silent if it prints nothing, it is sure if it cannot
fail, and it is tidy if nothing is printed when it fails. A silent part before a tidy one makes a
tidy one (`Progress.Silent.bind_tidy`), so a program is tidy if all that can fail comes before the
first line is printed.

`Progress.foldlM_of_askEach` is about loops that ask files one after the other and take in each
answer before they ask the next file.
-/

namespace Settings

/-- What is to be seen of a part of a program: what comes of it, the lines that it has printed, and
what it has said in the log. -/
structure Progress (α : Type) where
  result : Except Error α
  printed : List String := []
  log : List Note := []

namespace Progress

variable {α β σ : Type}

/-- One part and then another one, which has the result of the first one. Where the first one fails,
it stays at that. -/
def bind (p : Progress α) (next : α → Progress β) : Progress β :=
  match p.result with
  | .error e => { result := .error e, printed := p.printed, log := p.log }
  | .ok a =>
    { result := (next a).result
      printed := p.printed ++ (next a).printed
      log := p.log ++ (next a).log }

instance : Monad Progress where
  pure a := { result := .ok a }
  bind := bind

/-- A computation, of which nothing is to be seen but its result. -/
def compute (result : Except Error α) : Progress α := { result }

/-- Prints some texts. -/
def printing (texts : List String) : Progress Unit := { result := .ok (), printed := texts }

/-- Prints a line. -/
def printLine (text : String) : Progress Unit := printing [asLine text]

/-- Says something in the log. -/
def say (note : Note) : Progress Unit := { result := .ok (), log := [note] }

/-- What comes of a program that gives a status. What has been printed is the output, also where an
error is in the end logged or passed on. -/
def outcome (p : Progress Nat) : Outcome :=
  match p.result with
  | .ok status => { status, output := String.join p.printed, log := p.log }
  | .error e => { Outcome.ofError p.log e with output := String.join p.printed }

/-! ## Parts put together -/

variable {p : Progress α} {next : α → Progress β}

theorem bind_of_ok {a : α} (h : p.result = .ok a) :
    p >>= next = ⟨(next a).result, p.printed ++ (next a).printed, p.log ++ (next a).log⟩ := by
  show p.bind next = _
  rw [bind, h]

theorem bind_of_error {e : Error} (h : p.result = .error e) :
    p >>= next = ⟨.error e, p.printed, p.log⟩ := by
  show p.bind next = _
  rw [bind, h]

@[simp] theorem compute_ok_bind (a : α) (next : α → Progress β) :
    compute (.ok a) >>= next = next a := rfl

/-! ## Failing -/

/-- Nothing is printed. -/
def Silent (p : Progress α) : Prop := p.printed = []

/-- There is no error. -/
def Sure (p : Progress α) : Prop := ∃ a, p.result = .ok a

/-- Nothing is printed if there is an error. -/
def Tidy (p : Progress α) : Prop := ∀ e, p.result = .error e → p.printed = []

theorem silent_pure (a : α) : (pure a : Progress α).Silent := rfl

theorem silent_compute (result : Except Error α) : (compute result).Silent := rfl

theorem silent_say (note : Note) : (say note).Silent := rfl

theorem sure_pure (a : α) : (pure a : Progress α).Sure := ⟨a, rfl⟩

theorem Silent.tidy (h : p.Silent) : p.Tidy := fun _ _ => h

theorem Sure.tidy (h : p.Sure) : p.Tidy := by
  obtain ⟨a, ha⟩ := h
  intro e he
  cases ha.symm.trans he

theorem Sure.bind (h : p.Sure) (hnext : ∀ a, (next a).Sure) : (p >>= next).Sure := by
  obtain ⟨a, ha⟩ := h
  rw [bind_of_ok ha]
  exact hnext a

theorem Silent.bind (h : p.Silent) (hnext : ∀ a, (next a).Silent) : (p >>= next).Silent := by
  cases hresult : p.result with
  | error e =>
    rw [bind_of_error hresult]
    exact h
  | ok a =>
    rw [bind_of_ok hresult]
    exact List.append_eq_nil_iff.mpr ⟨h, hnext a⟩

/-- Where a silent part comes first, an error in the tidy part behind it still finds nothing
printed. -/
theorem Silent.bind_tidy (h : p.Silent) (hnext : ∀ a, (next a).Tidy) : (p >>= next).Tidy := by
  cases hresult : p.result with
  | error e =>
    rw [bind_of_error hresult]
    exact fun _ _ => h
  | ok a =>
    rw [bind_of_ok hresult]
    exact fun e he => List.append_eq_nil_iff.mpr ⟨h, hnext a e he⟩

/-- A loop is silent if each turn is. -/
theorem Silent.foldlM {turn : σ → α → Progress σ} (h : ∀ s a, (turn s a).Silent) (items : List α)
    (s : σ) : (items.foldlM turn s).Silent := by
  induction items generalizing s with
  | nil => exact silent_pure s
  | cons item rest ih =>
    rw [List.foldlM_cons]
    exact (h s item).bind ih

/-! ## Results -/

/-- Every result has a property. -/
def Yields (p : Progress α) (P : α → Prop) : Prop := ∀ a, p.result = .ok a → P a

theorem yields_pure {P : α → Prop} {a : α} (h : P a) : (pure a : Progress α).Yields P := by
  intro b hb
  cases hb
  exact h

theorem Yields.bind {Q : α → Prop} {P : β → Prop} (h : p.Yields Q)
    (hnext : ∀ a, Q a → (next a).Yields P) : (p >>= next).Yields P := by
  cases hresult : p.result with
  | error e =>
    rw [bind_of_error hresult]
    nofun
  | ok a =>
    rw [bind_of_ok hresult]
    exact hnext a (h a hresult)

theorem yields_bind {P : β → Prop} (h : ∀ a, (next a).Yields P) : (p >>= next).Yields P :=
  Yields.bind (fun _ _ => trivial) fun a _ => h a

/-- A property is kept by a loop if it is kept by each turn. -/
theorem Yields.foldlM {P : σ → Prop} {turn : σ → α → Progress σ}
    (h : ∀ s a, P s → (turn s a).Yields P) (items : List α) {s : σ} (hs : P s) :
    (items.foldlM turn s).Yields P := by
  induction items generalizing s with
  | nil => exact yields_pure hs
  | cons item rest ih =>
    rw [List.foldlM_cons]
    exact (h s item hs).bind fun _ => ih

/-! ## Printing -/

/-- A text is printed, in one piece or in several ones, and nothing else is done. -/
def Prints (p : Progress Unit) (text : String) : Prop :=
  ∃ texts, p = printing texts ∧ String.join texts = text

theorem prints_pure : (pure () : Progress Unit).Prints "" := ⟨[], rfl, rfl⟩

theorem prints_printLine (text : String) : (printLine text).Prints (asLine text) :=
  ⟨[asLine text], rfl, by rw [String.join_cons, String.join_nil, String.append_empty]⟩

theorem Prints.sure {p : Progress Unit} {text : String} (h : p.Prints text) : p.Sure := by
  obtain ⟨texts, rfl, -⟩ := h
  exact ⟨(), rfl⟩

theorem Prints.bind {p q : Progress Unit} {first second : String} (hp : p.Prints first)
    (hq : q.Prints second) : (p >>= fun _ => q).Prints (first ++ second) := by
  obtain ⟨texts, rfl, rfl⟩ := hp
  obtain ⟨more, rfl, rfl⟩ := hq
  exact ⟨texts ++ more, rfl, String.join_append⟩

/-- A loop prints one text after the other. -/
theorem Prints.forM {print : α → Progress Unit} {text : α → String}
    (h : ∀ a, (print a).Prints (text a)) (items : List α) :
    (items.forM print).Prints (String.join (items.map text)) := by
  induction items with
  | nil => exact prints_pure
  | cons item rest ih =>
    rw [List.map_cons, String.join_cons]
    exact (h item).bind ih

/-! ## What comes of it -/

/-- Where nothing has been printed, an error makes the outcome that it makes of a command. -/
theorem outcome_error (e : Error) (log : List Note) :
    ({ result := .error e, log } : Progress Nat).outcome = .ofError log e := by
  unfold outcome Outcome.ofError
  dsimp only
  split
  · rfl
  · rfl

/-- Where no result is the status of what is refused, the outcome is that of an error exactly if
there is one. -/
theorem isError_outcome_iff {p : Progress Nat} (h : p.Yields (· ≠ Outcome.refused)) :
    p.outcome.IsError ↔ ∃ e, p.result = .error e := by
  unfold outcome
  cases hresult : p.result with
  | error e => exact ⟨fun _ => ⟨e, rfl⟩, fun _ => Outcome.isError_ofError p.log e⟩
  | ok status =>
    constructor
    · rintro (hstatus | hfailure)
      · exact absurd hstatus (h status hresult)
      · exact absurd rfl hfailure
    · rintro ⟨e, he⟩
      cases he

/-- Where some notes are followed by a text and a status, there is nothing else in the outcome. -/
theorem Prints.outcome {p : Progress Unit} {text : String} (h : p.Prints text) {a : α}
    {log : List Note} {next : α → Progress Nat} {status : Nat}
    (hnext : next a = p >>= fun _ => pure status) :
    (({ result := .ok a, log } : Progress α) >>= next).outcome =
      { status, output := text, log } := by
  obtain ⟨texts, rfl, rfl⟩ := h
  rw [bind_of_ok rfl, hnext]
  show { status, output := String.join (texts ++ []), log := log ++ [] : Outcome } = _
  rw [List.append_nil, List.append_nil]

/-! ## Loops over files -/

/-- Let each turn of a loop ask a file, and take the answer in with some notes about it. Then the
loop takes in the answers before the first error, and their notes are in the log. -/
theorem foldlM_of_askEach {turn : σ → String → Progress σ} {ask : String → Except Error α}
    {takeIn : σ → String × α → σ} {notes : String × α → List Note}
    (hturn : ∀ s file, turn s file = compute (ask file) >>= fun answer =>
      { result := .ok (takeIn s (file, answer)), log := notes (file, answer) })
    {names : List String} {answers : List (String × α)} {failure : Option Error}
    (h : askEach ask names = (answers, failure)) (s : σ) :
    names.foldlM turn s =
      { result := failure.elim (.ok (answers.foldl takeIn s)) .error
        log := answers.flatMap notes } := by
  induction names generalizing s answers failure with
  | nil =>
    obtain ⟨rfl, rfl⟩ := Prod.mk.inj h
    rfl
  | cons file rest ih =>
    rw [askEach] at h
    rw [List.foldlM_cons, hturn]
    cases hask : ask file with
    | error e =>
      rw [hask] at h
      obtain ⟨rfl, rfl⟩ := Prod.mk.inj h
      rfl
    | ok answer =>
      rw [hask] at h
      cases hrest : askEach ask rest with
      | mk more failure' =>
        rw [hrest] at h
        obtain ⟨rfl, rfl⟩ := Prod.mk.inj h
        rw [compute_ok_bind, bind_of_ok rfl, ih hrest]
        rfl

end Progress

end Settings
