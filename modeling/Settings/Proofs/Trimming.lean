import Settings.Text.Blank
/-!
# Blanks around a text

Trimming drops blanks at both ends of a text and nothing else: the text is what is left, with blanks
before and after it (`Text.exists_padding`). The other way round, of blanks around a trimmed text
nothing is left (`Text.trim_padded`).
-/

namespace Settings.Text

/-- There are no blanks at the ends of a text. -/
def Trimmed (s : String) : Prop := trimmed s = s

instance (s : String) : Decidable (Trimmed s) := inferInstanceAs (Decidable (trimmed s = s))

theorem Trimmed.trim_toList {s : String} (h : Trimmed s) : trim s.toList = s.toList := by
  have hlist := congrArg String.toList h
  rwa [trimmed, String.toList_ofList] at hlist

/-- There is nothing in a text but blanks. -/
def Blank (s : String) : Prop := s.toList.all isBlank = true

instance (s : String) : Decidable (Blank s) :=
  inferInstanceAs (Decidable (s.toList.all isBlank = true))

theorem Blank.forall_mem {s : String} (h : Blank s) : ∀ c ∈ s.toList, isBlank c = true :=
  List.all_eq_true.mp h

theorem Blank.not_mem {s : String} (h : Blank s) {c : Char} (hc : isBlank c = false) :
    c ∉ s.toList := by
  intro hmem
  rw [h.forall_mem c hmem] at hc
  cases hc

/-- Blanks, or nothing. -/
def Gap := { s : String // Blank s }

/-- No blanks at all. -/
def Gap.empty : Gap := ⟨"", by decide⟩

theorem length_trim_le (s : List Char) : (trim s).length ≤ s.length := by
  have hleft : (trimLeft s).length ≤ s.length := (List.dropWhile_sublist isBlank).length_le
  have hright : ((trimLeft s).reverse.dropWhile isBlank).length ≤ (trimLeft s).reverse.length :=
    (List.dropWhile_sublist isBlank).length_le
  rw [List.length_reverse] at hright
  rw [trim, trimRight, List.length_reverse]
  exact Nat.le_trans hright hleft

/-- A blank at the front is trimmed away, so a trimmed text has none there. -/
theorem not_isBlank_of_trim_cons {c : Char} {s : List Char} (h : trim (c :: s) = c :: s) :
    ¬ isBlank c = true := by
  intro hc
  have hrest : trim (c :: s) = trim s := by
    rw [trim, trimLeft, List.dropWhile_cons_of_pos hc, trim, trimLeft]
  have hle := length_trim_le s
  rw [← hrest, h] at hle
  exact absurd hle (Nat.not_succ_le_self _)

/-- Of blanks around a trimmed text nothing is left. The text may be empty. -/
theorem trim_padded {before s after : List Char} (hbefore : ∀ c ∈ before, isBlank c = true)
    (hafter : ∀ c ∈ after, isBlank c = true) (hs : trim s = s) :
    trim (before ++ s ++ after) = s := by
  have hback : ∀ t : List Char, trimRight (t ++ after) = trimRight t := by
    intro t
    rw [trimRight, List.reverse_append,
      List.dropWhile_append_of_pos fun c hc => hafter c (List.mem_reverse.mp hc), trimRight]
  rw [trim, List.append_assoc, trimLeft, List.dropWhile_append_of_pos hbefore]
  cases s with
  | nil =>
    -- the blanks behind are then all there is, and they are dropped from the left
    have hnone : (after ++ []).dropWhile isBlank = [] := List.dropWhile_append_of_pos hafter
    rw [List.append_nil] at hnone
    rw [List.nil_append, hnone]
    rfl
  | cons c rest =>
    -- what comes first is no blank, so from the left there is nothing more to drop
    have hc := not_isBlank_of_trim_cons hs
    rw [trim, trimLeft, List.dropWhile_cons_of_neg hc] at hs
    rw [List.cons_append, List.dropWhile_cons_of_neg hc, ← List.cons_append, hback, hs]

/-- A text is what trimming leaves of it, between blanks. -/
theorem exists_padding (s : List Char) :
    ∃ before after : List Char, s = before ++ trim s ++ after ∧
      (∀ c ∈ before, isBlank c = true) ∧ ∀ c ∈ after, isBlank c = true := by
  have hleft : s = s.takeWhile isBlank ++ trimLeft s := List.takeWhile_append_dropWhile.symm
  have hright : trimLeft s = trim s ++ ((trimLeft s).reverse.takeWhile isBlank).reverse := by
    rw [trim, trimRight, ← List.reverse_append, List.takeWhile_append_dropWhile,
      List.reverse_reverse]
  refine ⟨s.takeWhile isBlank, ((trimLeft s).reverse.takeWhile isBlank).reverse, ?_, ?_, ?_⟩
  · rw [List.append_assoc, ← hright, ← hleft]
  · exact List.all_eq_true.mp List.all_takeWhile
  · exact fun c hc => List.all_eq_true.mp List.all_takeWhile c (List.mem_reverse.mp hc)

/-- Without blanks there is nothing to trim. -/
theorem trim_of_forall_not_blank {s : List Char} (h : ∀ c ∈ s, isBlank c = false) : trim s = s := by
  have hdrop : ∀ t : List Char, (∀ c ∈ t, isBlank c = false) → t.dropWhile isBlank = t := by
    intro t ht
    cases t with
    | nil => rfl
    | cons c rest =>
      exact List.dropWhile_cons_of_neg (Bool.eq_false_iff.mp (ht c List.mem_cons_self))
  rw [trim, trimLeft, hdrop s h, trimRight, hdrop s.reverse fun c hc => h c (List.mem_reverse.mp hc),
    List.reverse_reverse]

end Settings.Text
