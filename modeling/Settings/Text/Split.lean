/-!
# Cutting text at a character

Three cuts over character lists: at the first occurrence, at the last one, and at every one. Each is
pinned down by the equation that puts the parts together again.
-/

namespace Settings.Text

/-- Cuts at the first `c`: what stands before it, and what stands after it. -/
def cutFirst (c : Char) : List Char → Option (List Char × List Char)
  | [] => none
  | x :: xs =>
    if x = c then some ([], xs) else (cutFirst c xs).map fun (before, after) => (x :: before, after)

/-- Cuts at the last `c`. -/
def cutLast (c : Char) : List Char → Option (List Char × List Char)
  | [] => none
  | x :: xs =>
    match cutLast c xs with
    | some (before, after) => some (x :: before, after)
    | none => if x = c then some ([], xs) else none

/-- The pieces between the occurrences of `c`: one more of them than there are occurrences. -/
def pieces (c : Char) : List Char → List (List Char)
  | [] => [[]]
  | x :: xs =>
    if x = c then [] :: pieces c xs
    else match pieces c xs with
      | [] => [[x]]
      | p :: ps => (x :: p) :: ps

/-- What stands before a final `c`. -/
def stripLast? (c : Char) (s : List Char) : Option (List Char) :=
  if s.getLast? = some c then some s.dropLast else none

theorem eq_of_cutFirst {c : Char} {s a b : List Char} (h : cutFirst c s = some (a, b)) :
    s = a ++ c :: b ∧ c ∉ a := by
  induction s generalizing a with
  | nil => simp [cutFirst] at h
  | cons x xs ih =>
    by_cases hx : x = c
    · simp only [cutFirst, hx, if_true, Option.some.injEq, Prod.mk.injEq] at h
      obtain ⟨rfl, rfl⟩ := h
      simp [hx]
    · simp only [cutFirst, hx, if_false, Option.map_eq_some_iff, Prod.exists, Prod.mk.injEq] at h
      obtain ⟨a', b', h', rfl, rfl⟩ := h
      obtain ⟨rfl, hc⟩ := ih h'
      exact ⟨rfl, by simp [Ne.symm hx, hc]⟩

theorem cutFirst_eq_none_iff {c : Char} {s : List Char} : cutFirst c s = none ↔ c ∉ s := by
  induction s with
  | nil => simp [cutFirst]
  | cons x xs ih =>
    by_cases hx : x = c
    · simp [cutFirst, hx]
    · simp [cutFirst, hx, ih, Ne.symm hx]

theorem cutFirst_append {c : Char} {a : List Char} (h : c ∉ a) (b : List Char) :
    cutFirst c (a ++ c :: b) = some (a, b) := by
  induction a with
  | nil => simp [cutFirst]
  | cons x xs ih =>
    obtain ⟨hx, hxs⟩ := not_or.mp (mt List.mem_cons.mpr h)
    rw [List.cons_append, cutFirst, if_neg (Ne.symm hx), ih hxs]
    rfl

theorem cutLast_eq_none_iff {c : Char} {s : List Char} : cutLast c s = none ↔ c ∉ s := by
  induction s with
  | nil => simp [cutLast]
  | cons x xs ih =>
    rw [cutLast, List.mem_cons, not_or]
    cases hcut : cutLast c xs with
    | some cut =>
      rw [hcut] at ih
      exact ⟨nofun, fun h => nomatch ih.mpr h.2⟩
    | none =>
      have hxs := ih.mp hcut
      by_cases hx : x = c
      · simp [hx]
      · simp [hx, hxs, Ne.symm hx]

theorem eq_of_cutLast {c : Char} {s a b : List Char} (h : cutLast c s = some (a, b)) :
    s = a ++ c :: b ∧ c ∉ b := by
  induction s generalizing a with
  | nil => cases h
  | cons x xs ih =>
    rw [cutLast] at h
    cases hcut : cutLast c xs with
    | some cut =>
      obtain ⟨before, after⟩ := cut
      rw [hcut] at h
      obtain ⟨rfl, rfl⟩ := Prod.mk.inj (Option.some.inj h)
      obtain ⟨rfl, hafter⟩ := ih hcut
      exact ⟨rfl, hafter⟩
    | none =>
      rw [hcut] at h
      by_cases hx : x = c
      · rw [if_pos hx] at h
        obtain ⟨rfl, rfl⟩ := Prod.mk.inj (Option.some.inj h)
        exact ⟨by rw [hx, List.nil_append], cutLast_eq_none_iff.mp hcut⟩
      · rw [if_neg hx] at h
        cases h

theorem cutLast_append {c : Char} {b : List Char} (h : c ∉ b) (a : List Char) :
    cutLast c (a ++ c :: b) = some (a, b) := by
  induction a with
  | nil =>
    rw [List.nil_append, cutLast, cutLast_eq_none_iff.mpr h]
    exact if_pos rfl
  | cons x xs ih => rw [List.cons_append, cutLast, ih]

theorem pieces_ne_nil (c : Char) (s : List Char) : pieces c s ≠ [] := by
  cases s with
  | nil => simp [pieces]
  | cons x xs =>
    by_cases hx : x = c
    · simp [pieces, hx]
    · simp only [pieces, hx, if_false]; split <;> simp

theorem length_pieces (c : Char) (s : List Char) : (pieces c s).length = s.count c + 1 := by
  induction s with
  | nil => simp [pieces]
  | cons x xs ih =>
    by_cases hx : x = c
    · simp [pieces, hx, ih]
    · simp only [pieces, hx, if_false]
      split
      · exact absurd ‹_› (pieces_ne_nil c xs)
      · rename_i p ps hp
        simp only [hp, List.length_cons] at ih
        simp [hx, ih]

theorem pieces_eq_splitOn (c : Char) (s : List Char) : pieces c s = s.splitOn c := by
  induction s with
  | nil => rfl
  | cons x xs ih =>
    rw [List.splitOn_cons_eq_if_modifyHead, ← ih, pieces]
    by_cases hx : x = c
    · rw [if_pos hx, if_pos (beq_iff_eq.mpr hx)]
    · rw [if_neg hx, if_neg (mt beq_iff_eq.mp hx)]
      have hne := pieces_ne_nil c xs
      cases hpieces : pieces c xs with
      | nil => exact absurd hpieces hne
      | cons p ps => rfl

theorem pieces_append (c : Char) (a b : List Char) :
    pieces c (a ++ c :: b) = pieces c a ++ pieces c b := by
  rw [pieces_eq_splitOn, pieces_eq_splitOn, pieces_eq_splitOn, List.splitOn_append_cons_self]

theorem pieces_of_not_mem {c : Char} {s : List Char} (h : c ∉ s) : pieces c s = [s] := by
  rw [pieces_eq_splitOn, List.splitOn_eq_singleton h]

/-- What has been put together with `c` in between is cut into the same pieces again. -/
theorem pieces_intercalate {c : Char} {parts : List (List Char)} (h : ∀ p ∈ parts, c ∉ p)
    (hne : parts ≠ []) : pieces c ([c].intercalate parts) = parts := by
  rw [pieces_eq_splitOn, List.splitOn_intercalate c h hne]

theorem not_mem_of_mem_pieces {c : Char} {s p : List Char} (h : p ∈ pieces c s) : c ∉ p := by
  induction s generalizing p with
  | nil => simp_all [pieces]
  | cons x xs ih =>
    rw [pieces] at h
    by_cases hx : x = c
    · rw [if_pos hx] at h
      rcases List.mem_cons.mp h with rfl | hp
      · exact List.not_mem_nil
      · exact ih hp
    · rw [if_neg hx] at h
      cases hpieces : pieces c xs with
      | nil => exact absurd hpieces (pieces_ne_nil c xs)
      | cons q qs =>
        rw [hpieces] at h ih
        rcases List.mem_cons.mp h with rfl | hp
        · exact fun hc => (List.mem_cons.mp hc).elim (fun e => hx e.symm) (ih List.mem_cons_self)
        · exact ih (List.mem_cons_of_mem _ hp)

theorem stripLast?_eq_some_iff {c : Char} {s a : List Char} :
    stripLast? c s = some a ↔ s = a ++ [c] := by
  unfold stripLast?
  constructor
  · intro h
    by_cases hlast : s.getLast? = some c
    · rw [if_pos hlast] at h
      obtain rfl := Option.some.inj h
      obtain ⟨b, rfl⟩ := List.getLast?_eq_some_iff.mp hlast
      rw [List.dropLast_concat]
    · rw [if_neg hlast] at h
      cases h
  · rintro rfl
    rw [if_pos List.getLast?_concat, List.dropLast_concat]

/-- A line without the carriage return at its end. -/
def dropReturn (line : List Char) : List Char := (stripLast? '\r' line).getD line

/-- The lines that pieces between line feeds make: the last piece is a line only if it is not empty,
and every other one gives up the carriage return before its line feed. -/
def linesOfPieces : List (List Char) → List (List Char)
  | [] => []
  | [last] => if last.isEmpty then [] else [last]
  | p :: ps => dropReturn p :: linesOfPieces ps

/-- The lines of a text. A line feed ends a line, with a carriage return before it if there is one;
the last line needs no ending. -/
def lines (s : List Char) : List (List Char) := linesOfPieces (pieces '\n' s)

end Settings.Text
