import Mathlib.Data.List.Forall2
/-!
# Computations that may fail

A computation that may fail has a result exactly when its parts have results, and a row is computed
exactly when each of its members is (`mapM_eq_ok_iff`, `exists_mapM_iff`). What is computed of a row
is read off its members, one by one (`forall₂_of_mapM`) or from the end (`lookup_reverse_of_mapM`).
-/

namespace Settings

/-! ## One after the other -/

theorem bind_eq_ok_iff {ε α β : Type} {x : Except ε α} {f : α → Except ε β} {y : β} :
    (x >>= f) = .ok y ↔ ∃ a, x = .ok a ∧ f a = .ok y := by
  cases x with
  | error e => exact ⟨nofun, nofun⟩
  | ok a =>
    constructor
    · exact fun h => ⟨a, rfl, h⟩
    · rintro ⟨_, ⟨⟩, h⟩
      exact h

theorem map_eq_ok_iff {ε α β : Type} {x : Except ε α} {f : α → β} {y : β} :
    x.map f = .ok y ↔ ∃ a, x = .ok a ∧ f a = y := by
  cases x with
  | error e => exact ⟨nofun, nofun⟩
  | ok a =>
    constructor
    · exact fun h => ⟨a, rfl, Except.ok.inj h⟩
    · rintro ⟨_, ⟨⟩, rfl⟩
      rfl

section

variable {ε α β : Type}

theorem exists_bind_iff {x : Except ε α} {f : α → Except ε β} :
    (∃ y, (x >>= f) = .ok y) ↔ ∃ a, x = .ok a ∧ ∃ y, f a = .ok y := by
  constructor
  · rintro ⟨y, h⟩
    obtain ⟨a, ha, hf⟩ := bind_eq_ok_iff.mp h
    exact ⟨a, ha, y, hf⟩
  · rintro ⟨a, ha, y, hf⟩
    exact ⟨y, bind_eq_ok_iff.mpr ⟨a, ha, hf⟩⟩

theorem exists_map_iff {x : Except ε α} {f : α → β} :
    (∃ y, x.map f = .ok y) ↔ ∃ a, x = .ok a := by
  constructor
  · rintro ⟨y, h⟩
    obtain ⟨a, ha, -⟩ := map_eq_ok_iff.mp h
    exact ⟨a, ha⟩
  · rintro ⟨a, rfl⟩
    exact ⟨f a, rfl⟩

end

/-! ## Rows -/

/-- A row is read when each of its members is, by any reader that reads the same. -/
theorem mapM_eq_ok_iff_of_reader {ε ε' α β : Type} {f : α → Except ε β} {f' : α → Except ε' β}
    (hreader : ∀ x y, f x = .ok y ↔ f' x = .ok y) {xs : List α} {ys : List β} :
    xs.mapM f = .ok ys ↔ xs.map f' = ys.map .ok := by
  constructor
  · intro h
    induction xs generalizing ys with
    | nil =>
      rw [List.mapM_nil] at h
      cases h
      rfl
    | cons x xs ih =>
      rw [List.mapM_cons] at h
      cases hx : f x with
      | error e => rw [hx] at h; cases h
      | ok y =>
        cases hxs : xs.mapM f with
        | error e => rw [hx, hxs] at h; cases h
        | ok rest =>
          rw [hx, hxs] at h
          cases h
          rw [List.map_cons, List.map_cons, (hreader x y).mp hx, ih hxs]
  · intro h
    induction xs generalizing ys with
    | nil =>
      rw [List.map_eq_nil_iff.mp h.symm, List.mapM_nil]
      rfl
    | cons x xs ih =>
      cases ys with
      | nil => cases h
      | cons y ys =>
        obtain ⟨hx, hxs⟩ := List.cons.inj h
        rw [List.mapM_cons, (hreader x y).mpr hx, ih hxs]
        rfl

theorem mapM_eq_ok_iff {ε α β : Type} {f : α → Except ε β} {xs : List α} {ys : List β} :
    xs.mapM f = .ok ys ↔ xs.map f = ys.map .ok :=
  mapM_eq_ok_iff_of_reader fun _ _ => Iff.rfl

/-- A row is computed when each of its members is. -/
theorem exists_mapM_iff {ε α β : Type} {f : α → Except ε β} {xs : List α} :
    (∃ ys, xs.mapM f = .ok ys) ↔ ∀ x ∈ xs, ∃ y, f x = .ok y := by
  induction xs with
  | nil => exact ⟨fun _ x hx => absurd hx List.not_mem_nil, fun _ => ⟨[], rfl⟩⟩
  | cons x rest ih =>
    rw [List.mapM_cons, exists_bind_iff, List.forall_mem_cons, ← ih]
    constructor
    · rintro ⟨y, hy, hrest⟩
      obtain ⟨ys, hys, -⟩ := exists_bind_iff.mp hrest
      exact ⟨⟨y, hy⟩, ys, hys⟩
    · rintro ⟨⟨y, hy⟩, ys, hys⟩
      exact ⟨y, hy, exists_bind_iff.mpr ⟨ys, hys, _, rfl⟩⟩

/-- What a row is read as, member by member. -/
theorem forall₂_of_mapM {ε α β : Type} {f : α → Except ε β} {xs : List α} {ys : List β}
    (h : xs.mapM f = .ok ys) : List.Forall₂ (fun x y => f x = .ok y) xs ys := by
  have hmap : xs.map f = ys.map .ok := mapM_eq_ok_iff.mp h
  rw [← List.forall₂_eq_eq_eq, List.forall₂_map_left_iff, List.forall₂_map_right_iff] at hmap
  exact hmap

/-- What is read of a row is what its members are read as. -/
theorem mem_of_mapM_iff {ε α β : Type} {f : α → Except ε β} {xs : List α} {ys : List β} {y : β}
    (h : xs.mapM f = .ok ys) : y ∈ ys ↔ ∃ x ∈ xs, f x = .ok y := by
  have hmap : xs.map f = ys.map .ok := mapM_eq_ok_iff.mp h
  have hmem : y ∈ ys ↔ Except.ok y ∈ ys.map (Except.ok (ε := ε)) := by simp
  rw [hmem, ← hmap, List.mem_map]

/-- Where a row is read, each of its members is. -/
theorem exists_ok_of_mapM {ε α β : Type} {f : α → Except ε β} {xs : List α} {ys : List β} {x : α}
    (h : xs.mapM f = .ok ys) (hx : x ∈ xs) : ∃ y, f x = .ok y := by
  have hmap : xs.map f = ys.map .ok := mapM_eq_ok_iff.mp h
  have hmem : f x ∈ ys.map Except.ok := hmap ▸ List.mem_map_of_mem hx
  obtain ⟨y, -, hy⟩ := List.mem_map.mp hmem
  exact ⟨y, hy.symm⟩

/-- Of entries that are read one by one, the last one under a key is found from the end. -/
theorem lookup_reverse_of_mapM {ε α β : Type} {f : α → Except ε (String × β)} {xs : List α}
    {entries : List (String × β)} (h : xs.mapM f = .ok entries) {key : String} {value : β} :
    entries.reverse.lookup key = some value ↔
      ∃ before x after, xs = before ++ x :: after ∧ f x = .ok (key, value) ∧
        ∀ later ∈ after, ∀ other, f later ≠ .ok (key, other) := by
  have hmap : xs.map f = entries.map .ok := mapM_eq_ok_iff.mp h
  clear h
  rw [List.lookup_eq_some_iff]
  constructor
  · rintro ⟨front, back, hreverse, hfront⟩
    obtain rfl : entries = back.reverse ++ (key, value) :: front.reverse := by
      rw [← List.reverse_reverse entries, hreverse]
      simp
    rw [List.map_append, List.map_cons] at hmap
    obtain ⟨before, others, rfl, -, hothers⟩ := List.map_eq_append_iff.mp hmap
    obtain ⟨x, after, rfl, hx, hafter⟩ := List.map_eq_cons_iff.mp hothers
    refine ⟨before, x, after, rfl, hx, fun later hlater other hother => ?_⟩
    have hmem : f later ∈ front.reverse.map Except.ok := hafter ▸ List.mem_map_of_mem hlater
    obtain ⟨entry, hentry, heq⟩ := List.mem_map.mp hmem
    obtain rfl : entry = (key, other) := Except.ok.inj (heq.trans hother)
    exact bne_iff_ne.mp (hfront _ (List.mem_reverse.mp hentry)) rfl
  · rintro ⟨before, x, after, rfl, hx, hlast⟩
    rw [List.map_append, List.map_cons] at hmap
    obtain ⟨first, others, rfl, -, hothers⟩ := List.map_eq_append_iff.mp hmap.symm
    obtain ⟨entry, rest, rfl, hentry, hrest⟩ := List.map_eq_cons_iff.mp hothers
    obtain rfl : entry = (key, value) := Except.ok.inj (hentry.trans hx)
    refine ⟨rest.reverse, first.reverse, by simp, fun other hother => ?_⟩
    -- an entry further on is read from something further on
    have hmem : Except.ok other ∈ after.map f :=
      hrest ▸ List.mem_map_of_mem (List.mem_reverse.mp hother)
    obtain ⟨later, hlater, heq⟩ := List.mem_map.mp hmem
    exact bne_iff_ne.mpr fun hkey => hlast later hlater other.2 (hkey ▸ heq)

end Settings
