/-!
# Sorted entries

Values under texts, in the order of the texts, in which each text stands once. Texts are ordered by
code points, which is also the order of their bytes.
-/

namespace Settings.Sorted

/-- The keys of entries go up. -/
def Increasing {α : Type} (entries : List (String × α)) : Prop :=
  entries.Pairwise fun x y => x.1 < y.1

/-- Puts a value under a key; a value that is there gives way. -/
def insert {α : Type} (key : String) (value : α) : List (String × α) → List (String × α)
  | [] => [(key, value)]
  | (k, v) :: rest =>
    if key < k then (key, value) :: (k, v) :: rest
    else if k = key then (key, value) :: rest
    else (k, v) :: insert key value rest

/-- Sorted entries from entries in any order; of several under one key the last counts. -/
def ofList {α : Type} (entries : List (String × α)) : List (String × α) :=
  entries.foldl (fun sorted (key, value) => insert key value sorted) []

variable {α : Type} {key : String} {value : α} {x : String × α} {entries : List (String × α)}

theorem mem_insert (h : x ∈ insert key value entries) : x = (key, value) ∨ x ∈ entries := by
  induction entries with
  | nil => exact .inl (List.mem_singleton.mp h)
  | cons entry rest ih =>
    rw [insert] at h
    split at h
    · exact List.mem_cons.mp h
    · split at h
      · rcases List.mem_cons.mp h with hx | hx
        · exact .inl hx
        · exact .inr (List.mem_cons_of_mem _ hx)
      · rcases List.mem_cons.mp h with hx | hx
        · exact .inr (hx ▸ List.mem_cons_self)
        · exact (ih hx).imp_right (List.mem_cons_of_mem _)

theorem Increasing.insert (h : Increasing entries) (key : String) (value : α) :
    Increasing (insert key value entries) := by
  induction entries with
  | nil => exact List.pairwise_singleton _ _
  | cons entry rest ih =>
    obtain ⟨k, v⟩ := entry
    obtain ⟨hbelow, hrest⟩ := List.pairwise_cons.mp h
    rw [Sorted.insert]
    by_cases hlt : key < k
    · rw [if_pos hlt]
      refine List.pairwise_cons.mpr ⟨List.forall_mem_cons.mpr ⟨hlt, ?_⟩, h⟩
      exact fun x hx => String.lt_trans hlt (hbelow x hx)
    · rw [if_neg hlt]
      by_cases heq : k = key
      · subst heq
        rw [if_pos rfl]
        exact List.pairwise_cons.mpr ⟨hbelow, hrest⟩
      · -- the new entry goes further down, and its key is greater than `k`
        rw [if_neg heq]
        have hgt : k < key := Std.lt_of_le_of_ne (String.not_lt.mp hlt) heq
        refine List.pairwise_cons.mpr ⟨fun x hx => ?_, ih hrest⟩
        rcases mem_insert hx with rfl | hx
        · exact hgt
        · exact hbelow x hx

/-- Entries that are put in order are in order. -/
theorem increasing_ofList (entries : List (String × α)) : Increasing (ofList entries) := by
  have hfold : ∀ sorted : List (String × α), Increasing sorted →
      Increasing (entries.foldl (fun sorted entry => insert entry.1 entry.2 sorted) sorted) := by
    induction entries with
    | nil => exact fun _ h => h
    | cons entry rest ih => exact fun _ h => ih _ (h.insert entry.1 entry.2)
  exact hfold [] List.Pairwise.nil

end Settings.Sorted
