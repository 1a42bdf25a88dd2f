import Mathlib.Data.String.Basic
import Settings.Sorted
/-!
# Sorted entries and the order of bytes

Entries that are put in order stand under keys that go up (`Sorted.increasing_ofList`), and if no
key is given twice they are the entries that were given (`Sorted.ofList_perm`). Of several entries
under one key the last one is found (`Sorted.lookup_ofList`), and what is found under each key says
which entries they are (`Sorted.eq_of_lookup_eq`). The keys are compared as texts, that is by code
points. In UTF-8 a greater code point has greater bytes, whatever follows
(`Text.utf8EncodeChar_append_lt`), so the keys go up by their bytes as well (`Text.bytes_lt_of_lt`).
-/

namespace Settings

/-! ## Entries in order -/

namespace Sorted

variable {α : Type} {key : String} {value : α}
  {entries sorted others : List (String × α)}

/-- An entry under a new key comes in addition to the others. -/
theorem insert_perm (h : key ∉ entries.map Prod.fst) :
    (insert key value entries).Perm ((key, value) :: entries) := by
  induction entries with
  | nil => exact .refl _
  | cons entry rest ih =>
    obtain ⟨hne, hrest⟩ := not_or.mp (mt List.mem_cons.mpr h)
    rw [insert, if_neg (Ne.symm hne)]
    split
    · exact .refl _
    · exact ((ih hrest).cons entry).trans (.swap _ _ _)

theorem foldl_insert_perm (h : ((sorted ++ entries).map Prod.fst).Nodup) :
    (entries.foldl (fun sorted entry => insert entry.1 entry.2 sorted) sorted).Perm
      (sorted ++ entries) := by
  induction entries generalizing sorted with
  | nil => rw [List.append_nil]; exact .refl _
  | cons entry rest ih =>
    have hmiddle : (sorted ++ entry :: rest).Perm (entry :: sorted ++ rest) := List.perm_middle
    have hnew : entry.1 ∉ sorted.map Prod.fst := by
      have hnodup := (hmiddle.map Prod.fst).nodup_iff.mp h
      rw [List.cons_append, List.map_cons, List.map_append] at hnodup
      exact fun hmem => (List.nodup_cons.mp hnodup).1 (List.mem_append_left _ hmem)
    have hinsert : (insert entry.1 entry.2 sorted ++ rest).Perm (sorted ++ entry :: rest) :=
      ((insert_perm hnew).append_right rest).trans hmiddle.symm
    exact (ih ((hinsert.map Prod.fst).nodup_iff.mpr h)).trans hinsert

/-- Where no key is given twice, the entries are the same in another order. -/
theorem ofList_perm (h : (entries.map Prod.fst).Nodup) : (ofList entries).Perm entries :=
  @foldl_insert_perm _ entries [] h

theorem lookup_insert (sought : String) (entries : List (String × α)) :
    (insert key value entries).lookup sought = ((key, value) :: entries).lookup sought := by
  induction entries with
  | nil => rfl
  | cons entry rest ih =>
    obtain ⟨k, v⟩ := entry
    rw [insert]
    split
    · rfl
    · split
      · next heq =>
        -- the entry that gives way is not found in front of the new one either
        subst heq
        rw [List.lookup_cons, List.lookup_cons, List.lookup_cons]
        cases sought == k <;> rfl
      · next hne =>
        rw [List.lookup_cons, ih, List.lookup_cons, List.lookup_cons, List.lookup_cons]
        cases hk : sought == k with
        | false => rfl
        | true =>
          have hother : (sought == key) = false :=
            beq_false_of_ne fun heq => hne ((beq_iff_eq.mp hk).symm.trans heq)
          rw [hother]

/-- Of several entries under a key, the last one is found. -/
theorem lookup_ofList (sought : String) (entries : List (String × α)) :
    (ofList entries).lookup sought = entries.reverse.lookup sought := by
  have hfold : ∀ sorted : List (String × α),
      (entries.foldl (fun sorted entry => insert entry.1 entry.2 sorted) sorted).lookup sought =
        (entries.reverse ++ sorted).lookup sought := by
    induction entries with
    | nil => exact fun _ => rfl
    | cons entry rest ih =>
      intro sorted
      rw [List.foldl_cons, ih, List.lookup_append, lookup_insert, ← List.lookup_append,
        List.reverse_cons, List.append_assoc, List.singleton_append]
  rw [← List.append_nil entries.reverse]
  exact hfold []

theorem lookup_eq_none_of_lt (h : ∀ x ∈ entries, key < x.1) : entries.lookup key = none := by
  induction entries with
  | nil => rfl
  | cons entry rest ih =>
    obtain ⟨hlt, hrest⟩ := List.forall_mem_cons.mp h
    have hne : (key == entry.1) = false := beq_false_of_ne (ne_of_lt hlt)
    rw [List.lookup_cons, hne]
    exact ih hrest

/-- A key that is found does not come before the first one. -/
theorem key_le_of_lookup_eq {k k' : String} {v v' : α} (h : Increasing ((k', v') :: others))
    (hl : ((k, v) :: entries).lookup k = ((k', v') :: others).lookup k) : k' ≤ k := by
  by_contra hlt
  rw [not_le] at hlt
  have hnone : ((k', v') :: others).lookup k = none := by
    apply lookup_eq_none_of_lt
    intro x hx
    rcases List.mem_cons.mp hx with rfl | hx
    · exact hlt
    · exact lt_trans hlt ((List.pairwise_cons.mp h).1 x hx)
  rw [hnone, List.lookup_cons, beq_self_eq_true] at hl
  cases hl

/-- Entries in order are known by what is found under each key. -/
theorem eq_of_lookup_eq (h : Increasing entries) (h' : Increasing others)
    (hl : ∀ key, entries.lookup key = others.lookup key) : entries = others := by
  induction entries generalizing others with
  | nil =>
    cases others with
    | nil => rfl
    | cons other others =>
      have hfirst := hl other.1
      rw [List.lookup_cons, beq_self_eq_true] at hfirst
      cases hfirst
  | cons entry rest ih =>
    obtain ⟨k, v⟩ := entry
    cases others with
    | nil =>
      have hfirst := hl k
      rw [List.lookup_cons, beq_self_eq_true] at hfirst
      cases hfirst
    | cons other others =>
      obtain ⟨k', v'⟩ := other
      obtain rfl : k = k' :=
        le_antisymm (key_le_of_lookup_eq h (hl k').symm) (key_le_of_lookup_eq h' (hl k))
      obtain ⟨hbelow, hrest⟩ := List.pairwise_cons.mp h
      obtain ⟨hbelow', hrest'⟩ := List.pairwise_cons.mp h'
      have hvalue := hl k
      rw [List.lookup_cons, List.lookup_cons, beq_self_eq_true] at hvalue
      obtain rfl := Option.some.inj hvalue
      have hmore : rest = others := by
        apply ih hrest hrest'
        intro key
        by_cases hkey : key = k
        · subst hkey
          rw [lookup_eq_none_of_lt hbelow, lookup_eq_none_of_lt hbelow']
        · have hother := hl key
          rwa [List.lookup_cons, List.lookup_cons, beq_false_of_ne hkey] at hother
      rw [hmore]

theorem insert_ne_nil (entries : List (String × α)) : insert key value entries ≠ [] := by
  cases entries with
  | nil => exact List.cons_ne_nil _ _
  | cons entry rest =>
    rw [insert]
    split
    · exact List.cons_ne_nil _ _
    · split <;> exact List.cons_ne_nil _ _

theorem isEmpty_ofList (entries : List (String × α)) :
    (ofList entries).isEmpty = entries.isEmpty := by
  rcases List.eq_nil_or_concat entries with rfl | ⟨front, last, rfl⟩
  · rfl
  · have hsorted : ofList (front ++ [last]) ≠ [] := by
      rw [ofList, List.foldl_append]
      exact insert_ne_nil _
    rw [List.concat_eq_append, List.isEmpty_eq_false_iff.mpr hsorted,
      List.isEmpty_eq_false_iff.mpr (List.append_ne_nil_of_right_ne_nil _ (List.cons_ne_nil _ _))]

/-- The entries of a single key are in order. -/
theorem ofList_of_length_le_one (h : entries.length ≤ 1) : ofList entries = entries := by
  match entries, h with
  | [], _ => rfl
  | [entry], _ => rfl

end Sorted

/-! ## The order of bytes -/

namespace Text

/-- The bytes of a text in UTF-8. -/
def bytes (s : String) : List UInt8 := s.toUTF8.data.toList

theorem bytes_eq_flatMap (s : String) : bytes s = s.toList.flatMap String.utf8EncodeChar := by
  have hs : s.toUTF8 = s.toList.utf8Encode := by
    rw [← String.toByteArray_ofList, String.ofList_toList]
    rfl
  rw [bytes, hs, List.utf8Encode]
  simp

/-- Bytes are compared as the numbers that they are of. -/
theorem ofNat_cons_lt_iff {a b : Nat} (ha : a < 256) (hb : b < 256) (x y : List UInt8) :
    UInt8.ofNat a :: x < UInt8.ofNat b :: y ↔ a < b ∨ a = b ∧ x < y := by
  rw [List.cons_lt_cons_iff, UInt8.lt_iff_toNat_lt, ← UInt8.toNat_inj, UInt8.toNat_ofNat',
    UInt8.toNat_ofNat', Nat.mod_eq_of_lt ha, Nat.mod_eq_of_lt hb]

/-- A greater character has greater bytes, whatever comes after it. -/
theorem utf8EncodeChar_append_lt {c d : Char} (h : c < d) (x y : List UInt8) :
    String.utf8EncodeChar c ++ x < String.utf8EncodeChar d ++ y := by
  have hlt : c.val.toNat < d.val.toNat := h
  have hbound : d.val.toNat < 0x110000 := by
    rcases d.valid with hlow | ⟨-, hhigh⟩
    · exact Nat.lt_of_lt_of_le hlow (by decide)
    · exact hhigh
  -- all but the first byte are digits to the base 64
  have htwo : ∀ n, n / 4096 = n / 64 / 64 := fun n => (Nat.div_div_eq_div_mul n 64 64).symm
  have hthree : ∀ n, n / 262144 = n / 64 / 64 / 64 := fun n => by
    rw [Nat.div_div_eq_div_mul, Nat.div_div_eq_div_mul]
  unfold String.utf8EncodeChar
  dsimp only
  rw [htwo, htwo, hthree, hthree]
  generalize c.val.toNat = m at hlt ⊢
  generalize d.val.toNat = n at hlt hbound ⊢
  -- four lengths of each; the first bytes decide unless both lengths are the same
  split_ifs
  all_goals
    simp only [List.cons_append, List.nil_append]
    simp (disch := omega) only [ofNat_cons_lt_iff]
    omega

/-- Texts are in the order of their bytes. -/
theorem bytes_lt_of_lt {s t : String} (h : s < t) : bytes s < bytes t := by
  rw [String.lt_iff_toList_lt] at h
  rw [bytes_eq_flatMap, bytes_eq_flatMap]
  generalize s.toList = cs at h
  generalize t.toList = ds at h
  induction cs generalizing ds with
  | nil =>
    cases ds with
    | nil => exact absurd h (List.lt_irrefl [])
    | cons d ds =>
      obtain ⟨byte, more, hd⟩ := List.exists_cons_of_ne_nil (l := String.utf8EncodeChar d) (by
        unfold String.utf8EncodeChar
        dsimp only
        split_ifs <;> exact List.cons_ne_nil _ _)
      rw [List.flatMap_cons, hd]
      exact List.nil_lt_cons _ _
  | cons c cs ih =>
    cases ds with
    | nil => exact absurd h (List.not_lt_nil _)
    | cons d ds =>
      rw [List.flatMap_cons, List.flatMap_cons]
      rcases List.cons_lt_cons_iff.mp h with hlt | ⟨rfl, hlt⟩
      · exact utf8EncodeChar_append_lt hlt _ _
      · exact List.append_left_lt (ih ds hlt)

end Text

end Settings
