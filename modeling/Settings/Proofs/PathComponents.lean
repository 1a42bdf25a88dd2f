import Mathlib.Data.List.Sort
import Mathlib.Order.Compare
import Settings.Files.Path
/-!
# The components of a path

Components are ordered by their kinds, and among names by the names (`PathComponent.compare_eq`),
and paths are ordered by their components, the first that differ deciding
(`Path.compareComponents_eq`). So the order of paths is total and transitive, and paths that come at
the same place in it have the same components. The components of something in a directory are those
of the directory and its name (`Path.components_join`), if that is a name that a directory can hold
(`Path.ProperName`).
-/

namespace Settings

/-! ## Order -/

namespace PathComponent

/-- The name of a component. Only those of the last kind have one. -/
def name : PathComponent → String
  | normal name => name
  | _ => ""

/-- Components are compared by their kinds, then by their names. -/
theorem compare_eq (a b : PathComponent) :
    a.compare b = compareLex (compareOn rank) (compareOn name) a b := by
  cases a <;> cases b <;> rfl

instance : Std.TransCmp PathComponent.compare := by
  have hcompare : PathComponent.compare = compareLex (compareOn rank) (compareOn name) :=
    funext fun a => funext fun b => compare_eq a b
  rw [hcompare]
  infer_instance

instance : Std.LawfulEqCmp PathComponent.compare where
  eq_of_compare := by
    intro a b h
    rw [compare_eq, compareLex, Ordering.then_eq_eq] at h
    obtain ⟨hrank, hname⟩ := h
    have hrank : a.rank = b.rank := Std.LawfulEqOrd.eq_of_compare hrank
    have hname : a.name = b.name := Std.LawfulEqOrd.eq_of_compare hname
    cases a <;> cases b <;> simp_all [rank, name]

end PathComponent

namespace Path

variable {p q s : String}

/-- Paths are compared by their components, the first that differ deciding. -/
theorem compareComponents_eq (as bs : List PathComponent) :
    compareComponents as bs = List.compareLex PathComponent.compare as bs := by
  induction as generalizing bs with
  | nil => cases bs <;> rfl
  | cons a as ih =>
    cases bs with
    | nil => rfl
    | cons b bs => rw [compareComponents, List.compareLex_cons_cons, ih]

theorem compareComponents_eq_iff {as bs : List PathComponent} :
    compareComponents as bs = .eq ↔ as = bs := by
  rw [compareComponents_eq, Std.LawfulEqCmp.compare_eq_iff_eq]

/-- A path comes before another. -/
def Before (p q : String) : Prop := compareComponents (components p) (components q) = .lt

instance (p q : String) : Decidable (Before p q) := inferInstanceAs (Decidable (_ = _))

/-- Paths that each come before the next are determined by their components, as a set. -/
theorem map_components_eq_of_before {names names' : List String} (h : names.Pairwise Before)
    (h' : names'.Pairwise Before)
    (hsame : ∀ place, place ∈ names.map components ↔ place ∈ names'.map components) :
    names.map components = names'.map components := by
  let lt (as bs : List PathComponent) : Prop := compareComponents as bs = .lt
  have hirrefl : Std.Irrefl lt := ⟨fun as hlt => by
    have heq : compareComponents as as = .eq := compareComponents_eq_iff.mpr rfl
    rw [show compareComponents as as = .lt from hlt] at heq
    cases heq⟩
  have hantisymm : Std.Antisymm lt := ⟨fun as bs hlt hgt => by
    have hlt : compareComponents as bs = .lt := hlt
    have hgt : compareComponents bs as = .lt := hgt
    rw [compareComponents_eq] at hlt hgt
    have hswap : List.compareLex PathComponent.compare as bs = _ := Std.OrientedCmp.eq_swap
    rw [hswap, hgt] at hlt
    cases hlt⟩
  exact List.Pairwise.eq_of_mem_iff (r := lt) (List.pairwise_map.mpr h) (List.pairwise_map.mpr h')
    hsame

theorem precedes_trans (h : precedes p q = true) (h' : precedes q s = true) :
    precedes p s = true := by
  unfold precedes at h h' ⊢
  rw [compareComponents_eq] at h h' ⊢
  exact Std.TransCmp.isLE_trans h h'

theorem precedes_total (p q : String) : (precedes p q || precedes q p) = true := by
  unfold precedes
  have hswap : List.compareLex PathComponent.compare (components p) (components q) = _ :=
    Std.OrientedCmp.eq_swap
  rw [compareComponents_eq, compareComponents_eq, hswap]
  cases List.compareLex PathComponent.compare (components q) (components p) <;> rfl

theorem before_iff : Before p q ↔ precedes p q = true ∧ components p ≠ components q := by
  rw [Before, precedes, Ordering.isLE_iff_eq_lt_or_eq_eq, Ne, ← compareComponents_eq_iff]
  cases compareComponents (components p) (components q) <;> simp

/-! ## Names -/

/-- A name that a directory can hold: it is not empty, there is no slash in it, and it is neither
one point nor two. -/
def ProperName (name : String) : Prop :=
  name ≠ "" ∧ '/' ∉ name.toList ∧ name ≠ "." ∧ name ≠ ".."

instance (name : String) : Decidable (ProperName name) :=
  inferInstanceAs (Decidable (_ ∧ _ ∧ _ ∧ _))

/-- What the first piece of a path says about where it starts. -/
def start : List String → List PathComponent
  | "" :: _ => [.root]
  | "." :: _ => [.current]
  | _ => []

theorem components_eq (h : p ≠ "") :
    components p = start (parts p) ++ (parts p).filterMap component? := by
  have hempty : ¬ p.isEmpty = true := mt String.isEmpty_iff.mp h
  unfold components start
  rw [if_neg hempty]
  split <;> simp_all

theorem start_append {a : List String} (h : a ≠ []) (b : List String) :
    start (a ++ b) = start a := by
  obtain ⟨first, rest, rfl⟩ := List.exists_cons_of_ne_nil h
  rw [List.cons_append]
  unfold start
  split <;> simp_all

theorem parts_ne_nil (p : String) : parts p ≠ [] := by
  rw [parts, Ne, List.map_eq_nil_iff]
  exact Text.pieces_ne_nil _ _

/-- A slash ends a part, and what follows it is another one. -/
theorem parts_slash {name : String} (h : '/' ∉ name.toList) (p : String) :
    parts (p ++ "/" ++ name) = parts p ++ [name] := by
  have htext : (p ++ "/" ++ name).toList = p.toList ++ '/' :: name.toList := by simp
  rw [parts, htext, Text.pieces_append, Text.pieces_of_not_mem h, List.map_append, parts,
    List.map_singleton, String.ofList_toList]

/-- Behind a slash, a name is a component of its own, and nothing is none. -/
theorem components_slash {name : String} (h : '/' ∉ name.toList) (p : String) :
    components (p ++ "/" ++ name) =
      start (parts p) ++ (parts p).filterMap component? ++ (component? name).toList := by
  have hne : p ++ "/" ++ name ≠ "" := by simp
  rw [components_eq hne, parts_slash h, start_append (parts_ne_nil p), List.filterMap_append,
    ← List.append_assoc]
  cases hname : component? name <;> simp [hname]

theorem component?_of_proper {name : String} (h : ProperName name) :
    component? name = some (.normal name) := by
  obtain ⟨hne, -, hpoint, hpoints⟩ := h
  simp [component?, hne, hpoint, hpoints]

theorem join_ne_empty {name : String} (directory : String) (h : name ≠ "") :
    join directory name ≠ "" := by
  unfold join
  split <;> simp [h]

/-- What is in a directory has the components of the directory, and its own name after them. -/
theorem components_join {directory name : String} (hdirectory : directory ≠ "")
    (hname : ProperName name) :
    components (join directory name) = components directory ++ [.normal name] := by
  have hempty : '/' ∉ "".toList := by decide
  have hbehind : ∀ p, components (p ++ "/" ++ name) = components (p ++ "/") ++ [.normal name] := by
    intro p
    have hslash := components_slash hempty p
    rw [String.append_empty] at hslash
    rw [hslash, components_slash hname.2.1, component?_of_proper hname]
    simp [component?]
  unfold join
  by_cases hlast : directory.toList.getLast? = some '/'
  · -- the slash is there already
    rw [if_pos hlast]
    obtain ⟨front, hfront⟩ := List.getLast?_eq_some_iff.mp hlast
    have htext : directory = String.ofList front ++ "/" := by
      apply String.toList_inj.mp
      simp [hfront]
    rw [htext, hbehind]
  · have hslash := components_slash hempty directory
    rw [String.append_empty] at hslash
    rw [if_neg hlast, hbehind, hslash, components_eq hdirectory]
    simp [component?]

end Path

end Settings
