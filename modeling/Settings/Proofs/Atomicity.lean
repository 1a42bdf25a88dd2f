import Settings.Proofs.Guard
import Settings.Proofs.Retention
/-!
# Assignments that fail

An assignment looks its address up before it looks at the form of the address, so one that fails has
done something: it has asked a query. `Document.UnchangedBut` says what that leaves behind, whatever
was remembered and under either policy: at most the answer to the one address is remembered in
addition, and no query is answered differently (`Document.unchangedBut_remember`).
`Document.failed_assignment_is_atomic` puts this together with the two ways in which an assignment
can fail.
-/

namespace Settings

variable {path asked : String} {answer : Except Miss Target}

/-! ## Addresses of fields -/

/-- A text that is no address of a field: there is no point in it, or its last point has nothing
before it or nothing after it. -/
def NamesNoField (path : String) : Prop :=
  '.' ∉ path.toList ∨ ∃ before after, path.toList = before ++ '.' :: after ∧ '.' ∉ after ∧
    (before = [] ∨ after = [])

/-- These are the texts that cannot be split. -/
theorem splitFieldAddress_eq_error_iff {e : Error} :
    splitFieldAddress path = .error e ↔
      NamesNoField path ∧ e = AddressFault.noField.toError path := by
  constructor
  · intro h
    refine ⟨?_, eq_noField_of_splitFieldAddress h⟩
    unfold splitFieldAddress at h
    cases hcut : Text.cutLast '.' path.toList with
    | none => exact .inl (Text.cutLast_eq_none_iff.mp hcut)
    | some cut =>
      obtain ⟨before, after⟩ := cut
      obtain ⟨htext, hpoint⟩ := Text.eq_of_cutLast hcut
      rw [hcut] at h
      dsimp only at h
      by_cases hempty : (before.isEmpty || after.isEmpty) = true
      · rw [Bool.or_eq_true, List.isEmpty_iff, List.isEmpty_iff] at hempty
        exact .inr ⟨before, after, htext, hpoint, hempty⟩
      · rw [if_neg hempty] at h
        cases h
  · rintro ⟨hnone | ⟨before, after, htext, hpoint, hempty⟩, rfl⟩
    · rw [splitFieldAddress, Text.cutLast_eq_none_iff.mpr hnone]
    · rw [splitFieldAddress, htext, Text.cutLast_append hpoint]
      dsimp only
      rw [if_pos]
      rw [Bool.or_eq_true, List.isEmpty_iff, List.isEmpty_iff]
      exact hempty

/-! ## What a lookup leaves behind -/

namespace Document

variable {d : Document} {value : Scalar}

/-- Only the answer to the address that is looked up is put down, and only where it is not known. -/
theorem entries_remember (d : Document) (path : String) :
    (d.remember path).cache.entries = d.cache.entries ∨
      path ≠ "" ∧ d.cache.find? path = none ∧
        (d.remember path).cache.entries = d.cache.entries ++ [(path, d.resolve path)] := by
  rcases d.remember_cases path with ⟨-, hsame⟩ | ⟨hne, hnone, hnew⟩
  · exact .inl (congrArg (·.cache.entries) hsame)
  · exact .inr ⟨hne, hnone, congrArg (·.cache.entries) hnew⟩

/-- What was not remembered before is the answer of the tree to the address itself. -/
theorem find?_remember_new (hnone : d.cache.find? asked = none)
    (hsome : (d.remember path).cache.find? asked = some answer) :
    asked = path ∧ path ≠ "" ∧ answer = d.resolve path := by
  rcases d.remember_cases path with ⟨-, hsame⟩ | ⟨hne, -, hnew⟩
  · rw [hsame, hnone] at hsome
    cases hsome
  · rw [hnew, Cache.find?_concat, hnone, Option.none_or] at hsome
    by_cases hasked : asked = path
    · rw [if_pos hasked] at hsome
      exact ⟨hasked, hne, (Option.some.inj hsome).symm⟩
    · rw [if_neg hasked] at hsome
      cases hsome

/-- Every address has the target that it had. -/
theorem target_remember (d : Document) (path asked : String) :
    (d.remember path).target asked = d.target asked := by
  rw [target, resolve_remember]
  rcases d.remember_cases path with ⟨-, hsame⟩ | ⟨-, hnone, hnew⟩
  · rw [hsame, target]
  · rw [hnew, Cache.find?_concat]
    by_cases hasked : asked = path
    · rw [if_pos hasked, hasked, hnone, Option.none_or, Option.getD_some, target, hnone,
        Option.getD_none]
    · rw [if_neg hasked, Option.or_none, target]

theorem reveal_remember (d : Document) (path : String) (target : Target) :
    (d.remember path).reveal target = d.reveal target := by
  have hnode : ∀ trail, (d.remember path).atTrail? trail = d.atTrail? trail := by
    intro trail
    cases trail with
    | nil => rfl
    | cons position rest => rw [atTrail?, groups_remember, atTrail?]
  cases target with
  | value v => rfl
  | group trail => rw [reveal, reveal, hnode]

/-- No query can tell that another address was asked for before. -/
theorem query_remember (d : Document) (path asked : String) :
    ((d.remember path).query asked).1 = (d.query asked).1 := by
  unfold query
  by_cases hempty : asked.isEmpty = true
  · rw [if_pos hempty, if_pos hempty]
  · rw [if_neg hempty, if_neg hempty]
    show ((d.remember path).target asked).bind _ = (d.target asked).bind _
    rw [target_remember, funext (reveal_remember d path)]

/-- A document before and after a request that changes nothing, except that the answer to one
address may be remembered in addition. -/
structure UnchangedBut (d : Document) (path : String) (after : Document) : Prop where
  groups : after.groups = d.groups
  options : after.options = d.options
  entries : after.cache.entries = d.cache.entries ∨ path ≠ "" ∧ d.cache.find? path = none ∧
    after.cache.entries = d.cache.entries ++ [(path, d.resolve path)]
  kept : ∀ asked answer, d.cache.find? asked = some answer →
    after.cache.find? asked = some answer
  added : ∀ asked answer, d.cache.find? asked = none → after.cache.find? asked = some answer →
    asked = path ∧ path ≠ "" ∧ answer = after.resolve path
  resolves : ∀ asked, after.resolve asked = d.resolve asked
  answers : ∀ asked, (after.query asked).1 = (d.query asked).1

/-- Looking an address up changes nothing else. -/
theorem unchangedBut_remember (d : Document) (path : String) :
    d.UnchangedBut path (d.remember path) where
  groups := groups_remember d path
  options := options_remember d path
  entries := entries_remember d path
  kept := fun asked answer h => find?_remember_of_some h path
  added := by
    intro asked answer hnone hsome
    obtain ⟨rfl, hne, hanswer⟩ := find?_remember_new hnone hsome
    exact ⟨rfl, hne, by rw [resolve_remember, hanswer]⟩
  resolves := resolve_remember d path
  answers := query_remember d path

/-! ## Failing -/

/-- An address that leads to no group is faulty when it is no address of a field. -/
theorem invalidPath_iff :
    (∃ reason, (d.setValue path value).1 = .error (.invalidPath path reason)) ↔
      (∀ g, (d.query path).1 ≠ .ok (.group g)) ∧ NamesNoField path := by
  constructor
  · rintro ⟨reason, hset⟩
    have hgroup : ∀ g, (d.query path).1 ≠ .ok (.group g) := by
      intro g hg
      rw [setValue_of_group hg] at hset
      cases hset
    refine ⟨hgroup, ?_⟩
    rw [setValue_of_not_group hgroup] at hset
    cases hsplit : splitFieldAddress path with
    | error e => exact (splitFieldAddress_eq_error_iff.mp hsplit).1
    | ok parts =>
      rw [hsplit] at hset
      cases hset
  · rintro ⟨hgroup, hfield⟩
    have hsplit := splitFieldAddress_eq_error_iff.mpr ⟨hfield, rfl⟩
    rw [setValue_of_not_group hgroup, hsplit]
    exact ⟨_, rfl⟩

/-- **Assignments that fail.** Take any document, whatever it remembers and under either policy. An
assignment fails as one over a group exactly when the query for its address finds a group at that
moment, and as one with a faulty address exactly when the query finds no group and the address has
no point, or nothing before or after its last point. There is no other way to fail. An assignment
that fails leaves groups, options and all remembered answers as they were; only the answer to its
own address may be remembered in addition, if that is not empty, and it is what the unchanged tree
gives. So every query is answered as before. -/
theorem failed_assignment_is_atomic (d : Document) (path : String) (value : Scalar) :
    ((∃ reason, (d.setValue path value).1 = .error (.invalidMutation path reason)) ↔
      ∃ g, (d.query path).1 = .ok (.group g)) ∧
    ((∃ reason, (d.setValue path value).1 = .error (.invalidPath path reason)) ↔
      (∀ g, (d.query path).1 ≠ .ok (.group g)) ∧ NamesNoField path) ∧
    ∀ e, (d.setValue path value).1 = .error e →
      ((∃ reason, e = .invalidMutation path reason) ∨ ∃ reason, e = .invalidPath path reason) ∧
        d.UnchangedBut path (d.setValue path value).2 := by
  refine ⟨refuses_iff_query, invalidPath_iff, fun e he => ⟨?_, ?_⟩⟩
  · by_cases hgroup : ∃ g, (d.query path).1 = .ok (.group g)
    · obtain ⟨reason, hset⟩ := refuses_iff_query.mpr hgroup
      exact .inl ⟨reason, Except.error.inj (he.symm.trans hset)⟩
    · rw [setValue_of_not_group (not_exists.mp hgroup)] at he
      cases hsplit : splitFieldAddress path with
      | error fault =>
        rw [hsplit] at he
        obtain rfl := Except.error.inj he
        exact .inr ⟨_, eq_noField_of_splitFieldAddress hsplit⟩
      | ok parts =>
        rw [hsplit] at he
        cases he
  · rw [setValue_snd_of_error he]
    exact unchangedBut_remember d path

/-- A group with a child, and two misses that are retained, one of which is out of date. -/
def staleDocument : Document where
  groups := [{ identifier := "a", children := [{ identifier := "b" }] }]
  cache := ⟨[("x", .error .notFound), ("a.b", .error .notFound)]⟩
  options := { cachePolicy := .retain }

/-- An assignment over the group puts down the answer to its address, after the two misses, and one
to an address without a point that is already known puts nothing down. -/
theorem failed_assignment_keeps_stale_answers :
    (staleDocument.setValue "a" ⟨"v"⟩).1 =
        .error (.invalidMutation "a" "cannot assign a scalar over an entire group") ∧
      staleDocument.UnchangedBut "a" (staleDocument.setValue "a" ⟨"v"⟩).2 ∧
      (staleDocument.setValue "a" ⟨"v"⟩).2.cache.entries =
        staleDocument.cache.entries ++ [("a", .ok (.group [0]))] ∧
      (∃ reason, (staleDocument.setValue "x" ⟨"v"⟩).1 = .error (.invalidPath "x" reason)) ∧
      staleDocument.UnchangedBut "x" (staleDocument.setValue "x" ⟨"v"⟩).2 ∧
      (staleDocument.setValue "x" ⟨"v"⟩).2.cache.entries = staleDocument.cache.entries := by
  have hgroup : (staleDocument.setValue "a" ⟨"v"⟩).1 =
      .error (.invalidMutation "a" "cannot assign a scalar over an entire group") := rfl
  have hnone : ∀ g, (staleDocument.query "x").1 ≠ .ok (.group g) := nofun
  have hfield : NamesNoField "x" := .inl (by decide)
  obtain ⟨-, -, hover⟩ := failed_assignment_is_atomic staleDocument "a" ⟨"v"⟩
  obtain ⟨-, hfaulty, hunknown⟩ := failed_assignment_is_atomic staleDocument "x" ⟨"v"⟩
  obtain ⟨reason, hset⟩ := hfaulty.mpr ⟨hnone, hfield⟩
  exact ⟨hgroup, (hover _ hgroup).2, rfl, ⟨reason, hset⟩, (hunknown _ hset).2, rfl⟩

end Document

end Settings
