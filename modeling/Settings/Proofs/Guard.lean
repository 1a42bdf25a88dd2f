import Settings.Proofs.Coherence
/-!
# The guard of assignments

An assignment is refused when its address leads to a group. The guard asks a query, and a query may
go by a remembered miss. `Document.setValue_refuses_iff_of_run` says when the guard misses a group:
exactly when the address is remembered as a miss and leads to a group by now, which takes a group
that was put at the end in between. `Document.setValue_over_late_group` is a session in which a
value is assigned over a group.
-/

namespace Settings

/-- Nothing is wrong with an address that has a fault but that it is no address of a field. -/
theorem eq_noField_of_splitFieldAddress {path : String} {e : Error}
    (h : splitFieldAddress path = .error e) : e = AddressFault.noField.toError path := by
  unfold splitFieldAddress at h
  split at h
  · split at h
    · cases h
      rfl
    · cases h
  · cases h
    rfl

namespace Document

variable {d : Document} {fresh : List Group} {path : String} {value : Scalar}

/-- An assignment is refused as one over a group. -/
def Refuses (d : Document) (path : String) (value : Scalar) : Prop :=
  ∃ reason, (d.setValue path value).1 = .error (.invalidMutation path reason)

/-- In the tree, the address leads to a group. -/
def LeadsToGroup (d : Document) (path : String) : Prop := ∃ g, d.lookup path = .ok (.group g)

/-- The guard goes by the query: an assignment is refused exactly when the query finds a group. -/
theorem refuses_iff_query : d.Refuses path value ↔ ∃ g, (d.query path).1 = .ok (.group g) := by
  constructor
  · rintro ⟨reason, hset⟩
    by_cases hgroup : ∃ g, (d.query path).1 = .ok (.group g)
    · exact hgroup
    · -- what is left to go wrong is the form of the address, which is another error
      rw [setValue_of_not_group (not_exists.mp hgroup)] at hset
      cases hsplit : splitFieldAddress path with
      | error e =>
        rw [hsplit, eq_noField_of_splitFieldAddress hsplit] at hset
        cases hset
      | ok parts =>
        rw [hsplit] at hset
        cases hset
  · rintro ⟨g, hg⟩
    exact ⟨_, congrArg Prod.fst (setValue_of_group hg value)⟩

/-- The guard sees every group but one whose address is remembered as a miss. -/
theorem Coherent.refuses_iff (h : d.Coherent fresh) :
    d.Refuses path value ↔
      d.LeadsToGroup path ∧ d.cache.find? path ≠ some (.error .notFound) := by
  rw [refuses_iff_query]
  by_cases hfind : d.cache.find? path = some (.error .notFound)
  · rw [query_of_remembered_miss hfind]
    constructor
    · rintro ⟨g, hg⟩
      cases hg
    · rintro ⟨-, hne⟩
      exact absurd hfind hne
  · rw [h.query_eq_lookup hfind]
    exact ⟨fun hgroup => ⟨hgroup, hfind⟩, And.left⟩

/-- A group that is remembered as a miss was put at the end since. -/
theorem Coherent.selectsFresh_of_leadsToGroup (h : d.Coherent fresh) (hgroup : d.LeadsToGroup path)
    (hfind : d.cache.find? path = some (.error .notFound)) : d.SelectsFresh fresh path := by
  obtain ⟨g, hg⟩ := hgroup
  rcases h.lookup_of_remembered_miss hfind with hmiss | hfresh
  · rw [hmiss] at hg
    cases hg
  · exact hfresh

/-- **The guard of assignments.** Start a session with nothing remembered, under the policy that
forgets on writing. An assignment is refused exactly when its address leads to a group in the tree
and is not remembered as a miss. So "refused if and only if the address leads to a group" holds
exactly of the addresses that are not both, and those that are both select a group that was put at
the end since the cache was last emptied. Without such groups it holds of every address. -/
theorem setValue_refuses_iff_of_run (d : Document) (requests : List Request)
    (policy : d.options.cachePolicy = .invalidateOnWrite) (empty : d.cache.entries = [])
    (path : String) (value : Scalar) :
    ((d.run requests).Refuses path value ↔ (d.run requests).LeadsToGroup path ∧
      (d.run requests).cache.find? path ≠ some (.error .notFound)) ∧
    (((d.run requests).Refuses path value ↔ (d.run requests).LeadsToGroup path) ↔
      ¬ ((d.run requests).LeadsToGroup path ∧
        (d.run requests).cache.find? path = some (.error .notFound))) ∧
    ((d.run requests).LeadsToGroup path →
      (d.run requests).cache.find? path = some (.error .notFound) →
      (d.run requests).SelectsFresh (d.freshGroups [] requests) path) ∧
    (d.freshGroups [] requests = [] →
      ((d.run requests).Refuses path value ↔ (d.run requests).LeadsToGroup path)) := by
  have hcoherent := coherent_run (coherent_of_entries_eq_nil policy empty) requests
  have hrefuses : (d.run requests).Refuses path value ↔ (d.run requests).LeadsToGroup path ∧
      (d.run requests).cache.find? path ≠ some (.error .notFound) := hcoherent.refuses_iff
  refine ⟨hrefuses, ?_, hcoherent.selectsFresh_of_leadsToGroup, ?_⟩
  · rw [hrefuses]
    constructor
    · rintro hiff ⟨hgroup, hfind⟩
      exact (hiff.mpr hgroup).2 hfind
    · intro hhidden
      exact ⟨And.left, fun hgroup => ⟨hgroup, fun hfind => hhidden ⟨hgroup, hfind⟩⟩⟩
  · intro hfresh
    rw [hrefuses]
    refine ⟨And.left, fun hgroup => ⟨hgroup, fun hfind => ?_⟩⟩
    have hselects := hcoherent.selectsFresh_of_leadsToGroup hgroup hfind
    rw [hfresh] at hselects
    exact not_selectsFresh_nil hselects

/-- A child that was asked for before its group was put at the end: the guard misses it. -/
theorem guard_misses_late_group :
    ({} : Document).options.cachePolicy = .invalidateOnWrite ∧
      ({} : Document).cache.entries = [] ∧
      ¬ (({} : Document).run lateSession).Refuses "a.b" ⟨"x"⟩ ∧
      (({} : Document).run lateSession).SelectsFresh
        (({} : Document).freshGroups [] lateSession) "a.b" := by
  obtain ⟨hrefuses, -, hselects, -⟩ :=
    setValue_refuses_iff_of_run {} lateSession rfl rfl "a.b" ⟨"x"⟩
  refine ⟨rfl, rfl, fun hrefused => (hrefuses.mp hrefused).2 rfl, hselects ⟨_, rfl⟩ rfl⟩

/-- The value is assigned, to a new group under the name of the old one, although the address leads
to a group. So an assignment may be carried out where a group is in the tree. -/
theorem setValue_over_late_group :
    (({} : Document).run lateSession).LeadsToGroup "a.b" ∧
      ((({} : Document).run lateSession).setValue "a.b" ⟨"x"⟩).1 = .ok () ∧
      ¬ ((({} : Document).run lateSession).Refuses "a.b" ⟨"x"⟩ ↔
        (({} : Document).run lateSession).LeadsToGroup "a.b") := by
  have hgroup : (({} : Document).run lateSession).LeadsToGroup "a.b" := ⟨_, rfl⟩
  have hset : ((({} : Document).run lateSession).setValue "a.b" ⟨"x"⟩).1 = .ok () := rfl
  refine ⟨hgroup, hset, fun hiff => ?_⟩
  obtain ⟨reason, hrefused⟩ := hiff.mpr hgroup
  rw [hset] at hrefused
  cases hrefused

end Document

end Settings
