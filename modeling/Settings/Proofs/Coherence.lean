import Settings.Proofs.Lookup
import Settings.Proofs.Step
/-!
# Coherence of the cache

Under the policy that forgets on writing, a remembered answer is what the tree gives, with one
exception: groups put at the end do not empty the cache, so an address that led nowhere may lead to
one of them by now. `Document.Coherent` is the invariant, `Document.coherent_serve` is one request,
and `Document.entries_coherent_of_run` is a whole session.

The exception is a narrow one because of how siblings are selected. A group at the end never takes
the place of one that an address selects (`selectSibling?_append`), so it can only turn a miss into
an answer (`Document.resolve_extend`).
-/

namespace Settings.Document

variable {d : Document} {fresh : List Group} {path : String}

/-! ## Groups that the cache does not know of -/

/-- The groups that a session has put at the end since the cache was last emptied. Where the session
starts, `fresh` are the groups of that kind. -/
def freshGroups (d : Document) (fresh : List Group) : List Request → List Group
  | [] => fresh
  | r :: rest =>
    (d.serve r).2.freshGroups (if d.empties r then [] else fresh ++ r.appended) rest

/-- The address can be read and is not too long, and its first segment selects a top-level group
that stands at position `n` or further on. -/
def SelectsFrom (d : Document) (n : Nat) (path : String) : Prop :=
  ∃ first rest root position, Address.parse path = .ok ⟨first :: rest⟩ ∧
    (first :: rest).length ≤ d.options.maxDepth ∧
    selectSibling? d.groups first.name first.offset = some (root, position) ∧ n ≤ position

/-- The address selects one of the groups `fresh`, with which the document ends. -/
def SelectsFresh (d : Document) (fresh : List Group) (path : String) : Prop :=
  ∃ kept, d.groups = kept ++ fresh ∧ d.SelectsFrom kept.length path

/-- Groups at the end make no difference to an address, or they turn a miss into an answer. -/
theorem resolve_extend (d : Document) (extra : List Group) (path : String) :
    (d.extend extra).resolve path = d.resolve path ∨
      d.resolve path = .error .notFound ∧ (d.extend extra).SelectsFrom d.groups.length path := by
  cases hparse : Address.parse path with
  | error e =>
    left
    rw [resolve_of_parse_error hparse, resolve_of_parse_error hparse]
  | ok address =>
    obtain ⟨segments⟩ := address
    obtain ⟨first, rest, rfl⟩ := List.exists_cons_of_ne_nil (Address.segments_ne_nil hparse)
    rw [resolve_of_parse hparse, resolve_of_parse hparse]
    show (if _ ≤ d.options.maxDepth then _ else _) = _ ∨ _
    by_cases hdepth : (first :: rest).length ≤ d.options.maxDepth
    · rw [if_pos hdepth, if_pos hdepth]
      cases hselect : selectSibling? d.groups first.name first.offset with
      | some found =>
        -- the same group is selected as before, and it is followed in the same way
        left
        have hextended : selectSibling? (d.groups ++ extra) first.name first.offset = some found :=
          selectSibling?_append hselect
        rw [Group.locate_cons_of_child (g := d.root) hselect,
          Group.locate_cons_of_child (g := (d.extend extra).root) hextended]
      | none =>
        have hmiss : d.root.locate (first :: rest) = .error .notFound :=
          Group.locate_cons_of_none hselect fun _ => rfl
        cases hextended : selectSibling? (d.groups ++ extra) first.name first.offset with
        | none =>
          left
          rw [hmiss]
          exact Group.locate_cons_of_none hextended fun _ => rfl
        | some found =>
          right
          exact ⟨hmiss, first, rest, found.1, found.2, hparse, hdepth, hextended,
            le_position_of_selectSibling?_append hselect hextended⟩
    · left
      rw [if_neg hdepth, if_neg hdepth]

theorem SelectsFrom.of_le {m n : Nat} (hle : m ≤ n) (h : d.SelectsFrom n path) :
    d.SelectsFrom m path := by
  obtain ⟨first, rest, root, position, hparse, hdepth, hselect, hfrom⟩ := h
  exact ⟨first, rest, root, position, hparse, hdepth, hselect, Nat.le_trans hle hfrom⟩

theorem SelectsFrom.extend {n : Nat} (h : d.SelectsFrom n path) (extra : List Group) :
    (d.extend extra).SelectsFrom n path := by
  obtain ⟨first, rest, root, position, hparse, hdepth, hselect, hle⟩ := h
  exact ⟨first, rest, root, position, hparse, hdepth, selectSibling?_append hselect, hle⟩

theorem SelectsFresh.extend (h : d.SelectsFresh fresh path) (extra : List Group) :
    (d.extend extra).SelectsFresh (fresh ++ extra) path := by
  obtain ⟨kept, hgroups, hselects⟩ := h
  refine ⟨kept, ?_, hselects.extend extra⟩
  rw [Document.extend, hgroups, List.append_assoc]

/-- Without fresh groups none is selected. -/
theorem not_selectsFresh_nil : ¬ d.SelectsFresh [] path := by
  rintro ⟨kept, hgroups, first, rest, root, position, -, -, hselect, hle⟩
  rw [List.append_nil] at hgroups
  have hlt := (List.getElem?_eq_some_iff.mp (getElem?_of_selectSibling? hselect)).1
  rw [hgroups] at hlt
  omega

/-! ## The invariant -/

/-- What a session keeps: a remembered answer is the answer of the tree, or it is a miss from before
a group was put at the end that the address now selects. -/
structure Coherent (d : Document) (fresh : List Group) : Prop where
  policy : d.options.cachePolicy = .invalidateOnWrite
  suffix : ∃ kept, d.groups = kept ++ fresh
  entries : ∀ path answer, (path, answer) ∈ d.cache.entries →
    answer = d.resolve path ∨ answer = .error .notFound ∧ d.SelectsFresh fresh path

theorem coherent_of_entries_eq_nil (policy : d.options.cachePolicy = .invalidateOnWrite)
    (h : d.cache.entries = []) : d.Coherent [] where
  policy := policy
  suffix := ⟨d.groups, (List.append_nil _).symm⟩
  entries := by
    intro path answer hmem
    rw [h] at hmem
    exact absurd hmem List.not_mem_nil

/-- Only the address that is looked up is new among those remembered. -/
theorem mem_entries_remember {asked : String} {answer : Except Miss Target}
    (h : (path, answer) ∈ (d.remember asked).cache.entries) :
    (path, answer) ∈ d.cache.entries ∨ path = asked ∧ answer = d.resolve asked := by
  rcases d.remember_cases asked with ⟨-, hsame⟩ | ⟨-, -, hnew⟩
  · rw [hsame] at h
    exact .inl h
  · rw [hnew] at h
    rcases List.mem_append.mp h with hold | hlast
    · exact .inl hold
    · exact .inr (Prod.mk.inj (List.mem_singleton.mp hlast))

theorem Coherent.remember (h : d.Coherent fresh) (asked : String) :
    (d.remember asked).Coherent fresh where
  policy := by rw [options_remember, h.policy]
  suffix := by
    rw [groups_remember]
    exact h.suffix
  entries := by
    intro path answer hmem
    rw [resolve_remember]
    unfold SelectsFresh SelectsFrom
    rw [groups_remember, options_remember]
    rcases mem_entries_remember hmem with hold | ⟨rfl, hanswer⟩
    · exact h.entries path answer hold
    · exact .inl hanswer

theorem Coherent.extend (h : d.Coherent fresh) (extra : List Group) :
    (d.extend extra).Coherent (fresh ++ extra) where
  policy := h.policy
  suffix := by
    obtain ⟨kept, hgroups⟩ := h.suffix
    exact ⟨kept, by rw [Document.extend, hgroups, List.append_assoc]⟩
  entries := by
    intro path answer hmem
    rcases h.entries path answer hmem with hanswer | ⟨hmiss, hfresh⟩
    · rcases d.resolve_extend extra path with hsame | ⟨hnone, hselects⟩
      · exact .inl (hanswer.trans hsame.symm)
      · -- the address was a miss up to now, and it selects one of the new groups
        obtain ⟨kept, hgroups⟩ := h.suffix
        refine .inr ⟨hanswer.trans hnone, kept, ?_, hselects.of_le ?_⟩
        · rw [Document.extend, hgroups, List.append_assoc]
        · rw [hgroups, List.length_append]
          omega
    · -- a fresh group that was selected is so still
      exact .inr ⟨hmiss, hfresh.extend extra⟩

/-! ## Sessions -/

theorem options_serve (d : Document) (r : Request) : (d.serve r).2.options = d.options := by
  have hstep := d.serve_step r
  generalize (d.serve r).2 = after at hstep
  cases hstep with
  | looked _ _ _ => exact options_remember _ _
  | extended _ _ => rfl
  | forgotten => rfl
  | flagged => exact options_afterWrite _
  | assigned _ _ => rw [options_assign, options_remember]

/-- One request keeps the invariant. The fresh groups are gone when the cache is emptied, and else
those that the request puts at the end are fresh as well. -/
theorem coherent_serve (h : d.Coherent fresh) (r : Request) :
    (d.serve r).2.Coherent (if d.empties r then [] else fresh ++ r.appended) := by
  by_cases hempties : d.empties r = true
  · rw [if_pos hempties]
    have hpolicy : (d.serve r).2.options.cachePolicy = .invalidateOnWrite := by
      rw [options_serve, h.policy]
    exact coherent_of_entries_eq_nil hpolicy (entries_of_empties hempties)
  · rw [if_neg hempties]
    have hstep := d.serve_step r
    generalize (d.serve r).2 = after at hstep
    cases hstep with
    | looked _ happended _ =>
      rw [happended, List.append_nil]
      exact h.remember _
    | extended _ _ => exact h.extend _
    -- under this policy the others empty the cache
    | forgotten => exact absurd rfl hempties
    | flagged => exact absurd (decide_eq_true h.policy) hempties
    | @assigned path name field value hgroup hsplit =>
      have hset : d.setValue path value = (.ok (), (d.remember path).assign name field value) :=
        setValue_eq_ok_iff.mpr ⟨hgroup, name, field, hsplit, rfl⟩
      exact absurd (empties_setValue h.policy (congrArg Prod.fst hset)) hempties

/-- A session keeps the invariant. -/
theorem coherent_run (h : d.Coherent fresh) (requests : List Request) :
    (d.run requests).Coherent (d.freshGroups fresh requests) := by
  induction requests generalizing d fresh with
  | nil => exact h
  | cons r rest ih => exact ih (coherent_serve h r)

/-! ## Queries -/

/-- What is remembered under a text is among the entries. -/
theorem mem_entries_of_find? {answer : Except Miss Target}
    (h : d.cache.find? path = some answer) : (path, answer) ∈ d.cache.entries := by
  obtain ⟨before, after, hentries, -⟩ := List.lookup_eq_some_iff.mp h
  rw [hentries]
  exact List.mem_append_right _ List.mem_cons_self

/-- A query says what the tree says, unless a miss is remembered. -/
theorem Coherent.query_eq_lookup (h : d.Coherent fresh)
    (hfind : d.cache.find? path ≠ some (.error .notFound)) :
    (d.query path).1 = d.lookup path := by
  apply Document.query_eq_lookup
  unfold target
  cases hknown : d.cache.find? path with
  | none => rfl
  | some answer =>
    rcases h.entries path answer (mem_entries_of_find? hknown) with hanswer | ⟨rfl, -⟩
    · exact hanswer
    · exact absurd hknown hfind

theorem query_of_remembered_miss (h : d.cache.find? path = some (.error .notFound)) :
    (d.query path).1 = .error .notFound := by
  unfold query
  split
  · rfl
  · rw [target, h]
    rfl

/-- A remembered miss is one in the tree, or the address selects a fresh group. -/
theorem Coherent.lookup_of_remembered_miss (h : d.Coherent fresh)
    (hfind : d.cache.find? path = some (.error .notFound)) :
    d.lookup path = .error .notFound ∨ d.SelectsFresh fresh path := by
  rcases h.entries path _ (mem_entries_of_find? hfind) with hmiss | ⟨-, hfresh⟩
  · left
    rw [lookup, ← hmiss]
    rfl
  · exact .inr hfresh

/-- Without fresh groups every query says what the tree says. -/
theorem Coherent.query_eq_lookup_of_nil (h : d.Coherent []) (path : String) :
    (d.query path).1 = d.lookup path := by
  by_cases hfind : d.cache.find? path = some (.error .notFound)
  · rw [query_of_remembered_miss hfind]
    rcases h.lookup_of_remembered_miss hfind with hmiss | hselects
    · exact hmiss.symm
    · exact absurd hselects not_selectsFresh_nil
  · exact h.query_eq_lookup hfind

/-- **Coherence of the cache.** Start a session with nothing remembered, under the policy that
forgets on writing. A remembered answer other than "not found" is what the tree gives, and a
remembered "not found" is so as well, or the address selects a group that was put at the end since
the cache was last emptied. Without such groups every query says what the tree says. -/
theorem entries_coherent_of_run (d : Document) (requests : List Request)
    (policy : d.options.cachePolicy = .invalidateOnWrite) (empty : d.cache.entries = []) :
    (∀ path answer, (path, answer) ∈ (d.run requests).cache.entries →
      (answer ≠ .error .notFound → answer = (d.run requests).resolve path) ∧
      (answer = .error .notFound → (d.run requests).resolve path = .error .notFound ∨
        (d.run requests).SelectsFresh (d.freshGroups [] requests) path)) ∧
    (d.freshGroups [] requests = [] →
      ∀ path, ((d.run requests).query path).1 = (d.run requests).lookup path) := by
  have hcoherent := coherent_run (coherent_of_entries_eq_nil policy empty) requests
  refine ⟨?_, ?_⟩
  · intro path answer hmem
    rcases hcoherent.entries path answer hmem with hanswer | ⟨hmiss, hfresh⟩
    · exact ⟨fun _ => hanswer, fun hmiss => .inl (hanswer.symm.trans hmiss)⟩
    · exact ⟨fun hne => absurd hmiss hne, fun _ => .inr hfresh⟩
  · intro hfresh path
    by_cases hfind : (d.run requests).cache.find? path = some (.error .notFound)
    · rw [query_of_remembered_miss hfind]
      rcases hcoherent.lookup_of_remembered_miss hfind with hmiss | hselects
      · exact hmiss.symm
      · rw [hfresh] at hselects
        exact absurd hselects not_selectsFresh_nil
    · exact hcoherent.query_eq_lookup hfind

/-- A group with a child. -/
def lateGroup : Group := { identifier := "a", children := [{ identifier := "b" }] }

/-- The child is asked for before the group is put at the end. -/
def lateSession : List Request := [.query "a.b", .addGroup lateGroup]

/-- The miss of the first request is remembered and is a miss no more: the address selects the group
that was put at the end. -/
theorem entries_coherent_late_session :
    ({} : Document).options.cachePolicy = .invalidateOnWrite ∧
      ({} : Document).cache.entries = [] ∧
      ("a.b", .error .notFound) ∈ (({} : Document).run lateSession).cache.entries ∧
      (({} : Document).run lateSession).resolve "a.b" = .ok (.group [0, 0]) ∧
      (({} : Document).run lateSession).SelectsFresh [lateGroup] "a.b" := by
  have hmem : ("a.b", .error .notFound) ∈ (({} : Document).run lateSession).cache.entries :=
    List.mem_cons_self
  have hresolve : (({} : Document).run lateSession).resolve "a.b" = .ok (.group [0, 0]) := rfl
  have hcoherent := (entries_coherent_of_run {} lateSession rfl rfl).1 "a.b" _ hmem
  refine ⟨rfl, rfl, hmem, hresolve, ?_⟩
  rcases hcoherent.2 rfl with hmiss | hfresh
  · rw [hresolve] at hmiss
    cases hmiss
  · exact hfresh

end Settings.Document
