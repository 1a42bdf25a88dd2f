import Settings.Proofs.Coherence
import Settings.Proofs.Growth
/-!
# Retained answers

Under the policy that retains answers, the first answer to an address is the one that counts.
Misses, scalars and arrays are remembered as they were. Groups are remembered by their positions,
and since the tree only grows, the positions lead to a group of the same names for ever
(`Document.Anchored`, the invariant of a session). `Document.first_answer_retained` puts the two
together.
-/

namespace Settings

variable {path asked : String} {answer : Except Miss Target}

/-! ## What is remembered under a text -/

namespace Document

variable {d d' : Document} {trail : List Nat} {r : Request}

/-- What is looked up is remembered from then on. -/
theorem find?_remember_self (d : Document) (h : path ≠ "") :
    (d.remember path).cache.find? path = some (d.target path) := by
  rcases d.remember_cases path with ⟨hempty | ⟨known, hknown⟩, hsame⟩ | ⟨-, hnone, hnew⟩
  · exact absurd hempty h
  · rw [hsame, target, hknown, Option.getD_some]
  · rw [hnew, Cache.find?_concat, hnone, Option.none_or, if_pos rfl, target, hnone,
      Option.getD_none]

/-- Looking an address up overwrites nothing. -/
theorem find?_remember_of_some (h : d.cache.find? path = some answer) (asked : String) :
    (d.remember asked).cache.find? path = some answer := by
  rcases d.remember_cases asked with ⟨-, hsame⟩ | ⟨-, -, hnew⟩
  · rw [hsame, h]
  · rw [hnew, Cache.find?_concat, h, Option.some_or]

/-- An answer that is remembered is what the query goes by. -/
theorem target_of_find? (h : d.cache.find? path = some answer) : d.target path = answer := by
  rw [target, h, Option.getD_some]

/-- Under the policy that retains answers a write forgets nothing. -/
theorem afterWrite_of_retain (policy : d.options.cachePolicy = .retain) : d.afterWrite = d := by
  rw [afterWrite, policy]

theorem cache_assign_of_retain (policy : d.options.cachePolicy = .retain) (name field : String)
    (value : Scalar) : (d.assign name field value).cache = d.cache := by
  rw [assign, afterWrite_of_retain (d := { d with groups := assignIn name field value d.groups })
    policy]

theorem cache_flagRepeats_of_retain (policy : d.options.cachePolicy = .retain) :
    d.flagRepeats.cache = d.cache := by
  rw [flagRepeats, afterWrite_of_retain (d := { d with groups := Settings.flagRepeats d.groups })
    policy]

/-- Only the demand to forget them overwrites retained answers. -/
theorem find?_serve (policy : d.options.cachePolicy = .retain) (hr : r ≠ .forgetAnswers)
    (h : d.cache.find? path = some answer) : (d.serve r).2.cache.find? path = some answer := by
  have hstep := d.serve_step r
  generalize (d.serve r).2 = after at hstep
  cases hstep with
  | looked _ _ _ => exact find?_remember_of_some h _
  | extended _ _ => exact h
  | forgotten => exact absurd rfl hr
  | flagged =>
    rw [cache_flagRepeats_of_retain policy]
    exact h
  | @assigned asked _ _ _ _ _ =>
    rw [cache_assign_of_retain (by rw [options_remember, policy])]
    exact find?_remember_of_some h asked

/-- So a session keeps it, as long as nobody demands to forget. -/
theorem find?_run {requests : List Request} (policy : d.options.cachePolicy = .retain)
    (kept : ∀ request ∈ requests, request ≠ .forgetAnswers)
    (h : d.cache.find? path = some answer) : (d.run requests).cache.find? path = some answer := by
  induction requests generalizing d with
  | nil => exact h
  | cons r rest ih =>
    have hserved := find?_serve policy (kept r List.mem_cons_self) h
    have hpolicy : (d.serve r).2.options.cachePolicy = .retain := by rw [options_serve, policy]
    exact ih hpolicy (fun request hmem => kept request (List.mem_cons_of_mem r hmem)) hserved

/-- A request that looks an address up leaves its answer remembered. -/
theorem find?_serve_asked (policy : d.options.cachePolicy = .retain) (hasked : r.asked = some path)
    (h : path ≠ "") : (d.serve r).2.cache.find? path = some (d.target path) := by
  have hstep := d.serve_step r
  generalize (d.serve r).2 = after at hstep
  cases hstep with
  | @looked _ path' hasked' _ _ =>
    obtain rfl : path' = path := Option.some.inj (hasked'.symm.trans hasked)
    exact find?_remember_self d h
  | extended hnone _ =>
    rw [hnone] at hasked
    cases hasked
  | forgotten => cases hasked
  | flagged => cases hasked
  | @assigned path' _ _ _ _ _ =>
    obtain rfl : path' = path := Option.some.inj hasked
    rw [cache_assign_of_retain (by rw [options_remember, policy])]
    exact find?_remember_self d h

end Document

/-! ## Positions that are remembered -/

/-- The positions that segments are followed to lead to a node, under the names of the segments. -/
theorem Group.namesTo_of_locate {g : Group} {segments : List Segment} {trail : List Nat}
    (h : g.locate segments = .ok (.group trail)) :
    (∃ node, g.atTrail? trail = some node) ∧ g.namesTo trail = segments.map Segment.name := by
  induction segments generalizing g trail with
  | nil =>
    cases h
    exact ⟨⟨g, rfl⟩, rfl⟩
  | cons s rest ih =>
    obtain ⟨child, position, below, hselect, hlocate, rfl⟩ := exists_child_of_locate_eq_group h
    have hchild := getElem?_of_selectSibling? hselect
    obtain ⟨⟨node, hnode⟩, hnames⟩ := ih hlocate
    refine ⟨⟨node, by rw [atTrail?_cons hchild, hnode]⟩, ?_⟩
    rw [namesTo_cons hchild, hnames, identifier_of_selectSibling? hselect, List.map_cons]

namespace Document

variable {d d' : Document} {trail : List Nat} {r : Request}

/-- Positions lead to a node, and the names on the way are those of the segments of an address. -/
def Spells (d : Document) (trail : List Nat) (path : String) : Prop :=
  (∃ node, d.atTrail? trail = some node) ∧
    ∃ address, Address.parse path = .ok address ∧
      d.root.namesTo trail = address.segments.map Segment.name

theorem Spells.of_growsInto (h : d.Spells trail path) (hgrows : d.GrowsInto d') :
    d'.Spells trail path := by
  obtain ⟨⟨node, hnode⟩, address, hparse, hnames⟩ := h
  exact ⟨hgrows.atTrail? hnode, address, hparse, (hgrows.namesTo hnode).trans hnames⟩

/-- What the tree gives for an address that leads to a group. -/
theorem spells_of_resolve (h : d.resolve path = .ok (.group trail)) : d.Spells trail path := by
  cases hparse : Address.parse path with
  | error e =>
    rw [resolve_of_parse_error hparse] at h
    cases h
  | ok address =>
    rw [resolve_of_parse hparse] at h
    by_cases hdepth : address.segments.length ≤ d.options.maxDepth
    · rw [if_pos hdepth] at h
      obtain ⟨⟨node, hnode⟩, hnames⟩ := Group.namesTo_of_locate h
      refine ⟨⟨node, ?_⟩, address, hparse, hnames⟩
      -- the root is no node of the document, but an address has a segment
      have htrail : trail ≠ [] := by
        rintro rfl
        exact Address.segments_ne_nil hparse
          (List.eq_nil_of_length_eq_zero (Group.length_of_locate_eq_group h).symm)
      rw [← atTrail?_root d htrail, hnode]
    · rw [if_neg hdepth] at h
      cases h

/-- What a session keeps, whatever the policy: the positions under which groups are remembered lead
to groups, on a way that the address spells. -/
def Anchored (d : Document) : Prop :=
  ∀ path trail, (path, .ok (.group trail)) ∈ d.cache.entries → d.Spells trail path

theorem anchored_of_entries_eq_nil (h : d.cache.entries = []) : d.Anchored := by
  intro path trail hmem
  rw [h] at hmem
  exact absurd hmem List.not_mem_nil

/-- The tree may grow and answers may be forgotten. -/
theorem Anchored.of_growsInto (h : d.Anchored) (hgrows : d.GrowsInto d')
    (hentries : d'.cache.entries ⊆ d.cache.entries) : d'.Anchored :=
  fun path trail hmem => (h path trail (hentries hmem)).of_growsInto hgrows

theorem Anchored.remember (h : d.Anchored) (asked : String) : (d.remember asked).Anchored := by
  have hgrows : d.GrowsInto (d.remember asked) :=
    growsInto_of_groups_eq (groups_remember d asked)
  intro path trail hmem
  rcases mem_entries_remember hmem with hold | ⟨rfl, hanswer⟩
  · exact (h path trail hold).of_growsInto hgrows
  · exact (spells_of_resolve hanswer.symm).of_growsInto hgrows

theorem entries_afterWrite_subset (d : Document) :
    d.afterWrite.cache.entries ⊆ d.cache.entries := by
  unfold afterWrite
  split
  · exact List.nil_subset _
  · exact List.Subset.refl _

theorem anchored_serve (h : d.Anchored) (r : Request) : (d.serve r).2.Anchored := by
  have hgrows := growsInto_serve d r
  have hstep := d.serve_step r
  generalize (d.serve r).2 = after at hstep hgrows
  cases hstep with
  | looked _ _ _ => exact h.remember _
  | extended _ _ => exact h.of_growsInto hgrows (List.Subset.refl _)
  | forgotten => exact anchored_of_entries_eq_nil rfl
  | flagged => exact h.of_growsInto hgrows (entries_afterWrite_subset _)
  | @assigned asked name field value _ _ =>
    exact (h.remember asked).of_growsInto (growsInto_assign _ name field value)
      (entries_afterWrite_subset _)

theorem anchored_run (h : d.Anchored) (requests : List Request) : (d.run requests).Anchored := by
  induction requests generalizing d with
  | nil => exact h
  | cons r rest ih => exact ih (anchored_serve h r)

/-- What a query goes by, remembered or not, leads to a group if it says so. -/
theorem Anchored.spells_of_target (h : d.Anchored) (htarget : d.target path = .ok (.group trail)) :
    d.Spells trail path := by
  cases hfind : d.cache.find? path with
  | some answer =>
    obtain rfl : answer = .ok (.group trail) := (target_of_find? hfind).symm.trans htarget
    exact h path trail (mem_entries_of_find? hfind)
  | none =>
    rw [target, hfind, Option.getD_none] at htarget
    exact spells_of_resolve htarget

/-! ## Queries -/

theorem query_fst (d : Document) (h : path ≠ "") :
    (d.query path).1 = (d.target path).bind d.reveal := by
  have hempty : ¬ path.isEmpty = true := fun hempty => h (String.isEmpty_iff.mp hempty)
  rw [query, if_neg hempty]

/-- The answer to an address at an earlier and a later time: the same miss, the same scalar or
array, or the groups that stand at the same positions, on a way that the address spells. -/
inductive Retained (first later : Document) (path : String) : Prop
  | miss {miss : Miss} : (first.query path).1 = .error miss →
      (later.query path).1 = .error miss → Retained first later path
  | value {value : FieldValue} : (first.query path).1 = .ok (.value value) →
      (later.query path).1 = .ok (.value value) → Retained first later path
  | group {trail : List Nat} {found node : Group} {address : Address} :
      first.target path = .ok (.group trail) →
      first.atTrail? trail = some found → (first.query path).1 = .ok (.group found) →
      later.atTrail? trail = some node → (later.query path).1 = .ok (.group node) →
      Address.parse path = .ok address →
      later.root.namesTo trail = address.segments.map Segment.name → Retained first later path

/-- Where both queries go by one target, the answer is retained. -/
theorem retained_of_target_eq {first later : Document} (hpath : path ≠ "") (hfirst : first.Anchored)
    (hlater : later.Anchored) (htarget : later.target path = first.target path) :
    Retained first later path := by
  have hquery := query_fst first hpath
  have hquery' := query_fst later hpath
  rw [htarget] at hquery'
  cases hgoal : first.target path with
  | error miss =>
    rw [hgoal] at hquery hquery'
    exact .miss hquery hquery'
  | ok target =>
    rw [hgoal] at hquery hquery'
    cases target with
    | value v => exact .value hquery hquery'
    | group trail =>
      obtain ⟨⟨found, hfound⟩, -⟩ := hfirst.spells_of_target hgoal
      obtain ⟨⟨node, hnode⟩, address, hparse, hnames⟩ :=
        hlater.spells_of_target (htarget.trans hgoal)
      have hreveal : first.reveal (.group trail) = .ok (.group found) := by rw [reveal, hfound]
      have hreveal' : later.reveal (.group trail) = .ok (.group node) := by rw [reveal, hnode]
      exact .group hgoal hfound (hquery.trans hreveal) hnode (hquery'.trans hreveal') hparse hnames

theorem options_run (d : Document) (requests : List Request) :
    (d.run requests).options = d.options := by
  induction requests generalizing d with
  | nil => rfl
  | cons r rest ih => exact (ih (d.serve r).2).trans (options_serve d r)

/-- **The first answer is retained.** Start a session with nothing remembered, under the policy that
retains answers, and let an address be looked up in it. As long as nobody demands to forget, a later
query of the address gives the same miss, the same scalar or array, or the group that stands by then
at the positions of the one that was found. There always is one, and the names on the way to it are
those of the segments of the address. -/
theorem first_answer_retained (d : Document) (before after : List Request) {r : Request}
    {path : String} (policy : d.options.cachePolicy = .retain) (empty : d.cache.entries = [])
    (asked : r.asked = some path) (hpath : path ≠ "")
    (kept : ∀ request ∈ after, request ≠ .forgetAnswers) :
    Retained (d.run before) (d.run (before ++ r :: after)) path := by
  have hanchored := anchored_run (anchored_of_entries_eq_nil empty)
  refine retained_of_target_eq hpath (hanchored before) (hanchored _) ?_
  have hrun : d.run (before ++ r :: after) = ((d.run before).serve r).2.run after :=
    List.foldl_append
  have hpolicy : (d.run before).options.cachePolicy = .retain := by rw [options_run, policy]
  have hpolicy' : ((d.run before).serve r).2.options.cachePolicy = .retain := by
    rw [options_serve, hpolicy]
  rw [hrun]
  exact target_of_find? (find?_run hpolicy' kept (find?_serve_asked hpolicy asked hpath))

/-- A group with a field and a child, in a document that retains answers. -/
def retainingDocument : Document where
  groups := [{ identifier := "a", fields := .ofList [⟨"x", .scalar ⟨"1"⟩⟩],
               children := [.named "b"] }]
  options := { cachePolicy := .retain }

/-- A write to the field, another group of the name, and flags for both. -/
def laterRequests : List Request :=
  [.setValue "a.x" ⟨"2"⟩, .addGroup (.named "a"), .flagRepeats]

/-- The answers to the field and to the group are retained: the field still gives its first value,
and the group is shown as it is by then, with the new value and its flag. -/
theorem first_answer_retained_late :
    retainingDocument.options.cachePolicy = .retain ∧ retainingDocument.cache.entries = [] ∧
      (∀ request ∈ laterRequests, request ≠ .forgetAnswers) ∧
      Retained retainingDocument (retainingDocument.run (.query "a.x" :: laterRequests)) "a.x" ∧
      Retained retainingDocument (retainingDocument.run (.query "a" :: laterRequests)) "a" ∧
      ((retainingDocument.run (.query "a.x" :: laterRequests)).query "a.x").1 =
        .ok (.value (.scalar ⟨"1"⟩)) ∧
      ((retainingDocument.run (.query "a" :: laterRequests)).query "a").1 =
        .ok (.group { identifier := "a", repeated := true,
                      fields := .ofList [⟨"x", .scalar ⟨"2"⟩⟩],
                      children := [.named "b"] }) := by
  have hkept : ∀ request ∈ laterRequests, request ≠ .forgetAnswers := by
    intro request hmem
    simp only [laterRequests, List.mem_cons, List.not_mem_nil, or_false] at hmem
    rcases hmem with rfl | rfl | rfl <;> nofun
  refine ⟨rfl, rfl, hkept, ?_, ?_, rfl, rfl⟩
  · exact first_answer_retained (r := .query "a.x") retainingDocument [] laterRequests rfl rfl rfl
      (by decide) hkept
  · exact first_answer_retained (r := .query "a") retainingDocument [] laterRequests rfl rfl rfl
      (by decide) hkept

end Document

end Settings
