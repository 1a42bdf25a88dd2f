import Settings.Document.Session
/-!
# What a request can do

Every request of a session does one of five things to the document: it looks an address up, puts
groups at the end, forgets all answers, flags repeated groups, or assigns a value. `Document.Step`
lists them with all that is known in each case, and `Document.serve_step` says that there are no
others. What a whole session keeps is proved from it, one case for each kind of step. What looking
up does to the cache, which two of the five do, is said once as well (`Document.remember_cases`).
-/

namespace Settings

/-! ## What a request says -/

namespace Request

/-- The address that a request looks up. -/
def asked : Request → Option String
  | query path | queryString path | queryInt path | queryFloat path | queryBool path => some path
  | setValue path _ => some path
  | _ => none

/-- The groups that a request puts at the end, none of which is assigned to. -/
def appended : Request → List Group
  | addGroup g => [g]
  | extend groups => groups
  | _ => []

end Request

/-! ## What is remembered under a text -/

namespace Cache

variable {c : Cache} {path : String}

/-- An answer under a text that is not there yet is put after all others. -/
theorem insert_of_find?_eq_none (h : c.find? path = none) (answer : Except Miss Target) :
    c.insert path answer = ⟨c.entries ++ [(path, answer)]⟩ := by
  have hothers : c.entries.filter (·.1 ≠ path) = c.entries := by
    rw [List.filter_eq_self]
    intro entry hentry
    have hne := List.lookup_eq_none_iff.mp h entry hentry
    exact decide_eq_true fun heq => (bne_iff_ne.mp hne) heq.symm
  rw [insert, hothers]

/-- It is found where nothing else is. -/
theorem find?_concat (c : Cache) (path asked : String) (answer : Except Miss Target) :
    (mk (c.entries ++ [(path, answer)])).find? asked =
      (c.find? asked).or (if asked = path then some answer else none) := by
  have hlast : List.lookup asked [(path, answer)] =
      if asked = path then some answer else none := by
    by_cases heq : asked = path
    · rw [if_pos heq, heq, List.lookup_cons_self]
    · rw [if_neg heq, List.lookup_cons, beq_eq_false_iff_ne.mpr heq]
      rfl
  rw [find?, List.lookup_append, hlast, find?]

end Cache

namespace Document

variable {d : Document} {path : String} {value : Scalar}

/-- Whether a request empties the cache: by demand, or since it is a write that is not refused and
answers are not to be retained. -/
def empties (d : Document) : Request → Bool
  | .forgetAnswers => true
  | .flagRepeats => d.options.cachePolicy = .invalidateOnWrite
  | .setValue path value =>
    d.options.cachePolicy = .invalidateOnWrite ∧ (d.setValue path value).1.isOk
  | _ => false

/-! ## Looking up and assigning -/

/-- Every query leaves the document that remembers its address. -/
theorem query_snd (d : Document) (path : String) : (d.query path).2 = d.remember path := by
  unfold query remember
  by_cases hempty : path.isEmpty = true
  · rw [if_pos hempty, if_pos hempty]
  · rw [if_neg hempty]

/-- Looking an address up does nothing if it is empty or its answer is remembered; otherwise the
answer of the tree is put after all that is remembered. -/
theorem remember_cases (d : Document) (path : String) :
    (path = "" ∨ ∃ known, d.cache.find? path = some known) ∧ d.remember path = d ∨
      path ≠ "" ∧ d.cache.find? path = none ∧
        d.remember path = { d with cache := ⟨d.cache.entries ++ [(path, d.resolve path)]⟩ } := by
  unfold remember
  by_cases hempty : path.isEmpty = true
  · rw [if_pos hempty]
    exact .inl ⟨.inl (String.isEmpty_iff.mp hempty), rfl⟩
  · rw [if_neg hempty]
    cases hfind : d.cache.find? path with
    | some known => exact .inl ⟨.inr ⟨known, rfl⟩, rfl⟩
    | none =>
      refine .inr ⟨fun hpath => hempty (String.isEmpty_iff.mpr hpath), rfl, ?_⟩
      dsimp only
      rw [Cache.insert_of_find?_eq_none hfind]

@[simp] theorem groups_remember (d : Document) (path : String) :
    (d.remember path).groups = d.groups := by
  rcases d.remember_cases path with ⟨-, hsame⟩ | ⟨-, -, hnew⟩
  · rw [hsame]
  · rw [hnew]

@[simp] theorem options_remember (d : Document) (path : String) :
    (d.remember path).options = d.options := by
  rcases d.remember_cases path with ⟨-, hsame⟩ | ⟨-, -, hnew⟩
  · rw [hsame]
  · rw [hnew]

theorem queryScalar_snd (d : Document) (path type : String) :
    (d.queryScalar path type).2 = d.remember path := query_snd d path

/-- Assigns a value to a field of the first group of a name, and forgets what is to be forgotten. -/
def assign (d : Document) (name field : String) (value : Scalar) : Document :=
  { d with groups := assignIn name field value d.groups }.afterWrite

/-- An address that leads to a group is not assigned to. -/
theorem setValue_of_group {g : Group} (h : (d.query path).1 = .ok (.group g)) (value : Scalar) :
    d.setValue path value =
      (.error (.invalidMutation path "cannot assign a scalar over an entire group"),
        d.remember path) := by
  have hquery : d.query path = (.ok (.group g), d.remember path) := Prod.ext h (query_snd d path)
  rw [setValue, hquery]

/-- Any other address is assigned to if it can be split. -/
theorem setValue_of_not_group (h : ∀ g, (d.query path).1 ≠ .ok (.group g)) (value : Scalar) :
    d.setValue path value =
      match splitFieldAddress path with
      | .error e => (.error e, d.remember path)
      | .ok (name, field) => (.ok (), (d.remember path).assign name field value) := by
  have hsnd := query_snd d path
  unfold setValue
  cases hquery : d.query path with
  | mk answer after =>
    rw [hquery] at h hsnd
    obtain rfl : after = d.remember path := hsnd
    rcases answer with miss | (v | g)
    · rfl
    · rfl
    · exact absurd rfl (h g)

/-- Of an assignment that is carried out, the address leads to no group, and it can be split. -/
theorem setValue_eq_ok_iff {after : Document} :
    d.setValue path value = (.ok (), after) ↔
      (∀ g, (d.query path).1 ≠ .ok (.group g)) ∧
        ∃ name field, splitFieldAddress path = .ok (name, field) ∧
          after = (d.remember path).assign name field value := by
  constructor
  · intro h
    have hgroup : ∀ g, (d.query path).1 ≠ .ok (.group g) := by
      intro g hg
      rw [setValue_of_group hg] at h
      cases h
    refine ⟨hgroup, ?_⟩
    rw [setValue_of_not_group hgroup] at h
    cases hsplit : splitFieldAddress path with
    | error e => rw [hsplit] at h; cases h
    | ok parts =>
      rw [hsplit] at h
      exact ⟨parts.1, parts.2, rfl, (Prod.mk.inj h).2.symm⟩
  · rintro ⟨hgroup, name, field, hsplit, rfl⟩
    rw [setValue_of_not_group hgroup, hsplit]

/-- An assignment that is not carried out leaves the document that remembers its address. -/
theorem setValue_snd_of_error {e : Error} (h : (d.setValue path value).1 = .error e) :
    (d.setValue path value).2 = d.remember path := by
  by_cases hgroup : ∃ g, (d.query path).1 = .ok (.group g)
  · obtain ⟨g, hg⟩ := hgroup
    rw [setValue_of_group hg]
  · rw [setValue_of_not_group (not_exists.mp hgroup)] at h ⊢
    cases hsplit : splitFieldAddress path with
    | error e => rfl
    | ok parts => rw [hsplit] at h; cases h

/-! ## Emptying the cache -/

@[simp] theorem groups_afterWrite (d : Document) : d.afterWrite.groups = d.groups := by
  unfold afterWrite
  split <;> rfl

@[simp] theorem options_afterWrite (d : Document) : d.afterWrite.options = d.options := by
  unfold afterWrite
  split <;> rfl

theorem entries_afterWrite (h : d.options.cachePolicy = .invalidateOnWrite) :
    d.afterWrite.cache.entries = [] := by
  rw [afterWrite, h]
  rfl

@[simp] theorem groups_assign (d : Document) (name field : String) (value : Scalar) :
    (d.assign name field value).groups = assignIn name field value d.groups :=
  groups_afterWrite _

@[simp] theorem options_assign (d : Document) (name field : String) (value : Scalar) :
    (d.assign name field value).options = d.options :=
  options_afterWrite _

theorem entries_assign (h : d.options.cachePolicy = .invalidateOnWrite) (name field : String)
    (value : Scalar) : (d.assign name field value).cache.entries = [] :=
  entries_afterWrite (d := { d with groups := assignIn name field value d.groups }) h

/-- After a request that empties the cache nothing is remembered. -/
theorem entries_of_empties {r : Request} (h : d.empties r = true) :
    (d.serve r).2.cache.entries = [] := by
  cases r with
  | forgetAnswers => rfl
  | flagRepeats =>
    have hpolicy : d.options.cachePolicy = .invalidateOnWrite := of_decide_eq_true h
    exact entries_afterWrite hpolicy
  | setValue path value =>
    obtain ⟨hpolicy, hok⟩ := of_decide_eq_true h
    show (d.setValue path value).2.cache.entries = []
    cases hset : d.setValue path value with
    | mk result after =>
      cases result with
      | error e => rw [hset] at hok; cases hok
      | ok done =>
        obtain ⟨-, name, field, -, rfl⟩ := setValue_eq_ok_iff.mp hset
        refine entries_assign ?_ name field value
        rw [options_remember, hpolicy]
  | _ => cases h

/-- Under the policy that forgets on writing, an assignment that succeeds empties the cache. -/
theorem empties_setValue (policy : d.options.cachePolicy = .invalidateOnWrite)
    (h : (d.setValue path value).1 = .ok ()) : d.empties (.setValue path value) = true := by
  refine decide_eq_true ⟨policy, ?_⟩
  rw [h]
  rfl

/-! ## Steps -/

/-- What a request can do to a document. -/
inductive Step (d : Document) : Request → Document → Prop
  | looked {r : Request} {path : String} : r.asked = some path → r.appended = [] →
      d.empties r = false → Step d r (d.remember path)
  | extended {r : Request} : r.asked = none → d.empties r = false →
      Step d r (d.extend r.appended)
  | forgotten : Step d .forgetAnswers d.forgetAnswers
  | flagged : Step d .flagRepeats d.flagRepeats
  | assigned {path name field : String} {value : Scalar} :
      (∀ g, (d.query path).1 ≠ .ok (.group g)) → splitFieldAddress path = .ok (name, field) →
      Step d (.setValue path value) ((d.remember path).assign name field value)

theorem extend_nil (d : Document) : d.extend [] = d := by
  rw [extend, List.append_nil]

/-- There are no other steps. -/
theorem serve_step (d : Document) (r : Request) : d.Step r (d.serve r).2 := by
  -- what only reads puts no groups at the end, and what looks up is one of the first kind
  have hread : ∀ {r : Request}, r.asked = none → r.appended = [] → d.empties r = false →
      d.Step r d := by
    intro r hasked happended hempties
    have hstep := Step.extended (d := d) hasked hempties
    rwa [happended, extend_nil] at hstep
  have hlook : ∀ {r : Request} {path : String}, r.asked = some path → r.appended = [] →
      d.empties r = false → (d.serve r).2 = d.remember path → d.Step r (d.serve r).2 := by
    intro r path hasked happended hempties hserve
    rw [hserve]
    exact .looked hasked happended hempties
  cases r with
  | query path => exact hlook rfl rfl rfl (query_snd d path)
  | queryString path => exact hlook rfl rfl rfl (queryScalar_snd d path "string")
  | queryInt path => exact hlook rfl rfl rfl (queryScalar_snd d path "integer")
  | queryFloat path => exact hlook rfl rfl rfl (queryScalar_snd d path "float")
  | queryBool path => exact hlook rfl rfl rfl (queryScalar_snd d path "boolean")
  | setValue path value =>
    show d.Step _ (d.setValue path value).2
    cases hset : d.setValue path value with
    | mk result after =>
      cases result with
      | ok done =>
        obtain ⟨hgroup, name, field, hsplit, rfl⟩ := setValue_eq_ok_iff.mp hset
        exact .assigned hgroup hsplit
      | error e =>
        -- a refused assignment has looked its address up, and no more
        have hafter : after = d.remember path := by
          have hsnd := setValue_snd_of_error (congrArg Prod.fst hset)
          rwa [hset] at hsnd
        rw [hafter]
        refine .looked rfl rfl ?_
        rw [empties, hset]
        exact decide_eq_false fun h => nomatch h.2
  | forgetAnswers => exact .forgotten
  | flagRepeats => exact .flagged
  | addGroup g => exact Step.extended (r := .addGroup g) rfl rfl
  | extend groups => exact Step.extended (r := .extend groups) rfl rfl
  | nodes filter => exact hread rfl rfl rfl
  | groupAt index => exact hread rfl rfl rfl
  | group name offset => exact hread rfl rfl rfl
  | groupQuery index path => exact hread rfl rfl rfl

end Document

end Settings
