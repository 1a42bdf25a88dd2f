import Mathlib.Data.Set.Card
import Settings.Proofs.Retention
/-!
# What is remembered

A cache holds answers to the addresses that were looked up since it was last emptied, and to no
others. `Document.cache_serve` says what one request makes of the cache: it empties it, it looks an
address up, or it leaves the cache alone. `Document.remembered_is_what_was_asked` is about whole
sessions, under either policy.
-/

namespace Settings

variable {path : String}

/-! ## The texts of a cache -/

namespace Cache

/-- The texts under which answers are remembered. -/
def paths (c : Cache) : List String := c.entries.map Prod.fst

theorem length_paths (c : Cache) : c.paths.length = c.size := List.length_map _

theorem not_mem_paths_of_find? {c : Cache} (h : c.find? path = none) : path ∉ c.paths := by
  rintro hmem
  obtain ⟨entry, hentry, rfl⟩ := List.mem_map.mp hmem
  have hne := List.lookup_eq_none_iff.mp h entry hentry
  rw [bne_self_eq_false] at hne
  cases hne

end Cache

namespace Document

variable {d : Document} {asked : String}

theorem mem_paths_of_find? {answer : Except Miss Target} (h : d.cache.find? path = some answer) :
    path ∈ d.cache.paths :=
  List.mem_map_of_mem (f := Prod.fst) (mem_entries_of_find? h)

/-- Looking an address up puts its text down, unless that is empty or stands there already. -/
theorem paths_remember (d : Document) (asked : String) :
    (asked = "" ∨ asked ∈ d.cache.paths) ∧ (d.remember asked).cache.paths = d.cache.paths ∨
      asked ≠ "" ∧ asked ∉ d.cache.paths ∧
        (d.remember asked).cache.paths = d.cache.paths ++ [asked] := by
  rcases d.remember_cases asked with ⟨hknown, hsame⟩ | ⟨hne, hnone, hnew⟩
  · left
    rw [hsame]
    exact ⟨hknown.imp_right fun ⟨_, hfind⟩ => mem_paths_of_find? hfind, rfl⟩
  · right
    refine ⟨hne, Cache.not_mem_paths_of_find? hnone, ?_⟩
    rw [hnew, Cache.paths, List.map_append, List.map_singleton, Cache.paths]

theorem mem_paths_remember_iff :
    path ∈ (d.remember asked).cache.paths ↔ path ∈ d.cache.paths ∨ asked = path ∧ path ≠ "" := by
  rcases d.paths_remember asked with ⟨hknown, hsame⟩ | ⟨hne, -, hnew⟩
  · rw [hsame]
    refine ⟨.inl, ?_⟩
    rintro (hmem | ⟨rfl, hne⟩)
    · exact hmem
    · exact hknown.resolve_left hne
  · rw [hnew, List.mem_append, List.mem_singleton]
    constructor
    · rintro (hmem | rfl)
      · exact .inl hmem
      · exact .inr ⟨rfl, hne⟩
    · exact Or.imp_right fun h => h.1.symm

theorem nodup_paths_remember (h : d.cache.paths.Nodup) (asked : String) :
    (d.remember asked).cache.paths.Nodup := by
  rcases d.paths_remember asked with ⟨-, hsame⟩ | ⟨-, hnew, happend⟩
  · rw [hsame]
    exact h
  · rw [happend]
    exact List.nodup_append.mpr ⟨h, List.nodup_singleton _, fun _ hmem _ hlast heq =>
      hnew (List.mem_singleton.mp hlast ▸ heq ▸ hmem)⟩

/-! ## One request -/

/-- The cache after a request: it is empty, or an address has been looked up, or nothing has
happened to it. -/
theorem cache_serve (d : Document) (r : Request) :
    (d.serve r).2.cache =
      if d.empties r then .empty
      else match r.asked with
        | some path => (d.remember path).cache
        | none => d.cache := by
  by_cases hempties : d.empties r = true
  · rw [if_pos hempties]
    exact congrArg Cache.mk (entries_of_empties hempties)
  · rw [if_neg hempties]
    have hstep := d.serve_step r
    generalize (d.serve r).2 = after at hstep
    -- a write that empties nothing is one under the policy that retains answers
    have hretain : d.options.cachePolicy ≠ .invalidateOnWrite →
        d.options.cachePolicy = .retain := by
      cases d.options.cachePolicy with
      | invalidateOnWrite => exact fun hne => absurd rfl hne
      | retain => exact fun _ => rfl
    cases hstep with
    | looked hasked _ _ => rw [hasked]
    | extended hasked _ =>
      rw [hasked]
      rfl
    | forgotten => exact absurd rfl hempties
    | flagged => exact cache_flagRepeats_of_retain (hretain (mt decide_eq_true hempties))
    | @assigned path name field value hgroup hsplit =>
      have hset : d.setValue path value = (.ok (), (d.remember path).assign name field value) :=
        setValue_eq_ok_iff.mpr ⟨hgroup, name, field, hsplit, rfl⟩
      have hpolicy := hretain fun policy =>
        hempties (empties_setValue policy (congrArg Prod.fst hset))
      exact cache_assign_of_retain (by rw [options_remember, hpolicy]) name field value

/-- A request that looks nothing up and empties nothing leaves the cache alone. -/
theorem cache_serve_of_not_asked {r : Request} (hasked : r.asked = none)
    (hempties : d.empties r = false) : (d.serve r).2.cache = d.cache := by
  rw [cache_serve, hempties, hasked]
  rfl

/-- A text stands in the cache after a request exactly when the request does not empty it and asks
for the text, or the text stood there before. -/
theorem mem_paths_serve_iff {r : Request} :
    path ∈ (d.serve r).2.cache.paths ↔
      d.empties r = false ∧ (path ∈ d.cache.paths ∨ r.asked = some path ∧ path ≠ "") := by
  rw [cache_serve]
  by_cases hempties : d.empties r = true
  · rw [if_pos hempties, hempties]
    exact ⟨fun hmem => absurd hmem List.not_mem_nil, fun h => nomatch h.1⟩
  · rw [if_neg hempties, Bool.eq_false_iff.mpr hempties, eq_self, true_and]
    cases r.asked with
    | none =>
      refine ⟨.inl, ?_⟩
      rintro (hmem | ⟨hasked, -⟩)
      · exact hmem
      · cases hasked
    | some asked =>
      rw [Option.some.injEq]
      exact mem_paths_remember_iff

theorem nodup_paths_serve (h : d.cache.paths.Nodup) (r : Request) :
    (d.serve r).2.cache.paths.Nodup := by
  rw [cache_serve]
  split
  · exact List.nodup_nil
  · split
    · exact nodup_paths_remember h _
    · exact h

/-! ## Sessions -/

theorem nodup_paths_run (h : d.cache.paths.Nodup) (requests : List Request) :
    (d.run requests).cache.paths.Nodup := by
  induction requests generalizing d with
  | nil => exact h
  | cons r rest ih => exact ih (nodup_paths_serve h r)

/-- No request of a session empties the cache. -/
def KeepsAnswers (d : Document) : List Request → Prop
  | [] => True
  | r :: rest => d.empties r = false ∧ (d.serve r).2.KeepsAnswers rest

/-- A session asks for an address, and neither that request nor a later one empties the cache. The
empty text is no address. -/
def AskedSinceEmptied (d : Document) (requests : List Request) (path : String) : Prop :=
  path ≠ "" ∧ ∃ before r after, requests = before ++ r :: after ∧ r.asked = some path ∧
    (d.run before).KeepsAnswers (r :: after)

/-- What stands in the cache after a session: what stood there, if it was not emptied, and what was
asked for since. -/
theorem mem_paths_run_iff (d : Document) (requests : List Request) (path : String) :
    path ∈ (d.run requests).cache.paths ↔
      path ∈ d.cache.paths ∧ d.KeepsAnswers requests ∨ d.AskedSinceEmptied requests path := by
  induction requests generalizing d with
  | nil =>
    constructor
    · exact fun hmem => .inl ⟨hmem, trivial⟩
    · rintro (⟨hmem, -⟩ | ⟨-, before, r, after, hsplit, -, -⟩)
      · exact hmem
      · exact absurd hsplit.symm (List.append_ne_nil_of_right_ne_nil _ (List.cons_ne_nil _ _))
  | cons r rest ih =>
    show path ∈ ((d.serve r).2.run rest).cache.paths ↔ _
    rw [ih, mem_paths_serve_iff]
    constructor
    · rintro (⟨⟨hempties, hmem | ⟨hasked, hne⟩⟩, hrest⟩ |
        ⟨hne, before, r', after, rfl, hasked, hkeeps⟩)
      · exact .inl ⟨hmem, hempties, hrest⟩
      · exact .inr ⟨hne, [], r, rest, rfl, hasked, hempties, hrest⟩
      · exact .inr ⟨hne, r :: before, r', after, rfl, hasked, hkeeps⟩
    · rintro (⟨hmem, hempties, hrest⟩ | ⟨hne, before, r', after, hsplit, hasked, hkeeps⟩)
      · exact .inl ⟨⟨hempties, .inl hmem⟩, hrest⟩
      · -- the request that asks is the first one, or it is one of the others
        cases before with
        | nil =>
          obtain ⟨rfl, rfl⟩ := List.cons.inj hsplit
          exact .inl ⟨⟨hkeeps.1, .inr ⟨hasked, hne⟩⟩, hkeeps.2⟩
        | cons first before =>
          obtain ⟨rfl, rfl⟩ := List.cons.inj hsplit
          exact .inr ⟨hne, before, r', after, rfl, hasked, hkeeps⟩

/-- **The cache holds what was asked for.** Start a session with nothing remembered, under either
policy. The texts in the cache are those of the addresses that were looked up, by a query or by an
assignment that may have failed, since the cache was last emptied. Each stands there once, and the
size of the cache is their number. The cache is emptied by demand and, unless answers are to be
retained, by every assignment that is carried out, with the lookup of its own, and by flagging.
Whatever else is requested leaves the cache alone. -/
theorem remembered_is_what_was_asked (d : Document) (requests : List Request)
    (empty : d.cache.entries = []) :
    (d.run requests).cache.paths.Nodup ∧
    (∀ path, path ∈ (d.run requests).cache.paths ↔ d.AskedSinceEmptied requests path) ∧
    (d.run requests).cache.size = {path | d.AskedSinceEmptied requests path}.ncard ∧
    ∀ r : Request, r.asked = none → (d.run requests).empties r = false →
      ((d.run requests).serve r).2.cache = (d.run requests).cache := by
  have hpaths : d.cache.paths = [] := by rw [Cache.paths, empty, List.map_nil]
  have hnodup : (d.run requests).cache.paths.Nodup := by
    refine nodup_paths_run ?_ requests
    rw [hpaths]
    exact List.nodup_nil
  have hmem : ∀ path, path ∈ (d.run requests).cache.paths ↔ d.AskedSinceEmptied requests path := by
    intro path
    rw [mem_paths_run_iff, hpaths]
    exact or_iff_right fun h => List.not_mem_nil h.1
  refine ⟨hnodup, hmem, ?_, fun r => cache_serve_of_not_asked⟩
  have hset : {path | d.AskedSinceEmptied requests path} =
      ((d.run requests).cache.paths.toFinset : Set String) := by
    ext path
    rw [List.coe_toFinset]
    exact (hmem path).symm
  rw [hset, Set.ncard_coe_finset, List.toFinset_card_of_nodup hnodup, Cache.length_paths]

/-- A group with a field, in a document of either policy. -/
def askedDocument (policy : CachePolicy) : Document where
  groups := [{ identifier := "a", fields := .ofList [⟨"x", .scalar ⟨"1"⟩⟩] }]
  options := { cachePolicy := policy }

/-- A field is asked for and assigned to. After that it is asked for by two other spellings, one of
them twice, an assignment to the group fails, and the empty address is asked for. -/
def askingSession : List Request :=
  [.query "a.x", .setValue "a.x" ⟨"2"⟩, .queryInt "a[0].x", .queryString " a.x",
    .setValue "a" ⟨"3"⟩, .query "", .addGroup (.named "a"), .queryBool " a.x"]

/-- What was asked for before the assignment is forgotten, unless answers are to be retained. The
assignment that fails has put its address down. -/
theorem remembered_is_what_was_asked_mixed :
    (askedDocument .invalidateOnWrite).cache.entries = [] ∧
      ((askedDocument .invalidateOnWrite).run askingSession).cache.paths =
        ["a[0].x", " a.x", "a"] ∧
      ¬ (askedDocument .invalidateOnWrite).AskedSinceEmptied askingSession "a.x" ∧
      {path | (askedDocument .invalidateOnWrite).AskedSinceEmptied askingSession path}.ncard = 3 ∧
      (askedDocument .retain).AskedSinceEmptied askingSession "a.x" ∧
      {path | (askedDocument .retain).AskedSinceEmptied askingSession path}.ncard = 4 := by
  obtain ⟨-, hmem, hsize, -⟩ :=
    remembered_is_what_was_asked (askedDocument .invalidateOnWrite) askingSession rfl
  obtain ⟨-, hretained, hsize', -⟩ :=
    remembered_is_what_was_asked (askedDocument .retain) askingSession rfl
  have hpaths : ((askedDocument .invalidateOnWrite).run askingSession).cache.paths =
      ["a[0].x", " a.x", "a"] := rfl
  have hpaths' : ((askedDocument .retain).run askingSession).cache.paths =
      ["a.x", "a[0].x", " a.x", "a"] := rfl
  refine ⟨rfl, hpaths, ?_, hsize.symm, (hretained "a.x").mp ?_, hsize'.symm⟩
  · rw [← hmem, hpaths]
    decide
  · rw [hpaths']
    exact List.mem_cons_self

end Document

end Settings
