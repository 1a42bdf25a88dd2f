import Settings.Proofs.Lookup
/-!
# Addresses put together

Two texts with a point between them are an address exactly when each of them is one, and it has the
segments of the first and then those of the second (`Address.parse_join_eq_ok_iff`). What it leads
to is what the second leads to below the group that the first one leads to: `Group.answer_append`
says so of segments, by induction on the first row of them, and `Document.query_join` of texts.

The last segment of a row is the only one that can name a field. That is why an address that leads
to a field, or nowhere, has nothing below it: followed by more segments, its last segment is the
last no longer.
-/

namespace Settings

/-! ## Texts -/

namespace Address

variable {path p q : String} {address : Address}

/-- How many pieces a text has between its points. As an address it has that many segments. -/
def pieceCount (text : String) : Nat := (Text.pieces '.' text.toList).length

theorem length_segments_of_parse (h : parse path = .ok address) :
    address.segments.length = pieceCount path := by
  have hpieces := congrArg List.length (parse_eq_ok_iff.mp h)
  rw [List.length_map, List.length_map] at hpieces
  exact hpieces.symm

theorem pieces_join (p q : String) :
    Text.pieces '.' (p ++ "." ++ q).toList =
      Text.pieces '.' p.toList ++ Text.pieces '.' q.toList := by
  have htext : (p ++ "." ++ q).toList = p.toList ++ '.' :: q.toList := by
    simp [String.toList_append]
  rw [htext, Text.pieces_append]

/-- A point between two texts puts their segments together. -/
theorem parse_join_eq_ok_iff :
    parse (p ++ "." ++ q) = .ok address ↔
      ∃ outer inner, parse p = .ok outer ∧ parse q = .ok inner ∧
        address = ⟨outer.segments ++ inner.segments⟩ := by
  rw [parse_eq_ok_iff, pieces_join, List.map_append]
  constructor
  · intro h
    obtain ⟨outer, inner, hsegments, houter, hinner⟩ := List.map_eq_append_iff.mp h.symm
    refine ⟨⟨outer⟩, ⟨inner⟩, parse_eq_ok_iff.mpr houter.symm, parse_eq_ok_iff.mpr hinner.symm, ?_⟩
    rw [← hsegments]
  · rintro ⟨outer, inner, houter, hinner, rfl⟩
    rw [parse_eq_ok_iff.mp houter, parse_eq_ok_iff.mp hinner, List.map_append]

theorem parse_plainName {name : String} (h : PlainName name) :
    parse name = .ok ⟨[⟨name, none⟩]⟩ := by
  have hsegments : ∀ s ∈ [(⟨name, none⟩ : Segment)], s.WellFormed := by
    intro s hs
    rw [List.mem_singleton.mp hs]
    exact ⟨h, nofun⟩
  have hread := parse_text (a := ⟨[⟨name, none⟩]⟩) (List.cons_ne_nil _ _) hsegments
  rwa [text, List.map_singleton, String.intercalate_singleton] at hread

end Address

/-! ## Segments -/

namespace Group

variable {g : Group} {s : Segment} {rest : List Segment}

/-- A segment that selects no child leads to no group. -/
theorem answer_cons_ne_group (h : selectSibling? g.children s.name s.offset = none)
    (node : Group) : g.answer (s :: rest) ≠ .ok (.group node) := by
  by_cases hrest : rest = []
  · subst hrest
    cases hv : g.field? s.name with
    | none =>
      rw [answer_cons_of_none h fun _ => hv]
      nofun
    | some v =>
      rw [answer_field h hv]
      cases v.atOffset s.offset <;> nofun
  · rw [answer_cons_of_none h fun hnil => absurd hnil hrest]
    nofun

/-- Segments in two rows: the first row has to lead to a group, and the second one goes on from
there. -/
theorem answer_append (g : Group) (first : List Segment) {second : List Segment}
    (hsecond : second ≠ []) :
    g.answer (first ++ second) =
      match g.answer first with
      | .ok (.group node) => node.answer second
      | _ => .error .notFound := by
  induction first generalizing g with
  | nil => rfl
  | cons s rest ih =>
    rw [List.cons_append]
    cases hselect : selectSibling? g.children s.name s.offset with
    | some found => rw [answer_cons_of_child hselect, answer_cons_of_child hselect, ih]
    | none =>
      -- `s` is not the last of both rows, so it cannot name a field
      have hmore : rest ++ second ≠ [] := List.append_ne_nil_of_right_ne_nil rest hsecond
      rw [answer_cons_of_none hselect fun hnil => absurd hnil hmore]
      have hgroup : ∀ node, g.answer (s :: rest) ≠ .ok (.group node) :=
        answer_cons_ne_group hselect
      split
      · next node hnode => exact absurd hnode (hgroup node)
      · rfl

theorem query_of_parse {path : String} {address : Address} (h : Address.parse path = .ok address) :
    g.query path = g.answer address.segments := by
  rw [query, h]
  rfl

theorem query_of_parse_error {path : String} {e : Error} (h : Address.parse path = .error e) :
    g.query path = .error .notFound := by
  rw [query, h]

end Group

/-! ## Documents -/

namespace Document

variable {d : Document} {p q : String}

/-- Anything is found only by an address that can be read and is not too long. -/
theorem parse_of_lookup_eq_ok {found : Found} (h : d.lookup p = .ok found) :
    ∃ address, Address.parse p = .ok address ∧ address.segments.length ≤ d.options.maxDepth ∧
      d.root.answer address.segments = .ok found := by
  cases hparse : Address.parse p with
  | error e =>
    rw [lookup_of_parse_error hparse] at h
    cases h
  | ok address =>
    rw [lookup_of_parse hparse] at h
    by_cases hdepth : address.segments.length ≤ d.options.maxDepth
    · rw [if_pos hdepth] at h
      exact ⟨address, rfl, hdepth, h⟩
    · rw [if_neg hdepth] at h
      cases h

/-- An address of more pieces than are followed leads nowhere. -/
theorem lookup_of_lt_pieceCount (h : d.options.maxDepth < Address.pieceCount p) :
    d.lookup p = .error .notFound := by
  cases hparse : Address.parse p with
  | error e => exact lookup_of_parse_error hparse
  | ok address =>
    rw [lookup_of_parse hparse, if_neg]
    rw [Address.length_segments_of_parse hparse]
    omega

/-- Below anything but a group, the rest of an address leads nowhere. -/
theorem lookup_join_of_not_group (h : ∀ g, d.lookup p ≠ .ok (.group g)) (q : String) :
    d.lookup (p ++ "." ++ q) = .error .notFound := by
  cases hparse : Address.parse (p ++ "." ++ q) with
  | error e => exact lookup_of_parse_error hparse
  | ok address =>
    obtain ⟨outer, inner, houter, hinner, rfl⟩ := Address.parse_join_eq_ok_iff.mp hparse
    have hne : inner.segments ≠ [] := Address.segments_ne_nil hinner
    rw [lookup_of_parse hparse]
    by_cases hdepth : (outer.segments ++ inner.segments).length ≤ d.options.maxDepth
    · rw [if_pos hdepth, Group.answer_append d.root outer.segments hne]
      -- the first part is short enough as well, so it is followed to where it ends
      rw [List.length_append] at hdepth
      rw [lookup_of_parse houter, if_pos (by omega)] at h
      split
      · next node hnode => exact absurd hnode (h node)
      · rfl
    · rw [if_neg hdepth]

/-- Below a group that is found, the rest of an address is a query to that group. -/
theorem lookup_join {g : Group} (h : d.lookup p = .ok (.group g))
    (hdepth : Address.pieceCount p + Address.pieceCount q ≤ d.options.maxDepth) :
    d.lookup (p ++ "." ++ q) = g.query q := by
  obtain ⟨outer, houter, -, hanswer⟩ := parse_of_lookup_eq_ok h
  cases hinner : Address.parse q with
  | error e =>
    -- both parts have to be addresses
    rw [Group.query_of_parse_error hinner]
    cases hparse : Address.parse (p ++ "." ++ q) with
    | error e' => exact lookup_of_parse_error hparse
    | ok address =>
      obtain ⟨_, inner, -, hok, -⟩ := Address.parse_join_eq_ok_iff.mp hparse
      rw [hinner] at hok
      cases hok
  | ok inner =>
    have hparse : Address.parse (p ++ "." ++ q) = .ok ⟨outer.segments ++ inner.segments⟩ :=
      Address.parse_join_eq_ok_iff.mpr ⟨outer, inner, houter, hinner, rfl⟩
    have hlength : (outer.segments ++ inner.segments).length ≤ d.options.maxDepth := by
      rw [List.length_append, Address.length_segments_of_parse houter,
        Address.length_segments_of_parse hinner]
      exact hdepth
    rw [lookup_of_parse hparse, if_pos hlength, Group.query_of_parse hinner,
      Group.answer_append d.root outer.segments (Address.segments_ne_nil hinner), hanswer]

/-- **Addresses put together.** Let nothing be remembered. If an address leads to a group, then with
a point and any text after it, it leads to what the group answers to the text, as long as both have
no more pieces together than are followed; and with more pieces, it leads nowhere. It also leads
nowhere if the first address leads to anything but a group. So whatever an address leads to, the
part of it before any of its points leads to a group. -/
theorem query_join (d : Document) (empty : d.cache.entries = []) (p q : String) :
    (∀ g, (d.query p).1 = .ok (.group g) →
      Address.pieceCount p + Address.pieceCount q ≤ d.options.maxDepth →
      (d.query (p ++ "." ++ q)).1 = g.query q) ∧
    (d.options.maxDepth < Address.pieceCount p + Address.pieceCount q →
      (d.query (p ++ "." ++ q)).1 = .error .notFound) ∧
    ((∀ g, (d.query p).1 ≠ .ok (.group g)) → (d.query (p ++ "." ++ q)).1 = .error .notFound) ∧
    (∀ found, (d.query (p ++ "." ++ q)).1 = .ok found → ∃ g, (d.query p).1 = .ok (.group g)) := by
  have hquery : ∀ path, (d.query path).1 = d.lookup path := query_of_entries_eq_nil empty
  have hnowhere : (∀ g, (d.query p).1 ≠ .ok (.group g)) →
      (d.query (p ++ "." ++ q)).1 = .error .notFound := by
    rw [hquery, hquery]
    exact fun hgroup => lookup_join_of_not_group hgroup q
  refine ⟨?_, ?_, hnowhere, ?_⟩
  · intro g hg hdepth
    rw [hquery] at hg
    rw [hquery]
    exact lookup_join hg hdepth
  · intro hdepth
    rw [hquery]
    apply lookup_of_lt_pieceCount
    rw [Address.pieceCount, Address.pieces_join, List.length_append]
    exact hdepth
  · intro found hfound
    by_cases hgroup : ∃ g, (d.query p).1 = .ok (.group g)
    · exact hgroup
    · rw [hnowhere (not_exists.mp hgroup)] at hfound
      cases hfound

/-- A group in a group, with a field. -/
def nestedDocument : Document :=
  { groups := [{ identifier := "a", children := [
      { identifier := "b", fields := .ofList [⟨"x", .array [⟨"1"⟩, ⟨"2"⟩]⟩] }] }] }

/-- Below the inner group, the rest of an address is a query to it, and so is a text that is no
address. Below the field there is nothing. -/
theorem query_join_nested :
    nestedDocument.cache.entries = [] ∧
      (nestedDocument.query "a.b.x[1]").1 = .ok (.value (.scalar ⟨"2"⟩)) ∧
      (nestedDocument.query "a.b.x[2]").1 = .error (.indexOutOfRange 2 2) ∧
      (nestedDocument.query "a.b.[").1 = .error .notFound ∧
      (nestedDocument.query "a.b.x.x").1 = .error .notFound ∧
      ∃ g, (nestedDocument.query "a.b").1 = .ok (.group g) := by
  have hbelow := fun q => (query_join nestedDocument rfl "a.b" q).1 _ rfl
  refine ⟨rfl, hbelow "x[1]" (by decide), hbelow "x[2]" (by decide), hbelow "[" (by decide), ?_, ?_⟩
  · exact (query_join nestedDocument rfl "a.b.x" "x").2.2.1 nofun
  · exact (query_join nestedDocument rfl "a.b" "x").2.2.2 _ rfl

end Document

end Settings
