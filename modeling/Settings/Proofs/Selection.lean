import Settings.Document.Session
import Settings.Proofs.FilterText
/-!
# Selecting by filters

What a filter selects. It means the conjunction of its demands, and selects the top-level groups
that meet all of them, in their order (`Document.nodesAt_expression`). So the order of demands does
not count, and neither does repetition (`Document.nodesAt_congr`); demands from two filters select
what both select; and demands that disagree select nothing. A text that is no filter selects nothing
either. `Document.filters_are_conjunctions` puts this together.
-/

namespace Settings

namespace Filter

/-! ## Meeting demands -/

/-- The metadata of a group have the text that is demanded, under the key in lowercase. -/
def Demand.MetBy (demand : Demand) (g : Group) : Prop :=
  g.metadata.find? (Text.lowercase demand.key) = some demand.text

instance (demand : Demand) (g : Group) : Decidable (demand.MetBy g) :=
  inferInstanceAs (Decidable (g.metadata.find? (Text.lowercase demand.key) = some demand.text))

/-- No group meets two texts under one key. -/
theorem Demand.MetBy.text_eq {demand other : Demand} {g : Group} (h : demand.MetBy g)
    (hother : other.MetBy g) (hkey : Text.lowercase demand.key = Text.lowercase other.key) :
    demand.text = other.text := by
  rw [MetBy, hkey] at h
  exact Option.some.inj (h.symm.trans hother)

theorem matchesGroup_iff {filter : Filter} {g : Group} :
    filter.matchesGroup g = true ↔
      ∀ pair ∈ filter.pairs, g.metadata.find? pair.1 = some pair.2 := by
  simp [matchesGroup]

/-- A filter matches the groups that meet every demand of it. -/
theorem matchesGroup_pairs_iff {row : List Spelling} {g : Group} :
    matchesGroup ⟨row.map fun s => s.pair⟩ g = true ↔ ∀ s ∈ row, s.MetBy g := by
  rw [matchesGroup_iff]
  exact List.forall_mem_map

end Filter

/-! ## Selecting groups -/

namespace Document

open Settings.Filter (Spelling expression)

variable {row others : List Spelling}

/-- A filter selects the top-level groups that meet its demands, each once and in their order. -/
theorem nodesAt_expression (d : Document) (hne : row ≠ []) :
    d.nodesAt (expression row) =
      d.groups.zipIdx.filter fun node => ∀ s ∈ row, s.MetBy node.1 := by
  rw [nodesAt_of_parse d (Filter.parse_expression hne)]
  refine List.filter_congr fun node _ => ?_
  rw [Bool.eq_iff_iff, Filter.matchesGroup_pairs_iff, decide_eq_true_iff]

theorem mem_nodesAt_expression_iff {d : Document} (hne : row ≠ []) {node : Group × Nat} :
    node ∈ d.nodesAt (expression row) ↔
      node ∈ d.groups.zipIdx ∧ ∀ s ∈ row, s.MetBy node.1 := by
  rw [nodesAt_expression d hne, List.mem_filter, decide_eq_true_iff]

/-- Positions aside, it selects from the row of groups. -/
theorem nodes_expression (d : Document) (hne : row ≠ []) :
    d.nodes (expression row) = d.groups.filter fun g => ∀ s ∈ row, s.MetBy g := by
  rw [nodes, nodesAt_expression d hne]
  -- the row of groups is that of groups with positions, without the positions
  conv => rhs; rw [← List.zipIdx_map_fst 0 d.groups, List.filter_map]
  rfl

/-- Which demands there are is all that counts: not their order, nor how often they are made, nor
the case of keys, nor blanks. -/
theorem nodesAt_congr (d : Document) (hne : row ≠ []) (hothers : others ≠ [])
    (hsame : ∀ pair, pair ∈ row.map (fun s => s.pair) ↔ pair ∈ others.map fun s => s.pair) :
    d.nodesAt (expression row) = d.nodesAt (expression others) := by
  rw [nodesAt_of_parse d (Filter.parse_expression hne),
    nodesAt_of_parse d (Filter.parse_expression hothers)]
  refine List.filter_congr fun node _ => ?_
  rw [Bool.eq_iff_iff, Filter.matchesGroup_iff, Filter.matchesGroup_iff]
  exact forall_congr' fun pair => imp_congr_left (hsame pair)

/-- The demands of two filters together select what both filters select. -/
theorem mem_nodesAt_append_iff {d : Document} (hne : row ≠ []) (hothers : others ≠ [])
    {node : Group × Nat} :
    node ∈ d.nodesAt (expression (row ++ others)) ↔
      node ∈ d.nodesAt (expression row) ∧ node ∈ d.nodesAt (expression others) := by
  rw [mem_nodesAt_expression_iff (List.append_ne_nil_of_left_ne_nil hne _),
    mem_nodesAt_expression_iff hne, mem_nodesAt_expression_iff hothers, List.forall_mem_append]
  constructor
  · rintro ⟨hnode, hrow, hmore⟩
    exact ⟨⟨hnode, hrow⟩, hnode, hmore⟩
  · rintro ⟨⟨hnode, hrow⟩, -, hmore⟩
    exact ⟨hnode, hrow, hmore⟩

/-- Demands that disagree select nothing. -/
theorem nodesAt_eq_nil_of_disagree {d : Document} {s t : Spelling} (hs : s ∈ row) (ht : t ∈ row)
    (hkey : Text.lowercase s.key = Text.lowercase t.key) (htext : s.text ≠ t.text) :
    d.nodesAt (expression row) = [] := by
  rw [List.eq_nil_iff_forall_not_mem]
  intro node hnode
  obtain ⟨-, hmet⟩ := (mem_nodesAt_expression_iff (List.ne_nil_of_mem hs)).mp hnode
  exact htext ((hmet s hs).text_eq (hmet t ht) hkey)

/-- **Filters are conjunctions.** Let demands be spelled in brackets, with commas between them and
with any blanks around their keys and texts: there is at least one demand, keys are neither empty
nor have a comma or a colon in them, texts have no comma, and no blanks stand at the ends of either.
What is read are the demands in order, with their keys in lowercase, and of the top-level groups
those are selected whose metadata have every text under its key, each once and in their order.
Filters of the same demands select the same, the demands of two filters together what both select,
and demands of two texts under one key nothing. A text that cannot be read selects nothing, and the
document stays as it is, with all that it remembers. -/
theorem filters_are_conjunctions (d : Document) :
    (∀ row : List Spelling, row ≠ [] →
      Filter.parse (expression row) = .ok ⟨row.map fun s => (Text.lowercase s.key, s.text)⟩ ∧
      d.nodesAt (expression row) =
        d.groups.zipIdx.filter (fun node => ∀ s ∈ row, s.MetBy node.1) ∧
      d.nodes (expression row) = d.groups.filter (fun g => ∀ s ∈ row, s.MetBy g) ∧
      (∀ s ∈ row, ∀ t ∈ row, Text.lowercase s.key = Text.lowercase t.key → s.text ≠ t.text →
        d.nodesAt (expression row) = []) ∧
      ∀ others : List Spelling, others ≠ [] →
        ((∀ pair, pair ∈ row.map (fun s => s.pair) ↔ pair ∈ others.map fun s => s.pair) →
          d.nodesAt (expression row) = d.nodesAt (expression others)) ∧
        ∀ node, node ∈ d.nodesAt (expression (row ++ others)) ↔
          node ∈ d.nodesAt (expression row) ∧ node ∈ d.nodesAt (expression others)) ∧
    ∀ text, (∀ e, Filter.parse text = .error e → d.nodesAt text = []) ∧
      d.serve (.nodes text) = (.nodes (d.nodesAt text), d) := by
  refine ⟨fun row hne => ⟨Filter.parse_expression hne, nodesAt_expression d hne,
    nodes_expression d hne, ?_, ?_⟩, ?_⟩
  · intro s hs t ht hkey htext
    exact nodesAt_eq_nil_of_disagree hs ht hkey htext
  · intro others hothers
    exact ⟨nodesAt_congr d hne hothers, fun node => mem_nodesAt_append_iff hne hothers⟩
  · intro text
    exact ⟨fun _ => nodesAt_of_parse_error d, rfl⟩

/-- Three groups, of which the first and the last have the same metadata. -/
def filteredGroups : List Group :=
  [{ identifier := "a", metadata := .ofList [("env", ""), ("rôle[1", "x:[y]")] },
    { identifier := "b", metadata := .ofList [("env", "live"), ("rôle[1", "x:[y]")] },
    { identifier := "c", metadata := .ofList [("env", ""), ("rôle[1", "x:[y]")] }]

/-- A key with a bracket and a letter that is not ASCII, and a text with brackets and a colon. There
are blanks around both, not all of them ASCII. -/
def spelledRole : Spelling where
  key := "RÔLE[1"
  text := "x:[y]"
  key_ne := by decide
  key_trimmed := by decide
  comma_not_mem_key := by decide
  colon_not_mem_key := by decide
  text_trimmed := by decide
  comma_not_mem_text := by decide
  beforeKey := ⟨" ", by decide⟩
  afterKey := ⟨"\t", by decide⟩
  beforeText := ⟨"\u00a0", by decide⟩
  afterText := ⟨"\u3000\n", by decide⟩

/-- A demand for a text, which may be empty, without blanks around it. -/
def spelledEnv (text : String) (htext : Text.Trimmed text) (hcomma : ',' ∉ text.toList) :
    Spelling where
  key := "Env"
  text := text
  key_ne := by decide
  key_trimmed := by decide
  comma_not_mem_key := by decide
  colon_not_mem_key := by decide
  text_trimmed := htext
  comma_not_mem_text := hcomma
  beforeKey := .empty
  afterKey := .empty
  beforeText := .empty
  afterText := .empty

/-- Two demands in either order, and with a third one that disagrees. -/
theorem filters_are_conjunctions_three_groups :
    let d : Document := { groups := filteredGroups }
    let empty := spelledEnv "" (by decide) (by decide)
    let live := spelledEnv "live" (by decide) (by decide)
    expression [spelledRole, empty] = "[ RÔLE[1\t:\u00a0x:[y]\u3000\n,Env:]" ∧
      Filter.parse (expression [spelledRole, empty]) = .ok ⟨[("rôle[1", "x:[y]"), ("env", "")]⟩ ∧
      (d.nodes (expression [spelledRole, empty])).map (·.identifier) = ["a", "c"] ∧
      d.nodesAt (expression [spelledRole, empty]) = d.nodesAt (expression [empty, spelledRole]) ∧
      d.nodesAt (expression ([spelledRole, empty] ++ [live])) = [] ∧
      d.nodesAt "[ ]" = [] := by
  intro d empty live
  obtain ⟨hrows, htexts⟩ := filters_are_conjunctions d
  obtain ⟨hparse, -, hnodes, -, hothers⟩ := hrows [spelledRole, empty] (List.cons_ne_nil _ _)
  obtain ⟨hsame, -⟩ := hothers [empty, spelledRole] (List.cons_ne_nil _ _)
  obtain ⟨-, -, -, hdisagree, -⟩ := hrows [spelledRole, empty, live] (List.cons_ne_nil _ _)
  have hpairs : [spelledRole, empty].map (fun s => (Text.lowercase s.key, s.text)) =
      [("rôle[1", "x:[y]"), ("env", "")] := by decide +kernel
  have hswap := List.Perm.swap empty spelledRole []
  refine ⟨by decide +kernel, ?_, ?_, ?_, ?_, ?_⟩
  · rw [hparse, hpairs]
  · rw [hnodes]
    decide +kernel
  · exact hsame fun pair => (hswap.map fun s => s.pair).mem_iff
  · exact hdisagree empty (by simp) live (by simp) rfl (by decide)
  · exact (htexts "[ ]").1 (.malformedFilter "[ ]" "no key:value pairs") rfl

end Document

end Settings
