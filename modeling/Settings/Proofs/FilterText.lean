import Settings.Document
import Settings.Proofs.AddressText
import Settings.Proofs.Trimming
/-!
# Filters and their text

What a filter is read from. What stands between the first opening bracket and the last closing one
is cut at its commas (`Filter.read_bracketed`), and each piece is cut at its first colon
(`Filter.readPair_colon`) and trimmed (`Text.trim_padded`), so that keys and texts without such
marks in their way are read as they are, but for the case of the keys (`Filter.parse_expression`).
Lowercasing leaves something of every character (`Text.lowercase_eq_empty_iff`), so a key that is
not empty stays so.
-/

namespace Settings

/-! ## Lowercase -/

namespace Text

theorem lowerAfter_eq_nil_iff {before s : List Char} : lowerAfter before s = [] ↔ s = [] := by
  cases s with
  | nil => exact ⟨fun _ => rfl, fun _ => rfl⟩
  | cons c rest =>
    rw [lowerAfter, List.append_eq_nil_iff]
    constructor
    · rintro ⟨hhere, -⟩
      split at hhere
      · cases hhere
      · split at hhere <;> cases hhere
    · nofun

/-- No text but the empty one is empty in lowercase. -/
theorem lowercase_eq_empty_iff {s : String} : lowercase s = "" ↔ s = "" := by
  rw [lowercase, String.ofList_eq_empty_iff, lowerAfter_eq_nil_iff, String.toList_eq_nil_iff]

end Text

/-! ## Reading a filter -/

namespace Filter

/-- Between the brackets there are pairs, with commas between them. -/
theorem read_bracketed (body : List Char) :
    read ('[' :: (body ++ [']'])) =
      if body.all Text.isBlank then .error .noPairs
      else ((Text.pieces ',' body).mapM readPair).map Filter.mk := by
  have hopen : Text.cutFirst '[' ('[' :: (body ++ [']'])) = some ([], body ++ [']']) :=
    Text.cutFirst_append List.not_mem_nil _
  have hclose : Text.cutLast ']' (body ++ [']']) = some (body, []) :=
    Text.cutLast_append List.not_mem_nil body
  rw [read, hopen]
  dsimp only
  rw [hclose]

/-- A pair is cut at its first colon. -/
theorem readPair_colon {key : List Char} (h : ':' ∉ key) (value : List Char) :
    readPair (key ++ ':' :: value) =
      if (Text.lowercase (String.ofList (Text.trim key))).isEmpty then .error .emptyKey
      else .ok (Text.lowercase (String.ofList (Text.trim key)),
        String.ofList (Text.trim value)) := by
  rw [readPair, Text.cutFirst_append h]

/-- A key and the text that is demanded under it, as they can be spelled. -/
structure Demand where
  key : String
  text : String
  key_ne : key ≠ ""
  key_trimmed : Text.Trimmed key
  comma_not_mem_key : ',' ∉ key.toList
  colon_not_mem_key : ':' ∉ key.toList
  text_trimmed : Text.Trimmed text
  comma_not_mem_text : ',' ∉ text.toList

/-- What a demand is read as: only the case of the key does not count. -/
def Demand.pair (demand : Demand) : String × String := (Text.lowercase demand.key, demand.text)

/-- A demand with the blanks around its key and around its text. -/
structure Spelling extends Demand where
  beforeKey : Text.Gap
  afterKey : Text.Gap
  beforeText : Text.Gap
  afterText : Text.Gap

namespace Spelling

/-- What stands before the colon. -/
def front (s : Spelling) : String := s.beforeKey.val ++ s.key ++ s.afterKey.val

/-- What stands after the colon. -/
def back (s : Spelling) : String := s.beforeText.val ++ s.text ++ s.afterText.val

/-- A demand as it is spelled. -/
def spelled (s : Spelling) : String := s.front ++ ":" ++ s.back

theorem toList_front (s : Spelling) :
    s.front.toList = s.beforeKey.val.toList ++ s.key.toList ++ s.afterKey.val.toList := by
  rw [front, String.toList_append, String.toList_append]

theorem toList_back (s : Spelling) :
    s.back.toList = s.beforeText.val.toList ++ s.text.toList ++ s.afterText.val.toList := by
  rw [back, String.toList_append, String.toList_append]

theorem toList_spelled (s : Spelling) :
    s.spelled.toList = s.front.toList ++ ':' :: s.back.toList := by
  rw [spelled, String.toList_append, String.toList_append, List.append_assoc]
  rfl

/-- Blanks are none of the marks that a demand is cut at. -/
theorem not_mem_padded {before after : Text.Gap} {text : String} {c : Char}
    (hc : Text.isBlank c = false) (htext : c ∉ text.toList) :
    c ∉ before.val.toList ++ text.toList ++ after.val.toList := by
  rw [List.mem_append, List.mem_append]
  rintro ((h | h) | h)
  · exact before.property.not_mem hc h
  · exact htext h
  · exact after.property.not_mem hc h

theorem colon_not_mem_front (s : Spelling) : ':' ∉ s.front.toList := by
  rw [toList_front]
  exact not_mem_padded rfl s.colon_not_mem_key

/-- A comma ends a demand, so there is none in it. -/
theorem comma_not_mem_spelled (s : Spelling) : ',' ∉ s.spelled.toList := by
  rw [toList_spelled, toList_front, toList_back, List.mem_append, List.mem_cons]
  rintro (h | h | h)
  · exact not_mem_padded rfl s.comma_not_mem_key h
  · cases h
  · exact not_mem_padded rfl s.comma_not_mem_text h

/-- A demand is read back. -/
theorem readPair_spelled (s : Spelling) : readPair s.spelled.toList = .ok s.pair := by
  have hkey : Text.trim s.front.toList = s.key.toList := by
    rw [toList_front]
    exact Text.trim_padded s.beforeKey.property.forall_mem s.afterKey.property.forall_mem
      s.key_trimmed.trim_toList
  have htext : Text.trim s.back.toList = s.text.toList := by
    rw [toList_back]
    exact Text.trim_padded s.beforeText.property.forall_mem s.afterText.property.forall_mem
      s.text_trimmed.trim_toList
  have hlower : ¬ (Text.lowercase s.key).isEmpty = true := by
    rw [String.isEmpty_iff, Text.lowercase_eq_empty_iff]
    exact s.key_ne
  rw [toList_spelled, readPair_colon s.colon_not_mem_front, hkey, htext, String.ofList_toList,
    String.ofList_toList, if_neg hlower]
  rfl

end Spelling

/-- A filter as it is spelled: demands in brackets, with commas between them. -/
def expression (row : List Spelling) : String :=
  "[" ++ ",".intercalate (row.map Spelling.spelled) ++ "]"

/-- **A filter is read back.** Its demands are read in order, with their keys in lowercase, whatever
blanks there are around keys and texts. -/
theorem parse_expression {row : List Spelling} (hne : row ≠ []) :
    parse (expression row) = .ok ⟨row.map fun s => s.pair⟩ := by
  let body := [','].intercalate (row.map fun s => s.spelled.toList)
  have hlist : (expression row).toList = '[' :: (body ++ [']']) := by
    rw [expression, String.toList_append, String.toList_append, String.toList_intercalate,
      List.map_map, List.append_assoc]
    rfl
  have hpieces : Text.pieces ',' body = row.map fun s => s.spelled.toList := by
    have hcomma : ∀ piece ∈ row.map fun s => s.spelled.toList, ',' ∉ piece := by
      intro piece hpiece
      obtain ⟨s, -, rfl⟩ := List.mem_map.mp hpiece
      exact s.comma_not_mem_spelled
    exact Text.pieces_intercalate hcomma (mt List.map_eq_nil_iff.mp hne)
  have hread : (row.map fun s => s.spelled.toList).mapM readPair =
      .ok (row.map fun s => s.pair) := by
    rw [mapM_eq_ok_iff, List.map_map, List.map_map]
    exact List.map_congr_left fun s _ => s.readPair_spelled
  -- a text of blanks would be one piece, but there is a colon in every piece
  have hblank : ¬ body.all Text.isBlank = true := by
    intro hall
    have hcomma : ',' ∉ body := fun h => absurd (List.all_eq_true.mp hall ',' h) (by decide)
    rw [Text.pieces_of_not_mem hcomma] at hpieces
    obtain ⟨s, -, hs⟩ := List.mem_map.mp (hpieces ▸ List.mem_singleton_self body)
    have hcolon : ':' ∈ body := by
      rw [← hs, Spelling.toList_spelled]
      exact List.mem_append_right _ List.mem_cons_self
    exact absurd (List.all_eq_true.mp hall ':' hcolon) (by decide)
  rw [parse, hlist, read_bracketed, if_neg hblank, hpieces, hread]
  rfl

/-- A filter of one pair, without blanks around its parts. -/
theorem parse_pair {key text : String} (hne : key ≠ "") (hkey : Text.Trimmed key)
    (hcolon : ':' ∉ key.toList) (hcomma : ',' ∉ key.toList) (htext : Text.Trimmed text)
    (hcomma' : ',' ∉ text.toList) :
    parse ("[" ++ key ++ ":" ++ text ++ "]") = .ok ⟨[(Text.lowercase key, text)]⟩ := by
  let s : Spelling := ⟨⟨key, text, hne, hkey, hcomma, hcolon, htext, hcomma'⟩, .empty, .empty,
    .empty, .empty⟩
  have hspelled : "[" ++ key ++ ":" ++ text ++ "]" = expression [s] := by
    simp [expression, Spelling.spelled, Spelling.front, Spelling.back, s, Text.Gap.empty,
      String.append_assoc]
  rw [hspelled, parse_expression (List.cons_ne_nil _ _)]
  rfl

/-- What is read as a filter has an opening bracket. -/
theorem bracket_mem_of_parse {text : String} {filter : Filter} (h : parse text = .ok filter) :
    '[' ∈ text.toList := by
  by_cases hmem : '[' ∈ text.toList
  · exact hmem
  · rw [parse, read, Text.cutFirst_eq_none_iff.mpr hmem] at h
    cases h

end Filter

/-! ## Selecting groups -/

namespace Document

variable {text : String} {filter : Filter}

/-- A filter selects the top-level groups whose metadata meet it, in their order. -/
theorem nodesAt_of_parse (d : Document) (h : Filter.parse text = .ok filter) :
    d.nodesAt text = d.groups.zipIdx.filter fun node => filter.matchesGroup node.1 := by
  have hbracket : ¬ (!text.toList.contains '[') = true := by
    simpa using Filter.bracket_mem_of_parse h
  rw [nodesAt, if_neg hbracket, h]

/-- A text that is no filter selects nothing. -/
theorem nodesAt_of_parse_error (d : Document) {e : Error} (h : Filter.parse text = .error e) :
    d.nodesAt text = [] := by
  rw [nodesAt, h]
  exact ite_self _

theorem mem_nodesAt_iff {d : Document} (h : Filter.parse text = .ok filter) {g : Group}
    {position : Nat} :
    (g, position) ∈ d.nodesAt text ↔
      d.groups[position]? = some g ∧ filter.matchesGroup g = true := by
  rw [nodesAt_of_parse d h, List.mem_filter, List.mem_zipIdx_iff_getElem?]

end Document

end Settings
