import RoutePattern.Proofs.Acceptance
import RoutePattern.Proofs.Segment

/-! # Base paths

* `segments_basePath` — the base path consists of the nonempty literal segments before the first
  placeholder.
* `base_prefix_of_test` — every accepted path begins with the segments of the base path.
-/

namespace RoutePattern

theorem literal_of_mem_literalStart {parts : List Part} {value : String}
    (member : value ∈ literalStart parts) : .literal value ∈ parts.map Part.segment := by
  induction parts with
  | nil => cases member
  | cons part rest ih =>
    rw [literalStart] at member
    split at member
    · rename_i shape
      obtain rfl | later := List.mem_cons.mp member
      · simp [shape]
      · exact List.mem_cons_of_mem _ (ih later)
    · cases member

/-- The literal values at the start stay as they are, whatever is filled in behind them. -/
theorem literalStart_prefix_filledPieces (parts : List Part) (values : List (List Char)) :
    (literalStart parts).map String.toList <+: filledPieces (parts.map Part.segment) values := by
  induction parts with
  | nil => exact List.prefix_rfl
  | cons part rest ih =>
    rw [literalStart, List.map_cons]
    cases shape : part.segment with
    | literal value =>
      rw [filledPieces, List.map_cons]
      exact List.cons_prefix_cons.mpr ⟨rfl, ih⟩
    | placeholder reach name suffix => exact List.nil_prefix

theorem isEmpty_toList (text : String) : text.toList.isEmpty = text.isEmpty := by
  rw [Bool.eq_iff_iff, List.isEmpty_iff, String.isEmpty_iff, String.toList_eq_nil_iff]

theorem segments_basePath {parts : List Part}
    (free : ∀ value ∈ literalStart parts, '/' ∉ value.toList) :
    Text.segments (basePath parts) = (literalStart parts).filter (!·.isEmpty) := by
  have text : (basePath parts).toList = '/' :: Text.joinPieces
      (((literalStart parts).filter (!·.isEmpty)).map String.toList) := by
    simp [basePath, Text.joinPieces_eq_intercalate]
  have freePieces : ∀ piece ∈ ((literalStart parts).filter (!·.isEmpty)).map String.toList,
      '/' ∉ piece := by
    intro piece member
    obtain ⟨value, kept, rfl⟩ := List.mem_map.mp member
    exact free value (List.mem_filter.mp kept).1
  rw [Text.segments_eq, text, Text.presentPieces_slash,
    Text.presentPieces_joinPieces_of_slashFree freePieces]
  rw [List.filter_map, List.map_map, List.filter_filter]
  simp [isEmpty_toList]

theorem slashFree_literalStart (settings : Settings) (pattern : String) :
    ∀ value ∈ literalStart (Template.partsOf settings pattern), '/' ∉ value.toList := by
  intro value member
  have inSegments := literal_of_mem_literalStart member
  rw [segments_partsOf] at inSegments
  exact slashFree_segmentsOf pattern _ inSegments

theorem presentPieces_slashed {lead core trail : List Char} (before : lead = [] ∨ lead = ['/'])
    (after : trail = [] ∨ trail = ['/']) :
    Text.presentPieces (lead ++ core ++ trail) = Text.presentPieces core := by
  have led : Text.presentPieces (lead ++ core) = Text.presentPieces core := by
    obtain rfl | rfl := before <;> simp
  obtain rfl | rfl := after
  · rw [List.append_nil, led]
  · rw [Text.presentPieces_append_slash, led, Text.presentPieces_nil, List.append_nil]

/-- Every accepted path begins with the segments of the base path. -/
theorem base_prefix_of_test {optional : Bool} {pattern path : String}
    (accepted : (Route.standard optional pattern).test path = true) :
    Text.segments (Route.standard optional pattern).basePath <+: Text.segments path := by
  obtain ⟨choice, along⟩ := (test_standard_iff optional pattern path).mp accepted
  have before : choice.lead = [] ∨ choice.lead = ['/'] := along.lead.eq_nil_or_slash
  have after : choice.trail = [] ∨ choice.trail = ['/'] := along.trail.imp_right And.right
  have base : (Route.standard optional pattern).basePath =
      basePath (Template.partsOf (.standard optional) pattern) := rfl
  obtain ⟨rest, split⟩ := literalStart_prefix_filledPieces
    (Template.partsOf (.standard optional) pattern) choice.values
  rw [segments_partsOf] at split
  have free := slashFree_literalStart (.standard optional) pattern
  have freePieces : ∀ piece ∈ (literalStart (Template.partsOf (.standard optional) pattern)).map
      String.toList, '/' ∉ piece := by
    intro piece member
    obtain ⟨value, inStart, rfl⟩ := List.mem_map.mp member
    exact free value inStart
  rw [base, segments_basePath free, Text.segments_eq, along.text,
    presentPieces_slashed before after, ← split, Text.presentPieces_joinPieces,
    List.flatMap_append, ← Text.presentPieces_joinPieces,
    Text.presentPieces_joinPieces_of_slashFree freePieces, List.filter_map, List.map_append,
    List.map_map]
  simp [Function.comp_def, isEmpty_toList]

end RoutePattern
