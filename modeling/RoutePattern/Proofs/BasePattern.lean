import Mathlib.Data.List.TakeWhile
import RoutePattern.Proofs.BasePath
import RoutePattern.Proofs.NormalForm

/-! # Base paths as patterns

A base path has one slash before each of its segments and none at its end, unless it is a single
slash. Read as a pattern it stands for itself.

* `baseSegments`, `basePath_partsOf` — the segments of a pattern before its first placeholder,
  and the base path that is made of them.
* `literal_of_mem_segmentsOf_basePath` — no segment of a base path is a placeholder.
* `test_self`, `fill_self` — a pattern without placeholders accepts itself, and there is nothing to
  fill in.
* `basePath_stable` — the base path of a base path is the base path.
-/

namespace RoutePattern

/-! ## The segments of base paths -/

def Segment.isLiteral : Segment → Bool
  | .literal _ => true
  | .placeholder _ _ _ => false

/-- The nonempty segments of a pattern before the first placeholder. -/
def baseSegments (pattern : String) : List String :=
  (Text.segments pattern).takeWhile fun text => (Segment.ofText text).isLiteral

theorem literalStart_ofTexts (settings : Settings) (texts : List String) :
    literalStart (texts.map (Part.ofText settings)) =
      texts.takeWhile fun text => (Segment.ofText text).isLiteral := by
  induction texts with
  | nil => rfl
  | cons text rest ih =>
    have own : (Part.ofText settings text).segment = Segment.ofText text := rfl
    rw [List.map_cons, literalStart, own, List.takeWhile_cons]
    cases shape : Segment.ofText text with
    | literal value =>
      have source := source_ofText text
      rw [shape] at source
      have same : value = text := source
      simp only [Segment.isLiteral, if_true, same, ih]
    | placeholder reach name suffix => rfl

/-- The empty segment of a leading slash is no segment of the pattern, but it is empty anyway. -/
theorem filter_patternSegments (pattern : String) :
    (patternSegments pattern).filter (!·.isEmpty) = Text.segments pattern := by
  have nonempty : ∀ pieces : List (List Char), (pieces.map String.ofList).filter (!·.isEmpty) =
      (pieces.filter (!·.isEmpty)).map String.ofList := by
    intro pieces
    rw [List.filter_map]
    congr 2
    funext piece
    rw [Function.comp_apply, ← isEmpty_toList, String.toList_ofList]
  rw [patternSegments, Text.segments]
  split
  · rename_i rest cut
    rw [cut, nonempty, List.filter_cons_of_neg (by simp)]
  · exact nonempty _

theorem filter_literalStart (settings : Settings) (pattern : String) :
    (literalStart (Template.partsOf settings pattern)).filter (!·.isEmpty) =
      baseSegments pattern := by
  have empty : (Segment.ofText "").isLiteral = true := by decide +kernel
  have passed : ∀ text : String, (!(!text.isEmpty) || (Segment.ofText text).isLiteral) =
      (Segment.ofText text).isLiteral := by
    intro text
    by_cases none : text = ""
    · rw [none, empty, Bool.or_true]
    · have present : text.isEmpty = false := by simpa using none
      rw [present, Bool.not_false, Bool.not_true, Bool.false_or]
  rw [Template.partsOf, literalStart_ofTexts, baseSegments, ← filter_patternSegments,
    List.takeWhile_filter]
  simp only [passed]

theorem baseSegments_proper (pattern : String) :
    ∀ text ∈ (baseSegments pattern).map String.toList, text ≠ [] ∧ '/' ∉ text := by
  intro text member
  obtain ⟨segment, inBase, rfl⟩ := List.mem_map.mp member
  obtain ⟨piece, isPresent, rfl⟩ := List.mem_map.mp ((List.takeWhile_subset _) inBase)
  obtain ⟨inPieces, present⟩ := List.mem_filter.mp isPresent
  rw [String.toList_ofList]
  exact ⟨by simpa using present, Text.slashFree_of_mem_pieces inPieces⟩

variable (settings : Settings) (pattern : String)

theorem basePath_partsOf :
    basePath (Template.partsOf settings pattern) =
      "/" ++ "/".intercalate (baseSegments pattern) := by
  rw [basePath, filter_literalStart]

theorem segments_basePath_partsOf :
    Text.segments (basePath (Template.partsOf settings pattern)) = baseSegments pattern := by
  rw [segments_basePath (slashFree_literalStart settings pattern), filter_literalStart]

theorem toList_basePath :
    (basePath (Template.partsOf settings pattern)).toList =
      '/' :: Text.joinPieces ((baseSegments pattern).map String.toList) := by
  rw [basePath_partsOf]
  simp [Text.joinPieces_eq_intercalate]

/-! ## Base paths read as patterns -/

theorem baseSegments_basePath :
    baseSegments (basePath (Template.partsOf settings pattern)) = baseSegments pattern := by
  rw [baseSegments, segments_basePath_partsOf, baseSegments, List.takeWhile_idem]

/-- The segments of a base path are empty, or they stand before the first placeholder. -/
theorem literal_of_mem_segmentsOf_basePath :
    ∀ segment ∈ segmentsOf (basePath (Template.partsOf settings pattern)),
      segment.isLiteral = true := by
  intro segment member
  obtain ⟨text, inPattern, rfl⟩ := List.mem_map.mp member
  by_cases none : text = ""
  · rw [none]
    decide +kernel
  · have present :
        text ∈ (patternSegments (basePath (Template.partsOf settings pattern))).filter (!·.isEmpty) :=
      List.mem_filter.mpr ⟨inPattern, by simpa using none⟩
    rw [filter_patternSegments, segments_basePath_partsOf, baseSegments] at present
    have passed := List.mem_takeWhile_imp present
    exact passed

theorem slots_of_literal {segments : List Segment}
    (literal : ∀ segment ∈ segments, segment.isLiteral = true) :
    segments.filterMap Segment.slot? = [] := by
  rw [List.filterMap_eq_nil_iff]
  intro segment member
  cases segment with
  | literal value => rfl
  | placeholder reach name suffix => cases literal _ member

theorem filledPieces_of_literal {segments : List Segment}
    (literal : ∀ segment ∈ segments, segment.isLiteral = true) :
    filledPieces segments [] = segments.map Segment.text := by
  induction segments with
  | nil => rfl
  | cons segment rest ih =>
    obtain ⟨first, others⟩ := List.forall_mem_cons.mp literal
    cases segment with
    | literal value => rw [filledPieces, ih others, List.map_cons]; rfl
    | placeholder reach name suffix => cases first

/-- A pattern without placeholders accepts itself. -/
theorem test_self {pattern : String} (present : pattern ≠ "")
    (literal : ∀ segment ∈ segmentsOf pattern, segment.isLiteral = true) (optional : Bool) :
    (Route.standard optional pattern).test pattern = true := by
  have fit : Fit (segmentsOf pattern) [] := by
    rw [fit_iff_slots, slots_of_literal literal]
    exact .nil
  have whole : filledPath (isRooted pattern) (segmentsOf pattern) [] = pattern.toList := by
    rw [filledPath, ← joinPieces_leadPieces present, filledPieces_of_literal literal,
      ← pieces_pattern, Text.joinPieces_pieces]
  rw [test_standard_iff, ← whole]
  exact ⟨_, along_filledPath optional (isRooted pattern) fit⟩

theorem fill_self {route : Route} (none : route.placeholders = []) :
    (route.fill .empty).outcome = .ok route.pattern := by
  have count : Bindings.empty.entries.length = route.placeholders.length := by
    rw [none]
    rfl
  rw [Route.fill, if_pos count, none, Traced.outcome_bind]
  exact congrArg Except.ok String.ofList_toList

/-- The base path of a pattern is a slash, followed by the nonempty segments before the first
    placeholder with slashes between them; cut at its slashes it gives back these segments. No two
    slashes stand side by side in it, and it ends in a slash only if it is a slash. As a pattern it
    has no placeholders and is its own base path, accepts itself, and is filled without values. -/
theorem basePath_stable [Character.Names] (pattern : String) :
    (∃ route, (Route.ofPattern {} pattern).outcome = .ok route) ∧
    ∀ settings route, (Route.ofPattern settings pattern).outcome = .ok route →
      route.basePath = "/" ++ "/".intercalate (baseSegments pattern) ∧
      Text.segments route.basePath = baseSegments pattern ∧
      ¬ ['/', '/'] <:+: route.basePath.toList ∧
      (route.basePath.toList.getLast? = some '/' ↔ route.basePath = "/") ∧
      ∃ again, (Route.ofPattern {} route.basePath).outcome = .ok again ∧
        again.placeholders = [] ∧ again.basePath = route.basePath ∧
        again.test route.basePath = true ∧ (again.fill .empty).outcome = .ok route.basePath := by
  refine ⟨⟨_, ofPattern_standard true pattern⟩, fun settings route compiled => ?_⟩
  have base : route.basePath = basePath (Template.partsOf settings pattern) := by
    rw [Route.basePath, (ofPattern_eq_ok compiled).2.1]
  have text := toList_basePath settings pattern
  have literal := literal_of_mem_segmentsOf_basePath settings pattern
  rw [← base] at text literal
  have proper := baseSegments_proper pattern
  have present : route.basePath ≠ "" := by
    intro none
    rw [none] at text
    cases text
  have none : (Route.standard true route.basePath).placeholders = [] := by
    rw [placeholders_standard, slots_of_literal literal]
  have same : (Route.standard true route.basePath).basePath = route.basePath := by
    refine (basePath_partsOf (.standard true) route.basePath).trans ?_
    rw [base, baseSegments_basePath, basePath_partsOf]
  refine ⟨?_, ?_, ?_, ?_, _, ofPattern_standard true route.basePath, none, same,
    test_self present literal true, fill_self none⟩
  · rw [base, basePath_partsOf]
  · rw [base, segments_basePath_partsOf]
  · rw [text]
    exact Text.not_infix_slashes proper
  · constructor
    · intro ends
      rw [text, Text.getLast?_slash_joinPieces proper] at ends
      rw [← String.toList_inj, text, ends]
      rfl
    · intro alone
      rw [alone]
      rfl

/-- Doubled slashes leave the base path, while brackets that make no placeholder stay in it. -/
theorem basePath_stable_drafts :
    let settings : Settings := { singleCapture := "(\\d+)", optionalSlashes := false }
    ∃ route, (Route.ofPattern settings "//docs//[draft/v[id]/[id]/end/").outcome = .ok route ∧
      route.basePath = "/docs/[draft/v[id]" ∧
      ∃ again, (Route.ofPattern {} "/docs/[draft/v[id]").outcome = .ok again ∧
        again.placeholders = [] ∧ again.basePath = "/docs/[draft/v[id]" ∧
        again.test "/docs/[draft/v[id]" = true ∧
        (again.fill .empty).outcome = .ok "/docs/[draft/v[id]" := by
  intro settings
  obtain ⟨route, compiled, -⟩ := exists_of_any
    (Route.ofPattern settings "//docs//[draft/v[id]/[id]/end/").outcome (fun _ => true)
    (by decide +kernel)
  obtain ⟨-, stable⟩ := basePath_stable "//docs//[draft/v[id]/[id]/end/"
  obtain ⟨text, -, -, -, again⟩ := stable settings route compiled
  have written : route.basePath = "/docs/[draft/v[id]" := by
    rw [text]
    decide +kernel
  rw [written] at again
  exact ⟨route, compiled, written, again⟩

end RoutePattern
