import RoutePattern.Proofs.Standard

/-! # Patterns as they are written

* `source_ofText` — a segment is written as the text it was read from.
* `pieces_pattern` — the pieces of a pattern are the texts of its segments, behind an empty piece if
  the pattern begins with a slash.
* `ofPattern_eq_ok` — what a route holds that was made from a pattern, whatever the settings.
-/

namespace RoutePattern

theorem afterOpening?_eq_some {opening text rest : List Char}
    (found : afterOpening? opening text = some rest) : text = opening ++ rest := by
  induction opening generalizing text with
  | nil =>
    rw [afterOpening?] at found
    exact Option.some.inj found
  | cons expected others ih =>
    cases text with
    | nil => cases found
    | cons c more =>
      rw [afterOpening?] at found
      split at found
      · rw [ih found, ‹c = expected›, List.cons_append]
      · cases found

theorem readPlaceholder?_eq_some {reach : Reach} {text name suffix : List Char}
    (found : readPlaceholder? reach text = some (name, suffix)) :
    text = reach.opening ++ name ++ ']' :: suffix := by
  unfold readPlaceholder? at found
  cases opened : afterOpening? reach.opening text with
  | none => simp [opened] at found
  | some body =>
    have parts := body.takeWhile_append_dropWhile (p := isNameChar)
    simp only [opened] at found
    split at found
    · cases found
    · cases found
      rw [afterOpening?_eq_some opened, List.append_assoc]
      rw [← ‹body.dropWhile isNameChar = ']' :: _›, parts]
    · cases found

theorem source_ofText (text : String) : (Segment.ofText text).source = text := by
  have placed : ∀ reach segment, Segment.placeholder? reach text.toList = some segment →
      segment.source = text := by
    intro reach segment found
    obtain ⟨⟨name, suffix⟩, parsed, rfl⟩ := Option.map_eq_some_iff.mp found
    have whole := readPlaceholder?_eq_some parsed
    rw [← String.toList_inj, whole]
    simp [Segment.source, Reach.token]
  unfold Segment.ofText
  cases multi : Segment.placeholder? .multi text.toList with
  | some segment => exact placed .multi segment multi
  | none =>
    cases single : Segment.placeholder? .single text.toList with
    | some segment => exact placed .single segment single
    | none => rfl

def Segment.text (segment : Segment) : List Char :=
  segment.source.toList

/-- What stands before the first segment of a pattern: an empty piece if the pattern begins with a
    slash. -/
def leadPieces (pattern : String) : List (List Char) :=
  if isRooted pattern then [[]] else []

theorem pieces_pattern (pattern : String) :
    Text.pieces pattern.toList = leadPieces pattern ++ (segmentsOf pattern).map Segment.text := by
  have restored : ∀ texts : List (List Char),
      ((texts.map String.ofList).map Segment.ofText).map Segment.text = texts := by
    intro texts
    rw [List.map_map, List.map_map]
    refine List.map_id'' ?_ texts
    intro text
    simp [Segment.text, source_ofText]
  rw [segmentsOf, patternSegments, leadPieces, isRooted]
  cases cut : Text.pieces pattern.toList with
  | nil => exact absurd cut (Text.pieces_ne_nil _)
  | cons first rest =>
    cases first with
    | nil => exact congrArg ([] :: ·) (restored rest).symm
    | cons c others => exact (restored ((c :: others) :: rest)).symm

theorem slashFree_segmentsOf (pattern : String) :
    ∀ segment ∈ segmentsOf pattern, '/' ∉ segment.text := by
  intro segment member
  have isPiece : segment.text ∈ Text.pieces pattern.toList := by
    rw [pieces_pattern]
    exact List.mem_append_right _ (List.mem_map_of_mem member)
  exact Text.slashFree_of_mem_pieces isPiece

theorem isRooted_iff {pattern : String} (present : pattern ≠ "") :
    isRooted pattern = true ↔ ['/'] <+: pattern.toList := by
  rw [isRooted]
  cases shape : pattern.toList with
  | nil => exact absurd (String.toList_inj.mp shape) present
  | cons c rest =>
    by_cases slash : c = '/'
    · simp [slash, Text.pieces_slash]
    · obtain ⟨first, later, cut, whole⟩ := Text.pieces_cons_other slash rest
      simp [whole, Ne.symm slash]

theorem isPrefixOf_slash {pattern : String} (present : pattern ≠ "") :
    ['/'].isPrefixOf pattern.toList = isRooted pattern := by
  rw [Bool.eq_iff_iff, List.isPrefixOf_iff_prefix, isRooted_iff present]

theorem joinPieces_lead (pattern : String) {texts : List (List Char)} (present : texts ≠ []) :
    Text.joinPieces (leadPieces pattern ++ texts) =
      (if isRooted pattern then ['/'] else []) ++ Text.joinPieces texts := by
  rw [leadPieces]
  split
  · exact Text.joinPieces_cons_of_ne_nil _ present
  · rfl

/-- Only the empty pattern has no segments. -/
theorem segmentsOf_ne_nil {pattern : String} (present : pattern ≠ "") :
    segmentsOf pattern ≠ [] := by
  intro none
  have cut := pieces_pattern pattern
  have whole := Text.joinPieces_pieces pattern.toList
  rw [cut, none] at whole
  apply present
  rw [← String.toList_inj, ← whole, leadPieces]
  split <;> rfl

/-! ## Routes of patterns -/

/-- A result that passes a test is a result. -/
theorem exists_of_any {Error Value : Type} (result : Except Error Value) (holds : Value → Bool)
    (passed : result.toOption.any holds = true) :
    ∃ value, result = .ok value ∧ holds value = true := by
  cases result with
  | error error => cases passed
  | ok value => exact ⟨value, rfl, passed⟩

/-- A route that was made from a pattern holds the pattern, its parts and the program of its
    expression. -/
theorem ofPattern_eq_ok [Character.Names] {settings : Settings} {pattern : String} {route : Route}
    (compiled : (Route.ofPattern settings pattern).outcome = .ok route) :
    route.pattern = pattern ∧ route.template.parts = Template.partsOf settings pattern ∧
      Regex.Program.compile
        (expressionText settings (isRooted pattern) (Template.partsOf settings pattern)) =
          .ok route.template.program := by
  rw [Route.ofPattern, Traced.outcome_bind, Template.compile] at compiled
  cases program : Regex.Program.compile
      (expressionText settings (isRooted pattern) (Template.partsOf settings pattern)) with
  | error error =>
    simp only [program] at compiled
    cases compiled
  | ok found =>
    simp only [program] at compiled
    cases compiled
    exact ⟨rfl, rfl, rfl⟩

theorem segments_partsOf (settings : Settings) (pattern : String) :
    (Template.partsOf settings pattern).map Part.segment = segmentsOf pattern := by
  rw [Template.partsOf, List.map_map]
  rfl

end RoutePattern
