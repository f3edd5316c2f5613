import RoutePattern.Proofs.Filling

/-! # Slashes at the ends of a path

When slashes are not optional, a path has them where its pattern has them, except for the slashes
that belong to a value: a placeholder for several segments may take in the first or the last
character of a path.

* `BeginsInValue`, `EndsInValue` — the slash at an end of the path is part of a value.
* `begins_filled`, `ends_filled` — the first and the last piece of a path that is filled in.
* `strict_slashes` — an accepted path begins or ends with a slash exactly if the pattern does so, or
  a value does so there, or the pattern is empty.
* `test_slash_in_value` — a path is accepted with a slash at its end that the pattern does not have.
-/

namespace RoutePattern

/-! ## Slashes of values -/

/-- The first segment is a placeholder for several segments, and its value begins with a slash. -/
def BeginsInValue (segments : List Segment) (values : List (List Char)) : Prop :=
  ∃ name suffix, segments.head? = some (.placeholder .multi name suffix) ∧
    ∃ value, values.head? = some value ∧ value.head? = some '/'

/-- The last segment is a placeholder for several segments without a suffix, and its value ends
    with a slash. -/
def EndsInValue (segments : List Segment) (values : List (List Char)) : Prop :=
  ∃ name, segments.getLast? = some (.placeholder .multi name "") ∧
    ∃ value, values.getLast? = some value ∧ value.getLast? = some '/'

/-! ## First and last pieces -/

/-- Values for some segments are values for the first ones and values for the others. -/
theorem exists_filledPieces_append {front rest : List Segment} {values : List (List Char)}
    (fit : Fit (front ++ rest) values) :
    ∃ before after, values = before ++ after ∧ Fit rest after ∧
      filledPieces (front ++ rest) values = filledPieces front before ++ filledPieces rest after := by
  induction front generalizing values with
  | nil => exact ⟨[], values, rfl, fit, rfl⟩
  | cons segment front ih =>
    cases segment with
    | literal value =>
      obtain ⟨before, after, rfl, fitRest, filled⟩ := ih fit
      exact ⟨before, after, rfl, fitRest, congrArg (value.toList :: ·) filled⟩
    | placeholder reach name suffix =>
      obtain ⟨value, others, rfl, -, fitOthers⟩ := fit_placeholder.mp fit
      obtain ⟨before, after, rfl, fitRest, filled⟩ := ih fitOthers
      exact ⟨value :: before, after, rfl, fitRest,
        congrArg ((value ++ suffix.toList) :: ·) filled⟩

theorem text_placeholder_ne_nil (reach : Reach) (name suffix : String) :
    (Segment.placeholder reach name suffix).text ≠ [] := by
  obtain ⟨rest, shape⟩ := token_eq ⟨reach, name⟩
  simp [text_placeholder, shape]

theorem begins_filled {segment : Segment} {rest : List Segment} {values : List (List Char)}
    (free : '/' ∉ segment.text) (fit : Fit (segment :: rest) values) :
    ∃ piece pieces, filledPieces (segment :: rest) values = piece :: pieces ∧
      (piece = [] → segment.text = []) ∧
      (piece.head? = some '/' ↔ BeginsInValue (segment :: rest) values) := by
  cases segment with
  | literal value =>
    refine ⟨_, _, rfl, id, ?_⟩
    constructor
    · intro begins
      exact absurd (List.mem_of_mem_head? begins) free
    · intro begins
      obtain ⟨_, _, first, -⟩ := begins
      cases first
  | placeholder reach name suffix =>
    obtain ⟨value, others, rfl, accepted, -⟩ := fit_placeholder.mp fit
    have start : (value ++ suffix.toList).head? = value.head? :=
      List.head?_append_of_ne_nil _ accepted.1
    refine ⟨_, _, rfl, ?_, ?_⟩
    · intro empty
      exact absurd (List.append_eq_nil_iff.mp empty).1 accepted.1
    rw [start]
    constructor
    · intro begins
      cases reach with
      | single => exact absurd (List.mem_of_mem_head? begins) accepted.slashFree
      | multi => exact ⟨name, suffix, rfl, value, rfl, begins⟩
    · intro begins
      obtain ⟨_, _, -, _, first, begins⟩ := begins
      cases first
      exact begins

theorem ends_filled {front : List Segment} {segment : Segment} {values : List (List Char)}
    (free : '/' ∉ segment.text) (fit : Fit (front ++ [segment]) values) :
    ∃ pieces piece, filledPieces (front ++ [segment]) values = pieces ++ [piece] ∧
      pieces.length = front.length ∧ (piece = [] ↔ segment.text = []) ∧
      (piece.getLast? = some '/' ↔ EndsInValue (front ++ [segment]) values) := by
  obtain ⟨before, after, rfl, fitLast, filled⟩ := exists_filledPieces_append fit
  rw [filled]
  cases segment with
  | literal value =>
    refine ⟨_, _, rfl, length_filledPieces front before, Iff.rfl, ?_⟩
    constructor
    · intro ends
      exact absurd (List.mem_of_getLast? ends) free
    · intro ends
      obtain ⟨_, last, -⟩ := ends
      simp at last
  | placeholder reach name suffix =>
    obtain ⟨value, none, rfl, accepted, fitNone⟩ := fit_placeholder.mp fitLast
    cases fitNone
    refine ⟨_, _, rfl, length_filledPieces front before, ?_, ?_⟩
    · constructor
      · intro empty
        exact absurd (List.append_eq_nil_iff.mp empty).1 accepted.1
      · intro empty
        exact absurd empty (text_placeholder_ne_nil reach name suffix)
    constructor
    · intro ends
      by_cases bare : suffix.toList = []
      · rw [bare, List.append_nil] at ends
        have bareText : suffix = "" := String.toList_eq_nil_iff.mp bare
        subst bareText
        cases reach with
        | single => exact absurd (List.mem_of_getLast? ends) accepted.slashFree
        | multi => exact ⟨name, by simp, value, by simp, ends⟩
      · rw [List.getLast?_append_of_ne_nil _ bare] at ends
        rw [text_placeholder, List.mem_append, not_or] at free
        exact absurd (List.mem_of_getLast? ends) free.2
    · intro ends
      obtain ⟨_, last, _, lastValue, ends⟩ := ends
      simp only [List.getLast?_append, List.getLast?_singleton, Option.some_or,
        Option.some.injEq, Segment.placeholder.injEq] at last lastValue
      obtain ⟨-, -, rfl⟩ := last
      subst lastValue
      simpa using ends

/-! ## Strict slashes -/

theorem head?_eq_slash_iff {pattern : String} (present : pattern ≠ "") :
    pattern.toList.head? = some '/' ↔ isRooted pattern = true := by
  rw [isRooted_iff present, List.head?_eq_some_iff]
  exact exists_congr fun rest => eq_comm

/-- Without optional slashes, an accepted path is the pattern with values filled in. -/
theorem text_of_strict {pattern path : String} {choice : Decomposition} (present : pattern ≠ "")
    (along : choice.Along false (isRooted pattern) (segmentsOf pattern) path.toList) :
    path.toList =
      Text.joinPieces (leadPieces pattern ++ filledPieces (segmentsOf pattern) choice.values) := by
  have lead : choice.lead = if isRooted pattern then ['/'] else [] := along.lead
  have trail : choice.trail = [] := along.trail.resolve_right (by simp)
  rw [along.text, lead, trail, List.append_nil, joinPieces_leadPieces present]

theorem begins_strict {pattern : String} {values : List (List Char)} (present : pattern ≠ "")
    (fit : Fit (segmentsOf pattern) values) :
    (Text.joinPieces
        (leadPieces pattern ++ filledPieces (segmentsOf pattern) values)).head? = some '/' ↔
      pattern.toList.head? = some '/' ∨ BeginsInValue (segmentsOf pattern) values := by
  obtain ⟨segment, rest, shape⟩ := List.exists_cons_of_ne_nil (segmentsOf_ne_nil present)
  have free : '/' ∉ segment.text := slashFree_segmentsOf pattern segment (by simp [shape])
  rw [shape] at fit
  obtain ⟨piece, pieces, filled, empty, begins⟩ := begins_filled free fit
  rw [head?_eq_slash_iff present, shape, filled, leadPieces]
  cases rooted : isRooted pattern with
  | true => simp [Text.head?_joinPieces]
  | false =>
    -- The first segment has a text, as the pattern would begin with a slash otherwise.
    have named : segment.text ≠ [] := by
      intro none
      have cut := pieces_pattern pattern
      rw [leadPieces, rooted, shape] at cut
      simp [isRooted, cut, none] at rooted
    have filledFirst : piece ≠ [] := fun none => named (empty none)
    simp [Text.head?_joinPieces, filledFirst, begins]

theorem ends_strict {pattern : String} {values : List (List Char)} (present : pattern ≠ "")
    (fit : Fit (segmentsOf pattern) values) :
    (Text.joinPieces
        (leadPieces pattern ++ filledPieces (segmentsOf pattern) values)).getLast? = some '/' ↔
      pattern.toList.getLast? = some '/' ∨ EndsInValue (segmentsOf pattern) values := by
  obtain none | ⟨front, segment, shape⟩ := List.eq_nil_or_concat' (segmentsOf pattern)
  · exact absurd none (segmentsOf_ne_nil present)
  have whole : pattern.toList =
      Text.joinPieces (leadPieces pattern ++ (segmentsOf pattern).map Segment.text) := by
    rw [← pieces_pattern, Text.joinPieces_pieces]
  have free : '/' ∉ segment.text := slashFree_segmentsOf pattern segment (by simp [shape])
  have quiet : segment.text.getLast? ≠ some '/' := fun ends => free (List.mem_of_getLast? ends)
  rw [shape] at fit
  obtain ⟨pieces, piece, filled, sameLength, empty, ends⟩ := ends_filled free fit
  have sameFront : leadPieces pattern ++ pieces ≠ [] ↔
      leadPieces pattern ++ front.map Segment.text ≠ [] := by
    rw [← List.length_pos_iff, ← List.length_pos_iff]
    simp [sameLength]
  rw [whole, shape, filled, List.map_append, List.map_singleton, ← List.append_assoc,
    ← List.append_assoc, Text.getLast?_joinPieces, Text.getLast?_joinPieces, ends, empty,
    sameFront]
  simp only [quiet, false_or]
  exact Or.comm

/-- When slashes are not optional, an accepted path begins with a slash exactly if the pattern does,
    and ends with one exactly if the pattern does, unless the pattern is empty, or the slash is the
    first or the last character of a value. -/
theorem strict_slashes [Character.Names] {pattern path : String} {route : Route}
    (compiled : (Route.ofPattern (.standard false) pattern).outcome = .ok route)
    (accepted : route.test path = true) :
    let segments := route.template.parts.map Part.segment
    ∃ values, (route.captures path).outcome =
        .ok (values.map fun value => some (String.ofList value)) ∧
      (path.toList.head? = some '/' ↔
        pattern = "" ∨ pattern.toList.head? = some '/' ∨ BeginsInValue segments values) ∧
      (path.toList.getLast? = some '/' ↔
        pattern = "" ∨ pattern.toList.getLast? = some '/' ∨ EndsInValue segments values) := by
  intro segments
  rw [ofPattern_standard] at compiled
  cases compiled
  obtain ⟨choice, found, along⟩ := exists_head_of_test accepted
  refine ⟨choice.values, captures_of_head found, ?_⟩
  simp only [segments, segments_standard]
  by_cases empty : pattern = ""
  · subst empty
    have text := along.text
    have lead : choice.lead = ['/'] := along.lead
    have trail : choice.trail = [] := along.trail.resolve_right (by simp)
    have none : segmentsOf "" = [] := rfl
    rw [lead, trail, none] at text
    simp [text, filledPieces, Text.joinPieces]
  · rw [text_of_strict empty along]
    simp only [empty, false_or]
    exact ⟨begins_strict empty along.fit, ends_strict empty along.fit⟩

/-- The slash at the start belongs to a value, and the one at the end to the pattern. -/
theorem strict_slashes_relative :
    let route := Route.standard false "[...dir]/[page].html/"
    (Route.ofPattern (.standard false) "[...dir]/[page].html/").outcome = .ok route ∧
      route.test "/a//b.html/" = true ∧
      ∃ values, (route.captures "/a//b.html/").outcome =
          .ok (values.map fun value => some (String.ofList value)) ∧
        BeginsInValue (route.template.parts.map Part.segment) values ∧
        ¬ EndsInValue (route.template.parts.map Part.segment) values := by
  intro route
  have compiled := ofPattern_standard false "[...dir]/[page].html/"
  have accepted : route.test "/a//b.html/" = true := by decide +kernel
  obtain ⟨values, captured, begins, -⟩ := strict_slashes compiled accepted
  have relative : "[...dir]/[page].html/".toList.head? ≠ some '/' := by decide
  have last : (route.template.parts.map Part.segment).getLast? = some (.literal "") := by
    decide +kernel
  refine ⟨compiled, accepted, values, captured, ?_, ?_⟩
  · exact ((begins.mp (by decide)).resolve_left (by decide)).resolve_left relative
  · intro ends
    obtain ⟨name, multi, -⟩ := ends
    simp [last] at multi

/-- A slash at the end is accepted that the pattern does not have: the value takes it in. -/
theorem test_slash_in_value :
    let route := Route.standard false "/pages/[...page]"
    (Route.ofPattern (.standard false) "/pages/[...page]").outcome = .ok route ∧
      route.test "/pages/a/" = true ∧ "/pages/a/".toList.getLast? = some '/' ∧
      "/pages/[...page]".toList.getLast? ≠ some '/' := by
  intro route
  exact ⟨ofPattern_standard false "/pages/[...page]", by decide +kernel, by decide, by decide⟩

end RoutePattern
