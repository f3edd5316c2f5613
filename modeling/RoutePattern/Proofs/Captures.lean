import RoutePattern.Proofs.Acceptance
import RoutePattern.Proofs.Bindings

/-! # What a path binds the placeholders to

* `Segment.slot?`, `fit_iff_slots` — placeholders and their values go in pairs.
* `Route.Captures` — what a route captures from a path.
* `bind_of_refused`, `bind_of_captures` — binding a path, with its records.
* `capturedBindings`, `bind_eq_of_head` — what the names are bound to, with no record.
* `captures_greedy` — the captured values are those of the greedy decomposition.
-/

namespace RoutePattern

/-! ## Placeholders of segments -/

def Segment.slot? : Segment → Option Placeholder
  | .literal _ => none
  | .placeholder reach name _ => some { reach := reach, name := name }

theorem placeholders_eq (route : Route) :
    route.placeholders = (route.template.parts.map Part.segment).filterMap Segment.slot? := by
  have same : Segment.slot? ∘ Part.segment = Part.placeholder? := by
    funext part
    simp only [Function.comp_apply, Part.placeholder?]
    cases part.segment <;> rfl
  rw [List.filterMap_map, same]
  rfl

theorem placeholders_standard (optional : Bool) (pattern : String) :
    (Route.standard optional pattern).placeholders =
      (segmentsOf pattern).filterMap Segment.slot? := by
  rw [placeholders_eq, segments_standard]

theorem fit_iff_slots {segments : List Segment} {values : List (List Char)} :
    Fit segments values ↔
      List.Forall₂ (fun placeholder value => placeholder.reach.Accepts value)
        (segments.filterMap Segment.slot?) values := by
  have reaches : segments.filterMap Segment.reach? =
      (segments.filterMap Segment.slot?).map Placeholder.reach := by
    rw [List.map_filterMap]
    congr 1
    funext segment
    cases segment <;> rfl
  rw [Fit, reaches, List.forall₂_map_left_iff]

theorem Reach.Accepts.slashFree {value : List Char} (accepted : Reach.single.Accepts value) :
    '/' ∉ value := by
  intro member
  have admitted := accepted.2 '/' member
  exact absurd admitted (by decide +kernel)

/-! ## Capturing -/

/-- The values are what a route captures from a path. -/
def Route.Captures (route : Route) (path : String) (values : List (List Char)) : Prop :=
  (route.captures path).outcome = .ok (values.map fun value => some (String.ofList value))

theorem Route.Captures.values_eq {route : Route} {path : String} {values others : List (List Char)}
    (captured : route.Captures path values) (otherCaptured : route.Captures path others) :
    values = others := by
  have same := captured.symm.trans otherCaptured
  rw [Except.ok.injEq] at same
  refine List.map_injective_iff.mpr ?_ same
  intro value other equal
  exact String.ofList_injective (Option.some.inj equal)

/-! ## Binding -/

/-- The record of a route that refuses a path. -/
def Route.mismatch (route : Route) (path : String) : Record where
  origin := .mapper
  message := "no match: " ++ Text.quote path ++ " against " ++ route.expression

theorem bind_of_refused {route : Route} {path : String} (refused : route.test path = false) :
    route.bind path =
      { records := [route.mismatch path], outcome := .error (.noMatch path route.expression) } := by
  have missed : route.template.program.captures? path = none := by
    rw [Regex.Program.captures?, Option.map_eq_none_iff]
    exact Option.isNone_iff_eq_none.mp (Option.isSome_eq_false_iff.mp refused)
  rw [Route.bind, Route.captures, missed]
  rfl

/-- Captured texts are bound, without a record, if there is one for each placeholder. -/
theorem bind_of_captures {route : Route} {path : String} {values : List (Option String)}
    (captured : route.captures path = .pure values)
    (count : values.length = route.placeholders.length) :
    route.bind path = .pure (.ofList (route.names.zip (values.map Value.ofCapture))) := by
  rw [Route.bind, captured, Traced.pure_bind, if_pos count]

/-- Names bound to captured texts, one after another. -/
def capturedBindings (names : List String) (values : List (List Char)) : Bindings :=
  .ofList (names.zip (values.map fun value => .text (String.ofList value)))

theorem names_capturedBindings {names : List String} {values : List (List Char)}
    (paired : names.length = values.length) :
    (capturedBindings names values).names = names.eraseDups := by
  rw [capturedBindings, Bindings.names_ofList, List.map_fst_zip (by simp [paired])]

variable {optional : Bool} {pattern path : String} {choice : Decomposition}

theorem exists_head_of_test (accepted : (Route.standard optional pattern).test path = true) :
    ∃ choice, (pathChoices optional pattern path).head? = some choice ∧
      choice.Along optional (isRooted pattern) (segmentsOf pattern) path.toList := by
  rw [test_standard] at accepted
  obtain ⟨choice, found⟩ := Option.isSome_iff_exists.mp accepted
  exact ⟨choice, found, mem_choices.mp (List.mem_of_mem_head? found)⟩

theorem length_values
    (along : choice.Along optional (isRooted pattern) (segmentsOf pattern) path.toList) :
    (Route.standard optional pattern).placeholders.length = choice.values.length := by
  rw [placeholders_standard]
  exact (fit_iff_slots.mp along.fit).length_eq

theorem captures_eq_of_head (found : (pathChoices optional pattern path).head? = some choice) :
    (Route.standard optional pattern).captures path =
      .pure (choice.values.map fun value => some (String.ofList value)) := by
  rw [Route.captures, captures?_standard, found]
  rfl

theorem bind_eq_of_head (found : (pathChoices optional pattern path).head? = some choice) :
    (Route.standard optional pattern).bind path =
      .pure (capturedBindings (Route.standard optional pattern).names choice.values) := by
  have along := mem_choices.mp (List.mem_of_mem_head? found)
  rw [bind_of_captures (captures_eq_of_head found) (by simp [length_values along]), List.map_map]
  rfl

theorem captures_of_head (found : (pathChoices optional pattern path).head? = some choice) :
    ((Route.standard optional pattern).captures path).outcome =
      .ok (choice.values.map fun value => some (String.ofList value)) := by
  rw [captures_eq_of_head found, Traced.outcome_pure]

theorem bind_of_head (found : (pathChoices optional pattern path).head? = some choice) :
    ((Route.standard optional pattern).bind path).outcome =
      .ok (capturedBindings (Route.standard optional pattern).names choice.values) := by
  rw [bind_eq_of_head found, Traced.outcome_pure]

/-! ## The greedy decomposition -/

/-- An accepted path has exactly one greedy decomposition along the pattern, and its values are
    what is captured. Put in place of the placeholders, they make up the path, up to the slashes
    around it. They are not empty, and a placeholder for a single segment has no slash in its
    value. The names are bound in order of first occurrence, each to its last value. -/
theorem captures_greedy [Character.Names] {route : Route}
    (compiled : (Route.ofPattern (.standard optional) pattern).outcome = .ok route)
    (accepted : route.test path = true) :
    ∃ choice bindings,
      (∀ other, Decomposition.Greedy (Decomposition.Along optional (isRooted pattern)
        (route.template.parts.map Part.segment) path.toList) other ↔ other = choice) ∧
      path.toList = choice.lead ++ Text.joinPieces
        (filledPieces (route.template.parts.map Part.segment) choice.values) ++ choice.trail ∧
      (route.captures path).outcome =
        .ok (choice.values.map fun value => some (String.ofList value)) ∧
      List.Forall₂ (fun placeholder value =>
        value ≠ [] ∧ (placeholder.reach = .single → '/' ∉ value))
        route.placeholders choice.values ∧
      (route.bind path).outcome = .ok bindings ∧
      bindings.names = route.names.eraseDups ∧
      ∀ name, bindings.get? name =
        (route.names.zip
          (choice.values.map fun value => .text (String.ofList value))).reverse.lookup name := by
  rw [ofPattern_standard] at compiled
  cases compiled
  obtain ⟨choice, found, along⟩ := exists_head_of_test accepted
  have pairs := fit_iff_slots.mp along.fit
  rw [← placeholders_standard optional] at pairs
  refine ⟨choice, _, ?_, ?_, captures_of_head found, ?_, bind_of_head found,
    names_capturedBindings (by simp [Route.names, length_values along]),
    Bindings.get?_ofList _⟩
  · intro other
    rw [segments_standard, greedy_iff_head]
    constructor
    · intro first
      exact Option.some.inj (first.symm.trans found)
    · intro same
      rw [same]
      exact found
  · rw [segments_standard]
    exact along.text
  · refine pairs.imp ?_
    intro placeholder value accepted
    refine ⟨accepted.1, ?_⟩
    intro single
    rw [single] at accepted
    exact accepted.slashFree

theorem captures_greedy_pages :
    (Route.ofPattern (.standard true) "/[...dir]/[page].html").outcome =
        .ok (Route.standard true "/[...dir]/[page].html") ∧
      (Route.standard true "/[...dir]/[page].html").test "/a/b/c.html" = true ∧
      ∃ bindings, ((Route.standard true "/[...dir]/[page].html").bind "/a/b/c.html").outcome =
        .ok bindings := by
  have compiled := ofPattern_standard true "/[...dir]/[page].html"
  have accepted : (Route.standard true "/[...dir]/[page].html").test "/a/b/c.html" = true := by
    decide +kernel
  obtain ⟨_, bindings, -, -, -, -, bound, -⟩ := captures_greedy compiled accepted
  exact ⟨compiled, accepted, bindings, bound⟩

end RoutePattern
