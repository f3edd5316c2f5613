import RoutePattern.Proofs.Standard

/-! # Which paths a pattern accepts

* `check_standard` — the standard capture fragments are valid.
* `exists_along_iff` — a path can be decomposed exactly when it consists of what the segments stand
  for, with allowed slashes around it.
* `test_iff_pieces` — every pattern can be compiled, and its route accepts exactly these paths.
-/

namespace RoutePattern

open Regex

/-! ## The standard settings are valid -/

theorem compile_capture [Character.Names] (optional : Bool) (reach : Reach) :
    Program.compile ((Settings.standard optional).capture reach) =
      .ok { source := (Settings.standard optional).capture reach
            expression := .sequence (reach.group 1) .empty
            groups := 1
            names := [] } := by
  have atRest : Reader.AtRest {} := ⟨rfl, rfl⟩
  obtain ⟨whole, -, steps⟩ := reads_captureText atRest reach
  have result : Regex.read ((Settings.standard optional).capture reach).toList =
      .ok (Reader.advance {} (captureText reach).length [reach.group 1] [groupWidth]) := by
    rw [capture_toList]
    simp only [Regex.read, steps, whole]
    rfl
  simp only [Program.compile, result]
  rfl

theorem refersBack_capture (optional : Bool) (reach : Reach) :
    refersBack ((Settings.standard optional).capture reach) = false := by
  rw [refersBack, capture_toList]
  cases reach <;> decide

theorem check_standard [Character.Names] (optional : Bool) :
    (Settings.standard optional).check = .ok () := by
  have checked : ∀ reach, (Settings.standard optional).checkCapture reach = .ok () := by
    intro reach
    simp [Settings.checkCapture, compile_capture, refersBack_capture]
  simp only [Settings.check, checked]
  rfl

/-! ## Accepted paths -/

theorem test_standard_iff (optional : Bool) (pattern path : String) :
    (Route.standard optional pattern).test path = true ↔
      ∃ choice, Decomposition.Along optional (isRooted pattern) (segmentsOf pattern)
        path.toList choice := by
  rw [test_standard, List.isSome_head?]
  constructor
  · intro found
    obtain ⟨choice, member⟩ := List.exists_mem_of_ne_nil _ (by simpa using found)
    exact ⟨choice, mem_choices.mp member⟩
  · intro along
    obtain ⟨choice, along⟩ := along
    have member : choice ∈ pathChoices optional pattern path := mem_choices.mpr along
    simpa using List.ne_nil_of_mem member

theorem exists_along_iff {optional rooted : Bool} {segments : List Segment} {path : List Char} :
    (∃ choice, Decomposition.Along optional rooted segments path choice) ↔
      ∃ lead pieces trail, path = lead ++ Text.joinPieces pieces ++ trail ∧
        List.Forall₂ Segment.Stands segments pieces ∧
        LeadAllowed optional rooted lead ∧ TrailAllowed optional trail := by
  constructor
  · intro decomposed
    obtain ⟨choice, along⟩ := decomposed
    exact ⟨_, _, _, along.text, forall₂_stands_iff.mpr ⟨_, along.fit, rfl⟩, along.lead,
      along.trail⟩
  · intro composed
    obtain ⟨lead, pieces, trail, text, stands, leadAllowed, trailAllowed⟩ := composed
    obtain ⟨values, fit, rfl⟩ := forall₂_stands_iff.mp stands
    exact ⟨⟨lead, values, trail⟩, text, fit, leadAllowed, trailAllowed⟩

/-- Every pattern can be compiled with the standard capture fragments. The route accepts the paths
    that consist of what its segments stand for, joined by slashes, with a slash before and after
    them as the settings allow, and no other path. -/
theorem test_iff_pieces [Character.Names] (optional : Bool) (pattern : String) :
    (Settings.standard optional).check = .ok () ∧
      ∃ route, (Route.ofPattern (.standard optional) pattern).outcome = .ok route ∧
        route.pattern = pattern ∧
        route.template.parts = Template.partsOf (.standard optional) pattern ∧
        ∀ path : String, route.test path = true ↔
          ∃ lead pieces trail, path.toList = lead ++ Text.joinPieces pieces ++ trail ∧
            List.Forall₂ Segment.Stands (route.template.parts.map Part.segment) pieces ∧
            LeadAllowed optional (isRooted pattern) lead ∧ TrailAllowed optional trail := by
  refine ⟨check_standard optional, Route.standard optional pattern,
    ofPattern_standard optional pattern, rfl, rfl, ?_⟩
  intro path
  rw [test_standard_iff, exists_along_iff, segments_standard]

end RoutePattern
