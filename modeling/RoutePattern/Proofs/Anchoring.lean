import RoutePattern.Proofs.Splice

/-! # Whole paths

The expression of a pattern ends in an anchor, but a bar outside the parentheses of a capture
fragment cuts the expression in two, and the first half has no anchor at its end.

* `exists_done`, `content_of_done` — without such a bar the expression is one row that ends in the
  anchor.
* `match_spans` — then a match that is found reaches from the first to the last character.
* `test_half` — with such a bar a path is accepted for what stands before the bar.
-/

namespace RoutePattern

open Regex
open Regex.Reader (Done)

/-- An expression without a bar is a row whose last part is the end of the text. -/
theorem content_of_done {bodies : List Expression} {reader : Reader}
    (isDone : ∃ references, Done True bodies references reader) :
    ∃ items, reader.content = Expression.sequenceOf (items ++ [.anchor .textEnd]) := by
  obtain ⟨_, done⟩ := isDone
  obtain ⟨items, shape⟩ := done.textEnd
  refine ⟨items.reverse, ?_⟩
  simp only [Reader.content, Reader.branch, done.branches trivial, shape, List.reverse_nil,
    List.reverse_cons, List.nil_append]
  rfl

/-- A row that ends in the end of the text matches up to the end of the text. -/
theorem after_of_run {items : List Expression} {point found : Point}
    (reached : (Expression.sequenceOf (items ++ [.anchor .textEnd])).run some point = some found) :
    found.after = [] := by
  rw [run_sequenceOf_append] at reached
  obtain ⟨next, -, last⟩ := steady_run _ _ point found reached
  rw [run_textEnd] at last
  split at last
  · cases last
    exact List.isEmpty_iff.mp ‹_›
  · cases last

/-- The expression of a compiled pattern ends in an anchor that belongs to all branches, unless a
    fragment that is spliced has a bar outside its parentheses. -/
theorem exists_done [Character.Names] {settings : Settings} (valid : settings.check = .ok ())
    {pattern : String} {route : Route}
    (compiled : (Route.ofPattern settings pattern).outcome = .ok route)
    (barless : ∀ placeholder ∈ route.placeholders,
      hasOuterBar (settings.capture placeholder.reach) = false) :
    ∃ bodies reader, (∃ references, Done True bodies references reader) ∧
      route.template.program.expression = reader.content := by
  have known : ∀ reach, ∃ final body, ∀ placeholder ∈ route.placeholders,
      placeholder.reach = reach → Spliced settings True True final body reach := by
    intro reach
    by_cases used : ∃ placeholder ∈ route.placeholders, placeholder.reach = reach
    · obtain ⟨placeholder, member, rfl⟩ := used
      obtain ⟨-, final, body, -, -, spliced⟩ :=
        exists_spliced valid (fun _ => trivial) fun _ => barless placeholder member
      exact ⟨final, body, fun _ _ _ => spliced⟩
    · exact ⟨{}, .empty, fun placeholder member same => absurd ⟨placeholder, member, same⟩ used⟩
  choose finals bodies spliced using known
  have all : AllSpliced settings True True finals bodies (segmentsOf pattern) := by
    intro placeholder member
    rw [← placeholders_of_compiled compiled] at member
    exact spliced placeholder.reach placeholder member rfl
  obtain ⟨reader, read, -, program⟩ := compile_eq_ok.mp (ofPattern_eq_ok compiled).2.2
  rw [partsOf_eq] at read
  obtain ⟨other, same, done⟩ | ⟨-, error, failed⟩ :=
    (reaches_expressionText all (isRooted pattern)).read
  · cases read.symm.trans same
    exact ⟨_, reader, ⟨_, done⟩, by rw [program]⟩
  · cases read.symm.trans failed

/-- Unless a fragment that is spliced has a bar outside its parentheses, a match reaches from the
    first to the last character of the path. -/
theorem match_spans [Character.Names] {settings : Settings} (valid : settings.check = .ok ())
    {pattern : String} {route : Route}
    (compiled : (Route.ofPattern settings pattern).outcome = .ok route)
    (barless : ∀ placeholder ∈ route.placeholders,
      hasOuterBar (settings.capture placeholder.reach) = false)
    {path : String} (accepted : route.test path = true) :
    ∃ point, route.template.program.firstMatch path = some point ∧
      point.before.reverse = path.toList ∧ point.after = [] := by
  obtain ⟨bodies, reader, done, expression⟩ := exists_done valid compiled barless
  obtain ⟨items, content⟩ := content_of_done done
  obtain ⟨point, matched⟩ := Option.isSome_iff_exists.mp accepted
  have reached := matched
  rw [Program.firstMatch, expression, content] at reached
  have ended : point.after = [] := after_of_run reached
  -- Nothing is left, so what was passed is the whole text.
  have text := (kin_of_firstMatch reached).text
  refine ⟨point, matched, ?_, ended⟩
  simpa [Point.text, Point.start, ended] using text

/-- A lazy group could stop early, and the bar inside its parentheses does not keep it from the
    anchor. -/
theorem match_spans_lazy :
    let settings : Settings := { singleCapture := "(?i:v)?(\\w+?|-)" }
    settings.check = .ok () ∧
      ∃ route, (Route.ofPattern settings "[id]").outcome = .ok route ∧
        (∀ placeholder ∈ route.placeholders,
          hasOuterBar (settings.capture placeholder.reach) = false) ∧
        route.test "V12/" = true ∧
        ∃ point, route.template.program.firstMatch "V12/" = some point ∧
          point.before.reverse = ['V', '1', '2', '/'] ∧ point.after = [] := by
  intro settings
  have valid : settings.check = .ok () := by decide +kernel
  obtain ⟨route, compiled, accepted⟩ := exists_of_any (Route.ofPattern settings "[id]").outcome
    (fun route => route.test "V12/") (by decide +kernel)
  have barless : ∀ placeholder ∈ route.placeholders,
      hasOuterBar (settings.capture placeholder.reach) = false := by
    rw [placeholders_of_compiled compiled]
    decide +kernel
  exact ⟨valid, route, compiled, barless, accepted, match_spans valid compiled barless accepted⟩

/-- What stands before a bar is matched without the anchor at the end. -/
theorem test_half :
    let settings : Settings := { singleCapture := "(a)|b" }
    settings.check = .ok () ∧
      ∃ route, (Route.ofPattern settings "[id]").outcome = .ok route ∧
        hasOuterBar settings.singleCapture = true ∧ route.test "axyz" = true ∧
        ∃ point, route.template.program.firstMatch "axyz" = some point ∧
          point.before.reverse = ['a'] ∧ point.after = ['x', 'y', 'z'] := by
  intro settings
  obtain ⟨route, compiled, found⟩ := exists_of_any (Route.ofPattern settings "[id]").outcome
    (fun route => (route.template.program.firstMatch "axyz").any fun point =>
      point.before.reverse == ['a'] && point.after == ['x', 'y', 'z']) (by decide +kernel)
  obtain ⟨point, matched, place⟩ := (Option.any_eq_true _ _).mp found
  have accepted : route.test "axyz" = true := Option.isSome_iff_exists.mpr ⟨point, matched⟩
  refine ⟨by decide +kernel, route, compiled, by decide +kernel, accepted, point, matched, ?_⟩
  simpa using place

end RoutePattern
