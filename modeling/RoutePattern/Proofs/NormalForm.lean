import RoutePattern.Proofs.BasePath
import RoutePattern.Proofs.Recovery

/-! # Paths that are filled in

Every path that is filled in along a pattern is accepted. What is filled in with the values that
were captured from a path is a normal form of the path: the same values are captured from it again,
even though the slashes around the path may have been different and other values would make up the
same text.

* `filledPath`, `fill_supplied`, `fill_captured` — what filling a pattern gives.
* `test_fill` — a path that is filled in is accepted, and begins with the base path.
* `takes_or_refuses_slash` — along some segments a slash can be added behind every text, or behind
  none.
* `greedy_filledPath` — the greedy values of a path stay the greedy ones when the slashes around it
  are written as the pattern has them.
* `bind_fill_bind` — the normal form binds what the path binds.
-/

namespace RoutePattern

/-! ## Filled paths -/

/-- Segments with their values, behind a slash if the pattern begins with one. -/
def filledPath (rooted : Bool) (segments : List Segment) (values : List (List Char)) : List Char :=
  (if rooted then ['/'] else []) ++ Text.joinPieces (filledPieces segments values)

theorem along_filledPath (optional rooted : Bool) {segments : List Segment}
    {values : List (List Char)} (fit : Fit segments values) :
    Decomposition.Along optional rooted segments (filledPath rooted segments values)
      { lead := if rooted then ['/'] else [], values := values, trail := [] } := by
  refine ⟨by simp [filledPath], fit, ?_, .inl rfl⟩
  cases optional <;> cases rooted <;> simp [LeadAllowed]

section Filling

variable {optional : Bool} {pattern : String} {bindings : Bindings} {values : List (List Char)}

theorem fit_of_supplied
    (supplied : List.Forall₂ (Supplies bindings) (Route.standard optional pattern).placeholders
      values) : Fit (segmentsOf pattern) values := by
  rw [fit_iff_slots, ← placeholders_standard optional]
  exact supplied.imp fun _ _ => And.right

/-- Filling in what the names are bound to. -/
theorem fill_supplied (present : pattern ≠ "")
    (once : ∀ placeholder ∈ (Route.standard optional pattern).placeholders,
      Text.occurrences placeholder.token.toList pattern.toList = 1)
    (covered : bindings.names.Perm (Route.standard optional pattern).names)
    (supplied : List.Forall₂ (Supplies bindings) (Route.standard optional pattern).placeholders
      values) :
    ((Route.standard optional pattern).fill bindings).outcome =
      .ok (String.ofList (filledPath (isRooted pattern) (segmentsOf pattern) values)) := by
  have count : bindings.entries.length = values.length := by
    have sameNames := covered.length_eq
    simp only [Bindings.names, Route.names, List.length_map] at sameNames
    exact sameNames.trans supplied.length_eq
  rw [filledPath, ← joinPieces_leadPieces present]
  exact fill_eq once (supplied.imp fun _ _ => Supplies.provides)
    (bracketFree_of_accepts (fit_of_supplied supplied)) count

/-- Filling in what was captured. -/
theorem fill_captured (present : pattern ≠ "")
    (distinct : (Route.standard optional pattern).names.Nodup)
    (once : ∀ placeholder ∈ (Route.standard optional pattern).placeholders,
      Text.occurrences placeholder.token.toList pattern.toList = 1)
    (fit : Fit (segmentsOf pattern) values) :
    ((Route.standard optional pattern).fill
      (capturedBindings (Route.standard optional pattern).names values)).outcome =
        .ok (String.ofList (filledPath (isRooted pattern) (segmentsOf pattern) values)) := by
  have paired : (Route.standard optional pattern).placeholders.length = values.length := by
    rw [placeholders_standard]
    exact (fit_iff_slots.mp fit).length_eq
  have count : (capturedBindings (Route.standard optional pattern).names
      values).entries.length = values.length := by
    rw [Route.names, entries_capturedBindings distinct paired]
    simp [paired]
  rw [filledPath, ← joinPieces_leadPieces present]
  exact fill_eq once (provides_capturedBindings distinct paired) (bracketFree_of_accepts fit) count

end Filling

/-- Along a pattern in which each token occurs once, any admitted values can be filled in, one for
    each name. The pattern accepts the path that results, and the path begins with the segments of
    the base path. -/
theorem test_fill [Character.Names] {optional : Bool} {pattern : String} {route : Route}
    {bindings : Bindings}
    (compiled : (Route.ofPattern (.standard optional) pattern).outcome = .ok route)
    (present : pattern ≠ "")
    (once : ∀ placeholder ∈ route.placeholders,
      Text.occurrences placeholder.token.toList pattern.toList = 1)
    (covered : bindings.names.Perm route.names)
    (given : ∀ placeholder ∈ route.placeholders, ∃ content,
      bindings.get? placeholder.name = some (.text content) ∧
        placeholder.reach.Accepts content.toList) :
    ∃ path, (route.fill bindings).outcome = .ok path ∧ route.test path = true ∧
      Text.segments route.basePath <+: Text.segments path := by
  rw [ofPattern_standard] at compiled
  cases compiled
  obtain ⟨values, supplied⟩ := exists_supplied given
  have filled := fill_supplied present once covered supplied
  have accepted : (Route.standard optional pattern).test
      (String.ofList (filledPath (isRooted pattern) (segmentsOf pattern) values)) = true := by
    rw [test_standard_iff, String.toList_ofList]
    exact ⟨_, along_filledPath optional (isRooted pattern) (fit_of_supplied supplied)⟩
  exact ⟨_, filled, accepted, base_prefix_of_test accepted⟩

/-- Values may hold slashes and suffixes, and there may be several placeholders for them. -/
theorem test_fill_archive :
    let bindings := Bindings.ofList [("rest", .text "/x.d/"), ("dir", .text "a.d//b")]
    let route := Route.standard false "docs/[...dir].d/[...rest]"
    (Route.ofPattern (.standard false) "docs/[...dir].d/[...rest]").outcome = .ok route ∧
      bindings.names.Perm route.names ∧
      ∃ path, (route.fill bindings).outcome = .ok path ∧ route.test path = true ∧
        Text.segments route.basePath <+: Text.segments path := by
  intro bindings route
  have compiled := ofPattern_standard false "docs/[...dir].d/[...rest]"
  have covered : bindings.names.Perm route.names := by decide +kernel
  have placeholders : route.placeholders = [⟨.multi, "dir"⟩, ⟨.multi, "rest"⟩] := by
    decide +kernel
  refine ⟨compiled, covered, test_fill compiled (by decide) (by decide +kernel) covered ?_⟩
  rw [placeholders]
  simp only [List.forall_mem_cons, List.not_mem_nil, false_imp_iff, implies_true, and_true]
  exact ⟨⟨"a.d//b", rfl, by decide, List.all_eq_true.mp (by decide +kernel)⟩,
    ⟨"/x.d/", rfl, by decide, List.all_eq_true.mp (by decide +kernel)⟩⟩

/-! ## A slash behind a text -/

/-- Every reading of a text can be extended by a slash, at the expense of no other value. -/
def TakesSlash (places : List Place) : Prop :=
  ∀ values text, Spells places values text →
    ∃ more, Spells places more (text ++ ['/']) ∧ Longer more values

/-- No text can be read both with and without a slash at its end. -/
def RefusesSlash (places : List Place) : Prop :=
  ∀ values others text, Spells places values (text ++ ['/']) → ¬ Spells places others text

theorem Reach.Accepts.concat_slash {value : List Char} (accepted : Reach.multi.Accepts value) :
    Reach.multi.Accepts (value ++ ['/']) := by
  refine ⟨by simp, ?_⟩
  intro c member
  obtain inValue | last := List.mem_append.mp member
  · exact accepted.2 c inValue
  · rw [List.mem_singleton.mp last]
    decide +kernel

/-- What follows the last value decides whether a slash can be added. -/
theorem takes_or_refuses_slash (places : List Place) : TakesSlash places ∨ RefusesSlash places := by
  -- A slash at the end of the row hands the question on to the places before it.
  induction places using List.reverseRecOn with
  | nil =>
    right
    intro values others text spelled
    simp [spells_nil] at spelled
  | append_singleton front place ih =>
    cases place with
    | char c =>
      by_cases slash : c = '/'
      · subst slash
        obtain taking | refusing := ih
        · left
          intro values text spelled
          obtain ⟨first, start, rfl⟩ := spells_concat_char.mp spelled
          obtain ⟨more, extended, longer⟩ := taking values first start
          exact ⟨more, spells_concat_char.mpr ⟨_, extended, rfl⟩, longer⟩
        · right
          intro values others text spelled spelledOther
          obtain ⟨first, start, same⟩ := spells_concat_char.mp spelled
          obtain ⟨otherFirst, otherStart, rfl⟩ := spells_concat_char.mp spelledOther
          rw [← List.append_cancel_right same] at start
          exact refusing values others otherFirst start otherStart
      · right
        intro values others text spelled
        obtain ⟨first, -, same⟩ := spells_concat_char.mp spelled
        have last : '/' = c := by simpa using (List.append_inj_right' same rfl)
        exact absurd last.symm slash
    | value reach =>
      cases reach with
      | single =>
        right
        intro values others text spelled
        obtain ⟨before, value, first, -, accepted, -, same⟩ := spells_concat_value.mp spelled
        obtain none | ⟨begun, c, rfl⟩ := List.eq_nil_or_concat' value
        · exact absurd none accepted.1
        · rw [← List.append_assoc] at same
          have last : '/' = c := by simpa using (List.append_inj_right' same rfl)
          subst last
          exact absurd (by simp) accepted.slashFree
      | multi =>
        left
        intro values text spelled
        obtain ⟨before, value, first, start, accepted, rfl, rfl⟩ := spells_concat_value.mp spelled
        refine ⟨before ++ [value ++ ['/']], ?_, .behind before (.head (by simp))⟩
        exact spells_concat_value.mpr
          ⟨before, _, first, start, accepted.concat_slash, rfl, by simp⟩

/-! ## The greedy choice behind other slashes -/

/-- If the greedy choice leaves a slash at the end, then the text before it has no reading that
    leaves another one. -/
theorem Decomposition.Greedy.no_second_slash {rooted : Bool} {segments : List Segment}
    {path : List Char} {choice : Decomposition}
    (greedy : choice.Greedy (Decomposition.Along true rooted segments path))
    (trail : choice.trail = ['/']) {others : List (List Char)} (otherFit : Fit segments others) :
    Text.joinPieces (filledPieces segments choice.values) ≠
      Text.joinPieces (filledPieces segments others) ++ ['/'] := by
  intro same
  have along := greedy.mem
  have spelled := spells_placesOf.mpr ⟨along.fit, rfl⟩
  obtain taking | refusing := takes_or_refuses_slash (placesOf segments)
  · obtain ⟨more, extended, longer⟩ := taking _ _ spelled
    obtain ⟨fit, text⟩ := spells_placesOf.mp extended
    -- The last value could have taken the slash that was left.
    have taken : Decomposition.Along true rooted segments path
        { lead := choice.lead, values := more, trail := [] } := by
      refine ⟨?_, fit, along.lead, .inl rfl⟩
      rw [along.text, trail, List.append_assoc, text, List.append_nil]
    exact greedy.not_longer taken rfl longer
  · rw [same] at spelled
    exact refusing _ _ _ spelled (spells_placesOf.mpr ⟨otherFit, rfl⟩)

/-- The values of the greedy choice are also the greedy ones for the same text behind one slash. -/
theorem greedy_filledPath {rooted : Bool} {segments : List Segment} {path : List Char}
    {choice : Decomposition}
    (greedy : choice.Greedy (Decomposition.Along true rooted segments path)) :
    Decomposition.Greedy
      (Decomposition.Along true true segments (filledPath true segments choice.values))
      { lead := ['/'], values := choice.values, trail := [] } := by
  have along := greedy.mem
  refine ⟨along_filledPath true true along.fit, ?_, ?_⟩
  · intro other otherAlong
    obtain none | slash := otherAlong.lead
    · simp [none]
    · simp [slash]
  · intro other otherAlong sameLead
    have text := otherAlong.text
    rw [filledPath, if_pos rfl, sameLead, List.append_assoc, List.append_cancel_left_eq] at text
    -- Together, both trailing slashes make a decomposition of the path, if there is but one.
    have together : TrailAllowed true (other.trail ++ choice.trail) := by
      obtain none | ⟨-, slash⟩ := along.trail
      · rw [none, List.append_nil]
        exact otherAlong.trail
      · obtain otherNone | ⟨-, otherSlash⟩ := otherAlong.trail
        · rw [otherNone]
          exact along.trail
        · rw [otherSlash] at text
          exact absurd text (greedy.no_second_slash slash otherAlong.fit)
    have whole : path = choice.lead ++
        Text.joinPieces (filledPieces segments other.values) ++ (other.trail ++ choice.trail) := by
      rw [along.text, text]
      simp
    exact greedy.values ⟨choice.lead, other.values, _⟩
      ⟨whole, otherAlong.fit, along.lead, together⟩ rfl

/-! ## Normal forms -/

/-- Filling in what was captured from a path gives a path that is accepted too and binds the same
    values, so that filling these in gives it back. -/
theorem bind_fill_bind [Character.Names] {pattern path : String} {route : Route}
    (compiled : (Route.ofPattern (.standard true) pattern).outcome = .ok route)
    (slashed : ['/'] <+: pattern.toList) (distinct : route.names.Nodup)
    (once : ∀ placeholder ∈ route.placeholders,
      Text.occurrences placeholder.token.toList pattern.toList = 1)
    (accepted : route.test path = true) :
    ∃ bindings normal, (route.bind path).outcome = .ok bindings ∧
      (route.fill bindings).outcome = .ok normal ∧ route.test normal = true ∧
      ∃ rebound, (route.bind normal).outcome = .ok rebound ∧ rebound = bindings ∧
        (route.fill rebound).outcome = .ok normal := by
  rw [ofPattern_standard] at compiled
  cases compiled
  have present : pattern ≠ "" := by
    rintro rfl
    simp at slashed
  have rooted := (isRooted_iff present).mpr slashed
  obtain ⟨choice, found, along⟩ := exists_head_of_test accepted
  have filled := fill_captured present distinct once along.fit
  rw [rooted] at filled
  have foundNormal : (pathChoices true pattern (String.ofList
      (filledPath true (segmentsOf pattern) choice.values))).head? =
        some { lead := ['/'], values := choice.values, trail := [] } := by
    rw [pathChoices, rooted, String.toList_ofList]
    exact greedy_iff_head.mp (greedy_filledPath (greedy_iff_head.mpr found))
  have acceptedNormal : (Route.standard true pattern).test (String.ofList
      (filledPath true (segmentsOf pattern) choice.values)) = true := by
    rw [test_standard, foundNormal]
    rfl
  exact ⟨_, _, bind_of_head found, filled, acceptedNormal, _, bind_of_head foundNormal, rfl, filled⟩

theorem bind_fill_bind_page :
    let route := Route.standard true "/[...dir]/[page]"
    (Route.ofPattern (.standard true) "/[...dir]/[page]").outcome = .ok route ∧
      route.names.Nodup ∧ route.test "a//b/" = true ∧
      ∃ bindings, (route.bind "a//b/").outcome = .ok bindings ∧
        (route.fill bindings).outcome = .ok "/a//b" ∧
        (route.bind "/a//b").outcome = .ok bindings := by
  intro route
  have compiled := ofPattern_standard true "/[...dir]/[page]"
  have distinct : route.names.Nodup := by decide +kernel
  have accepted : route.test "a//b/" = true := by decide +kernel
  obtain ⟨bindings, normal, bound, filled, -, rebound, boundAgain, same, -⟩ :=
    bind_fill_bind compiled (by decide) distinct (by decide +kernel) accepted
  have text : (route.bind "a//b/").outcome.bind (fun values => (route.fill values).outcome) =
      .ok "/a//b" := by decide +kernel
  rw [bound] at text
  rw [Except.ok.inj (filled.symm.trans text)] at boundAgain
  exact ⟨compiled, distinct, accepted, bindings, bound, text, same ▸ boundAgain⟩

end RoutePattern
