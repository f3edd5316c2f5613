import RoutePattern.Proofs.Captures
import RoutePattern.Proofs.Slashes

/-! # Values of several segments

The value of a placeholder for several segments holds one, as long as the path has no two slashes in
a row and does not begin with a slash that could be left out.

* `Decomposition.Along.value_stands` — a value stands behind a slash, or at the start of the path.
* `Decomposition.Greedy.rest_refused` — what stands behind a value that is nothing but a slash.
* `Decomposition.Greedy.slashes_cases` — where a value of nothing but slashes can stand.
* `captures_hold_segment` — the values of placeholders for several segments.
* `captures_slash_alone` — such a value without a segment.
-/

namespace RoutePattern

/-! ## Where values stand -/

/-- A placeholder belongs to a segment, and the placeholders before it to the segments before. -/
theorem exists_segment_of_slot {segments : List Segment} {index : Nat} {placeholder : Placeholder}
    (found : (segments.filterMap Segment.slot?)[index]? = some placeholder) :
    ∃ front suffix back,
      segments = front ++ .placeholder placeholder.reach placeholder.name suffix :: back ∧
      (front.filterMap Segment.slot?).length = index := by
  induction segments generalizing index with
  | nil => simp at found
  | cons segment rest ih =>
    cases segment with
    | literal value =>
      obtain ⟨front, suffix, back, rfl, count⟩ := ih found
      exact ⟨.literal value :: front, suffix, back, rfl, count⟩
    | placeholder reach name suffix =>
      cases index with
      | zero =>
        obtain rfl : { reach, name } = placeholder := by simpa [Segment.slot?] using found
        exact ⟨[], suffix, rest, rfl, rfl⟩
      | succ index =>
        obtain ⟨front, later, back, rfl, count⟩ := ih found
        exact ⟨.placeholder reach name suffix :: front, later, back, rfl,
          by simp [Segment.slot?, count]⟩

/-- A value stands behind a slash, unless it is the first thing in the path. -/
theorem Decomposition.Along.value_stands {optional rooted : Bool} {front back : List Segment}
    {reach : Reach} {name suffix : String} {path : List Char} {choice : Decomposition}
    (along :
      choice.Along optional rooted (front ++ .placeholder reach name suffix :: back) path) :
    ∃ value, choice.values[(front.filterMap Segment.slot?).length]? = some value ∧
      reach.Accepts value ∧ ∃ before after, path = before ++ value ++ after ∧
        (before = [] ∧ front = [] ∧ choice.lead = [] ∨ ∃ start, before = start ++ ['/']) := by
  obtain ⟨before, after, values, fitBack, filled⟩ := exists_filledPieces_append along.fit
  obtain ⟨value, others, rfl, accepted, fitOthers⟩ := fit_placeholder.mp fitBack
  have count : (front.filterMap Segment.slot?).length = before.length := by
    have whole := (fit_iff_slots.mp along.fit).length_eq
    have rest := (fit_iff_slots.mp fitOthers).length_eq
    rw [values] at whole
    simp only [List.filterMap_append, List.filterMap_cons, Segment.slot?, List.length_append,
      List.length_cons] at whole
    omega
  have text : path = choice.lead ++ (filledPieces front before).flatMap (· ++ ['/']) ++ value ++
      (suffix.toList ++ (filledPieces back others).flatMap ('/' :: ·) ++ choice.trail) := by
    rw [along.text, filled, filledPieces, Text.joinPieces_append_cons, Text.joinPieces_cons]
    simp only [List.append_assoc]
  refine ⟨value, by simp [values, count], accepted, _, _, text, ?_⟩
  obtain none | ⟨pieces, piece, ending⟩ := List.eq_nil_or_concat' (filledPieces front before)
  · have noFront : front = [] := by
      rw [← List.length_eq_zero_iff, ← length_filledPieces front before, none, List.length_nil]
    rw [none, List.flatMap_nil, List.append_nil]
    obtain lead | lead := along.lead.eq_nil_or_slash
    · exact .inl ⟨lead, noFront, lead⟩
    · exact .inr ⟨[], lead⟩
  · exact .inr ⟨choice.lead ++ pieces.flatMap (· ++ ['/']) ++ piece, by simp [ending]⟩

/-! ## Values without a segment -/

theorem accepts_cons_slash {value : List Char} (accepted : ∀ c ∈ value, Reach.multi.admits c = true) :
    Reach.multi.Accepts ('/' :: value) := by
  refine ⟨by simp, fun c member => ?_⟩
  obtain rfl | inValue := List.mem_cons.mp member
  · decide +kernel
  · exact accepted c inValue

/-- If the first value is nothing but a slash, the path is not accepted without it: otherwise the
    value could take in more. -/
theorem Decomposition.Greedy.rest_refused {optional rooted : Bool} {name suffix : String}
    {back : List Segment} {rest : List Char} {choice other : Decomposition}
    (greedy : choice.Greedy (Decomposition.Along optional rooted
      (.placeholder .multi name suffix :: back) ('/' :: rest)))
    (noLead : choice.lead = []) (first : choice.values.head? = some ['/'])
    (bare : rest.head? ≠ some '/') :
    ¬ other.Along optional rooted (.placeholder .multi name suffix :: back) rest := by
  intro along
  obtain ⟨value, others, shape, accepted, fit⟩ := fit_placeholder.mp along.fit
  have text := along.text
  have otherLead : other.lead = [] := by
    refine along.lead.eq_nil_or_slash.resolve_right fun slash => bare ?_
    rw [text, slash]
    rfl
  rw [otherLead, List.nil_append, shape, filledPieces, Text.joinPieces_cons] at text
  have longerAlong : Decomposition.Along optional rooted
      (.placeholder .multi name suffix :: back) ('/' :: rest)
      ⟨[], ('/' :: value) :: others, other.trail⟩ := by
    refine ⟨?_, fit_placeholder.mpr ⟨_, _, rfl, accepts_cons_slash accepted.2, fit⟩,
      otherLead ▸ along.lead, along.trail⟩
    rw [text, filledPieces, Text.joinPieces_cons]
    rfl
  refine greedy.not_longer longerAlong noLead.symm ?_
  obtain ⟨own, values⟩ := List.head?_eq_some_iff.mp first
  rw [values]
  have present : 0 < value.length := List.length_pos_iff.mpr accepted.1
  exact .head (by simpa using present)

/-- A value of nothing but slashes makes two slashes in a row, or it is the slash at the start of the
    path, without which the path is not accepted. -/
theorem Decomposition.Greedy.slashes_cases {optional rooted : Bool} {front back : List Segment}
    {name suffix : String} {path value : List Char} {choice : Decomposition}
    (greedy : choice.Greedy (Decomposition.Along optional rooted
      (front ++ .placeholder .multi name suffix :: back) path))
    (atIndex : choice.values[(front.filterMap Segment.slot?).length]? = some value)
    (slashes : ∀ c ∈ value, c = '/') :
    ['/', '/'] <:+: path ∨ front = [] ∧ value = ['/'] ∧ ∃ rest, path = '/' :: rest ∧
      ∀ other, ¬ Decomposition.Along optional rooted
        (front ++ .placeholder .multi name suffix :: back) rest other := by
  obtain ⟨held, found, accepted, before, after, text, stands⟩ := greedy.mem.value_stands
  obtain rfl : value = held := Option.some.inj (atIndex.symm.trans found)
  obtain ⟨c, others, rfl⟩ := List.exists_cons_of_ne_nil accepted.1
  obtain rfl : c = '/' := slashes c (by simp)
  obtain ⟨rfl, rfl, noLead⟩ | ⟨start, rfl⟩ := stands
  · cases others with
    | cons second others =>
      obtain rfl : second = '/' := slashes second (by simp)
      exact .inl ⟨[], others ++ after, by simp [text]⟩
    | nil =>
      obtain rfl : path = '/' :: after := by simpa using text
      by_cases bare : after.head? = some '/'
      · obtain ⟨rest, rfl⟩ := List.head?_eq_some_iff.mp bare
        exact .inl ⟨[], rest, by simp⟩
      · rw [List.filterMap_nil, List.length_nil, ← List.head?_eq_getElem?] at atIndex
        exact .inr ⟨rfl, rfl, after, rfl, fun _ => greedy.rest_refused noLead atIndex bare⟩
  · exact .inl ⟨start, others ++ after, by simp [text]⟩

/-- A placeholder for several segments captures at least one, unless two slashes stand in a row in
    the path, or the path begins with a slash that is the value, and is not accepted without it. -/
theorem captures_hold_segment [Character.Names] {optional : Bool} {pattern path : String}
    {route : Route} (compiled : (Route.ofPattern (.standard optional) pattern).outcome = .ok route)
    (accepted : route.test path = true) :
    ∃ values, route.Captures path values ∧ ∀ index name,
      route.placeholders[index]? = some ⟨.multi, name⟩ →
      ∃ value, values[index]? = some value ∧
        (Text.segments (String.ofList value) ≠ [] ∨ ['/', '/'] <:+: path.toList ∨
          index = 0 ∧ value = ['/'] ∧
            ∃ rest, path = "/" ++ rest ∧ route.test rest = false) := by
  rw [ofPattern_standard] at compiled
  cases compiled
  obtain ⟨choice, found, along⟩ := exists_head_of_test accepted
  refine ⟨choice.values, captures_of_head found, fun index name slot => ?_⟩
  rw [placeholders_standard] at slot
  obtain ⟨front, suffix, back, segments, rfl⟩ := exists_segment_of_slot slot
  have greedy := greedy_iff_head.mpr found
  rw [segments] at greedy
  obtain ⟨value, atIndex, -⟩ := greedy.mem.value_stands
  refine ⟨value, atIndex, ?_⟩
  by_cases none : Text.presentPieces value = []
  · refine .inr ?_
    obtain twice | ⟨rfl, alone, rest, whole, refused⟩ :=
      greedy.slashes_cases atIndex (Text.eq_slash_of_presentPieces_eq_nil none)
    · exact .inl twice
    · refine .inr ⟨rfl, alone, String.ofList rest, by simp [← String.toList_inj, whole], ?_⟩
      rw [← Bool.not_eq_true, test_standard_iff, String.toList_ofList, segments]
      exact not_exists.mpr refused
  · refine .inl ?_
    rw [Text.segments_eq]
    simpa using none

theorem captures_hold_segment_directory :
    let route := Route.standard true "/[user]/[...dir]"
    (Route.ofPattern (.standard true) "/[user]/[...dir]").outcome = .ok route ∧
      route.test "/u/a/b" = true ∧ route.Captures "/u/a/b" ["u".toList, "a/b".toList] ∧
      Text.segments (String.ofList "a/b".toList) ≠ [] := by
  intro route
  have compiled := ofPattern_standard true "/[user]/[...dir]"
  have accepted : route.test "/u/a/b" = true := by decide +kernel
  obtain ⟨values, captured, hold⟩ := captures_hold_segment compiled accepted
  have own : route.Captures "/u/a/b" ["u".toList, "a/b".toList] := by
    unfold Route.Captures
    decide +kernel
  obtain rfl := captured.values_eq own
  obtain ⟨value, atIndex, held⟩ := hold 1 "dir" (by decide +kernel)
  obtain rfl : "a/b".toList = value := by simpa using atIndex
  refine ⟨compiled, accepted, own, held.resolve_right ?_⟩
  rintro (slashes | ⟨zero, -⟩)
  · exact absurd slashes (by decide +kernel)
  · cases zero

/-- The value is accepted behind a slash of the pattern, and is nothing but a slash. -/
theorem captures_slash_alone :
    let route := Route.standard true "/files/[...page]"
    (Route.ofPattern (.standard true) "/files/[...page]").outcome = .ok route ∧
      route.test "/files//" = true ∧ route.placeholders = [⟨.multi, "page"⟩] ∧
      route.Captures "/files//" [['/']] ∧ Text.segments (String.ofList ['/']) = [] := by
  intro route
  refine ⟨ofPattern_standard true "/files/[...page]", by decide +kernel, by decide +kernel, ?_,
    by decide +kernel⟩
  unfold Route.Captures
  decide +kernel

end RoutePattern
