import Mathlib.Data.List.ModifyLast
import RoutePattern.Proofs.NormalForm
import RoutePattern.Proofs.Slashes

/-! # Slashes that are optional

When the slashes at the ends of a path are optional, more paths are accepted, but the values stay the
same.

* `greedy_of_strict` — the greedy choice without optional slashes is the greedy one with them.
* `captures_of_strict` — what a pattern accepts strictly, it accepts with optional slashes, and it
  captures the same values if it begins with a slash.
* `takeSlash` — the values when a slash is added at the end of a path.
* `greedy_behind_slash`, `greedy_before_slash` — the greedy choice when a slash is added at either end.
* `captures_slashed` — a path with and without slashes at its ends.
-/

namespace RoutePattern

/-! ## Strict slashes are a special case -/

theorem Decomposition.Along.relax {rooted : Bool} {segments : List Segment} {path : List Char}
    {choice : Decomposition} (along : choice.Along false rooted segments path) :
    choice.Along true rooted segments path := by
  refine ⟨along.text, along.fit, ?_, .inl (along.trail.resolve_right (by simp))⟩
  have lead : choice.lead = if rooted then ['/'] else [] := along.lead
  cases rooted
  · exact .inl lead
  · exact .inr lead

/-- Behind a slash, the values that are greedy without optional slashes are greedy with them. -/
theorem greedy_of_strict {segments : List Segment} {path : List Char} {choice : Decomposition}
    (greedy : choice.Greedy (Decomposition.Along false true segments path)) :
    choice.Greedy (Decomposition.Along true true segments path) := by
  have along := greedy.mem
  have lead : choice.lead = ['/'] := along.lead
  have trail : choice.trail = [] := along.trail.resolve_right (by simp)
  refine Decomposition.greedy_of_not_longer along.relax ?_ ?_
  · intro other otherAlong
    obtain none | slash := otherAlong.lead
    · simp [none]
    · simp [slash, lead]
  · intro other otherAlong sameLead longer
    have strictly : ∀ values, Fit segments values → path = choice.lead ++
        Text.joinPieces (filledPieces segments values) → ¬ Longer values choice.values := by
      intro values fit text
      have strict : Decomposition.Along false true segments path ⟨choice.lead, values, []⟩ :=
        ⟨by simpa using text, fit, along.lead, .inl rfl⟩
      exact greedy.not_longer strict rfl
    have text := otherAlong.text
    rw [sameLead] at text
    obtain none | ⟨-, slash⟩ := otherAlong.trail
    · rw [none, List.append_nil] at text
      exact strictly _ otherAlong.fit text longer
    · -- The slash that is left could be taken by a value, unless no text goes on with it.
      rw [slash, List.append_assoc] at text
      have whole : Text.joinPieces (filledPieces segments choice.values) =
          Text.joinPieces (filledPieces segments other.values) ++ ['/'] := by
        have own := along.text
        rw [trail, List.append_nil] at own
        exact List.append_cancel_left (own.symm.trans text)
      have spelled := spells_placesOf.mpr ⟨otherAlong.fit, rfl⟩
      obtain taking | refusing := takes_or_refuses_slash (placesOf segments)
      · obtain ⟨more, extended, longerMore⟩ := taking _ _ spelled
        obtain ⟨fit, moreText⟩ := spells_placesOf.mp extended
        exact strictly more fit (by rw [text, moreText]) (longerMore.trans longer)
      · exact refusing _ _ _ (spells_placesOf.mpr ⟨along.fit, whole.symm⟩) spelled

/-- A path that is accepted strictly is accepted with optional slashes. If the pattern begins with a
    slash, the same values are captured from it. -/
theorem captures_of_strict [Character.Names] {pattern path : String} {strict relaxed : Route}
    (compiledStrict : (Route.ofPattern (.standard false) pattern).outcome = .ok strict)
    (compiledRelaxed : (Route.ofPattern (.standard true) pattern).outcome = .ok relaxed)
    (accepted : strict.test path = true) :
    relaxed.test path = true ∧
      (['/'] <+: pattern.toList → ∃ values, (strict.captures path).outcome = .ok values ∧
        (relaxed.captures path).outcome = .ok values) := by
  rw [ofPattern_standard] at compiledStrict compiledRelaxed
  cases compiledStrict
  cases compiledRelaxed
  obtain ⟨choice, found, along⟩ := exists_head_of_test accepted
  refine ⟨(test_standard_iff ..).mpr ⟨choice, along.relax⟩, fun slashed => ?_⟩
  have present : pattern ≠ "" := by
    rintro rfl
    simp at slashed
  have rooted := (isRooted_iff present).mpr slashed
  have greedy := greedy_iff_head.mpr found
  rw [rooted] at greedy
  have foundRelaxed : (pathChoices true pattern path).head? = some choice := by
    rw [pathChoices, rooted]
    exact greedy_iff_head.mp (greedy_of_strict greedy)
  exact ⟨_, captures_of_head found, captures_of_head foundRelaxed⟩

/-- The value could take in one slash less, and leave it to the end of the path. -/
theorem captures_of_strict_listing :
    let strict := Route.standard false "/[...dir]/"
    let relaxed := Route.standard true "/[...dir]/"
    (Route.ofPattern (.standard false) "/[...dir]/").outcome = .ok strict ∧
      (Route.ofPattern (.standard true) "/[...dir]/").outcome = .ok relaxed ∧
      strict.test "/a//" = true ∧ (relaxed.captures "/a//").outcome = .ok [some "a/"] := by
  intro strict relaxed
  have compiledStrict := ofPattern_standard false "/[...dir]/"
  have compiledRelaxed := ofPattern_standard true "/[...dir]/"
  have accepted : strict.test "/a//" = true := by decide +kernel
  obtain ⟨-, same⟩ := captures_of_strict compiledStrict compiledRelaxed accepted
  obtain ⟨values, captured, capturedRelaxed⟩ := same ⟨_, rfl⟩
  have value : (strict.captures "/a//").outcome = .ok [some "a/"] := by decide +kernel
  rw [value] at captured
  cases captured
  exact ⟨compiledStrict, compiledRelaxed, accepted, capturedRelaxed⟩

/-! ## A slash added at the end -/

/-- The values when a slash is added at the end of a path: a placeholder for several segments that
    ends the pattern takes it in. -/
def takeSlash (segments : List Segment) (values : List (List Char)) : List (List Char) :=
  match segments.getLast? with
  | some (.placeholder .multi _ "") => values.modifyLast (· ++ ['/'])
  | _ => values

theorem takeSlash_of_open {segments : List Segment} {name : String}
    (isOpen : segments.getLast? = some (.placeholder .multi name "")) (values : List (List Char)) :
    takeSlash segments values = values.modifyLast (· ++ ['/']) := by
  simp [takeSlash, isOpen]

theorem takeSlash_of_closed {segments : List Segment}
    (closed : ∀ name, segments.getLast? ≠ some (.placeholder .multi name ""))
    (values : List (List Char)) : takeSlash segments values = values := by
  unfold takeSlash
  split
  · exact absurd ‹_› (closed _)
  · rfl

/-- Values for segments that end in a placeholder for several segments: the last value stands at the
    end of the text, alone or behind a slash. -/
theorem exists_row_concat_open (front : List Segment) (name : String) :
    ∃ row, (front ≠ [] → ∃ before, row = before ++ [.char '/']) ∧ ∀ values text,
      Fit (front ++ [.placeholder .multi name ""]) values ∧
          text = Text.joinPieces (filledPieces (front ++ [.placeholder .multi name ""]) values) ↔
        ∃ before value first, Spells row before first ∧ Reach.multi.Accepts value ∧
          values = before ++ [value] ∧ text = first ++ value := by
  have places : ∃ row, (front ≠ [] → ∃ before, row = before ++ [.char '/']) ∧
      placesOf (front ++ [.placeholder .multi name ""]) = row ++ [.value .multi] := by
    cases front with
    | nil => exact ⟨[], fun present => absurd rfl present, rfl⟩
    | cons first rest =>
      refine ⟨first.places ++ rest.flatMap (fun next => .char '/' :: next.places) ++ [.char '/'],
        fun _ => ⟨_, rfl⟩, ?_⟩
      simp [placesOf, places_placeholder, placesOfText]
  obtain ⟨row, behindSlash, places⟩ := places
  refine ⟨row, behindSlash, fun values text => ?_⟩
  rw [← spells_placesOf, places]
  exact spells_concat_value

theorem takeSlash_eq_or_longer (segments : List Segment) (values : List (List Char)) :
    takeSlash segments values = values ∨ Longer (takeSlash segments values) values := by
  unfold takeSlash
  split
  · obtain rfl | ⟨front, value, rfl⟩ := List.eq_nil_or_concat' values
    · exact .inl rfl
    · rw [List.modifyLast_concat]
      exact .inr (.behind front (.head (by simp)))
  · exact .inl rfl

theorem longer_of_concat_append {front others : List (List Char)} {value other more : List Char}
    (same : front.length = others.length)
    (longer : Longer (front ++ [value ++ more]) (others ++ [other ++ more])) :
    Longer (front ++ [value]) (others ++ [other]) := by
  induction front generalizing others with
  | nil =>
    obtain rfl := List.length_eq_zero_iff.mp same.symm
    generalize grown : value ++ more = first, otherGrown : other ++ more = second at longer
    cases longer with
    | head longer =>
      rw [← grown, ← otherGrown, List.length_append, List.length_append] at longer
      exact .head (Nat.lt_of_add_lt_add_right longer)
    | tail _ none => cases none
  | cons first front ih =>
    cases others with
    | nil => cases same
    | cons otherFirst others =>
      cases longer with
      | head longer => exact .head longer
      | tail _ longer => exact .tail _ (ih (Nat.succ.inj same) longer)

/-- Taking in a slash keeps the order of preference. -/
theorem Longer.of_takeSlash {segments : List Segment} {values others : List (List Char)}
    (same : values.length = others.length)
    (longer : Longer (takeSlash segments values) (takeSlash segments others)) :
    Longer values others := by
  unfold takeSlash at longer
  split at longer
  · obtain rfl | ⟨front, value, rfl⟩ := List.eq_nil_or_concat' values
    · cases longer
    · obtain rfl | ⟨otherFront, other, rfl⟩ := List.eq_nil_or_concat' others
      · simp at same
      · rw [List.modifyLast_concat, List.modifyLast_concat] at longer
        exact longer_of_concat_append (by simpa using same) longer
  · exact longer

section Ends

variable {segments : List Segment} {values : List (List Char)}

/-- A slash can always be added at the end: it is taken in, or it stands behind the last segment. -/
theorem exists_trail_takeSlash (fit : Fit segments values) :
    ∃ trail, TrailAllowed true trail ∧ Fit segments (takeSlash segments values) ∧
      Text.joinPieces (filledPieces segments (takeSlash segments values)) ++ trail =
        Text.joinPieces (filledPieces segments values) ++ ['/'] := by
  by_cases isOpen : ∃ name, segments.getLast? = some (.placeholder .multi name "")
  · obtain ⟨name, isOpen⟩ := isOpen
    rw [takeSlash_of_open isOpen]
    obtain ⟨front, rfl⟩ := List.getLast?_eq_some_iff.mp isOpen
    obtain ⟨row, -, spells⟩ := exists_row_concat_open front name
    obtain ⟨before, value, first, start, accepted, rfl, text⟩ := (spells _ _).mp ⟨fit, rfl⟩
    obtain ⟨fitGrown, textGrown⟩ :=
      (spells _ _).mpr ⟨before, _, first, start, accepted.concat_slash, rfl, rfl⟩
    rw [List.modifyLast_concat]
    exact ⟨[], .inl rfl, fitGrown, by rw [← textGrown, text]; simp⟩
  · rw [takeSlash_of_closed (not_exists.mp isOpen)]
    exact ⟨['/'], .inr ⟨rfl, rfl⟩, fit, rfl⟩

variable (free : ∀ segment ∈ segments, '/' ∉ segment.text)
  (narrow : ∀ segment ∈ segments.head?, segment.reach? ≠ some .multi)
  (named : ∀ segment ∈ segments.getLast?, segment.text ≠ [])

include free narrow named

/-- A slash at the end of a filled text was taken in by the last value, which had a text before. -/
theorem exists_of_concat_slash {others : List (List Char)} {text : List Char}
    (fit : Fit segments others)
    (whole : Text.joinPieces (filledPieces segments others) = text ++ ['/'])
    (bare : text.getLast? ≠ some '/') :
    ∃ values, Fit segments values ∧ Text.joinPieces (filledPieces segments values) = text ∧
      others = takeSlash segments values := by
  obtain rfl | ⟨front, segment, rfl⟩ := List.eq_nil_or_concat' segments
  · simp [filledPieces, Text.joinPieces] at whole
  have textPresent : segment.text ≠ [] := named segment (by simp)
  obtain ⟨pieces, piece, filled, -, empty, ends⟩ := ends_filled (free segment (by simp)) fit
  have slashed : (Text.joinPieces (filledPieces (front ++ [segment]) others)).getLast? = some '/' := by
    simp [whole]
  rw [filled, Text.getLast?_joinPieces, ends, empty] at slashed
  obtain ⟨name, isOpen, -⟩ := slashed.resolve_right fun none => textPresent none.1
  obtain rfl : segment = .placeholder .multi name "" := by simpa using isOpen
  obtain ⟨row, behindSlash, spells⟩ := exists_row_concat_open front name
  obtain ⟨before, value, first, start, accepted, rfl, same⟩ := (spells _ _).mp ⟨fit, whole.symm⟩
  obtain none | ⟨begun, c, rfl⟩ := List.eq_nil_or_concat' value
  · exact absurd none accepted.1
  rw [← List.append_assoc] at same
  obtain ⟨rfl, rfl⟩ : text = first ++ begun ∧ '/' = c := by simpa using List.append_inj' same rfl
  have begunPresent : begun ≠ [] := by
    rintro rfl
    -- Otherwise the slash before the last segment would end the text.
    have present : front ≠ [] := by
      rintro rfl
      exact narrow _ rfl rfl
    obtain ⟨earlier, rfl⟩ := behindSlash present
    obtain ⟨_, -, rfl⟩ := spells_concat_char.mp start
    simp at bare
  have shorter : Reach.multi.Accepts begun :=
    ⟨begunPresent, fun d member => accepted.2 d (List.mem_append_left _ member)⟩
  obtain ⟨fitShorter, textShorter⟩ :=
    (spells _ _).mpr ⟨before, begun, first, start, shorter, rfl, rfl⟩
  refine ⟨_, fitShorter, textShorter.symm, ?_⟩
  rw [takeSlash_of_open isOpen, List.modifyLast_concat]

/-- Without the slash at its end, a path is read in the same way, and the last value may have taken
    the slash in. -/
theorem exists_along_of_concat_slash {rooted : Bool} {path : List Char} {choice : Decomposition}
    (present : path ≠ []) (bare : path.getLast? ≠ some '/')
    (along : choice.Along true rooted segments (path ++ ['/'])) :
    ∃ values, Decomposition.Along true rooted segments path ⟨choice.lead, values, []⟩ ∧
      (choice.values = values ∨ choice.values = takeSlash segments values) := by
  have text := along.text
  obtain none | ⟨-, slash⟩ := along.trail
  · rw [none, List.append_nil] at text
    obtain empty | ⟨begun, c, spelled⟩ :=
      List.eq_nil_or_concat' (Text.joinPieces (filledPieces segments choice.values))
    · -- Nothing but a slash can stand before no text.
      rw [empty, List.append_nil] at text
      obtain lead | lead := along.lead <;> simp [lead, present] at text
    · rw [spelled, ← List.append_assoc] at text
      obtain ⟨rfl, rfl⟩ : path = choice.lead ++ begun ∧ '/' = c := by
        simpa using List.append_inj' text rfl
      have begunBare : begun.getLast? ≠ some '/' := by
        intro ends
        simp [List.getLast?_append, ends] at bare
      obtain ⟨values, fit, filled, same⟩ :=
        exists_of_concat_slash free narrow named along.fit spelled begunBare
      exact ⟨values, ⟨by simp [filled], fit, along.lead, .inl rfl⟩, .inr same⟩
  · rw [slash, List.append_cancel_right_eq] at text
    exact ⟨choice.values, ⟨by simpa using text, along.fit, along.lead, .inl rfl⟩, .inl rfl⟩

theorem greedy_before_slash {rooted : Bool} {path : List Char} {choice : Decomposition}
    (present : path ≠ []) (bare : path.getLast? ≠ some '/')
    (greedy : choice.Greedy (Decomposition.Along true rooted segments path)) :
    ∃ trail, Decomposition.Greedy (Decomposition.Along true rooted segments (path ++ ['/']))
      ⟨choice.lead, takeSlash segments choice.values, trail⟩ := by
  have along := greedy.mem
  have noTrail : choice.trail = [] := by
    refine along.trail.resolve_right fun slash => bare ?_
    simp [along.text, slash.2]
  obtain ⟨trail, allowed, fit, text⟩ := exists_trail_takeSlash along.fit
  refine ⟨trail, Decomposition.greedy_of_not_longer ⟨?_, fit, along.lead, allowed⟩ ?_ ?_⟩
  · rw [List.append_assoc, text, along.text, noTrail]
    simp
  · intro other otherAlong
    obtain ⟨values, shorter, -⟩ :=
      exists_along_of_concat_slash free narrow named present bare otherAlong
    exact greedy.lead ⟨_, values, []⟩ shorter
  · intro other otherAlong sameLead longer
    obtain ⟨values, shorter, same⟩ :=
      exists_along_of_concat_slash free narrow named present bare otherAlong
    refine greedy.not_longer shorter sameLead ?_
    obtain same | same := same
    · rw [same] at longer
      obtain kept | grown := takeSlash_eq_or_longer segments choice.values
      · rwa [kept] at longer
      · exact longer.trans grown
    · rw [same] at longer
      refine longer.of_takeSlash ?_
      exact shorter.fit.length_eq.symm.trans along.fit.length_eq

end Ends

/-! ## A slash added at the start -/

/-- A first segment with a text of its own or a value without slashes begins with another character. -/
theorem exists_first_piece {segment : Segment} {rest : List Segment} {values : List (List Char)}
    (free : '/' ∉ segment.text) (narrow : segment.reach? ≠ some .multi) (named : segment.text ≠ [])
    (fit : Fit (segment :: rest) values) :
    ∃ c piece pieces, filledPieces (segment :: rest) values = (c :: piece) :: pieces ∧ c ≠ '/' := by
  obtain ⟨piece, pieces, filled, empty, begins⟩ := begins_filled free fit
  cases piece with
  | nil => exact absurd (empty rfl) named
  | cons c piece =>
    refine ⟨c, piece, pieces, filled, ?_⟩
    rintro rfl
    obtain ⟨name, suffix, isMulti, -⟩ := begins.mp rfl
    obtain rfl : segment = .placeholder .multi name suffix := by simpa using isMulti
    exact narrow rfl

/-- Behind a slash at its start, a path is read in the same way. -/
theorem along_of_cons_slash {rooted : Bool} {segments : List Segment} {path : List Char}
    {choice : Decomposition} (free : ∀ segment ∈ segments, '/' ∉ segment.text)
    (narrow : ∀ segment ∈ segments.head?, segment.reach? ≠ some .multi)
    (named : ∀ segment ∈ segments.head?, segment.text ≠ []) (present : path ≠ [])
    (along : choice.Along true rooted segments ('/' :: path)) :
    Decomposition.Along true rooted segments path ⟨[], choice.values, choice.trail⟩ := by
  have text := along.text
  obtain none | slash := along.lead
  · -- Neither the first segment nor what is left behind no segment begins with the slash.
    exfalso
    rw [none, List.nil_append] at text
    cases segments with
    | nil =>
      rw [filledPieces, Text.joinPieces, List.nil_append] at text
      obtain noTrail | ⟨-, slash⟩ := along.trail
      · simp [noTrail] at text
      · simp [slash, present] at text
    | cons segment rest =>
      obtain ⟨c, piece, pieces, filled, other⟩ :=
        exists_first_piece (free segment (by simp)) (narrow segment rfl) (named segment rfl) along.fit
      rw [filled, Text.joinPieces_cons, List.cons_append, List.cons_append] at text
      exact other (List.head_eq_of_cons_eq text).symm
  · rw [slash, List.append_assoc, List.singleton_append] at text
    exact ⟨by simpa using List.tail_eq_of_cons_eq text, along.fit, .inl rfl, along.trail⟩

theorem greedy_behind_slash {rooted : Bool} {segments : List Segment} {path : List Char}
    {choice : Decomposition} (bare : path.head? ≠ some '/')
    (greedy : choice.Greedy (Decomposition.Along true rooted segments path)) :
    Decomposition.Greedy (Decomposition.Along true rooted segments ('/' :: path))
      ⟨['/'], choice.values, choice.trail⟩ := by
  have along := greedy.mem
  have noLead : choice.lead = [] := by
    refine along.lead.resolve_right fun slash => bare ?_
    simp [along.text, slash]
  have text := along.text
  rw [noLead] at text
  refine Decomposition.greedy_of_not_longer ⟨by simp [text], along.fit, .inr rfl, along.trail⟩ ?_ ?_
  · intro other otherAlong
    obtain none | slash := otherAlong.lead
    · simp [none]
    · simp [slash]
  · intro other otherAlong sameLead
    have otherText := otherAlong.text
    rw [sameLead, List.append_assoc, List.singleton_append] at otherText
    have bareAlong : Decomposition.Along true rooted segments path
        ⟨[], other.values, other.trail⟩ :=
      ⟨by simpa using List.tail_eq_of_cons_eq otherText, otherAlong.fit, .inl rfl, otherAlong.trail⟩
    have refused := greedy.not_longer bareAlong noLead.symm
    exact refused

/-! ## Paths with and without slashes at their ends -/

theorem captures_of_greedy {pattern path : String} {choice : Decomposition}
    (greedy : choice.Greedy
      (Decomposition.Along true (isRooted pattern) (segmentsOf pattern) path.toList)) :
    (Route.standard true pattern).Captures path choice.values :=
  captures_of_head (greedy_iff_head.mp greedy)

theorem test_of_along {pattern path : String} {choice : Decomposition}
    (along : choice.Along true (isRooted pattern) (segmentsOf pattern) path.toList) :
    (Route.standard true pattern).test path = true :=
  (test_standard_iff true pattern path).mpr ⟨choice, along⟩

theorem exists_greedy_of_test {pattern path : String}
    (accepted : (Route.standard true pattern).test path = true) :
    ∃ choice, Decomposition.Greedy
      (Decomposition.Along true (isRooted pattern) (segmentsOf pattern) path.toList) choice := by
  obtain ⟨choice, found, -⟩ := exists_head_of_test accepted
  exact ⟨choice, greedy_iff_head.mpr found⟩

/-- Text before the first slash of a pattern, or behind its last one, is text of a segment. -/
theorem text_ne_nil_of_mem {texts : Option String} (present : ∀ text ∈ texts, text ≠ "") :
    ∀ segment ∈ texts.map Segment.ofText, segment.text ≠ [] := by
  intro segment member
  obtain ⟨text, found, rfl⟩ := Option.map_eq_some_iff.mp member
  rw [Segment.text, source_ofText]
  exact fun empty => present text found (String.toList_eq_nil_iff.mp empty)

section Slashed

variable {pattern path : String}
  (first : ∀ text ∈ (patternSegments pattern).head?, text ≠ "")
  (last : ∀ text ∈ (patternSegments pattern).getLast?, text ≠ "")
  (narrow : ∀ segment ∈ (segmentsOf pattern).head?, segment.reach? ≠ some .multi)

include first in
theorem text_head_ne_nil : ∀ segment ∈ (segmentsOf pattern).head?, segment.text ≠ [] := by
  rw [segmentsOf, List.head?_map]
  exact text_ne_nil_of_mem first

include last in
theorem text_last_ne_nil : ∀ segment ∈ (segmentsOf pattern).getLast?, segment.text ≠ [] := by
  rw [segmentsOf, List.getLast?_map]
  exact text_ne_nil_of_mem last

theorem greedy_cons_slash (bare : path.toList.head? ≠ some '/') {choice : Decomposition}
    (greedy : choice.Greedy
      (Decomposition.Along true (isRooted pattern) (segmentsOf pattern) path.toList)) :
    Decomposition.Greedy
      (Decomposition.Along true (isRooted pattern) (segmentsOf pattern) ("/" ++ path).toList)
      ⟨['/'], choice.values, choice.trail⟩ := by
  rw [String.toList_append]
  exact greedy_behind_slash bare greedy

theorem around_cons_slash (present : path.toList ≠ []) (ends : path.toList.getLast? ≠ some '/') :
    ("/" ++ path).toList ≠ [] ∧ ("/" ++ path).toList.getLast? ≠ some '/' := by
  rw [String.toList_append, List.getLast?_append_of_ne_nil _ present]
  exact ⟨by simp, ends⟩

include first narrow in
theorem test_behind_slash (present : path.toList ≠ []) (bare : path.toList.head? ≠ some '/') :
    (Route.standard true pattern).test ("/" ++ path) =
      (Route.standard true pattern).test path := by
  have named := text_head_ne_nil first
  rw [Bool.eq_iff_iff]
  constructor
  · intro accepted
    obtain ⟨choice, greedy⟩ := exists_greedy_of_test accepted
    rw [String.toList_append] at greedy
    exact test_of_along
      (along_of_cons_slash (slashFree_segmentsOf pattern) narrow named present greedy.mem)
  · intro accepted
    obtain ⟨choice, greedy⟩ := exists_greedy_of_test accepted
    exact test_of_along (greedy_cons_slash bare greedy).mem

include first narrow in
/-- A pattern with segments accepts no path that is made of slashes. -/
theorem refused_of_slashes (present : segmentsOf pattern ≠ [])
    (slashes : ∀ c ∈ path.toList, c = '/') : (Route.standard true pattern).test path = false := by
  rw [← Bool.not_eq_true, test_standard_iff]
  rintro ⟨choice, along⟩
  obtain ⟨segment, rest, shape⟩ := List.exists_cons_of_ne_nil present
  have head : segment ∈ (segmentsOf pattern).head? := by simp [shape]
  have fit := along.fit
  rw [shape] at fit
  obtain ⟨c, piece, pieces, filled, other⟩ := exists_first_piece
    (slashFree_segmentsOf pattern segment (by simp [shape])) (narrow segment head)
    (text_head_ne_nil first segment head) fit
  refine other (slashes c ?_)
  rw [along.text, shape, filled, Text.joinPieces_cons]
  simp

include last narrow

theorem greedy_concat_slash (present : path.toList ≠ []) (bare : path.toList.getLast? ≠ some '/')
    {choice : Decomposition} (greedy : choice.Greedy
      (Decomposition.Along true (isRooted pattern) (segmentsOf pattern) path.toList)) :
    ∃ trail, Decomposition.Greedy
      (Decomposition.Along true (isRooted pattern) (segmentsOf pattern) (path ++ "/").toList)
      ⟨choice.lead, takeSlash (segmentsOf pattern) choice.values, trail⟩ := by
  have named := text_last_ne_nil last
  rw [String.toList_append]
  exact greedy_before_slash (slashFree_segmentsOf pattern) narrow named present bare greedy

theorem test_before_slash (present : path.toList ≠ []) (bare : path.toList.getLast? ≠ some '/') :
    (Route.standard true pattern).test (path ++ "/") =
      (Route.standard true pattern).test path := by
  have named := text_last_ne_nil last
  rw [Bool.eq_iff_iff]
  constructor
  · intro accepted
    obtain ⟨choice, greedy⟩ := exists_greedy_of_test accepted
    rw [String.toList_append] at greedy
    obtain ⟨values, along, -⟩ := exists_along_of_concat_slash (slashFree_segmentsOf pattern) narrow
      named present bare greedy.mem
    exact test_of_along along
  · intro accepted
    obtain ⟨choice, greedy⟩ := exists_greedy_of_test accepted
    obtain ⟨trail, greedySlashed⟩ := greedy_concat_slash last narrow present bare greedy
    exact test_of_along greedySlashed.mem

/-- The same values are captured from a path with and without slashes at its ends, up to the slash
    that the last value takes in. -/
theorem exists_captures_slashed (present : path.toList ≠ []) (begins : path.toList.head? ≠ some '/')
    (ends : path.toList.getLast? ≠ some '/')
    (accepted : (Route.standard true pattern).test path = true) :
    ∃ values,
      (Route.standard true pattern).Captures path values ∧
      (Route.standard true pattern).Captures ("/" ++ path) values ∧
      (Route.standard true pattern).Captures (path ++ "/")
        (takeSlash (segmentsOf pattern) values) ∧
      (Route.standard true pattern).Captures ("/" ++ path ++ "/")
        (takeSlash (segmentsOf pattern) values) := by
  obtain ⟨choice, greedy⟩ := exists_greedy_of_test accepted
  have greedyBehind := greedy_cons_slash begins greedy
  obtain ⟨around, aroundEnds⟩ := around_cons_slash present ends
  obtain ⟨trail, greedyBefore⟩ := greedy_concat_slash last narrow present ends greedy
  obtain ⟨outerTrail, greedyAround⟩ :=
    greedy_concat_slash last narrow around aroundEnds greedyBehind
  have captured := captures_of_greedy greedyBehind
  exact ⟨choice.values, captures_of_greedy greedy, captured, captures_of_greedy greedyBefore,
    captures_of_greedy greedyAround⟩

end Slashed

/-- A path is accepted no matter whether slashes stand at its ends, and the same values are captured
    from it. Only a placeholder for several segments that ends the pattern takes a slash at the end
    of the path in. -/
theorem captures_slashed [Character.Names] {pattern path : String} {route : Route}
    (compiled : (Route.ofPattern (.standard true) pattern).outcome = .ok route)
    (first : ∀ text ∈ (patternSegments pattern).head?, text ≠ "")
    (last : ∀ text ∈ (patternSegments pattern).getLast?, text ≠ "")
    (narrow : ∀ part ∈ route.template.parts.head?, part.segment.reach? ≠ some .multi)
    (begins : path.toList.head? ≠ some '/') (ends : path.toList.getLast? ≠ some '/') :
    let segments := route.template.parts.map Part.segment
    (route.test ("/" ++ path) = route.test path ∧ route.test (path ++ "/") = route.test path ∧
      route.test ("/" ++ path ++ "/") = route.test path) ∧
    (route.test path = true → ∃ values,
      route.Captures path values ∧
      route.Captures ("/" ++ path) values ∧
      route.Captures (path ++ "/") (takeSlash segments values) ∧
      route.Captures ("/" ++ path ++ "/") (takeSlash segments values)) := by
  rw [ofPattern_standard] at compiled
  cases compiled
  intro segments
  have same : segments = segmentsOf pattern := segments_standard true pattern
  rw [same]
  have narrowSegment : ∀ segment ∈ (segmentsOf pattern).head?, segment.reach? ≠ some .multi := by
    intro segment member
    rw [← same, List.head?_map] at member
    obtain ⟨part, found, rfl⟩ := Option.map_eq_some_iff.mp member
    exact narrow part found
  by_cases present : path = ""
  · subst present
    by_cases none : segmentsOf pattern = []
    · -- Only the empty pattern has no segment.
      obtain rfl : pattern = "" := by
        by_contra some
        exact segmentsOf_ne_nil some none
      refine ⟨by decide +kernel, fun _ => ⟨[], ?_⟩⟩
      unfold Route.Captures
      decide +kernel
    · have refused : ∀ path : String, (∀ c ∈ path.toList, c = '/') →
          (Route.standard true pattern).test path = false :=
        fun _ => refused_of_slashes first narrowSegment none
      have refusedEmpty := refused "" (by simp)
      refine ⟨⟨?_, ?_, ?_⟩, fun accepted => ?_⟩
      · rw [refusedEmpty, refused _ (by simp)]
      · rw [refusedEmpty, refused _ (by simp)]
      · rw [refusedEmpty, refused _ (by simp)]
      · simp [refusedEmpty] at accepted
  · have nonempty : path.toList ≠ [] := by simpa using present
    obtain ⟨around, aroundEnds⟩ := around_cons_slash nonempty ends
    have behind := test_behind_slash first narrowSegment nonempty begins
    have before := test_before_slash last narrowSegment nonempty ends
    have both := test_before_slash last narrowSegment around aroundEnds
    exact ⟨⟨behind, before, both.trans behind⟩,
      exists_captures_slashed last narrowSegment nonempty begins ends⟩

theorem captures_slashed_listing :
    let route := Route.standard true "/[user]/[...dir]"
    (Route.ofPattern (.standard true) "/[user]/[...dir]").outcome = .ok route ∧
      (∀ text ∈ (patternSegments "/[user]/[...dir]").head?, text ≠ "") ∧
      (∀ text ∈ (patternSegments "/[user]/[...dir]").getLast?, text ≠ "") ∧
      (∀ part ∈ route.template.parts.head?, part.segment.reach? ≠ some .multi) ∧
      ("u/a/b".toList.head? ≠ some '/' ∧ "u/a/b".toList.getLast? ≠ some '/') ∧
      route.Captures ("/" ++ "u/a/b") ["u".toList, "a/b".toList] ∧
      route.Captures ("/" ++ "u/a/b" ++ "/") ["u".toList, "a/b/".toList] := by
  intro route
  have compiled := ofPattern_standard true "/[user]/[...dir]"
  have first : ∀ text ∈ (patternSegments "/[user]/[...dir]").head?, text ≠ "" := by decide +kernel
  have last : ∀ text ∈ (patternSegments "/[user]/[...dir]").getLast?, text ≠ "" := by
    decide +kernel
  have narrow : ∀ part ∈ route.template.parts.head?, part.segment.reach? ≠ some .multi := by
    decide +kernel
  have begins : "u/a/b".toList.head? ≠ some '/' := by decide +kernel
  have ends : "u/a/b".toList.getLast? ≠ some '/' := by decide +kernel
  have accepted : route.test "u/a/b" = true := by decide +kernel
  obtain ⟨-, captured⟩ := captures_slashed compiled first last narrow begins ends
  obtain ⟨values, own, behind, -, around⟩ := captured accepted
  have value : route.Captures "u/a/b" ["u".toList, "a/b".toList] := by
    unfold Route.Captures
    decide +kernel
  obtain rfl := value.values_eq own
  exact ⟨compiled, first, last, narrow, ⟨begins, ends⟩, behind, around⟩

end RoutePattern
