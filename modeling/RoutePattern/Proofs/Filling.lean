import RoutePattern.Proofs.Captures
import RoutePattern.Proofs.Segment

/-! # Putting values into a pattern

* `Undisturbed` — no token occurs before its own segment.
* `fillTokens_eq` — under this condition, replacing tokens one after another puts each value into
  its own segment.
* `Separated`, `fill_eq` — it holds if each token occurs once in the pattern and no value holds an
  opening bracket.
* `fill_bind` — filling a pattern with what was captured from a path restores the path.
-/

namespace RoutePattern

/-! ## Filling segment by segment -/

/-- No token of a later segment occurs in an earlier one. -/
def Separated (segments : List Segment) : Prop :=
  segments.Pairwise fun earlier later =>
    ∀ placeholder ∈ later.slot?, ¬ placeholder.token.toList <:+: earlier.text

/-- A value that is bound to the name of a placeholder. -/
def Provides (bindings : Bindings) (placeholder : Placeholder) (value : List Char) : Prop :=
  ∃ bound, bindings.get? placeholder.name = some bound ∧ bound.display.toList = value

theorem token_eq (placeholder : Placeholder) :
    ∃ rest, placeholder.token.toList = '[' :: rest := by
  obtain ⟨reach, name⟩ := placeholder
  cases reach <;> simp [Placeholder.token, Reach.token, Reach.opening]

theorem text_placeholder (reach : Reach) (name suffix : String) :
    (Segment.placeholder reach name suffix).text =
      (Placeholder.mk reach name).token.toList ++ suffix.toList := by
  simp [Segment.text, Segment.source, Placeholder.token]

/-- Behind the pieces `front`, no token occurs before its own segment: neither in these pieces nor in
    the earlier segments with their values. -/
def Undisturbed (front : List (List Char)) (segments : List Segment)
    (values : List (List Char)) : Prop :=
  ∀ index < segments.length, ∀ placeholder ∈ segments[index]?.bind Segment.slot?,
    ∀ piece ∈ front ++ filledPieces (segments.take index) values,
      ¬ placeholder.token.toList <:+: piece

instance (front : List (List Char)) (segments : List Segment) (values : List (List Char)) :
    Decidable (Undisturbed front segments values) :=
  inferInstanceAs (Decidable (∀ index < segments.length,
    ∀ placeholder ∈ segments[index]?.bind Segment.slot?,
      ∀ piece ∈ front ++ filledPieces (segments.take index) values,
        ¬ placeholder.token.toList <:+: piece))

theorem Undisturbed.literal {front : List (List Char)} {value : String} {rest : List Segment}
    {values : List (List Char)} (undisturbed : Undisturbed front (.literal value :: rest) values) :
    Undisturbed (front ++ [value.toList]) rest values := by
  intro index inside placeholder slot
  have later := undisturbed (index + 1) (Nat.succ_lt_succ inside) placeholder (by simpa using slot)
  rwa [List.take_succ_cons, filledPieces, List.append_cons] at later

theorem Undisturbed.placeholder {front : List (List Char)} {reach : Reach} {name suffix : String}
    {rest : List Segment} {value : List Char} {values : List (List Char)}
    (undisturbed : Undisturbed front (.placeholder reach name suffix :: rest) (value :: values)) :
    (∀ piece ∈ front, ¬ (Placeholder.mk reach name).token.toList <:+: piece) ∧
      Undisturbed (front ++ [value ++ suffix.toList]) rest values := by
  constructor
  · have own := undisturbed 0 (Nat.zero_lt_succ _) ⟨reach, name⟩ rfl
    rwa [List.take_zero, filledPieces, List.append_nil] at own
  · intro index inside placeholder slot
    have later := undisturbed (index + 1) (Nat.succ_lt_succ inside) placeholder
      (by simpa using slot)
    rwa [List.take_succ_cons, filledPieces, List.append_cons] at later

/-- The token of a placeholder at the start of the first segment is replaced there. -/
theorem replaceFirst_token_joinPieces {reach : Reach} {name suffix : String}
    {front : List (List Char)} (slashFree : '/' ∉ (Segment.placeholder reach name suffix).text)
    (absent : ∀ piece ∈ front, ¬ (Placeholder.mk reach name).token.toList <:+: piece)
    (value : List Char) (rest : List (List Char)) :
    Text.replaceFirst (Placeholder.mk reach name).token.toList value
        (Text.joinPieces (front ++ (Segment.placeholder reach name suffix).text :: rest)) =
      Text.joinPieces (front ++ (value ++ suffix.toList) :: rest) := by
  rw [text_placeholder] at slashFree ⊢
  rw [List.mem_append, not_or] at slashFree
  obtain ⟨tokenRest, tokenShape⟩ := token_eq ⟨reach, name⟩
  exact Text.replaceFirst_joinPieces (by simp [tokenShape]) slashFree.1 absent value
    suffix.toList _

/-- Replacing the tokens of some segments one after another puts each value into its own segment,
    if no token occurs before its own segment. -/
theorem fillTokens_eq (route : Route) {bindings : Bindings} {segments : List Segment}
    {values : List (List Char)} (slashFree : ∀ segment ∈ segments, '/' ∉ segment.text)
    (provided : List.Forall₂ (Provides bindings) (segments.filterMap Segment.slot?) values)
    {front : List (List Char)} (undisturbed : Undisturbed front segments values) :
    (route.fillTokens bindings (segments.filterMap Segment.slot?)
      (Text.joinPieces (front ++ segments.map Segment.text))).outcome =
        .ok (Text.joinPieces (front ++ filledPieces segments values)) := by
  -- The filled segments move to the front, where the remaining tokens do not occur.
  induction segments generalizing front values with
  | nil => rfl
  | cons segment rest ih =>
    obtain ⟨free, freeRest⟩ := List.forall_mem_cons.mp slashFree
    cases segment with
    | literal value =>
      have next := ih freeRest provided undisturbed.literal
      simpa [filledPieces, Segment.slot?, Segment.text, Segment.source, List.filterMap_cons] using
        next
    | placeholder reach name suffix =>
      cases provided with
      | @cons _ value _ others bound boundRest =>
        obtain ⟨given, lookup, shown⟩ := bound
        obtain ⟨absent, undisturbedRest⟩ := undisturbed.placeholder
        have next := ih freeRest boundRest undisturbedRest
        have replaced := replaceFirst_token_joinPieces free absent value (rest.map Segment.text)
        have found : bindings.get? (Placeholder.mk reach name).name = some given := lookup
        have begun : (Segment.placeholder reach name suffix :: rest).filterMap Segment.slot? =
            ⟨reach, name⟩ :: rest.filterMap Segment.slot? := rfl
        rw [begun, Route.fillTokens, found, List.map_cons]
        simp only [shown, replaced]
        simpa [filledPieces] using next

/-! ## Values without brackets -/

/-- A token that occurs in a filled segment occurs in the segment as it is written, if no value
    holds an opening bracket. -/
theorem exists_text_of_infix_filled {placeholder : Placeholder} {segments : List Segment}
    {values : List (List Char)} (bracketFree : ∀ value ∈ values, '[' ∉ value) {piece : List Char}
    (member : piece ∈ filledPieces segments values)
    (occurs : placeholder.token.toList <:+: piece) :
    ∃ segment ∈ segments, placeholder.token.toList <:+: segment.text := by
  fun_induction filledPieces segments values with
  | case1 => cases member
  | case2 value rest values ih =>
    obtain rfl | later := List.mem_cons.mp member
    · exact ⟨.literal value, by simp, occurs⟩
    · obtain ⟨segment, inRest, found⟩ := ih bracketFree later
      exact ⟨segment, by simp [inRest], found⟩
  | case3 reach name suffix rest ih =>
    obtain rfl | later := List.mem_cons.mp member
    · refine ⟨.placeholder reach name suffix, by simp, ?_⟩
      rw [text_placeholder]
      exact occurs.trans (List.suffix_append _ _).isInfix
    · obtain ⟨segment, inRest, found⟩ := ih bracketFree later
      exact ⟨segment, by simp [inRest], found⟩
  | case4 reach name suffix rest value values ih =>
    obtain ⟨valueFree, othersFree⟩ := List.forall_mem_cons.mp bracketFree
    obtain rfl | later := List.mem_cons.mp member
    · refine ⟨.placeholder reach name suffix, by simp, ?_⟩
      obtain ⟨tokenRest, shape⟩ := token_eq placeholder
      rw [shape] at occurs ⊢
      rw [text_placeholder]
      exact (Text.infix_of_infix_append valueFree occurs).trans (List.suffix_append _ _).isInfix
    · obtain ⟨segment, inRest, found⟩ := ih othersFree later
      exact ⟨segment, by simp [inRest], found⟩

theorem Separated.undisturbed {segments : List Segment} (separated : Separated segments)
    {values : List (List Char)} (bracketFree : ∀ value ∈ values, '[' ∉ value) :
    Undisturbed [] segments values := by
  intro index inside placeholder slot piece filled occurs
  rw [List.nil_append] at filled
  rw [List.getElem?_eq_getElem inside] at slot
  obtain ⟨earlier, before, found⟩ := exists_text_of_infix_filled bracketFree filled occurs
  obtain ⟨position, bound, rfl⟩ := List.mem_take_iff_getElem.mp before
  have apart := List.pairwise_iff_getElem.mp separated position index (by omega) inside (by omega)
  exact apart placeholder slot found

/-! ## Filling a whole pattern -/

theorem token_infix_text {segment : Segment} {placeholder : Placeholder}
    (slot : placeholder ∈ segment.slot?) : placeholder.token.toList <:+: segment.text := by
  cases segment with
  | literal value => cases slot
  | placeholder reach name suffix =>
    cases slot
    rw [text_placeholder]
    exact (List.prefix_append _ _).isInfix

/-- If each token occurs once in a text made of segments, none of them occurs in an earlier
    segment. -/
theorem separated_of_occursOnce {segments : List Segment} (front : List (List Char))
    (once : ∀ placeholder ∈ segments.filterMap Segment.slot?,
      Text.occurrences placeholder.token.toList
        (Text.joinPieces (front ++ segments.map Segment.text)) = 1) :
    Separated segments := by
  induction segments generalizing front with
  | nil => exact .nil
  | cons segment rest ih =>
    refine List.pairwise_cons.mpr ⟨?_, ?_⟩
    · intro later member placeholder slot early
      have counted := once placeholder
        (List.mem_filterMap.mpr ⟨later, List.mem_cons_of_mem _ member, slot⟩)
      obtain ⟨tokenRest, tokenShape⟩ := token_eq placeholder
      have present : placeholder.token.toList ≠ [] := by simp [tokenShape]
      -- The token occurs in this segment, and again in the later one.
      have inSegment := Text.occurrences_pos.mpr early
      have inRest : 0 < Text.occurrences placeholder.token.toList
          ((rest.map Segment.text).flatMap ('/' :: ·)) := by
        have mapped : later.text ∈ rest.map Segment.text := List.mem_map_of_mem member
        have placed : '/' :: later.text <:+: (rest.map Segment.text).flatMap ('/' :: ·) :=
          List.infix_of_mem_flatten (List.mem_map_of_mem mapped)
        rw [Text.occurrences_pos]
        exact (token_infix_text slot).trans ((List.suffix_cons '/' _).isInfix.trans placed)
      rw [List.map_cons, Text.joinPieces_append_cons, Text.joinPieces_cons] at counted
      have total := Text.occurrences_append_le present (front.flatMap (· ++ ['/']))
        (segment.text ++ (rest.map Segment.text).flatMap ('/' :: ·))
      have split := Text.occurrences_append_le present segment.text
        ((rest.map Segment.text).flatMap ('/' :: ·))
      omega
    · refine ih (front ++ [segment.text]) ?_
      intro placeholder member
      obtain ⟨later, inRest, slot⟩ := List.mem_filterMap.mp member
      have counted := once placeholder
        (List.mem_filterMap.mpr ⟨later, List.mem_cons_of_mem _ inRest, slot⟩)
      simpa using counted

/-- The empty piece before the first segment disturbs nothing. -/
theorem Undisturbed.behind_lead {pattern : String} {values : List (List Char)}
    (undisturbed : Undisturbed [] (segmentsOf pattern) values) :
    Undisturbed (leadPieces pattern) (segmentsOf pattern) values := by
  intro index inside placeholder slot piece member
  obtain inLead | filled := List.mem_append.mp member
  · have empty : piece = [] := by
      unfold leadPieces at inLead
      split at inLead <;> simp_all
    obtain ⟨tokenRest, tokenShape⟩ := token_eq placeholder
    simp [empty, tokenShape]
  · exact undisturbed index inside placeholder slot piece filled

/-- The placeholders of a route with the parts of its pattern; its program plays no part. -/
theorem placeholders_of_parts {settings : Settings} {route : Route}
    (parts : route.template.parts = Template.partsOf settings route.pattern) :
    route.placeholders = (segmentsOf route.pattern).filterMap Segment.slot? := by
  rw [placeholders_eq, parts, segments_partsOf]

theorem placeholders_of_compiled [Character.Names] {settings : Settings} {pattern : String}
    {route : Route} (compiled : (Route.ofPattern settings pattern).outcome = .ok route) :
    route.placeholders = (segmentsOf pattern).filterMap Segment.slot? := by
  obtain ⟨rfl, parts, -⟩ := ofPattern_eq_ok compiled
  exact placeholders_of_parts parts

/-- Filling puts each value into its own segment, if no token occurs before its own segment. -/
theorem fill_of_undisturbed {settings : Settings} {route : Route} {bindings : Bindings}
    {values : List (List Char)}
    (parts : route.template.parts = Template.partsOf settings route.pattern)
    (provided : List.Forall₂ (Provides bindings) route.placeholders values)
    (count : bindings.entries.length = values.length)
    (undisturbed : Undisturbed [] (segmentsOf route.pattern) values) :
    (route.fill bindings).outcome =
      .ok (String.ofList (Text.joinPieces
        (leadPieces route.pattern ++ filledPieces (segmentsOf route.pattern) values))) := by
  have whole : route.pattern.toList =
      Text.joinPieces (leadPieces route.pattern ++ (segmentsOf route.pattern).map Segment.text) := by
    rw [← pieces_pattern, Text.joinPieces_pieces]
  have sameCount := provided.length_eq
  rw [placeholders_of_parts parts] at provided
  have filled := fillTokens_eq route (slashFree_segmentsOf route.pattern) provided
    undisturbed.behind_lead
  rw [Route.fill, if_pos (count.trans sameCount.symm), Traced.outcome_bind,
    placeholders_of_parts parts, whole, filled]
  rfl

/-- Filling puts each value into its own segment, if each token occurs once in the pattern and no
    value holds an opening bracket. -/
theorem fill_eq {pattern : String} {optional : Bool} {bindings : Bindings}
    {values : List (List Char)}
    (once : ∀ placeholder ∈ (Route.standard optional pattern).placeholders,
      Text.occurrences placeholder.token.toList pattern.toList = 1)
    (provided : List.Forall₂ (Provides bindings) (Route.standard optional pattern).placeholders
      values)
    (bracketFree : ∀ value ∈ values, '[' ∉ value)
    (count : bindings.entries.length = values.length) :
    ((Route.standard optional pattern).fill bindings).outcome =
      .ok (String.ofList (Text.joinPieces
        (leadPieces pattern ++ filledPieces (segmentsOf pattern) values))) := by
  have whole : pattern.toList =
      Text.joinPieces (leadPieces pattern ++ (segmentsOf pattern).map Segment.text) := by
    rw [← pieces_pattern, Text.joinPieces_pieces]
  have parts : (Route.standard optional pattern).template.parts =
      Template.partsOf (.standard optional) pattern := rfl
  rw [placeholders_standard, whole] at once
  exact fill_of_undisturbed parts provided count
    ((separated_of_occursOnce _ once).undisturbed bracketFree)

/-! ## There and back -/

theorem Reach.Accepts.bracketFree {reach : Reach} {value : List Char}
    (accepted : reach.Accepts value) : '[' ∉ value := by
  intro member
  have admitted := accepted.2 '[' member
  cases reach <;> exact absurd admitted (by decide +kernel)

theorem bracketFree_of_accepts {reaches : List Reach} {values : List (List Char)}
    (accepted : List.Forall₂ Reach.Accepts reaches values) : ∀ value ∈ values, '[' ∉ value := by
  induction accepted with
  | nil => simp
  | cons first _ ih => exact List.forall_mem_cons.mpr ⟨first.bracketFree, ih⟩

theorem entries_capturedBindings {placeholders : List Placeholder} {values : List (List Char)}
    (distinct : (placeholders.map Placeholder.name).Nodup)
    (paired : placeholders.length = values.length) :
    (capturedBindings (placeholders.map Placeholder.name) values).entries =
      (placeholders.map Placeholder.name).zip
        (values.map fun value => .text (String.ofList value)) := by
  apply Bindings.entries_ofList
  rw [List.map_fst_zip (by simp [paired])]
  exact distinct

/-- With distinct names, each placeholder is bound to its own value. -/
theorem provides_capturedBindings {placeholders : List Placeholder} {values : List (List Char)}
    (distinct : (placeholders.map Placeholder.name).Nodup)
    (paired : placeholders.length = values.length) :
    List.Forall₂ (Provides (capturedBindings (placeholders.map Placeholder.name) values))
      placeholders values := by
  rw [List.forall₂_iff_zip]
  refine ⟨paired, ?_⟩
  intro placeholder value member
  refine ⟨.text (String.ofList value), ?_, by simp [Value.display]⟩
  rw [Bindings.get?, entries_capturedBindings distinct paired]
  apply lookup_of_mem
  · rw [List.map_fst_zip (by simp [paired])]
    exact distinct
  · rw [List.zip_map]
    exact List.mem_map_of_mem member

theorem joinPieces_leadPieces {pattern : String} (present : pattern ≠ "")
    (values : List (List Char)) :
    Text.joinPieces (leadPieces pattern ++ filledPieces (segmentsOf pattern) values) =
      (if isRooted pattern then ['/'] else []) ++
        Text.joinPieces (filledPieces (segmentsOf pattern) values) := by
  obtain ⟨segment, rest, shape⟩ := List.exists_cons_of_ne_nil (segmentsOf_ne_nil present)
  rw [shape]
  exact joinPieces_lead pattern (filledPieces_ne_nil segment rest values)

/-- Filling a pattern with what was captured from a path restores the path. If slashes at the ends
    are optional, they are written as the pattern has them. -/
theorem fill_bind [Character.Names] {optional : Bool} {pattern path : String} {route : Route}
    (compiled : (Route.ofPattern (.standard optional) pattern).outcome = .ok route)
    (present : pattern ≠ "") (distinct : route.names.Nodup)
    (once : ∀ placeholder ∈ route.placeholders,
      Text.occurrences placeholder.token.toList pattern.toList = 1)
    (accepted : route.test path = true) :
    ∃ bindings rebuilt, (route.bind path).outcome = .ok bindings ∧
      (route.fill bindings).outcome = .ok rebuilt ∧
      (optional = false → rebuilt = path) ∧
      (optional = true → ∃ lead core trail,
        (lead = [] ∨ lead = ['/']) ∧ (trail = [] ∨ trail = ['/']) ∧
        path.toList = lead ++ core ++ trail ∧
        rebuilt.toList = (if ['/'].isPrefixOf pattern.toList then ['/'] else []) ++ core) := by
  rw [ofPattern_standard] at compiled
  cases compiled
  obtain ⟨choice, found, along⟩ := exists_head_of_test accepted
  have paired := length_values along
  have bracketFree := bracketFree_of_accepts along.fit
  have count : (capturedBindings (Route.standard optional pattern).names
      choice.values).entries.length = choice.values.length := by
    rw [Route.names, entries_capturedBindings distinct paired]
    simp [paired]
  have filled := fill_eq once (provides_capturedBindings distinct paired) bracketFree count
  rw [joinPieces_leadPieces present] at filled
  refine ⟨_, _, bind_of_head found, filled, ?_, ?_⟩
  · intro strict
    subst strict
    have lead : choice.lead = if isRooted pattern then ['/'] else [] := along.lead
    have trail : choice.trail = [] := along.trail.resolve_right (by simp)
    rw [← String.toList_inj, along.text, lead, trail]
    simp
  · intro lenient
    subst lenient
    have trail : choice.trail = [] ∨ choice.trail = ['/'] := along.trail.imp_right And.right
    refine ⟨choice.lead, _, choice.trail, along.lead, trail, along.text, ?_⟩
    simp [isPrefixOf_slash present]

theorem fill_bind_pages :
    (Route.standard false "/[...dir]/[page].html").test "/a/b/c.html" = true ∧
      ∃ bindings, ((Route.standard false "/[...dir]/[page].html").bind "/a/b/c.html").outcome =
          .ok bindings ∧
        ((Route.standard false "/[...dir]/[page].html").fill bindings).outcome =
          .ok "/a/b/c.html" := by
  have compiled := ofPattern_standard false "/[...dir]/[page].html"
  have accepted : (Route.standard false "/[...dir]/[page].html").test "/a/b/c.html" = true := by
    decide +kernel
  obtain ⟨bindings, rebuilt, bound, filled, strict, -⟩ :=
    fill_bind compiled (by decide) (by decide +kernel) (by decide +kernel) accepted
  rw [strict rfl] at filled
  exact ⟨accepted, bindings, bound, filled⟩

end RoutePattern
