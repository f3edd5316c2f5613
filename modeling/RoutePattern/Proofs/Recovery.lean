import RoutePattern.Proofs.Filling

/-! # Values that come back

A path that was filled in along a pattern may have several decompositions, since a value may hold
slashes and suffixes. With one placeholder for several segments at most, the values that were
filled in are the ones that matching prefers.

* `slashedPieces` — filled segments, each behind a slash.
* `eq_or_longer` — any other decomposition of the path gives less to the first value in which it
  differs.
* `greedy_filled` — so the filled-in values are the greedy choice.
* `bind_fill` — binding the filled path restores the values.
-/

namespace RoutePattern

/-! ## Filled segments behind slashes -/

def slashedPieces (segments : List Segment) (values : List (List Char)) : List Char :=
  (filledPieces segments values).flatMap ('/' :: ·)

theorem slashedPieces_literal (value : String) (rest : List Segment) (values : List (List Char)) :
    slashedPieces (.literal value :: rest) values =
      '/' :: (value.toList ++ slashedPieces rest values) := by
  simp [slashedPieces, filledPieces]

theorem slashedPieces_placeholder (reach : Reach) (name suffix : String) (rest : List Segment)
    (value : List Char) (values : List (List Char)) :
    slashedPieces (.placeholder reach name suffix :: rest) (value :: values) =
      '/' :: (value ++ suffix.toList ++ slashedPieces rest values) := by
  simp [slashedPieces, filledPieces]

theorem slash_joinPieces {segments : List Segment} (present : segments ≠ [])
    (values : List (List Char)) :
    '/' :: Text.joinPieces (filledPieces segments values) = slashedPieces segments values := by
  obtain ⟨segment, rest, rfl⟩ := List.exists_cons_of_ne_nil present
  exact (Text.flatMap_slash (filledPieces_ne_nil segment rest values)).symm

/-- A text that ends here or goes on with a slash. -/
def AtSlash (text : List Char) : Prop :=
  text = [] ∨ ∃ rest, text = '/' :: rest

theorem atSlash_slashedPieces (segments : List Segment) (values : List (List Char)) :
    AtSlash (slashedPieces segments values) := by
  unfold slashedPieces
  cases filledPieces segments values with
  | nil => exact .inl rfl
  | cons piece rest => exact .inr ⟨_, rfl⟩

theorem AtSlash.append {text other : List Char} (first : AtSlash text) (second : AtSlash other) :
    AtSlash (text ++ other) := by
  obtain rfl | ⟨rest, rfl⟩ := first
  · exact second
  · exact .inr ⟨_, rfl⟩

/-- A text without slashes ends at the first slash. -/
theorem eq_of_append_atSlash {piece other text otherText : List Char} (free : '/' ∉ piece)
    (otherFree : '/' ∉ other) (ends : AtSlash text) (otherEnds : AtSlash otherText)
    (same : piece ++ text = other ++ otherText) : piece = other ∧ text = otherText := by
  induction piece generalizing other with
  | nil =>
    cases other with
    | nil => exact ⟨rfl, same⟩
    | cons d others =>
      obtain rfl | ⟨rest, rfl⟩ := ends
      · cases same
      · have slash : '/' = d := (List.cons.inj same).1
        simp [← slash] at otherFree
  | cons c rest ih =>
    simp only [List.mem_cons, not_or] at free
    cases other with
    | nil =>
      obtain rfl | ⟨_, rfl⟩ := otherEnds
      · cases same
      · exact absurd (List.cons.inj same).1.symm free.1
    | cons d others =>
      simp only [List.mem_cons, not_or] at otherFree
      obtain ⟨rfl, later⟩ := List.cons.inj same
      obtain ⟨rfl, rfl⟩ := ih free.2 otherFree.2 later
      exact ⟨rfl, rfl⟩

/-! ## Counting slashes -/

/-- How many placeholders may span several segments. -/
def multiCount (segments : List Segment) : Nat :=
  segments.countP (·.reach? = some .multi)

theorem length_le_count_slashedPieces (segments : List Segment) (values : List (List Char)) :
    segments.length ≤ (slashedPieces segments values).count '/' := by
  rw [← length_filledPieces segments values, slashedPieces]
  induction filledPieces segments values with
  | nil => exact Nat.le_refl _
  | cons piece rest ih =>
    rw [List.flatMap_cons, List.count_append, List.count_cons_self, List.length_cons]
    omega

theorem slashFree_placeholder {reach : Reach} {name suffix : String}
    (slashFree : '/' ∉ (Segment.placeholder reach name suffix).text) : '/' ∉ suffix.toList := by
  rw [text_placeholder, List.mem_append, not_or] at slashFree
  exact slashFree.2

/-- Without placeholders for several segments, all slashes stand between segments. -/
theorem count_slashedPieces {segments : List Segment} {values : List (List Char)}
    (slashFree : ∀ segment ∈ segments, '/' ∉ segment.text) (noMulti : multiCount segments = 0)
    (fit : Fit segments values) :
    (slashedPieces segments values).count '/' = segments.length := by
  induction segments generalizing values with
  | nil => rfl
  | cons segment rest ih =>
    obtain ⟨free, freeRest⟩ := List.forall_mem_cons.mp slashFree
    cases segment with
    | literal value =>
      have counted := ih freeRest (by simpa [multiCount, Segment.reach?] using noMulti) fit
      have none : value.toList.count '/' = 0 := List.count_eq_zero.mpr free
      rw [slashedPieces_literal, List.count_cons_self, List.count_append, counted, none]
      simp
    | placeholder reach name suffix =>
      obtain ⟨value, others, rfl, accepted, fitRest⟩ := fit_placeholder.mp fit
      have single : reach = .single := by
        cases reach with
        | single => rfl
        | multi => simp [multiCount, Segment.reach?] at noMulti
      subst single
      have counted := ih freeRest (by simpa [multiCount, Segment.reach?] using noMulti) fitRest
      have inValue : value.count '/' = 0 := List.count_eq_zero.mpr accepted.slashFree
      have inSuffix : suffix.toList.count '/' = 0 :=
        List.count_eq_zero.mpr (slashFree_placeholder free)
      rw [slashedPieces_placeholder, List.count_cons_self, List.count_append, List.count_append,
        counted, inValue, inSuffix]
      simp

/-- A value cannot grow into the segments behind it, if these hold no further slashes. -/
theorem length_le_of_count {value other suffix text otherText : List Char}
    (ends : AtSlash text) (more : text.count '/' ≤ otherText.count '/')
    (same : other ++ suffix ++ otherText = value ++ suffix ++ text) :
    other.length ≤ value.length := by
  by_contra longer
  -- otherwise the other rest is what follows some characters of the rest, the first a slash
  have aligned : (value ++ suffix).length ≤ (other ++ suffix).length := by
    simp only [List.length_append]
    omega
  obtain ⟨extra, shape, rfl⟩ : ∃ extra, other ++ suffix = value ++ suffix ++ extra ∧
      text = extra ++ otherText := by
    obtain ⟨extra, shape, rest⟩ | ⟨extra, shape, rest⟩ := List.append_eq_append_iff.mp same
    · have short := congrArg List.length shape
      simp only [List.length_append] at short aligned
      have none : extra = [] := List.length_eq_zero_iff.mp (by omega)
      subst none
      exact ⟨[], by simpa using shape.symm, by simpa using rest.symm⟩
    · exact ⟨extra, shape, rest⟩
  have length := congrArg List.length shape
  simp only [List.length_append] at length
  obtain ⟨c, others, rfl⟩ : ∃ c others, extra = c :: others :=
    List.exists_cons_of_length_pos (by omega)
  obtain none | ⟨rest, begins⟩ := ends
  · cases none
  · rw [List.cons_append] at begins
    rw [(List.cons.inj begins).1, List.cons_append, List.count_cons_self, List.count_append]
      at more
    omega

/-! ## Other decompositions -/

/-- A value that is read from a filled path is the one that was filled in, or a shorter one. -/
theorem eq_or_shorter {reach : Reach} {name suffix : String} {rest : List Segment}
    (slashFree : ∀ segment ∈ Segment.placeholder reach name suffix :: rest, '/' ∉ segment.text)
    (unambiguous : multiCount (.placeholder reach name suffix :: rest) ≤ 1)
    {value other text : List Char} {values : List (List Char)} (accepted : reach.Accepts value)
    (otherAccepted : reach.Accepts other) (fit : Fit rest values) (otherEnds : AtSlash text)
    (slashes : rest.length ≤ text.count '/')
    (same : other ++ suffix.toList ++ text = value ++ suffix.toList ++ slashedPieces rest values) :
    other = value ∨ other.length < value.length := by
  obtain ⟨free, freeRest⟩ := List.forall_mem_cons.mp slashFree
  have suffixFree := slashFree_placeholder free
  have ends := atSlash_slashedPieces rest values
  cases reach with
  | single =>
    obtain ⟨whole, -⟩ := eq_of_append_atSlash (by simp [otherAccepted.slashFree, suffixFree])
      (by simp [accepted.slashFree, suffixFree]) otherEnds ends same
    exact .inl (List.append_cancel_right whole)
  | multi =>
    have noMulti : multiCount rest = 0 := by
      simp only [multiCount, Segment.reach?, List.countP_cons, decide_true, if_true] at unambiguous ⊢
      omega
    have bounded : other.length ≤ value.length := by
      refine length_le_of_count ends ?_ same
      rw [count_slashedPieces freeRest noMulti fit]
      exact slashes
    obtain shorter | equal := Nat.lt_or_eq_of_le bounded
    · exact .inr shorter
    · rw [List.append_assoc, List.append_assoc] at same
      exact .inl (List.append_inj_left same equal)

/-- Two decompositions of one path, the first of which leaves nothing: either they agree or the
    second one gives less to the first value in which they differ. -/
theorem eq_or_longer {segments : List Segment} {values others : List (List Char)}
    (slashFree : ∀ segment ∈ segments, '/' ∉ segment.text) (unambiguous : multiCount segments ≤ 1)
    (fit : Fit segments values) (otherFit : Fit segments others) {trail : List Char}
    (trailing : AtSlash trail)
    (same : slashedPieces segments others ++ trail = slashedPieces segments values) :
    others = values ∨ Longer values others := by
  induction segments generalizing values others with
  | nil =>
    cases fit
    cases otherFit
    exact .inl rfl
  | cons segment rest ih =>
    obtain ⟨free, freeRest⟩ := List.forall_mem_cons.mp slashFree
    cases segment with
    | literal value =>
      rw [slashedPieces_literal, slashedPieces_literal] at same
      simp only [List.cons_append, List.append_assoc, List.cons.injEq, true_and,
        List.append_cancel_left_eq] at same
      exact ih freeRest (by simpa [multiCount, Segment.reach?] using unambiguous) fit otherFit same
    | placeholder reach name suffix =>
      obtain ⟨value, values, rfl, accepted, fitRest⟩ := fit_placeholder.mp fit
      obtain ⟨other, others, rfl, otherAccepted, otherFitRest⟩ := fit_placeholder.mp otherFit
      have otherEnds := (atSlash_slashedPieces rest others).append trailing
      have slashes : rest.length ≤ (slashedPieces rest others ++ trail).count '/' := by
        rw [List.count_append]
        exact (length_le_count_slashedPieces rest others).trans (Nat.le_add_right _ _)
      rw [slashedPieces_placeholder, slashedPieces_placeholder, List.cons_append,
        List.append_assoc _ _ trail] at same
      replace same := (List.cons.inj same).2
      obtain rfl | shorter :=
        eq_or_shorter slashFree unambiguous accepted otherAccepted fitRest otherEnds slashes same
      · have unambiguousRest : multiCount rest ≤ 1 := by
          simp only [multiCount, List.countP_cons] at unambiguous ⊢
          omega
        obtain rfl | longer := ih freeRest unambiguousRest fitRest otherFitRest
          (List.append_cancel_left same)
        · exact .inl rfl
        · exact .inr (.tail _ longer)
      · exact .inr (.head shorter)

/-- A path that is filled in behind a slash has the filled-in values as its greedy
    decomposition. -/
theorem greedy_filled (optional : Bool) {segments : List Segment} {values : List (List Char)}
    (present : segments ≠ []) (slashFree : ∀ segment ∈ segments, '/' ∉ segment.text)
    (unambiguous : multiCount segments ≤ 1) (fit : Fit segments values) :
    Decomposition.Greedy
      (Decomposition.Along optional true segments (slashedPieces segments values))
      { lead := ['/'], values := values, trail := [] } := by
  have joined := slash_joinPieces present
  refine ⟨⟨by simp [joined], fit, ?_, .inl rfl⟩, ?_, ?_⟩
  · cases optional with
    | true => exact .inr rfl
    | false => rfl
  · intro other along
    have allowed := along.lead
    cases optional with
    | true => obtain empty | slash := allowed <;> simp_all
    | false => simp_all [LeadAllowed]
  · intro other along sameLead index agree value mem otherValue otherMem
    have trailing : AtSlash other.trail :=
      along.trail.imp_right fun slash => ⟨[], slash.2⟩
    have text := along.text
    rw [sameLead, List.singleton_append, joined] at text
    obtain same | longer := eq_or_longer slashFree unambiguous fit along.fit trailing text.symm
    · rw [same] at otherMem
      cases mem.symm.trans otherMem
      exact Nat.le_refl _
    · exact longer.length_le agree mem otherMem

/-! ## Binding what was filled in -/

/-- A text value that is bound to the name of a placeholder, and that it may stand for. -/
def Supplies (bindings : Bindings) (placeholder : Placeholder) (value : List Char) : Prop :=
  bindings.get? placeholder.name = some (.text (String.ofList value)) ∧
    placeholder.reach.Accepts value

theorem Supplies.provides {bindings : Bindings} {placeholder : Placeholder} {value : List Char}
    (supplied : Supplies bindings placeholder value) : Provides bindings placeholder value :=
  ⟨_, supplied.1, by simp [Value.display]⟩

theorem exists_supplied {bindings : Bindings} {placeholders : List Placeholder}
    (given : ∀ placeholder ∈ placeholders, ∃ content,
      bindings.get? placeholder.name = some (.text content) ∧
        placeholder.reach.Accepts content.toList) :
    ∃ values, List.Forall₂ (Supplies bindings) placeholders values := by
  induction placeholders with
  | nil => exact ⟨[], .nil⟩
  | cons placeholder rest ih =>
    obtain ⟨⟨content, bound, accepted⟩, givenRest⟩ := List.forall_mem_cons.mp given
    obtain ⟨values, supplied⟩ := ih givenRest
    exact ⟨content.toList :: values, .cons ⟨by simpa using bound, accepted⟩ supplied⟩

theorem lookup_supplied {bindings : Bindings} {placeholders : List Placeholder}
    {values : List (List Char)} (supplied : List.Forall₂ (Supplies bindings) placeholders values)
    {name : String} (known : name ∈ placeholders.map Placeholder.name) :
    ((placeholders.map Placeholder.name).zip
      (values.map fun value => Value.text (String.ofList value))).lookup name =
        bindings.get? name := by
  induction supplied with
  | nil => cases known
  | @cons placeholder value rest values first _ ih =>
    rw [List.map_cons, List.map_cons, List.zip_cons_cons, List.lookup_cons]
    by_cases same : name = placeholder.name
    · rw [beq_iff_eq.mpr same, same, first.1]
    · rw [beq_eq_false_iff_ne.mpr same]
      exact ih ((List.mem_cons.mp known).resolve_left same)

/-- Capturing the supplied values binds every name as it was bound before. -/
theorem get?_capturedBindings {bindings : Bindings} {placeholders : List Placeholder}
    {values : List (List Char)} (distinct : (placeholders.map Placeholder.name).Nodup)
    (covered : bindings.names.Perm (placeholders.map Placeholder.name))
    (supplied : List.Forall₂ (Supplies bindings) placeholders values) (name : String) :
    (capturedBindings (placeholders.map Placeholder.name) values).get? name =
      bindings.get? name := by
  have paired := supplied.length_eq
  rw [Bindings.get?, entries_capturedBindings distinct paired]
  by_cases known : name ∈ placeholders.map Placeholder.name
  · exact lookup_supplied supplied known
  · have unbound : name ∉ bindings.names := fun bound => known (covered.mem_iff.mp bound)
    rw [lookup_eq_none (by rwa [List.map_fst_zip (by simp [paired])])]
    exact (lookup_eq_none unbound).symm

/-- The values that were filled in behind a slash are those that matching finds first. -/
theorem head?_filled (optional : Bool) {pattern : String} {values : List (List Char)}
    (present : pattern ≠ "") (rooted : isRooted pattern = true)
    (unambiguous : multiCount (segmentsOf pattern) ≤ 1) (fit : Fit (segmentsOf pattern) values) :
    (pathChoices optional pattern
      (String.ofList (slashedPieces (segmentsOf pattern) values))).head? =
        some { lead := ['/'], values := values, trail := [] } := by
  have greedy := greedy_filled optional (segmentsOf_ne_nil present) (slashFree_segmentsOf pattern)
    unambiguous fit
  rw [pathChoices, rooted, String.toList_ofList]
  exact greedy_iff_head.mp greedy

/-- Filled segments of a pattern that begins with a slash. -/
theorem joinPieces_rooted {pattern : String} (present : pattern ≠ "")
    (rooted : isRooted pattern = true) (values : List (List Char)) :
    Text.joinPieces (leadPieces pattern ++ filledPieces (segmentsOf pattern) values) =
      slashedPieces (segmentsOf pattern) values := by
  rw [joinPieces_leadPieces present, rooted]
  exact slash_joinPieces (segmentsOf_ne_nil present) values

theorem slotCount_eq (segments : List Segment) :
    (segments.filterMap Segment.slot?).countP (·.reach = .multi) = multiCount segments := by
  rw [List.countP_filterMap, multiCount]
  congr 1
  funext segment
  cases segment with
  | literal value => rfl
  | placeholder reach name suffix => simp [Segment.slot?, Segment.reach?]

/-- Along a pattern that begins with a slash, has distinct names, at most one placeholder for
    several segments and each token once, any admitted values can be filled in, and binding the
    path gives them back: the same names with the same values. -/
theorem bind_fill [Character.Names] {optional : Bool} {pattern : String} {route : Route}
    {bindings : Bindings}
    (compiled : (Route.ofPattern (.standard optional) pattern).outcome = .ok route)
    (slashed : ['/'] <+: pattern.toList)
    (oneMulti : route.placeholders.countP (·.reach = .multi) ≤ 1) (distinct : route.names.Nodup)
    (once : ∀ placeholder ∈ route.placeholders,
      Text.occurrences placeholder.token.toList pattern.toList = 1)
    (covered : bindings.names.Perm route.names)
    (given : ∀ placeholder ∈ route.placeholders, ∃ content,
      bindings.get? placeholder.name = some (.text content) ∧
        placeholder.reach.Accepts content.toList) :
    ∃ path rebound, (route.fill bindings).outcome = .ok path ∧
      (route.bind path).outcome = .ok rebound ∧ rebound.names = route.names ∧
      ∀ name, rebound.get? name = bindings.get? name := by
  rw [ofPattern_standard] at compiled
  cases compiled
  have present : pattern ≠ "" := by
    rintro rfl
    simp at slashed
  have rooted := (isRooted_iff present).mpr slashed
  obtain ⟨values, supplied⟩ := exists_supplied given
  have paired := supplied.length_eq
  have fit : Fit (segmentsOf pattern) values := by
    rw [fit_iff_slots, ← placeholders_standard optional]
    exact supplied.imp fun _ _ => And.right
  have bracketFree := bracketFree_of_accepts fit
  have count : bindings.entries.length = values.length := by
    have sameNames := covered.length_eq
    simp only [Bindings.names, Route.names, List.length_map] at sameNames
    exact sameNames.trans paired
  have filled := fill_eq once (supplied.imp fun _ _ => Supplies.provides) bracketFree count
  rw [joinPieces_rooted present rooted] at filled
  have unambiguous : multiCount (segmentsOf pattern) ≤ 1 := by
    rw [← slotCount_eq, ← placeholders_standard optional]
    exact oneMulti
  have found := head?_filled optional present rooted unambiguous fit
  refine ⟨_, _, filled, bind_of_head found, ?_, ?_⟩
  · rw [Bindings.names, Route.names, entries_capturedBindings distinct paired]
    exact List.map_fst_zip (by simp [paired])
  · exact get?_capturedBindings distinct covered supplied

theorem bind_fill_files :
    let bindings := Bindings.ofList [("dir", .text "/a.md//b/"), ("lang", .text "en-GB.md")]
    ['/'] <+: "/[lang].md/[...dir].md/".toList ∧
      (Route.standard true "/[lang].md/[...dir].md/").names.Nodup ∧
      bindings.names.Perm (Route.standard true "/[lang].md/[...dir].md/").names ∧
      ∃ path rebound,
        ((Route.standard true "/[lang].md/[...dir].md/").fill bindings).outcome = .ok path ∧
        ((Route.standard true "/[lang].md/[...dir].md/").bind path).outcome = .ok rebound ∧
        rebound.get? "dir" = some (.text "/a.md//b/") ∧
        rebound.get? "lang" = some (.text "en-GB.md") := by
  intro bindings
  have compiled := ofPattern_standard true "/[lang].md/[...dir].md/"
  have slashed : ['/'] <+: "/[lang].md/[...dir].md/".toList := by decide +kernel
  have distinct : (Route.standard true "/[lang].md/[...dir].md/").names.Nodup := by
    decide +kernel
  have covered : bindings.names.Perm (Route.standard true "/[lang].md/[...dir].md/").names := by
    decide +kernel
  have placeholders : (Route.standard true "/[lang].md/[...dir].md/").placeholders =
      [⟨.single, "lang"⟩, ⟨.multi, "dir"⟩] := by decide +kernel
  obtain ⟨path, rebound, filled, bound, -, same⟩ :=
    bind_fill compiled slashed (by decide +kernel) distinct (by decide +kernel) covered (by
      rw [placeholders]
      simp only [List.forall_mem_cons, List.not_mem_nil, false_imp_iff, implies_true, and_true]
      exact ⟨⟨"en-GB.md", rfl, by decide, List.all_eq_true.mp (by decide +kernel)⟩,
        ⟨"/a.md//b/", rfl, by decide, List.all_eq_true.mp (by decide +kernel)⟩⟩)
  exact ⟨slashed, distinct, covered, path, rebound, filled, bound, same "dir", same "lang"⟩

end RoutePattern
