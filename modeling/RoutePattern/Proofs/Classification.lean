import RoutePattern.Proofs.Filling

/-! # Reading a pattern loses nothing

A pattern is cut at its slashes, and each segment is read as a placeholder with a suffix or as
literal text.

* `IsName`, `ofText_eq_placeholder_iff`, `ofText_eq_literal_iff` — which texts are read as what.
* `pattern_eq_joinPieces` — a pattern is its segments as they are written, with slashes between.
* `pattern_eq_sources`, `parts_of_compiled` — a pattern is its parts as they are written, and compiling
  it does not change them.
* `parts_lossless` — the parts of a pattern determine the pattern, and each of them is the
  only reading of its text.
-/

namespace RoutePattern

/-! ## Placeholders -/

/-- The name of a placeholder: ASCII letters and digits, at least one. -/
def IsName (name : String) : Prop :=
  name ≠ "" ∧ ∀ c ∈ name.toList, isNameChar c = true

theorem afterOpening?_append (opening rest : List Char) :
    afterOpening? opening (opening ++ rest) = some rest := by
  induction opening with
  | nil => rfl
  | cons c others ih =>
    rw [List.cons_append, afterOpening?, if_pos rfl, ih]

/-- The name ends at the first character that is none of a name. -/
theorem readPlaceholder?_token {reach : Reach} {name : List Char} (present : name ≠ [])
    (named : ∀ c ∈ name, isNameChar c = true) (suffix : List Char) :
    readPlaceholder? reach (reach.opening ++ name ++ ']' :: suffix) = some (name, suffix) := by
  have closing : isNameChar ']' = false := by decide
  have taken : (name ++ ']' :: suffix).takeWhile isNameChar = name := by
    rw [List.takeWhile_append_of_pos named, List.takeWhile_cons, closing]
    simp
  have left : (name ++ ']' :: suffix).dropWhile isNameChar = ']' :: suffix := by
    rw [List.dropWhile_append_of_pos named, List.dropWhile_cons, closing]
    rfl
  rw [readPlaceholder?, List.append_assoc, afterOpening?_append]
  simp only [taken, left]

theorem name_of_readPlaceholder? {reach : Reach} {text name suffix : List Char}
    (found : readPlaceholder? reach text = some (name, suffix)) :
    name ≠ [] ∧ ∀ c ∈ name, isNameChar c = true := by
  unfold readPlaceholder? at found
  cases opened : afterOpening? reach.opening text with
  | none => simp [opened] at found
  | some body =>
    simp only [opened] at found
    split at found
    · cases found
    · rename_i present
      cases found
      exact ⟨present, List.all_eq_true.mp List.all_takeWhile⟩
    · cases found

theorem placeholder?_eq_some_iff {reach : Reach} {text : String} {segment : Segment} :
    Segment.placeholder? reach text.toList = some segment ↔
      ∃ name suffix, segment = .placeholder reach name suffix ∧
        text = reach.token name ++ suffix ∧ IsName name := by
  rw [Segment.placeholder?, Option.map_eq_some_iff]
  constructor
  · rintro ⟨⟨name, suffix⟩, read, rfl⟩
    obtain ⟨present, named⟩ := name_of_readPlaceholder? read
    refine ⟨_, _, rfl, ?_, by simpa using present, by simpa using named⟩
    rw [← String.toList_inj, readPlaceholder?_eq_some read]
    simp [Reach.token]
  · rintro ⟨name, suffix, rfl, rfl, present, named⟩
    have read : readPlaceholder? reach (reach.opening ++ name.toList ++ ']' :: suffix.toList) =
        some (name.toList, suffix.toList) :=
      readPlaceholder?_token (by simpa using present) named suffix.toList
    exact ⟨(name.toList, suffix.toList), by simpa [Reach.token] using read, by simp⟩

/-- Behind the bracket stand either dots or a name, so no text is both kinds of placeholder. -/
theorem token_apart {name other suffix otherSuffix : String} (named : IsName other) :
    Reach.multi.token name ++ suffix ≠ Reach.single.token other ++ otherSuffix := by
  intro same
  obtain ⟨present, plain⟩ := named
  obtain ⟨c, rest, letters⟩ := List.exists_cons_of_ne_nil (mt String.toList_eq_nil_iff.mp present)
  have texts := String.toList_inj.mpr same
  simp only [Reach.token, Reach.opening, letters, String.toList_append, String.toList_ofList,
    List.cons_append, List.nil_append, List.cons.injEq, true_and] at texts
  have first : isNameChar c = true := plain c (by simp [letters])
  rw [← texts.1] at first
  exact absurd first (by decide)

/-! ## Segments -/

theorem ofText_of_placeholder? {reach : Reach} {text : String} {segment : Segment}
    (found : Segment.placeholder? reach text.toList = some segment) :
    Segment.ofText text = segment := by
  cases reach with
  | multi => simp [Segment.ofText, found]
  | single =>
    cases multi : Segment.placeholder? .multi text.toList with
    | none => simp [Segment.ofText, multi, found]
    | some other =>
      obtain ⟨_, _, -, written, -⟩ := placeholder?_eq_some_iff.mp multi
      obtain ⟨_, _, -, otherwise, named⟩ := placeholder?_eq_some_iff.mp found
      exact absurd (written.symm.trans otherwise) (token_apart named)

theorem exists_placeholder?_of_ofText {reach : Reach} {text name suffix : String}
    (read : Segment.ofText text = .placeholder reach name suffix) :
    ∃ other, Segment.placeholder? other text.toList = some (.placeholder reach name suffix) := by
  unfold Segment.ofText at read
  cases multi : Segment.placeholder? .multi text.toList with
  | some segment =>
    rw [multi] at read
    exact ⟨.multi, multi.trans (congrArg some read)⟩
  | none =>
    cases single : Segment.placeholder? .single text.toList with
    | some segment =>
      rw [multi, single] at read
      exact ⟨.single, single.trans (congrArg some read)⟩
    | none =>
      rw [multi, single] at read
      cases read

/-- A text is read as a placeholder exactly if it begins with its token; what stands behind the token
    is the suffix. -/
theorem ofText_eq_placeholder_iff {reach : Reach} {text name suffix : String} :
    Segment.ofText text = .placeholder reach name suffix ↔
      text = reach.token name ++ suffix ∧ IsName name := by
  constructor
  · intro read
    obtain ⟨other, found⟩ := exists_placeholder?_of_ofText read
    obtain ⟨_, _, same, written⟩ := placeholder?_eq_some_iff.mp found
    cases same
    exact written
  · intro written
    exact ofText_of_placeholder? (placeholder?_eq_some_iff.mpr ⟨name, suffix, rfl, written⟩)

/-- All other texts are literal as a whole. -/
theorem ofText_eq_literal_iff {text value : String} :
    Segment.ofText text = .literal value ↔
      value = text ∧ ∀ (reach : Reach) name suffix, IsName name → text ≠ reach.token name ++ suffix := by
  constructor
  · intro read
    have source := source_ofText text
    rw [read] at source
    refine ⟨source, fun reach name suffix named written => ?_⟩
    rw [ofText_eq_placeholder_iff.mpr ⟨written, named⟩] at read
    cases read
  · rintro ⟨rfl, other⟩
    cases shape : Segment.ofText value with
    | literal read =>
      have source := source_ofText value
      rw [shape] at source
      exact congrArg _ source
    | placeholder reach name suffix =>
      obtain ⟨written, named⟩ := ofText_eq_placeholder_iff.mp shape
      exact absurd written (other reach name suffix named)

/-! ## Patterns -/

/-- Neither the value of a literal segment nor the suffix of a placeholder holds a slash. -/
def Segment.SlashFree : Segment → Prop
  | .literal value => '/' ∉ value.toList
  | .placeholder _ _ suffix => '/' ∉ suffix.toList

theorem slashFree_of_text {segment : Segment} (free : '/' ∉ segment.text) : segment.SlashFree := by
  cases segment with
  | literal value => exact free
  | placeholder reach name suffix =>
    intro member
    rw [text_placeholder] at free
    exact free (List.mem_append_right _ member)

/-- A pattern is its segments as they are written, with slashes between them, and behind a slash if it
    begins with one. -/
theorem pattern_eq_joinPieces (pattern : String) :
    pattern.toList = (if ['/'].isPrefixOf pattern.toList then ['/'] else []) ++
      Text.joinPieces ((segmentsOf pattern).map Segment.text) := by
  by_cases empty : pattern = ""
  · subst empty
    rfl
  · have present : (segmentsOf pattern).map Segment.text ≠ [] := by
      simpa using segmentsOf_ne_nil empty
    rw [isPrefixOf_slash empty, ← joinPieces_lead pattern present, ← pieces_pattern,
      Text.joinPieces_pieces]

theorem token_multi (name : String) : Reach.multi.token name = "[..." ++ name ++ "]" := by
  rw [← String.toList_inj]
  simp [Reach.token, Reach.opening]

theorem token_single (name : String) : Reach.single.token name = "[" ++ name ++ "]" := by
  rw [← String.toList_inj]
  simp [Reach.token, Reach.opening]

/-- A text that begins with no token begins with neither kind of token. -/
theorem forall_token_ne_iff {text : String} :
    (∀ (reach : Reach) name suffix, IsName name → text ≠ reach.token name ++ suffix) ↔
      ∀ name rest, IsName name →
        text ≠ "[..." ++ name ++ "]" ++ rest ∧ text ≠ "[" ++ name ++ "]" ++ rest := by
  simp only [← token_multi, ← token_single]
  constructor
  · intro apart name rest named
    exact ⟨apart .multi name rest named, apart .single name rest named⟩
  · intro apart reach name suffix named
    cases reach with
    | multi => exact (apart name suffix named).1
    | single => exact (apart name suffix named).2

/-- The parts of a pattern, as they are written and with slashes between them, are the pattern, up to
    a slash at its beginning. -/
theorem pattern_eq_sources (settings : Settings) (pattern : String) :
    pattern = (if ['/'].isPrefixOf pattern.toList then "/" else "") ++
      "/".intercalate ((Template.partsOf settings pattern).map fun part => part.segment.source) := by
  have sources : ((Template.partsOf settings pattern).map fun part =>
      part.segment.source).map String.toList = (segmentsOf pattern).map Segment.text := by
    rw [← segments_partsOf settings, List.map_map, List.map_map]
    rfl
  have whole := pattern_eq_joinPieces pattern
  rw [Text.joinPieces_eq_intercalate, ← sources] at whole
  rw [← String.toList_inj, String.toList_append, String.toList_intercalate]
  refine whole.trans (congrArg (· ++ _) ?_)
  split <;> rfl

theorem slashFree_of_mem_partsOf {settings : Settings} {pattern : String} {part : Part}
    (member : part ∈ Template.partsOf settings pattern) : part.segment.SlashFree := by
  refine slashFree_of_text (slashFree_segmentsOf pattern _ ?_)
  rw [← segments_partsOf settings]
  exact List.mem_map_of_mem member

/-- The parts of a compiled pattern are read from its text alone. -/
theorem parts_of_compiled [Character.Names] {settings : Settings} {pattern : String}
    {template : Template} (compiled : (Template.compile settings pattern).outcome = .ok template) :
    template.parts = Template.partsOf settings pattern := by
  have routed : (Route.ofPattern settings pattern).outcome = .ok ⟨pattern, template⟩ := by
    rw [Route.ofPattern, Traced.outcome_bind, compiled]
    rfl
  exact (ofPattern_eq_ok routed).2.1

/-- The parts of a pattern, as they are written and with slashes between them, are the pattern, up to
    a slash at its beginning; no literal value and no suffix holds a slash; and a pattern that compiles
    has these parts. A text is read as a placeholder for several segments exactly if it is three dots
    and a name in brackets, followed by anything; as a placeholder inside one segment exactly if it is
    a name in brackets, followed by anything; and as itself in all other cases. -/
theorem parts_lossless [Character.Names] (settings : Settings) :
    (∀ pattern,
      let parts := Template.partsOf settings pattern
      pattern = (if ['/'].isPrefixOf pattern.toList then "/" else "") ++
          "/".intercalate (parts.map fun part => part.segment.source) ∧
        (∀ part ∈ parts, part.segment.SlashFree) ∧
        ∀ template, (Template.compile settings pattern).outcome = .ok template →
          template.parts = parts) ∧
      ∀ text,
        let segment := (Part.ofText settings text).segment
        (∀ name rest, segment = .placeholder .multi name rest ↔
          text = "[..." ++ name ++ "]" ++ rest ∧ IsName name) ∧
        (∀ name rest, segment = .placeholder .single name rest ↔
          text = "[" ++ name ++ "]" ++ rest ∧ IsName name) ∧
        ∀ value, segment = .literal value ↔ value = text ∧ ∀ name rest, IsName name →
          text ≠ "[..." ++ name ++ "]" ++ rest ∧ text ≠ "[" ++ name ++ "]" ++ rest := by
  refine ⟨fun pattern => ?_, fun text => ?_⟩
  · exact ⟨pattern_eq_sources settings pattern, fun part => slashFree_of_mem_partsOf,
      fun template => parts_of_compiled⟩
  · intro segment
    refine ⟨fun name rest => ?_, fun name rest => ?_, fun value => ?_⟩
    · rw [← token_multi]
      exact ofText_eq_placeholder_iff
    · rw [← token_single]
      exact ofText_eq_placeholder_iff
    · rw [← forall_token_ne_iff]
      exact ofText_eq_literal_iff

/-- Empty segments, a token that stands too late, a second bracket and a line break; the settings
    name a character. -/
theorem parts_lossless_release :
    let settings : Settings := { singleCapture := "v?([\\N\x7bDIGIT ZERO\x7d-9]+)" }
    let pattern := "//v[id]/[id]].txt/[...dir][id]\n/"
    settings.check = .ok () ∧
      ∃ template, (Template.compile settings pattern).outcome = .ok template ∧
        template.parts.map Part.segment =
          [.literal "", .literal "v[id]", .placeholder .single "id" "].txt",
            .placeholder .multi "dir" "[id]\n", .literal ""] ∧
        pattern = "/" ++ "/".intercalate (template.parts.map fun part => part.segment.source) := by
  intro settings pattern
  obtain ⟨template, compiled, -⟩ := exists_of_any (Template.compile settings pattern).outcome
    (fun _ => true) (by decide +kernel)
  obtain ⟨lossless, -⟩ := parts_lossless settings
  obtain ⟨written, -, same⟩ := lossless pattern
  have rooted : ['/'].isPrefixOf pattern.toList = true := by decide
  rw [if_pos rooted] at written
  refine ⟨by decide +kernel, template, compiled, ?_, same template compiled ▸ written⟩
  rw [same template compiled]
  decide +kernel

end RoutePattern
