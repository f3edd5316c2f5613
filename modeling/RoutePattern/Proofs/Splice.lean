import RoutePattern.Proofs.Filling
import RoutePattern.Proofs.Regex.Pieces
import RoutePattern.Proofs.Regex.Running

/-! # Fragments spliced into the expression of a pattern

A capture fragment is checked on its own and then written into the expression of a pattern, once for
each placeholder, between slashes and literal text.

* `turnsOnFlags`, `hasOuterBar` — what a checked fragment may still do to its surroundings.
* `fragment_of_checkCapture` — what the check of the settings ensures.
* `reaches_expressionText` — the expression of a pattern has one group for each placeholder, and asks
  for the groups that the fragments ask for.
* `captures_spliced` — with checked fragments that turn on no flags, every pattern compiles, and
  every accepted path binds its placeholders.
-/

namespace RoutePattern

open Regex
open Regex.Reader (AtSeam Ready Done Fragment Reaches)

/-! ## Checked fragments -/

section

variable [Character.Names]

/-- The fragment turns on flags for the whole expression, as `(?i)` does. -/
def turnsOnFlags (fragment : String) : Bool :=
  match Regex.read fragment.toList with
  | .ok reader => reader.globals != {}
  | .error _ => false

/-- The fragment has a bar outside all parentheses. -/
def hasOuterBar (fragment : String) : Bool :=
  match Regex.read fragment.toList with
  | .ok reader => !reader.branches.isEmpty
  | .error _ => false

/-- What a program is made of. -/
theorem compile_eq_ok {source : String} {program : Program} :
    Program.compile source = .ok program ↔ ∃ reader, Regex.read source.toList = .ok reader ∧
      reader.content.flaw? reader.globals.template = none ∧
      program = ⟨source, reader.content, reader.groups.length, reader.names⟩ := by
  unfold Program.compile
  cases Regex.read source.toList with
  | error error => simp
  | ok reader =>
    cases flaw : reader.content.flaw? reader.globals.template <;> simp [flaw, eq_comm]

theorem checkCapture_eq_ok {settings : Settings} {reach : Reach}
    (checked : settings.checkCapture reach = .ok ()) :
    ∃ program, Program.compile (settings.capture reach) = .ok program ∧ program.groups = 1 ∧
      program.names = [] ∧ refersBack (settings.capture reach) = false := by
  unfold Settings.checkCapture at checked
  dsimp only at checked
  split at checked
  · cases checked
  · rename_i program compiled
    refine ⟨program, compiled, ?_⟩
    split at checked
    · cases checked
    · split at checked
      · cases checked
      · split at checked
        · cases checked
        · simp_all

/-- A checked fragment is an expression with one group that has no name, and without references
    back. -/
theorem fragment_of_checkCapture {settings : Settings} {reach : Reach}
    (checked : settings.checkCapture reach = .ok ()) {straight : Prop}
    (barless : straight → hasOuterBar (settings.capture reach) = false) :
    ∃ program final, Program.compile (settings.capture reach) = .ok program ∧
      program.expression = final.content ∧
      (turnsOnFlags (settings.capture reach) = true ↔ final.globals ≠ {}) ∧
      Fragment straight (settings.capture reach).toList final := by
  obtain ⟨program, compiled, group, names, unreferred⟩ := checkCapture_eq_ok checked
  obtain ⟨final, read, flawless, rfl⟩ := compile_eq_ok.mp compiled
  refine ⟨_, final, compiled, rfl, by simp [turnsOnFlags, read], ?_⟩
  rw [refersBack, Bool.or_eq_false_iff] at unreferred
  exact {
    read := read
    group := group
    names := names
    sound := by
      intro silent
      rwa [silent] at flawless
    unreferred := unreferred.1
    branches := by simpa [hasOuterBar, read] using barless }

theorem checkCapture_of_check {settings : Settings} (valid : settings.check = .ok ())
    (reach : Reach) : settings.checkCapture reach = .ok () := by
  unfold Settings.check at valid
  cases single : settings.checkCapture .single with
  | error failure => simp [single, bind, Except.bind] at valid
  | ok value =>
    cases reach with
    | single => exact single
    | multi => simpa [single, bind, Except.bind] using valid

end

/-! ## Reading the expression of a pattern -/

section

variable {settings : Settings} {finals : Reach → Reader} {bodies : Reach → Expression}
  {loud straight : Prop}

/-- The bodies of the groups of segments, from left to right. -/
def bodiesOf (bodies : Reach → Expression) (segments : List Segment) : List Expression :=
  (segments.filterMap Segment.slot?).map fun placeholder => bodies placeholder.reach

section

variable [Character.Names]

/-- What is known of the fragment for placeholders of a reach: which reader reads it, what the body
    of its group is, and that it is blamed if it turns on flags for the whole expression. -/
structure Spliced (settings : Settings) (loud straight : Prop) (final : Reader) (body : Expression)
    (reach : Reach) : Prop where
  fragment : Fragment straight (settings.capture reach).toList final
  known : final.globals = {} → final.content.groups = [(1, body)]
  blamed : final.globals ≠ {} → loud

/-- The fragments of all placeholders of the segments are known. -/
def AllSpliced (settings : Settings) (loud straight : Prop) (finals : Reach → Reader)
    (bodies : Reach → Expression) (segments : List Segment) : Prop :=
  ∀ placeholder ∈ segments.filterMap Segment.slot?,
    Spliced settings loud straight (finals placeholder.reach) (bodies placeholder.reach)
      placeholder.reach

theorem AllSpliced.of_cons {segment : Segment} {rest : List Segment}
    (spliced : AllSpliced settings loud straight finals bodies (segment :: rest)) :
    AllSpliced settings loud straight finals bodies [segment] ∧
      AllSpliced settings loud straight finals bodies rest := by
  simp only [AllSpliced, ← List.forall_mem_append]
  rw [← List.filterMap_append]
  exact spliced

end

/-- The numbers that the fragments of segments ask for, from left to right. -/
def referencesOf (finals : Reach → Reader) (segments : List Segment) : List Nat :=
  (segments.filterMap Segment.slot?).flatMap fun placeholder =>
    (finals placeholder.reach).content.references

/-- No fragment of the segments turns on flags for the whole expression. -/
def Silent (finals : Reach → Reader) (segments : List Segment) : Prop :=
  ∀ placeholder ∈ segments.filterMap Segment.slot?, (finals placeholder.reach).globals = {}

/-- The reader is of a kind, given what the fragments of the segments before it hold. -/
def Past (finals : Reach → Reader) (bodies : Reach → Expression)
    (kind : List Expression → List Nat → Reader → Prop) (segments : List Segment)
    (reader : Reader) : Prop :=
  kind (bodiesOf bodies segments) (referencesOf finals segments) reader ∧ Silent finals segments

section

variable [Character.Names]

theorem reaches_segment {front : List Segment} {segment : Segment}
    (spliced : AllSpliced settings loud straight finals bodies [segment]) :
    Reaches loud (Part.ofSegment settings segment).regex.toList
      (Past finals bodies (Ready straight) front)
      (Past finals bodies (AtSeam straight) (front ++ [segment])) := by
  cases segment with
  | literal value =>
    have escaped : Reaches loud (value.toList.flatMap escapeChar)
        (Past finals bodies (AtSeam straight) front)
        (Past finals bodies (AtSeam straight) front) :=
      (Reader.reaches_escape value.toList).keep _
    have same : (front ++ [Segment.literal value]).filterMap Segment.slot? =
        front.filterMap Segment.slot? := by simp [Segment.slot?]
    simp only [Part.ofSegment, escape, String.toList_ofList]
    refine (escaped.weaken fun _ => And.imp_left Ready.toAtSeam).imp fun reader past => ?_
    simpa only [Past, bodiesOf, referencesOf, Silent, same] using past
  | placeholder reach name suffix =>
    obtain ⟨fragment, known, blamed⟩ := spliced ⟨reach, name⟩ (by simp [Segment.slot?])
    have slots : (front ++ [Segment.placeholder reach name suffix]).filterMap Segment.slot? =
        front.filterMap Segment.slot? ++ [⟨reach, name⟩] := by simp [Segment.slot?]
    have taken : Reaches loud (settings.capture reach).toList
        (Past finals bodies (Ready straight) front)
        (Past finals bodies (AtSeam straight) (front ++ [.placeholder reach name suffix])) := by
      refine ((Reader.reaches_fragment fragment known blamed).keep _).imp ?_
      rintro reader ⟨⟨seam, silent⟩, silentFront⟩
      simp only [Past, bodiesOf, referencesOf, Silent, slots, List.forall_mem_append,
        List.map_append, List.flatMap_append]
      exact ⟨by simpa [bodiesOf, referencesOf] using seam, silentFront, by simpa using silent⟩
    simp only [Part.ofSegment, escape, String.toList_append, String.toList_ofList]
    exact taken.append ((Reader.reaches_escape suffix.toList).keep _)

/-- Segments behind others, each behind a slash. -/
theorem reaches_slashed {front segments : List Segment}
    (spliced : AllSpliced settings loud straight finals bodies segments) :
    Reaches loud
      (segments.flatMap fun segment => ['\\', '/'] ++ (Part.ofSegment settings segment).regex.toList)
      (Past finals bodies (AtSeam straight) front)
      (Past finals bodies (AtSeam straight) (front ++ segments)) := by
  induction segments generalizing front with
  | nil => exact Reader.reaches_nil fun _ past => by simpa using past
  | cons segment rest ih =>
    obtain ⟨first, others⟩ := spliced.of_cons
    rw [List.append_cons, List.flatMap_cons]
    exact ((Reader.reaches_slash.keep _).append (reaches_segment first)).append (ih others)

theorem reaches_body {segments : List Segment}
    (spliced : AllSpliced settings loud straight finals bodies segments) :
    Reaches loud
      (slashText.intercalate ((segments.map (Part.ofSegment settings)).map Part.regex)).toList
      (Past finals bodies (Ready straight) []) (Past finals bodies (AtSeam straight) segments) := by
  rw [String.toList_intercalate]
  cases segments with
  | nil => exact Reader.reaches_nil fun _ => And.imp_left Ready.toAtSeam
  | cons segment rest =>
    obtain ⟨first, others⟩ := spliced.of_cons
    rw [List.map_cons, List.map_cons, List.map_cons, intercalate_cons]
    simp only [List.flatMap_map]
    exact (reaches_segment first).append (reaches_slashed others)

/-- The whole expression, and that it is read only if no fragment turns on flags for all of it. -/
theorem reaches_whole {segments : List Segment}
    (spliced : AllSpliced settings loud straight finals bodies segments) (rooted : Bool) :
    Reaches loud
      (expressionText settings rooted (segments.map (Part.ofSegment settings))).toList (· = {})
      (Past finals bodies (Done straight) segments) := by
  have start : Reaches loud ['\\', 'A'] (· = {}) (Past finals bodies (Ready straight) []) :=
    Reader.reaches_textStart.imp fun _ ready => ⟨ready, by simp [Silent]⟩
  have body : Reaches loud _ (Past finals bodies (Ready straight) []) _ := reaches_body spliced
  have last : Reaches loud ['\\', 'Z'] (Past finals bodies (AtSeam straight) segments)
      (Past finals bodies (Done straight) segments) := Reader.reaches_textEnd.keep _
  cases optional : settings.optionalSlashes with
  | true =>
    have slash : ∀ front, Reaches loud ['\\', '/', '?']
        (Past finals bodies (AtSeam straight) front)
        (Past finals bodies (Ready straight) front) := fun _ => Reader.reaches_optionalSlash.keep _
    have opened := start.append ((slash []).weaken fun _ => And.imp_left Ready.toAtSeam)
    have closed := (slash segments).append (last.weaken fun _ => And.imp_left Ready.toAtSeam)
    simpa [expressionText, optional] using (opened.append body).append closed
  | false =>
    have opened : Reaches loud (['\\', 'A'] ++ if rooted then ['\\', '/'] else []) (· = {})
        (Past finals bodies (Ready straight) []) := by
      cases rooted with
      | true =>
        have slash : Reaches loud ['\\', '/'] (Past finals bodies (AtSeam straight) [])
            (Past finals bodies (Ready straight) []) := Reader.reaches_slash.keep _
        exact start.append (slash.weaken fun _ => And.imp_left Ready.toAtSeam)
      | false => exact start
    have whole := (opened.append body).append last
    cases rooted <;> simpa [expressionText, optional, slashText] using whole

theorem reaches_expressionText {segments : List Segment}
    (spliced : AllSpliced settings loud straight finals bodies segments) (rooted : Bool) :
    Reaches loud
      (expressionText settings rooted (segments.map (Part.ofSegment settings))).toList (· = {})
      (Done straight (bodiesOf bodies segments) (referencesOf finals segments)) :=
  (reaches_whole spliced rooted).imp fun _ => And.left

end

end

/-- What the check of the settings ensures for the placeholders of a reach. -/
theorem exists_spliced [Character.Names] {settings : Settings} (valid : settings.check = .ok ())
    {loud straight : Prop} {reach : Reach}
    (blamed : turnsOnFlags (settings.capture reach) = true → loud)
    (barless : straight → hasOuterBar (settings.capture reach) = false) :
    ∃ program final body, Program.compile (settings.capture reach) = .ok program ∧
      (turnsOnFlags (settings.capture reach) = false → program.expression.groups = [(1, body)]) ∧
      Spliced settings loud straight final body reach := by
  obtain ⟨program, final, compiled, expression, flags, fragment⟩ :=
    fragment_of_checkCapture (checkCapture_of_check valid reach) barless
  by_cases silent : final.globals = {}
  · obtain ⟨body, groups⟩ := fragment.exists_body silent
    refine ⟨program, final, body, compiled, fun _ => expression ▸ groups, fragment, fun _ => groups, ?_⟩
    exact fun isOn => absurd silent isOn
  · refine ⟨program, final, .empty, compiled, ?_, fragment, fun isOff => absurd isOff silent, ?_⟩
    · intro quiet
      exact absurd (flags.mpr silent) (by simp [quiet])
    · exact fun _ => blamed (flags.mpr silent)

/-! ## Patterns -/

/-- An accepted path has one captured text for each group. -/
theorem exists_captures {route : Route} {path : String} (accepted : route.test path = true) :
    ∃ values, route.captures path = .pure values ∧
      values.length = route.template.program.groups := by
  obtain ⟨point, matched⟩ := Option.isSome_iff_exists.mp accepted
  have captured : route.template.program.captures? path = some point.captures := by
    rw [Program.captures?, matched, Option.map_some]
  exact ⟨point.captures, by rw [Route.captures, captured], Program.length_captures captured⟩

theorem bodiesOf_partsOf (bodies : Reach → Expression) {route : Route} {settings : Settings}
    {pattern : String} (parts : route.template.parts = Template.partsOf settings pattern) :
    bodiesOf bodies (segmentsOf pattern) =
      route.placeholders.map fun placeholder => bodies placeholder.reach := by
  rw [placeholders_eq, parts, segments_partsOf]
  rfl

/-- Checked fragments that turn on no flags for the whole expression fit into every pattern: it
    compiles, its groups are those of the spliced fragments in the order of the placeholders, and
    every path that is accepted binds all names. -/
theorem captures_spliced [Character.Names] {settings : Settings} (valid : settings.check = .ok ())
    (quiet : ∀ reach, turnsOnFlags (settings.capture reach) = false) (pattern : String) :
    ∃ bodies : Reach → Expression,
      (∀ reach, ∃ fragment, Program.compile (settings.capture reach) = .ok fragment ∧
        fragment.expression.groups = [(1, bodies reach)]) ∧
      ∃ route, (Route.ofPattern settings pattern).outcome = .ok route ∧
        route.template.parts = Template.partsOf settings pattern ∧
        route.template.program.groups = route.names.length ∧
        route.template.program.expression.groups =
          numbered (route.placeholders.map fun placeholder => bodies placeholder.reach) ∧
        ∀ path, route.test path = true →
          ∃ values, (route.captures path).outcome = .ok values ∧
            values.length = route.names.length ∧
            (route.bind path).outcome =
              .ok (.ofList (route.names.zip (values.map Value.ofCapture))) := by
  have known : ∀ reach, ∃ program final body,
      Program.compile (settings.capture reach) = .ok program ∧
      (turnsOnFlags (settings.capture reach) = false → program.expression.groups = [(1, body)]) ∧
      Spliced settings False False final body reach :=
    fun reach => exists_spliced valid (fun isOn => by simp [quiet reach] at isOn) False.elim
  choose programs finals bodies compiled groups spliced using known
  have all : AllSpliced settings False False finals bodies (segmentsOf pattern) :=
    fun placeholder _ => spliced placeholder.reach
  refine ⟨bodies, fun reach => ⟨programs reach, compiled reach, groups reach (quiet reach)⟩, ?_⟩
  obtain ⟨reader, read, done⟩ | ⟨isLoud, -⟩ :=
    (reaches_expressionText all (isRooted pattern)).read
  · rw [← partsOf_eq] at read
    have routed := ofPattern_of_compile (done.compile read)
    generalize routeEq : Route.mk pattern _ = route at routed
    have parts : route.template.parts = Template.partsOf settings pattern := by rw [← routeEq]
    have inOrder := bodiesOf_partsOf bodies parts
    have expression : route.template.program.expression.groups =
        numbered (bodiesOf bodies (segmentsOf pattern)) := by
      rw [← routeEq, ← done.held, ← Reader.groups_content]
    have count : route.template.program.groups = route.names.length := by
      have groups : route.template.program.groups =
          (bodiesOf bodies (segmentsOf pattern)).length := by rw [← routeEq]
      rw [groups, inOrder, List.length_map, Route.names, List.length_map]
    refine ⟨route, routed, parts, count, inOrder ▸ expression, fun path accepted => ?_⟩
    obtain ⟨values, captured, length⟩ := exists_captures accepted
    rw [count] at length
    have bound := bind_of_captures captured (by simpa [Route.names] using length)
    exact ⟨values, congrArg Traced.outcome captured, length, congrArg Traced.outcome bound⟩
  · exact isLoud.elim

/-- An optional letter before a number whose first digit is given by a name, and a fragment that is
    split by a bar. -/
theorem captures_spliced_versions :
    let settings : Settings :=
      { singleCapture := "v?([\\N\x7bDIGIT ONE\x7d-9]\\d*)", multiCapture := "(.+)|-" }
    settings.check = .ok () ∧ (∀ reach, turnsOnFlags (settings.capture reach) = false) ∧
      ∃ route, (Route.ofPattern settings "/[version]/[...file]").outcome = .ok route ∧
        route.template.program.groups = 2 ∧
        ∀ path, route.test path = true →
          ∃ values, (route.captures path).outcome = .ok values ∧ values.length = 2 := by
  intro settings
  have valid : settings.check = .ok () := by decide +kernel
  have quiet : ∀ reach, turnsOnFlags (settings.capture reach) = false := by
    intro reach
    cases reach <;> decide +kernel
  obtain ⟨bodies, -, route, compiled, parts, groups, -, captured⟩ :=
    captures_spliced valid quiet "/[version]/[...file]"
  have names : route.names.length = 2 := by
    rw [Route.names, placeholders_of_compiled compiled]
    decide +kernel
  refine ⟨valid, quiet, route, compiled, groups.trans names, fun path accepted => ?_⟩
  obtain ⟨values, found, length, -⟩ := captured path accepted
  exact ⟨values, found, length.trans names⟩

end RoutePattern
