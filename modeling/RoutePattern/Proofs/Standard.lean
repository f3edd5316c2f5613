import RoutePattern.Proofs.Matching
import RoutePattern.Proofs.Regex.Groups
import RoutePattern.Route

/-! # The expression of a pattern

With the standard capture fragments, the expression that is written for a pattern is read as the
expression of its row of places.

* `Settings.standard` — the standard capture fragments, with either policy for slashes.
* `Written`, `written_body` — how the parts of a pattern are written and read.
* `compile_expressionText` — every pattern can be compiled.
* `Route.standard` — the route of a pattern, which `ofPattern_standard` shows to be what
  compiling gives.
-/

namespace RoutePattern

open Regex

/-- The standard capture fragments, with slashes at the ends optional or not. -/
def Settings.standard (optional : Bool) : Settings :=
  { optionalSlashes := optional }

/-! ## Reading parts -/

def groupWidth : Width :=
  (Reach.single.group 1).width

def captureText (reach : Reach) : List Char :=
  '(' :: '[' :: '\\' :: 'w' :: ((match reach with | .single => [] | .multi => ['/']) ++
    ['.', '\\', '-', ']', '+', ')'])

theorem capture_toList (optional : Bool) (reach : Reach) :
    ((Settings.standard optional).capture reach).toList = captureText reach := by
  cases reach <;> simp [Settings.standard, Settings.capture, captureText]

/-- The reader that has just closed the group of a placeholder. -/
def closedGroup (reader : Reader) (reach : Reach) : Reader :=
  { reader with
    position := reader.position + (captureText reach).length
    items := reach.group (reader.groups.length + 1) :: reader.items
    groups := (reader.groups ++ [none]).set reader.groups.length (some groupWidth) }

theorem steps_captureText [Character.Names] (reader : Reader) (reach : Reach) :
    (tokens (captureText reach)).foldlM Reader.step
        { reader with mode := .ordinary, flags := {} } =
      .ok (closedGroup { reader with mode := .ordinary, flags := {} } reach) := by
  cases reach <;> rfl

theorem closedGroup_eq (reader : Reader) (reach : Reach) :
    closedGroup reader reach =
      reader.advance (captureText reach).length [reach.group (reader.groups.length + 1)]
        [groupWidth] := by
  simp [closedGroup, Reader.advance]

theorem reads_captureText [Character.Names] {reader : Reader} (atRest : reader.AtRest)
    (reach : Reach) :
    Reader.Reads (captureText reach) reader
      (reader.advance (captureText reach).length [reach.group (reader.groups.length + 1)]
        [groupWidth]) := by
  have resting : { reader with mode := .ordinary, flags := {} } = reader := by
    rw [← atRest.mode, ← atRest.flags]
  have steps := steps_captureText reader reach
  rw [resting, closedGroup_eq] at steps
  refine ⟨?_, by simp [captureText], steps⟩
  cases reach <;> simp [captureText, endsInBackslash]

/-! ## The written form of a row of places -/

/-- The reader behind the written form of a row of places. -/
def behind (reader : Reader) (text : List Char) (places : List Place) : Reader :=
  reader.advance text.length (expressionsOf (reader.groups.length + 1) places)
    (List.replicate (valueCount places) groupWidth)

theorem atRest_behind {reader : Reader} (atRest : reader.AtRest) (text : List Char)
    (places : List Place) : (behind reader text places).AtRest :=
  atRest.advance _ _ _

/-- Wherever the reader is at rest, it reads a text as the expressions of a row of places. -/
def Written [Character.Names] (text : List Char) (places : List Place) : Prop :=
  ∀ reader : Reader, reader.AtRest → Reader.Reads text reader (behind reader text places)

theorem valueCount_append (places others : List Place) :
    valueCount (places ++ others) = valueCount places + valueCount others :=
  List.countP_append

theorem expressionsOf_cons_char (number : Nat) (c : Char) (places : List Place) :
    expressionsOf number (.char c :: places) = .literal c :: expressionsOf number places :=
  rfl

theorem expressionsOf_append (number : Nat) (places others : List Place) :
    expressionsOf number (places ++ others) =
      expressionsOf number places ++ expressionsOf (number + valueCount places) others := by
  induction places generalizing number with
  | nil => rfl
  | cons place places ih =>
    cases place with
    | char c => simp [expressionsOf, ih, valueCount]
    | value reach => simp [expressionsOf, ih, valueCount, Nat.add_assoc, Nat.add_comm 1]

theorem expressionsOf_placesOfText (number : Nat) (text : List Char) :
    expressionsOf number (placesOfText text) = text.map .literal := by
  induction text with
  | nil => rfl
  | cons c rest ih => exact congrArg (Expression.literal c :: ·) ih

theorem valueCount_placesOfText (text : List Char) : valueCount (placesOfText text) = 0 := by
  simp [valueCount, placesOfText]

theorem behind_append (reader : Reader) (text other : List Char) (places others : List Place) :
    behind (behind reader text places) other others =
      behind reader (text ++ other) (places ++ others) := by
  have numbered : (behind reader text places).groups.length + 1 =
      reader.groups.length + 1 + valueCount places := by
    simp only [behind, Reader.advance, List.map_replicate, List.length_append,
      List.length_replicate]
    omega
  rw [behind, numbered]
  simp only [behind, Reader.advance_advance, expressionsOf_append, valueCount_append,
    List.replicate_append_replicate, List.length_append]

section

variable [Character.Names]

theorem Written.append {text other : List Char} {places others : List Place}
    (first : Written text places) (second : Written other others) :
    Written (text ++ other) (places ++ others) := by
  intro reader atRest
  rw [← behind_append]
  exact (first reader atRest).append (second _ (atRest_behind atRest text places))

theorem written_nil : Written [] [] :=
  fun reader _ => Reader.reads_nil reader

theorem written_escape (text : List Char) :
    Written (text.flatMap escapeChar) (placesOfText text) := by
  intro reader atRest
  rw [behind, expressionsOf_placesOfText, valueCount_placesOfText]
  exact Reader.reads_escape atRest text

theorem written_slash : Written ['\\', '/'] [.char '/'] :=
  fun _ atRest => Reader.reads_slash atRest

theorem written_captureText (reach : Reach) : Written (captureText reach) [.value reach] :=
  fun _ atRest => reads_captureText atRest reach

theorem written_segment (optional : Bool) (segment : Segment) :
    Written (Part.ofSegment (.standard optional) segment).regex.toList segment.places := by
  cases segment with
  | literal value =>
    simp only [Part.ofSegment, escape, String.toList_ofList]
    exact written_escape value.toList
  | placeholder reach name suffix =>
    simp only [Part.ofSegment, escape, String.toList_append, String.toList_ofList,
      capture_toList]
    exact (written_captureText reach).append (written_escape suffix.toList)

end

theorem intercalate_cons {α : Type} (separator first : List α) (rest : List (List α)) :
    separator.intercalate (first :: rest) = first ++ rest.flatMap (separator ++ ·) := by
  induction rest generalizing first with
  | nil => simp
  | cons next others ih =>
    rw [List.intercalate_cons_cons, ih next, List.flatMap_cons, List.append_assoc,
      List.append_assoc]

/-- The expressions of segments, each behind a written slash. -/
theorem written_slashed [Character.Names] (optional : Bool) (segments : List Segment) :
    Written
      (segments.flatMap fun segment =>
        ['\\', '/'] ++ (Part.ofSegment (.standard optional) segment).regex.toList)
      (segments.flatMap fun segment => .char '/' :: segment.places) := by
  induction segments with
  | nil => exact written_nil
  | cons segment rest ih =>
    have first := written_slash.append (written_segment optional segment)
    exact first.append ih

/-- The expressions of all segments, with a written slash between neighbours. -/
theorem written_body [Character.Names] (optional : Bool) (segments : List Segment) :
    Written
      (slashText.intercalate
        ((segments.map (Part.ofSegment (.standard optional))).map Part.regex)).toList
      (placesOf segments) := by
  rw [String.toList_intercalate]
  cases segments with
  | nil => exact written_nil
  | cons segment rest =>
    have slashed := written_slashed optional rest
    rw [List.map_cons, List.map_cons, List.map_cons, intercalate_cons]
    simp only [List.flatMap_map]
    exact (written_segment optional segment).append slashed

/-! ## Whole expressions -/

/-- The reader behind a whole expression. -/
def behindWhole (optional rooted : Bool) (places : List Place) (width : Nat) : Reader :=
  Reader.advance {} width
    (.anchor .textStart :: (leadItems optional rooted ++ (expressionsOf 1 places ++
      trailItems optional)))
    (List.replicate (valueCount places) groupWidth)

theorem reads_optional [Character.Names] {body : List Char} {places : List Place}
    (written : Written body places) (rooted : Bool) :
    ∃ width, Reader.Reads
      (['\\', 'A'] ++ '\\' :: '/' :: '?' :: (body ++ '\\' :: '/' :: '?' :: ['\\', 'Z'])) {}
      (behindWhole true rooted places width) := by
  have atRest : Reader.AtRest {} := ⟨rfl, rfl⟩
  have begun := atRest.advance 2 [.anchor .textStart] []
  have opened := begun.advance 3 [.optionalSlash] []
  have middle := written _ opened
  have closed := atRest_behind opened body places
  have final := Reader.reads_optionalSlash closed (by simp)
    (Reader.reads_textEnd (closed.advance 3 [.optionalSlash] []))
  have whole := (Reader.reads_textStart atRest).append
    (Reader.reads_optionalSlash begun (by simp) (middle.append final))
  simp only [behind, Reader.advance_advance] at whole
  refine ⟨2 + 3 + body.length + 3 + 2, ?_⟩
  simpa [behindWhole, leadItems, trailItems, Reader.advance] using whole

theorem reads_strict [Character.Names] {body : List Char} {places : List Place}
    (written : Written body places) (rooted : Bool) :
    ∃ width, Reader.Reads
      (['\\', 'A'] ++ ((if rooted then ['\\', '/'] else []) ++ body ++ ['\\', 'Z'])) {}
      (behindWhole false rooted places width) := by
  have atRest : Reader.AtRest {} := ⟨rfl, rfl⟩
  have begun := atRest.advance 2 [.anchor .textStart] []
  have lead : Written (if rooted then ['\\', '/'] else [])
      (if rooted then [.char '/'] else []) := by
    cases rooted with
    | true => exact written_slash
    | false => exact written_nil
  have middle := lead.append written _ begun
  have final := Reader.reads_textEnd (atRest_behind begun
    ((if rooted then ['\\', '/'] else []) ++ body)
    ((if rooted then [.char '/'] else []) ++ places))
  have whole := (Reader.reads_textStart atRest).append (middle.append final)
  simp only [behind, Reader.advance_advance] at whole
  refine ⟨2 + ((if rooted then ['\\', '/'] else []) ++ body).length + 2, ?_⟩
  cases rooted with
  | true =>
    simpa [behindWhole, leadItems, trailItems, Reader.advance, expressionsOf_cons_char,
      valueCount] using whole
  | false => simpa [behindWhole, leadItems, trailItems, Reader.advance] using whole

def segmentsOf (pattern : String) : List Segment :=
  (patternSegments pattern).map Segment.ofText

theorem partsOf_eq (settings : Settings) (pattern : String) :
    Template.partsOf settings pattern = (segmentsOf pattern).map (Part.ofSegment settings) := by
  simp [Template.partsOf, segmentsOf, Part.ofText]

theorem reads_expressionText [Character.Names] (optional rooted : Bool) (segments : List Segment) :
    ∃ width, Reader.Reads
      (expressionText (.standard optional) rooted
        (segments.map (Part.ofSegment (.standard optional)))).toList {}
      (behindWhole optional rooted (placesOf segments) width) := by
  have written := written_body optional segments
  cases optional with
  | true =>
    obtain ⟨width, reads⟩ := reads_optional written rooted
    exact ⟨width, by simpa [expressionText, Settings.standard] using reads⟩
  | false =>
    obtain ⟨width, reads⟩ := reads_strict written rooted
    refine ⟨width, ?_⟩
    cases rooted <;> simpa [expressionText, Settings.standard, slashText] using reads

/-! ## Compiling -/

theorem sound_expressionsOf (number : Nat) (places : List Place) :
    ∀ item ∈ expressionsOf number places, item.Sound := by
  induction places generalizing number with
  | nil => simp [expressionsOf]
  | cons place places ih =>
    intro item member
    cases place with
    | char c =>
      obtain rfl | later := List.mem_cons.mp member
      · rfl
      · exact ih number item later
    | value reach =>
      obtain rfl | later := List.mem_cons.mp member
      · rfl
      · exact ih (number + 1) item later

theorem sound_wholeExpression (optional rooted : Bool) (places : List Place) :
    (wholeExpression optional rooted places).Sound := by
  apply Expression.sound_sequenceOf.mpr
  intro item member
  simp only [List.mem_cons, List.mem_append] at member
  obtain rfl | lead | inner | trail := member
  · rfl
  · cases optional <;> cases rooted <;> simp_all [leadItems] <;> rfl
  · exact sound_expressionsOf 1 places item inner
  · cases optional <;> simp_all [trailItems] <;>
      grind [Expression.Sound, Expression.flaw?, Expression.optionalSlash, Expression.literal]

theorem finish_behindWhole (optional rooted : Bool) (places : List Place) (width : Nat) :
    (behindWhole optional rooted places width).finish =
      .ok (behindWhole optional rooted places width) :=
  rfl

theorem content_behindWhole (optional rooted : Bool) (places : List Place) (width : Nat) :
    (behindWhole optional rooted places width).content =
      wholeExpression optional rooted places := by
  simp [behindWhole, Reader.content, Reader.branch, Reader.advance, Expression.choiceOf,
    wholeExpression]

def wholeProgram (optional rooted : Bool) (places : List Place) (source : String) : Program where
  source := source
  expression := wholeExpression optional rooted places
  groups := valueCount places
  names := []

theorem compile_expressionText [Character.Names] (optional rooted : Bool)
    (segments : List Segment) :
    let source := expressionText (.standard optional) rooted
      (segments.map (Part.ofSegment (.standard optional)))
    Program.compile source =
      .ok (wholeProgram optional rooted (placesOf segments) source) := by
  intro source
  obtain ⟨width, reads⟩ := reads_expressionText optional rooted segments
  have result : Regex.read source.toList =
      .ok (behindWhole optional rooted (placesOf segments) width) := by
    simp only [source, Regex.read, reads.steps, reads.whole, finish_behindWhole]
    rfl
  have groups : (behindWhole optional rooted (placesOf segments) width).groups.length =
      valueCount (placesOf segments) := by
    simp [behindWhole, Reader.advance]
  simp only [Program.compile, result, content_behindWhole]
  rw [show (behindWhole optional rooted (placesOf segments) width).globals.template = false
    from rfl, sound_wholeExpression]
  simp [wholeProgram, groups]
  rfl

/-! ## Routes -/

/-- The route of a pattern with the standard capture fragments. -/
def Route.standard (optional : Bool) (pattern : String) : Route :=
  let parts := Template.partsOf (.standard optional) pattern
  { pattern := pattern
    template :=
      { parts := parts
        program := wholeProgram optional (isRooted pattern) (placesOf (segmentsOf pattern))
          (expressionText (.standard optional) (isRooted pattern) parts) } }

/-- A pattern whose expression compiles has a route. -/
theorem ofPattern_of_compile [Character.Names] {settings : Settings} {pattern : String}
    {program : Program} (compiled : Program.compile (expressionText settings (isRooted pattern)
      (Template.partsOf settings pattern)) = .ok program) :
    (Route.ofPattern settings pattern).outcome =
      .ok { pattern := pattern
            template := { parts := Template.partsOf settings pattern, program := program } } := by
  simp only [Route.ofPattern, Template.compile, compiled]
  rfl

/-- Every pattern has a route. -/
theorem ofPattern_standard [Character.Names] (optional : Bool) (pattern : String) :
    (Route.ofPattern (.standard optional) pattern).outcome =
      .ok (Route.standard optional pattern) := by
  have compiled := compile_expressionText optional (isRooted pattern) (segmentsOf pattern)
  rw [← partsOf_eq] at compiled
  exact ofPattern_of_compile compiled

theorem segments_standard (optional : Bool) (pattern : String) :
    (Route.standard optional pattern).template.parts.map Part.segment = segmentsOf pattern := by
  rw [Route.standard, partsOf_eq, List.map_map]
  exact List.map_id _

/-- All decompositions of a path along a pattern, in the order in which they are found. -/
def pathChoices (optional : Bool) (pattern path : String) : List Decomposition :=
  choices optional (isRooted pattern) (placesOf (segmentsOf pattern)) path.toList

theorem captures?_standard (optional : Bool) (pattern path : String) :
    (Route.standard optional pattern).template.program.captures? path =
      (pathChoices optional pattern path).head?.map fun choice =>
        choice.values.map fun value => some (String.ofList value) :=
  captures_firstMatch _ _ _ _

theorem test_standard (optional : Bool) (pattern path : String) :
    (Route.standard optional pattern).test path =
      (pathChoices optional pattern path).head?.isSome := by
  have captured := congrArg Option.isSome (captures?_standard optional pattern path)
  rw [Option.isSome_map] at captured
  rw [← captured]
  exact (Option.isSome_map ..).symm

end RoutePattern
