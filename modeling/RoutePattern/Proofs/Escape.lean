import RoutePattern.Proofs.Matching
import RoutePattern.Proofs.Regex.Groups

/-! # Escaped text stands for itself

* `run_text` — a row of characters matches its own text and nothing else.
* `Program.matchesWhole` — a match from the first to the last character of a text.
* `compile_escape` — an escaped text is read as its characters.
* `escape_exact` — so it matches exactly the text, and no two texts are escaped alike.
-/

namespace RoutePattern.Regex

/-! ## Rows of characters -/

/-- A row of characters is passed if the text goes on with it. -/
theorem run_text (text : List Char) (rest : Continuation) (point : Point) :
    (Expression.sequenceOf (text.map .literal)).run rest point =
      if text <+: point.after then rest (point.advance text.length) else none := by
  induction text generalizing point with
  | nil =>
    rw [if_pos List.nil_prefix, List.length_nil, Point.advance_zero]
    rfl
  | cons c others ih =>
    change (Expression.literal c).run
      ((Expression.sequenceOf (others.map .literal)).run rest) point = _
    rw [run_literal]
    cases after : point.after with
    | nil => simp
    | cons d left =>
      by_cases same : d = c
      · subst same
        have moved : (point.advance 1).after = left := by simp [Point.advance, after]
        rw [List.head?_cons, if_pos rfl, ih, moved, Point.advance_advance, List.length_cons,
          Nat.add_comm]
        simp only [List.cons_prefix_cons, true_and]
      · have other : ¬ c :: others <+: d :: left := by
          intro begins
          exact same (List.cons_prefix_cons.mp begins).1.symm
        rw [List.head?_cons, if_neg (by simpa using same), if_neg other]

theorem sound_text (text : List Char) :
    (Expression.sequenceOf (text.map .literal)).Sound := by
  rw [Expression.sound_sequenceOf]
  intro item member
  obtain ⟨c, -, rfl⟩ := List.mem_map.mp member
  rfl

/-! ## Whole texts -/

/-- The expression followed by the end of the text. -/
def Program.matchesWhole (program : Program) (text : String) : Bool :=
  ((Expression.sequence program.expression (.anchor .textEnd)).firstMatch program.groups
    text.toList).isSome

/-- A row of characters matches the whole of a text only if it is the text. -/
theorem matchesWhole_text {program : Program} {text : List Char}
    (row : program.expression = .sequenceOf (text.map .literal)) (subject : String) :
    program.matchesWhole subject = true ↔ subject.toList = text := by
  have ended : ∀ point : Point, ((Expression.anchor .textEnd).run some point).isSome = true ↔
      point.after = [] := by
    intro point
    rw [← List.isEmpty_iff]
    change (if point.after.isEmpty then some point else none).isSome = true ↔ _
    cases point.after.isEmpty <;> simp
  have whole : program.matchesWhole subject =
      (if text <+: subject.toList then (Expression.anchor .textEnd).run some
        ((Point.start program.groups subject.toList).advance text.length) else none).isSome := by
    rw [Program.matchesWhole, Expression.firstMatch, row]
    exact congrArg Option.isSome (run_text text _ _)
  rw [whole]
  constructor
  · intro matched
    split at matched
    · rename_i begins
      obtain ⟨left, split⟩ := begins
      have none : subject.toList.drop text.length = [] := (ended _).mp matched
      rw [← split, List.drop_left] at none
      rw [← split, none, List.append_nil]
    · cases matched
  · intro same
    rw [if_pos (same ▸ List.prefix_rfl), ended]
    change subject.toList.drop text.length = []
    rw [same, List.drop_length]

end RoutePattern.Regex

namespace RoutePattern

open Regex

/-! ## Escaped texts -/

theorem compile_escape [Character.Names] (text : String) :
    Program.compile (escape text) =
      .ok { source := escape text, expression := .sequenceOf (text.toList.map .literal),
            groups := 0, names := [] } := by
  let behind : Reader :=
    Reader.advance {} (text.toList.flatMap escapeChar).length (text.toList.map .literal) []
  have reads : Reader.Reads (text.toList.flatMap escapeChar) {} behind :=
    Reader.reads_escape ⟨rfl, rfl⟩ text.toList
  have finish : behind.finish = .ok behind := rfl
  have read : Regex.read (escape text).toList = .ok behind := by
    simp only [escape, String.toList_ofList, Regex.read, reads.steps, reads.whole, finish]
    rfl
  have content : behind.content = .sequenceOf (text.toList.map .literal) := by
    simp [behind, Reader.content, Reader.branch, Reader.advance, Expression.choiceOf]
  have sound : (Expression.sequenceOf (text.toList.map .literal)).flaw? behind.globals.template =
      none := sound_text text.toList
  simp only [Program.compile, read, content, sound]
  rfl

theorem escape_append (text other : String) : escape (text ++ other) = escape text ++ escape other := by
  rw [← String.toList_inj]
  simp [escape]

/-- The escaped form of a text is an expression without groups, and it matches exactly this text as
    a whole. Texts are escaped one after the other, and no two texts are escaped alike. -/
theorem escape_exact [Character.Names] :
    (∀ text, ∃ program, Program.compile (escape text) = .ok program ∧ program.groups = 0 ∧
      ∀ subject, program.matchesWhole subject = true ↔ subject = text) ∧
    (∀ text other, escape (text ++ other) = escape text ++ escape other) ∧
    ∀ text other, escape text = escape other ↔ text = other := by
  have exact : ∀ text, ∃ program, Program.compile (escape text) = .ok program ∧
      program.groups = 0 ∧ ∀ subject, program.matchesWhole subject = true ↔ subject = text := by
    intro text
    refine ⟨_, compile_escape text, rfl, fun subject => ?_⟩
    rw [matchesWhole_text rfl, String.toList_inj]
  refine ⟨exact, escape_append, fun text other => ⟨fun same => ?_, congrArg escape⟩⟩
  -- Both texts are matched by what the common form is read as.
  obtain ⟨program, compiled, -, matched⟩ := exact text
  obtain ⟨otherProgram, otherCompiled, -, otherMatched⟩ := exact other
  rw [← same, compiled] at otherCompiled
  cases otherCompiled
  exact (otherMatched text).mp ((matched text).mpr rfl)

end RoutePattern
