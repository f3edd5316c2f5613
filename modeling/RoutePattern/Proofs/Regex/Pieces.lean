import RoutePattern.Proofs.Regex.Fragment

/-! # Expressions put together from pieces

Literal text, slashes and fragments are written one after the other between two anchors.

* `Reaches` — reading a text leads from readers of one kind to readers of another, unless a fragment
  turns on flags for the whole expression.
* `reaches_escape`, `reaches_slash`, `reaches_fragment`, … — the pieces.
* `Done`, `Reaches.read` — the end of the expression.
-/

namespace RoutePattern.Regex

namespace Reader

/-- Reading the text leads from readers of one kind to readers of another. If it fails, it is
    because of a loud fragment. -/
structure Reaches [Character.Names] (loud : Prop) (text : List Char)
    (before after : Reader → Prop) : Prop where
  whole : endsInBackslash text = false
  steps : ∀ reader, before reader →
    (∃ next, (tokens text).foldlM step reader = .ok next ∧ after next) ∨
      (loud ∧ ∃ fault, (tokens text).foldlM step reader = .error fault)

section

variable {loud straight : Prop} {bodies : List Expression} {references : List Nat}

section

variable [Character.Names]

theorem reaches_nil {before after : Reader → Prop} (implies : ∀ reader, before reader → after reader) :
    Reaches loud [] before after :=
  ⟨rfl, fun reader holds => .inl ⟨reader, rfl, implies reader holds⟩⟩

theorem Reaches.weaken {text : List Char} {before earlier after : Reader → Prop}
    (reaches : Reaches loud text before after) (implies : ∀ reader, earlier reader → before reader) :
    Reaches loud text earlier after :=
  ⟨reaches.whole, fun reader holds => reaches.steps reader (implies reader holds)⟩

theorem Reaches.imp {text : List Char} {before after later : Reader → Prop}
    (reaches : Reaches loud text before after) (implies : ∀ reader, after reader → later reader) :
    Reaches loud text before later where
  whole := reaches.whole
  steps := by
    intro reader holds
    refine (reaches.steps reader holds).imp_left ?_
    rintro ⟨next, read, reached⟩
    exact ⟨next, read, implies next reached⟩

/-- What has nothing to do with the reader holds from one end to the other. -/
theorem Reaches.keep {text : List Char} {before after : Reader → Prop}
    (reaches : Reaches loud text before after) (holds : Prop) :
    Reaches loud text (fun reader => before reader ∧ holds) (fun reader => after reader ∧ holds) where
  whole := reaches.whole
  steps := by
    rintro reader ⟨start, kept⟩
    refine (reaches.steps reader start).imp_left ?_
    rintro ⟨next, read, reached⟩
    exact ⟨next, read, reached, kept⟩

theorem Reaches.append {text other : List Char} {before middle after : Reader → Prop}
    (first : Reaches loud text before middle) (second : Reaches loud other middle after) :
    Reaches loud (text ++ other) before after where
  whole := by rw [endsInBackslash_append first.whole, second.whole]
  steps := by
    intro reader holds
    rw [tokens_append first.whole, List.foldlM_append]
    obtain ⟨next, read, holdsNext⟩ | ⟨isLoud, fault, failed⟩ := first.steps reader holds
    · rw [read]
      exact second.steps next holdsNext
    · rw [failed]
      exact .inr ⟨isLoud, fault, rfl⟩

/-- A text of one escape. -/
theorem reaches_escaped {c : Char} {before after : Reader → Prop}
    (steps : ∀ reader, before reader → ∃ next, reader.step (.escaped c) = .ok next ∧ after next) :
    Reaches loud ['\\', c] before after where
  whole := by simp [endsInBackslash]
  steps := by
    intro reader holds
    obtain ⟨next, step, holdsNext⟩ := steps reader holds
    exact .inl ⟨next, by simp [tokens, step, pure, Except.pure, bind, Except.bind], holdsNext⟩

end

/-! ## Literal text -/

theorem pushCode_literal {reader : Reader} (flags : reader.flags = {}) (c : Char) :
    reader.pushCode c.toNat = reader.push (.literal c) := by
  rw [Reader.pushCode, flags]
  rfl

theorem sound_literal (c : Char) : (Expression.literal c).Sound := by
  simp [Expression.literal, Expression.Sound, Expression.flaw?]

section

variable [Character.Names]

theorem reaches_escapeChar (c : Char) :
    Reaches loud (escapeChar c) (AtSeam straight bodies references)
      (AtSeam straight bodies references) := by
  cases special : isSpecial c with
  | true =>
    simp only [escapeChar, special, if_true]
    refine reaches_escaped fun reader seam => ?_
    obtain ⟨next, step, seamNext⟩ := seam.step_escaped
      (fun settled flags => (beginEscape_special settled special).trans
        (congrArg Except.ok (pushCode_literal flags c))) rfl rfl (sound_literal c)
    exact ⟨_, step, seamNext⟩
  | false =>
    have unescaped : c ≠ '\\' := by
      rintro rfl
      cases special
    simp only [escapeChar, special, Bool.false_eq_true, if_false]
    refine ⟨by simp [endsInBackslash, unescaped], fun reader seam => .inl ?_⟩
    obtain ⟨next, step, seamNext⟩ := seam.step_plain special
    exact ⟨next, by simp [tokens, unescaped, step, pure, Except.pure, bind, Except.bind], seamNext⟩

theorem reaches_escape (text : List Char) :
    Reaches loud (text.flatMap escapeChar) (AtSeam straight bodies references)
      (AtSeam straight bodies references) := by
  induction text with
  | nil => exact reaches_nil fun _ => id
  | cons c rest ih => exact (reaches_escapeChar c).append ih

/-! ## Slashes -/

theorem AtSeam.step_slash {reader : Reader} (seam : reader.AtSeam straight bodies references) :
    ∃ next : Reader, reader.step (.escaped '/') = .ok (next.push (.literal '/')) ∧
      (next.push (.literal '/')).AtSeam straight bodies references :=
  seam.step_escaped (fun _ flags => congrArg Except.ok (pushCode_literal flags '/')) rfl rfl
    (sound_literal '/')

/-- Behind a slash a fragment may begin. -/
theorem reaches_slash :
    Reaches loud ['\\', '/'] (AtSeam straight bodies references) (Ready straight bodies references) := by
  refine reaches_escaped fun reader seam => ?_
  obtain ⟨next, step, seamNext⟩ := seam.step_slash
  exact ⟨_, step, seamNext, by simp [push], .inl rfl⟩

theorem reaches_optionalSlash :
    Reaches loud ['\\', '/', '?'] (AtSeam straight bodies references)
      (Ready straight bodies references) := by
  refine ⟨rfl, fun reader seam => .inl ?_⟩
  obtain ⟨next, slash, seamNext⟩ := seam.step_slash
  have atRest : (next.push (.literal '/')).AtRest := ⟨rfl, seamNext.flags⟩
  let quantified : Reader :=
    { next.push (.literal '/') with
      position := next.position + 1
      mode := .quantified 0 (some 1) }
  have mark : (next.push (.literal '/')).step (.plain '?') = .ok quantified :=
    atRest.step_plain (by decide) (by decide)
  refine ⟨quantified, ?_, { seamNext with loose := ?_ }, ?_, .inr ⟨0, some 1, rfl⟩⟩
  · simp [tokens, slash, mark, pure, Except.pure, bind, Except.bind]
  · simp [quantified, Mode.Loose, push]
  · simp [quantified, push]

/-! ## Fragments -/

/-- A quantifier before a fragment ends with the first token of the fragment. -/
theorem Ready.settle {reader : Reader} (ready : reader.Ready straight bodies references) {token : Token}
    (unsigned : paceSign? token = none) :
    ∃ settled : Reader, reader.step token = settled.step token ∧
      settled.AtSeam straight bodies references ∧ settled.mode = .ordinary ∧ settled.items ≠ [] := by
  have ends : reader.mode.Ends (some token) := by
    obtain mode | ⟨least, most, mode⟩ := ready.mode <;> simp [mode, Mode.Ends, unsigned]
  obtain ⟨settled, found, seam, ordinary, present⟩ := ready.toAtSeam.settle ends
  have steady : settled.settle (some token) = .ok settled := by
    simp [Reader.settle, ordinary]
  refine ⟨settled, ?_, seam, ordinary, present ready.present⟩
  rw [step_eq, step_eq, found, steady]

/-- No fragment begins with a sign that would change a quantifier before it. -/
theorem Fragment.firstToken {text : List Char} {final : Reader}
    (fragment : Fragment straight text final) :
    ∃ token rest, tokens text = token :: rest ∧ paceSign? token = none := by
  obtain ⟨reader, -, steps, finish⟩ := readsAlone_of_read fragment.read
  cases shape : tokens text with
  | nil =>
    -- Nothing has no group.
    rw [shape] at steps
    cases steps
    cases finish
    exact absurd fragment.group (by decide)
  | cons token rest =>
    rw [shape, List.foldlM_cons] at steps
    refine ⟨token, rest, rfl, ?_⟩
    unfold paceSign?
    split
    · cases steps
    · cases steps
    · rfl

theorem reaches_fragment {text : List Char} {final : Reader} {body : Expression}
    (fragment : Fragment straight text final)
    (known : final.globals = {} → final.content.groups = [(1, body)])
    (isLoud : final.globals ≠ {} → loud) :
    Reaches loud text (Ready straight bodies references)
      (fun reader => AtSeam straight (bodies ++ [body])
        (references ++ final.content.references) reader ∧ final.globals = {}) where
  whole := by
    obtain ⟨reader, alone⟩ := readsAlone_of_read fragment.read
    exact alone.whole
  steps := by
    intro reader ready
    obtain ⟨token, rest, shape, unsigned⟩ := fragment.firstToken
    obtain ⟨settled, step, seam, ordinary, present⟩ := ready.settle unsigned
    have same : (tokens text).foldlM Reader.step reader =
        (tokens text).foldlM Reader.step settled := by
      rw [shape, List.foldlM_cons, List.foldlM_cons, step]
    rw [same]
    obtain ⟨silent, other, after, groups, read, seamAfter⟩ | ⟨isOn, failed⟩ :=
      seam.read_fragment ordinary present fragment
    · obtain rfl : body = other := by simpa [known silent] using groups
      exact .inl ⟨after, read, seamAfter, silent⟩
    · exact .inr ⟨isLoud isOn, failed⟩

/-! ## Anchors -/

/-- Where the expression begins. -/
theorem reaches_textStart :
    Reaches loud ['\\', 'A'] (· = {}) (Ready straight [] []) := by
  refine reaches_escaped fun reader start => ?_
  subst start
  let begun : Reader := { position := 2, items := [.anchor .textStart] }
  have seam : begun.AtSeam straight [] [] := {
    loose := trivial
    flags := rfl
    frames := rfl
    behindFrom := rfl
    names := rfl
    globals := rfl
    held := rfl
    asked := rfl
    count := rfl
    closed := by simp [begun]
    sound := by simp [begun, Expression.Sound, Expression.flaw?]
    conditions := by simp [begun]
    branches := fun _ => rfl }
  exact ⟨begun, rfl, seam, by simp [begun], .inl rfl⟩

end

/-- The reader at the end of a whole expression, whose last part is the end of the text. -/
structure Done (straight : Prop) (bodies : List Expression) (references : List Nat)
    (reader : Reader) : Prop extends AtSeam straight bodies references reader where
  mode : reader.mode = .ordinary
  textEnd : ∃ items, reader.items = .anchor .textEnd :: items

/-- Where the expression ends. -/
theorem reaches_textEnd [Character.Names] :
    Reaches loud ['\\', 'Z'] (AtSeam straight bodies references) (Done straight bodies references) := by
  refine reaches_escaped fun reader seam => ?_
  obtain ⟨next, step, seamNext⟩ := seam.step_escaped
    (fun settled _ => (rfl : settled.beginEscape 'Z' = .ok (settled.push (.anchor .textEnd)))) rfl rfl
    (by simp [Expression.Sound, Expression.flaw?])
  exact ⟨_, step, seamNext, rfl, next.items, rfl⟩

theorem Done.finish {reader : Reader} (done : reader.Done straight bodies references) :
    reader.finish = .ok reader := by
  have settled : reader.settle none = .ok reader := by simp [Reader.settle, done.mode]
  have closed : reader.checkClosed = .ok () := by simp [checkClosed, done.mode, done.frames]
  have conditions : reader.checkConditions = .ok () := by
    unfold checkConditions
    have none : reader.conditions.find? (reader.groups.length < ·.1) = none := by
      simpa using done.conditions
    rw [none]
  simp [Reader.finish, settled, closed, conditions, done.globals, FlagSet.conflicting, bind, Except.bind]

section

variable [Character.Names]

/-- A whole expression can be read, unless it holds a loud fragment. -/
theorem Reaches.read_of_finish {text : List Char} {after : Reader → Prop}
    (reaches : Reaches loud text (· = {}) after)
    (finish : ∀ reader, after reader → reader.finish = .ok reader) :
    (∃ reader, Regex.read text = .ok reader ∧ after reader) ∨
      (loud ∧ ∃ error, Regex.read text = .error error) := by
  obtain ⟨reader, steps, reached⟩ | ⟨isLoud, fault, failed⟩ := reaches.steps {} rfl
  · refine .inl ⟨reader, ?_, reached⟩
    simp [Regex.read, steps, reaches.whole, finish reader reached]
  · exact .inr ⟨isLoud, noticeTrailing text fault, by simp [Regex.read, failed]⟩

theorem Reaches.read {text : List Char}
    (reaches : Reaches loud text (· = {}) (Done straight bodies references)) :
    (∃ reader, Regex.read text = .ok reader ∧ Done straight bodies references reader) ∨
      (loud ∧ ∃ error, Regex.read text = .error error) :=
  reaches.read_of_finish fun _ => Done.finish

/-- Its program has one group for each body, and no names. -/
theorem Done.compile {source : String} {reader : Reader} (done : reader.Done straight bodies references)
    (read : Regex.read source.toList = .ok reader) :
    Program.compile source = .ok
      { source := source, expression := reader.content, groups := bodies.length, names := [] } := by
  have flawless : reader.content.flaw? false = none := sound_content.mpr done.sound
  have template : reader.globals.template = false := by rw [done.globals]
  simp [Program.compile, read, template, flawless, done.count, done.names]

end

end

end Reader

end RoutePattern.Regex
