import RoutePattern.Proofs.Regex.Seam

/-! # Fragments of expressions

A fragment is an expression of its own that holds one group and no reference back.

* `ReadsAlone` — a text is read as an expression of its own.
* `loose_of_finish` — at the end of such a text nothing is left open.
* `Ready` — the reader where a fragment may begin.
* `Fragment.unreferring` — no reference back is read in a fragment.
* `Fragment.eq_one_of_mem_references` — the only group that a fragment can ask for is its own.
* `AtSeam.read_fragment` — behind other pieces a fragment adds its group to theirs.
-/

namespace RoutePattern.Regex

/-! ## References -/

/-- A text without references by number has no token that begins one. -/
theorem unreferred_of_hasNumberedReference {text : List Char}
    (unreferred : hasNumberedReference false text = false) :
    ∀ c, .escaped c ∈ tokens text → isReferenceDigit c = false := by
  fun_induction tokens text with
  | case1 => simp
  | case2 => simp
  | case3 c unescaped => simp
  | case4 next others ih =>
    have escaped : isReferenceDigit next = false ∧ hasNumberedReference false others = false := by
      by_cases backslash : next = '\\'
      · subst backslash
        exact ⟨rfl, unreferred⟩
      · simpa [hasNumberedReference, backslash] using unreferred
    intro c member
    obtain same | later := List.mem_cons.mp member
    · cases same
      exact escaped.1
    · exact ih escaped.2 c later
  | case5 c next others unescaped ih =>
    have rest : hasNumberedReference false (next :: others) = false := by
      simpa [hasNumberedReference.eq_2 false c, unescaped] using unreferred
    intro d member
    exact ih rest d (by simpa using member)

namespace Reader

/-- The text is read as an expression of its own: `reader` has read its last token, and `final` has
    finished. -/
structure ReadsAlone [Character.Names] (text : List Char) (reader final : Reader) : Prop where
  whole : endsInBackslash text = false
  steps : (tokens text).foldlM step {} = .ok reader
  finish : reader.finish = .ok final

theorem readsAlone_of_read [Character.Names] {text : List Char} {final : Reader}
    (found : read text = .ok final) :
    ∃ reader, ReadsAlone text reader final := by
  unfold read at found
  split at found
  · cases found
  · rename_i reader steps
    split at found
    · cases found
    · rename_i whole
      split at found
      · cases found
      · rename_i finish
        cases found
        exact ⟨reader, by simpa using whole, steps, finish⟩

/-! ## The end of a text -/

theorem finish_eq_ok {reader final : Reader} (finish : reader.finish = .ok final) :
    reader.settle none = .ok final ∧ final.checkClosed = .ok () ∧
      final.checkConditions = .ok () := by
  unfold Reader.finish at finish
  cases settled : reader.settle none with
  | error fault => simp [settled, bind, Except.bind] at finish
  | ok after =>
    simp only [settled, bind, Except.bind] at finish
    split at finish
    · cases finish
    · split at finish
      · cases finish
      · split at finish
        · cases finish
        · cases finish
          exact ⟨rfl, ‹_›, ‹_›⟩

theorem conditions_le_of_checkConditions {reader : Reader}
    (checked : reader.checkConditions = .ok ()) :
    ∀ entry ∈ reader.conditions, entry.1 ≤ reader.groups.length := by
  unfold checkConditions complainAt at checked
  split at checked
  · rename_i none
    simpa using none
  · cases checked

theorem complainName_ne_ok {α : Type} (reader : Reader) (text : List Char) (terminator : Char)
    (value : α) : reader.complainName text terminator ≠ .ok value := by
  unfold complainName complain
  split <;> nofun

theorem frames_of_checkClosed {reader : Reader} (closed : reader.checkClosed = .ok ()) :
    reader.frames = [] := by
  unfold checkClosed complainAt complain at closed
  split at closed
  case h_12 =>
    split at closed
    · assumption
    · cases closed
  all_goals first | cases closed | exact absurd closed (complainName_ne_ok _ _ _ _)

/-- The character of an escape in a bracketed set leaves the set open. -/
theorem mode_of_acceptMember {reader next : Reader} {draft : SetDraft} {element : Member}
    {written : List Char} (accepted : reader.acceptMember draft element written = .ok next) :
    ∃ after, next.mode = .bracket after := by
  unfold acceptMember complain at accepted
  split at accepted
  · split at accepted
    · split at accepted <;> cases accepted
      exact ⟨_, rfl⟩
    · cases accepted
  · cases accepted
    exact ⟨_, rfl⟩

/-- An escape with which a text ends is a finished code, and it stands between two parts. -/
theorem loose_of_concludeEscape {reader final : Reader} {site : Site} {pending : Pending}
    (proper : (Mode.escape site pending).Proper reader.flags reader.items)
    (concluded : reader.concludeEscape site pending = .ok final)
    (closed : final.checkClosed = .ok ()) : (Mode.escape site pending).Loose reader.items := by
  have atSequence : ∀ code, reader.deliver site code = .ok final → site = .sequence := by
    intro code delivered
    cases site with
    | sequence => rfl
    | set draft written =>
      obtain ⟨after, mode⟩ := mode_of_acceptMember delivered
      simp [checkClosed, mode, complainAt] at closed
  cases pending with
  | hexadecimal letter digits =>
    obtain ⟨complete, small, delivered⟩ := concludeHexadecimal_eq_ok.mp concluded
    obtain rfl := atSequence _ delivered
    exact ⟨complete, small⟩
  | octal digits =>
    unfold concludeEscape concludeOctal complain at concluded
    dsimp only at concluded
    split at concluded
    · cases concluded
    · obtain rfl := atSequence _ concluded
      exact proper
  | reference digits => exact proper.elim
  | nameOpening => cases concluded
  | name text =>
    unfold concludeEscape complain at concluded
    dsimp only at concluded
    split at concluded <;> cases concluded

/-- At the end of a text everything is closed that has to be. -/
theorem loose_of_finish {reader final : Reader} (proper : reader.Proper)
    (orderly : reader.Orderly) (finish : reader.finish = .ok final) :
    reader.mode.Loose reader.items := by
  obtain ⟨settled, closed, -⟩ := finish_eq_ok finish
  have modeProper := proper
  unfold Proper at modeProper
  unfold settle at settled
  cases mode : reader.mode with
  | ordinary => trivial
  | quantified least most => rwa [mode] at modeProper
  | counts start low high => trivial
  | lineComment =>
    -- At the outermost level the expression is not verbose.
    rw [mode] at modeProper
    simp only [mode] at settled
    cases settled
    have grounded := orderly.grounded
    rw [frames_of_checkClosed closed] at grounded
    rw [Mode.Proper, grounded.1] at modeProper
    cases modeProper
  | escape site pending =>
    rw [mode] at modeProper
    simp only [mode] at settled
    exact loose_of_concludeEscape modeProper settled closed
  | parenthesis start =>
    simp only [mode] at settled
    cases settled
    have frames := frames_of_checkClosed closed
    simp [openCapture, openGroup] at frames
  | flagsOff start on off =>
    simp only [mode] at settled
    cases settled
    cases off <;> simp [checkClosed, mode, complain] at closed
  | groupName | referenceName | condition =>
    simp only [mode] at settled
    cases settled
    simp only [checkClosed, mode] at closed
    exact absurd closed (complainName_ne_ok _ _ _ _)
  | _ =>
    simp only [mode] at settled
    cases settled
    simp [checkClosed, mode, complainAt, complain] at closed

/-! ## Behind other pieces -/

/-- The reader where a fragment may begin: something has been read, and nothing is left open but a
    quantifier. -/
structure Ready (straight : Prop) (bodies : List Expression) (references : List Nat)
    (reader : Reader) : Prop extends
    AtSeam straight bodies references reader where
  present : reader.items ≠ []
  mode : reader.mode = .ordinary ∨ ∃ least most, reader.mode = .quantified least most

/-- An expression of its own with one group that has no name, and without references back by number.
    If it is straight, it has no bar outside parentheses. -/
structure Fragment [Character.Names] (straight : Prop) (text : List Char) (final : Reader) :
    Prop where
  read : Regex.read text = .ok final
  group : final.groups.length = 1
  names : final.names = []
  sound : final.globals = {} → final.content.Sound
  unreferred : hasNumberedReference false text = false
  branches : straight → final.branches = []

section

variable {straight : Prop} {bodies : List Expression} {references : List Nat} {base reader : Reader}

/-- Before the first token of a fragment. -/
theorem AtSeam.alongside (seam : base.AtSeam straight bodies references)
    (ordinary : base.mode = .ordinary) :
    Alongside base {} base where
  mode := ordinary ▸ .ordinary
  flags := seam.flags
  stack := by
    rw [seam.frames]
    exact .ground (.first [])
  groups := (List.append_nil _).symm
  behindFrom := seam.behindFrom
  names := ⟨rfl, seam.names⟩
  conditions := fun entry member => .inl (seam.conditions entry member)
  globals := ⟨rfl, seam.globals⟩

/-- All groups are closed where no parenthesis is open. -/
theorem Orderly.closed (orderly : reader.Orderly) (frames : reader.frames = []) :
    ∀ width ∈ reader.groups, width.isSome = true := by
  intro width member
  obtain ⟨index, inside, rfl⟩ := List.mem_iff_getElem.mp member
  cases width : reader.groups[index] with
  | some width => rfl
  | none =>
    have isOpen := orderly.unclosed index (by rw [List.getElem?_eq_getElem inside, width])
    simp [frames] at isOpen

/-- The one group of an expression, which has no group inside it. -/
theorem Orderly.held_eq (orderly : reader.Orderly) (frames : reader.frames = [])
    (group : reader.groups.length = 1) :
    ∃ body : Expression, held reader.branches reader.items = [(1, body)] ∧ body.groups = [] := by
  have numbers := orderly.numbers
  rw [frames, group] at numbers
  obtain ⟨⟨number, body⟩, rest, shape, rfl, none⟩ := List.map_eq_cons_iff.mp numbers
  obtain rfl := List.map_eq_nil_iff.mp none
  refine ⟨body, shape, ?_⟩
  have member : (1, body) ∈ reader.content.groups := by simp [groups_content, shape]
  have inside := Expression.length_groups_lt member
  rw [groups_content, shape] at inside
  exact List.length_eq_zero_iff.mp (Nat.lt_one_iff.mp inside)

theorem Alongside.level {other : Reader} (along : Alongside base reader other)
    (frames : reader.frames = []) :
    other.frames = [] ∧
      Level base reader.branches reader.items other.branches other.items := by
  have stack := along.stack
  rw [frames] at stack
  generalize other.frames = otherFrames at stack
  cases stack with
  | ground level => exact ⟨rfl, level⟩

/-- A loose end is a loose end behind other pieces, too. -/
theorem Alongside.loose {other : Reader} (along : Alongside base reader other)
    (loose : reader.mode.Loose reader.items) : other.mode.Loose other.items := by
  have same := along.mode
  cases readerMode : reader.mode with
  | quantified least most =>
    rw [readerMode] at same loose
    obtain ⟨item, rest, shape⟩ := List.exists_cons_of_ne_nil loose
    have stack := along.stack
    rw [shape] at stack
    obtain ⟨others, otherItems, -⟩ := stack.tail
    generalize other.mode = otherMode at same
    cases same
    simp [Mode.Loose, otherItems]
  | escape site pending =>
    rw [readerMode] at same loose
    obtain ⟨rfl, -⟩ := Mode.Loose.of_escape loose
    generalize other.mode = otherMode at same
    cases same with
    | escape alike =>
      cases alike
      cases pending <;> exact loose
  | _ =>
    rw [readerMode] at same loose
    generalize other.mode = otherMode at same
    cases same
    exact loose

/-- The reader behind the last token of a fragment that turns on no flags for the whole
    expression, when it reads the fragment on its own. -/
structure Ended (straight : Prop) (body : Expression) (reader : Reader) : Prop where
  orderly : reader.Orderly
  frames : reader.frames = []
  loose : reader.mode.Loose reader.items
  held : held reader.branches reader.items = [(1, body)]
  bare : body.groups = []
  group : reader.groups.length = 1
  sound : (∀ branch ∈ reader.branches, branch.Sound) ∧ ∀ item ∈ reader.items, item.Sound
  conditions : ∀ entry ∈ reader.conditions, entry.1 ≤ 1
  branches : straight → reader.branches = []

section

variable [Character.Names]

/-- Up to its last token a fragment is read by edits. -/
theorem Fragment.leads {text : List Char} {final : Reader}
    (fragment : Fragment straight text final) (alone : ReadsAlone text reader final) :
    Edits {} reader ∧ reader.Proper :=
  leads_foldlM _ (proper_of_ordinary rfl)
    (unreferred_of_hasNumberedReference fragment.unreferred) reader alone.steps

/-- And so is its end. -/
theorem Fragment.lastEdits {text : List Char} {final : Reader}
    (fragment : Fragment straight text final) (alone : ReadsAlone text reader final) :
    Edits reader final :=
  (reader.leads_settle none (fragment.leads alone).2 final (finish_eq_ok alone.finish).1).1

theorem Fragment.edits {text : List Char} {final : Reader}
    (fragment : Fragment straight text final) : Edits {} final := by
  obtain ⟨reader, alone⟩ := readsAlone_of_read fragment.read
  exact (fragment.leads alone).1.trans (fragment.lastEdits alone)

theorem Fragment.modest {text : List Char} {final : Reader}
    (fragment : Fragment straight text final) : final.Modest :=
  ⟨Nat.le_of_eq fragment.group, fragment.names⟩

/-- No reference back, by number or by name, stands in what a fragment is read as. -/
theorem Fragment.unreferring {text : List Char} {final : Reader}
    (fragment : Fragment straight text final) : final.content.Unreferring :=
  (fragment.edits.unreferring fragment.modest unreferring_start).content

/-- A fragment asks for no group but its own. -/
theorem Fragment.eq_one_of_mem_references {text : List Char} {final : Reader}
    (fragment : Fragment straight text final) :
    ∀ number ∈ final.content.references, number = 1 := by
  obtain ⟨reader, alone⟩ := readsAlone_of_read fragment.read
  obtain ⟨-, closed, conditions⟩ := finish_eq_ok alone.finish
  have few := conditions_le_of_checkConditions conditions
  rw [fragment.group] at few
  have noted := fragment.edits.noted fragment.modest noted_start
  rw [Noted, frames_of_checkClosed closed] at noted
  intro number member
  rw [references_content] at member
  obtain ⟨positive, isNoted⟩ := noted number member
  obtain ⟨entry, inConditions, rfl⟩ := List.mem_map.mp isNoted
  have bound := few entry inConditions
  omega

theorem Fragment.ended {text : List Char} {final : Reader}
    (fragment : Fragment straight text final) (alone : ReadsAlone text reader final)
    (silent : reader.globals = {}) :
    final.globals = {} ∧ final.content.references = referred reader.branches reader.items ∧
      ∃ body, final.content.groups = [(1, body)] ∧ reader.Ended straight body := by
  obtain ⟨settled, closed, conditions⟩ := finish_eq_ok alone.finish
  obtain ⟨edits, proper⟩ := fragment.leads alone
  have orderly := edits.orderly silent orderly_start
  have loose := loose_of_finish proper orderly alone.finish
  -- Finishing ends what is loose and changes nothing else.
  obtain ⟨items, amends, ended⟩ := settle_of_loose loose (Mode.ends_none reader.mode)
  obtain rfl := Except.ok.inj (settled.symm.trans ended)
  have frames : reader.frames = [] := (frames_of_checkClosed closed : _)
  obtain ⟨body, held, bare⟩ := orderly.held_eq frames fragment.group
  obtain ⟨branchSound, itemSound⟩ := sound_content.mp (fragment.sound silent)
  have few := conditions_le_of_checkConditions conditions
  rw [fragment.group] at few
  refine ⟨silent, ?_, body, ?_, orderly, frames, loose, held, bare, fragment.group,
    ⟨branchSound, amends.sound.mp itemSound⟩, few, fragment.branches⟩
  · rw [references_content]
    exact amends.referred_eq _
  · rw [groups_content]
    exact (amends.held_eq _).trans held

end

/-- Behind the last token of a fragment that is read behind other pieces. -/
theorem AtSeam.of_alongside {other : Reader} {body : Expression}
    (seam : base.AtSeam straight bodies references) (along : Alongside base reader other)
    (ended : reader.Ended straight body) :
    other.AtSeam straight (bodies ++ [body])
      (references ++ referred reader.branches reader.items) := by
  obtain ⟨otherFrames, level⟩ := along.level ended.frames
  have grounded := ended.orderly.grounded
  rw [ended.frames] at grounded
  have count : other.groups.length = (bodies ++ [body]).length := by
    rw [along.groups, List.length_append, List.length_append, seam.count, ended.group]
    rfl
  exact {
    loose := along.loose ended.loose
    flags := along.flags.trans grounded.1
    frames := otherFrames
    behindFrom := by rw [along.behindFrom, grounded.2]; rfl
    names := along.names.2
    globals := along.globals.2
    held := by
      rw [level.held_eq, seam.held, ended.held, numbered_append_singleton, seam.count]
      simp [Expression.renumberGroup, Expression.renumber_of_groups_eq_nil _ ended.bare,
        Nat.add_comm]
    asked := by rw [level.referred_eq, seam.asked]
    count := count
    closed := by
      rw [along.groups]
      exact List.forall_mem_append.mpr ⟨seam.closed, ended.orderly.closed ended.frames⟩
    sound := level.sound seam.sound ended.sound
    conditions := by
      intro entry member
      rw [count, List.length_append, List.length_singleton]
      obtain before | own := along.conditions entry member
      · rw [seam.count] at before
        omega
      · obtain ⟨known, inReader, same⟩ := List.mem_map.mp own
        have := ended.conditions known inReader
        omega
    branches := fun holds => (level.branches_eq (ended.branches holds)).trans (seam.branches holds) }

/-- Behind other pieces a fragment adds its group to theirs, and goes on asking for the numbers it
    asks for on its own. Only one that turns on flags for the
    whole expression is refused. -/
theorem AtSeam.read_fragment [Character.Names] {text : List Char} {final : Reader}
    (seam : base.AtSeam straight bodies references) (ordinary : base.mode = .ordinary)
    (present : base.items ≠ []) (fragment : Fragment straight text final) :
    (final.globals = {} ∧ ∃ body after, final.content.groups = [(1, body)] ∧
      (tokens text).foldlM step base = .ok after ∧
      after.AtSeam straight (bodies ++ [body]) (references ++ final.content.references)) ∨
    (final.globals ≠ {} ∧ ∃ fault, (tokens text).foldlM step base = .error fault) := by
  obtain ⟨reader, alone⟩ := readsAlone_of_read fragment.read
  have lastEdits := fragment.lastEdits alone
  have modest : reader.Modest := lastEdits.modest fragment.modest
  obtain ⟨other, read, along⟩ | ⟨loud, failed⟩ :=
    (seam.alongside ordinary).follows_foldlM seam.closed present (proper_of_ordinary rfl)
      (unreferred_of_hasNumberedReference fragment.unreferred) reader alone.steps modest
  · obtain ⟨silent, same, body, groups, ended⟩ := fragment.ended alone along.globals.1
    rw [same]
    exact .inl ⟨silent, body, other, groups, read, seam.of_alongside along ended⟩
  · exact .inr ⟨fun silent => loud (lastEdits.silent silent), failed⟩

/-- The group of a fragment that turns on no flags for the whole expression. -/
theorem Fragment.exists_body [Character.Names] {text : List Char} {final : Reader}
    (fragment : Fragment straight text final) (silent : final.globals = {}) :
    ∃ body, final.content.groups = [(1, body)] := by
  obtain ⟨reader, alone⟩ := readsAlone_of_read fragment.read
  obtain ⟨-, -, body, groups, -⟩ :=
    fragment.ended alone ((fragment.lastEdits alone).silent silent)
  exact ⟨body, groups⟩

end

end Reader

end RoutePattern.Regex
