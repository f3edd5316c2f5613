import RoutePattern.Proofs.Regex.References

/-! # Two readers of one text

A text is read on its own, and it is read once more behind what a reader `base` has read. The
second reader goes along with the first: it has the same parts, with the groups renumbered, behind
those of `base`.

* `Mode.Alike` — modes that differ at most in the places they remember.
* `Level`, `Stack` — the parts of the two readers, at the outermost level and inside parentheses.
* `Alongside` — everything the two readers have in common.
* `Alongside.push`, `Alongside.closeGroup`, … — what one reader does, the other does as well.
-/

namespace RoutePattern.Regex

/-! ## Modes -/

inductive Site.Alike : Site → Site → Prop where
  | sequence : Alike .sequence .sequence
  | set (draft : SetDraft) (start : Nat) (written : List Char) :
    Alike (.set draft written) (.set { draft with start := start } written)

/-- The same mode, up to where things began. -/
inductive Mode.Alike : Mode → Mode → Prop where
  | ordinary : Alike .ordinary .ordinary
  | quantified (least : Nat) (most : Option Nat) :
    Alike (.quantified least most) (.quantified least most)
  | counts (start other : Nat) (low : List Char) (high : Option (List Char)) :
    Alike (.counts start low high) (.counts other low high)
  | lineComment : Alike .lineComment .lineComment
  | escape {site other : Site} (alike : site.Alike other) (pending : Pending) :
    Alike (.escape site pending) (.escape other pending)
  | bracket (draft : SetDraft) (start : Nat) :
    Alike (.bracket draft) (.bracket { draft with start := start })
  | parenthesis (start other : Nat) : Alike (.parenthesis start) (.parenthesis other)
  | extension (start other : Nat) : Alike (.extension start) (.extension other)
  | naming (start other : Nat) : Alike (.naming start) (.naming other)
  | groupName (start other : Nat) (text : List Char) :
    Alike (.groupName start text) (.groupName other text)
  | referenceName (text : List Char) : Alike (.referenceName text) (.referenceName text)
  | behind (start other : Nat) : Alike (.behind start) (.behind other)
  | condition (start other : Nat) (text : List Char) :
    Alike (.condition start text) (.condition other text)
  | comment (start other : Nat) : Alike (.comment start) (.comment other)
  | flagsOn (start other : Nat) (on : FlagSet) : Alike (.flagsOn start on) (.flagsOn other on)
  | flagsOff (start other : Nat) (on : FlagSet) (off : Option FlagSet) :
    Alike (.flagsOff start on off) (.flagsOff other on off)

/-! ## Parts -/

/-- The kind of a group that stands behind `shift` other groups. -/
def GroupKind.renumber (shift : Nat) : GroupKind → GroupKind
  | .capture number => .capture (number + shift)
  | kind => kind

/-- Branches and items at the outermost level. Until the first bar the other reader's items stand
    in a row with those of `base`, and afterwards its first branch does. -/
inductive Level (base : Reader) :
    (branches items otherBranches otherItems : List Expression) → Prop where
  | first (items : List Expression) :
    Level base [] items base.branches (items.map (.renumber base.groups.length) ++ base.items)
  | later (branches : List Expression) (first : Expression) (items : List Expression) :
    Level base (branches ++ [first]) items
      (branches.map (.renumber base.groups.length) ++
        .behind base.items.reverse (first.renumber base.groups.length) :: base.branches)
      (items.map (.renumber base.groups.length))

/-- Branches and items inside the open groups. Inside parentheses the parts of `base` are out of
    reach. -/
inductive Stack (base : Reader) : List Frame → (branches items : List Expression) →
    List Frame → (otherBranches otherItems : List Expression) → Prop where
  | ground {branches items otherBranches otherItems : List Expression}
      (level : Level base branches items otherBranches otherItems) :
    Stack base [] branches items [] otherBranches otherItems
  | nested {frame other : Frame} {outer otherOuter : List Frame}
      (around : Stack base outer frame.branches frame.items otherOuter other.branches other.items)
      (kind : other.kind = frame.kind.renumber base.groups.length)
      (positive : frame.kind ≠ .capture 0)
      (flags : other.flags = frame.flags)
      (behindFrom : other.behindFrom = frame.behindFrom.map (· + base.groups.length))
      (branches items : List Expression) :
    Stack base (frame :: outer) branches items (other :: otherOuter)
      (branches.map (.renumber base.groups.length)) (items.map (.renumber base.groups.length))

section

open Reader (held referred)

variable {base : Reader} {branches items otherBranches otherItems : List Expression}

/-- The groups of `base` come first. -/
theorem Level.held_eq (level : Level base branches items otherBranches otherItems) :
    held otherBranches otherItems = held base.branches base.items ++
      (held branches items).map (Expression.renumberGroup base.groups.length) := by
  cases level with
  | first =>
    simp only [held, List.reverse_append, List.flatMap_append, List.reverse_nil,
      ← List.map_reverse, Expression.flatMap_groups_renumber, List.nil_append, List.append_assoc]
  | later branches first =>
    simp only [held, List.reverse_append, List.reverse_cons, List.reverse_nil, List.nil_append,
      List.flatMap_append, List.flatMap_cons, List.flatMap_nil, List.append_nil,
      ← List.map_reverse, Expression.flatMap_groups_renumber, Expression.groups_behind,
      Expression.groups_renumber, List.map_append, List.append_assoc]

/-- The numbers that `base` asks for come first, and no number is moved up. -/
theorem Level.referred_eq (level : Level base branches items otherBranches otherItems) :
    referred otherBranches otherItems =
      referred base.branches base.items ++ referred branches items := by
  cases level with
  | first =>
    simp only [referred, List.reverse_append, List.flatMap_append, List.reverse_nil,
      ← List.map_reverse, Expression.flatMap_references_renumber, List.nil_append,
      List.append_assoc]
  | later branches first =>
    simp only [referred, List.reverse_append, List.reverse_cons, List.reverse_nil, List.nil_append,
      List.flatMap_append, List.flatMap_cons, List.flatMap_nil, List.append_nil,
      ← List.map_reverse, Expression.flatMap_references_renumber, Expression.references_behind,
      Expression.references_renumber, List.append_assoc]

theorem Level.sound (level : Level base branches items otherBranches otherItems)
    (baseSound : (∀ branch ∈ base.branches, branch.Sound) ∧ ∀ item ∈ base.items, item.Sound)
    (sound : (∀ branch ∈ branches, branch.Sound) ∧ ∀ item ∈ items, item.Sound) :
    (∀ branch ∈ otherBranches, branch.Sound) ∧ ∀ item ∈ otherItems, item.Sound := by
  cases level with
  | first =>
    simpa [or_imp, forall_and, Expression.sound_renumber] using
      ⟨baseSound.1, sound.2, baseSound.2⟩
  | later branches first =>
    obtain ⟨branchSound, itemSound⟩ := sound
    simp only [List.forall_mem_append, List.forall_mem_cons] at branchSound
    simp only [List.forall_mem_append, List.forall_mem_cons, List.forall_mem_map,
      Expression.sound_renumber, Expression.sound_behind, List.mem_reverse]
    exact ⟨⟨branchSound.1, ⟨baseSound.2, branchSound.2.1⟩, baseSound.1⟩, itemSound⟩

/-- Without a bar the other reader has no more branches than `base`. -/
theorem Level.branches_eq (level : Level base branches items otherBranches otherItems)
    (straight : branches = []) : otherBranches = base.branches := by
  cases level with
  | first => rfl
  | later => simp at straight

end

section

variable {base : Reader} {frames otherFrames : List Frame}
  {branches items otherBranches otherItems : List Expression}

theorem Stack.cons (stack : Stack base frames branches items otherFrames otherBranches otherItems)
    (item : Expression) :
    Stack base frames branches (item :: items) otherFrames otherBranches
      (item.renumber base.groups.length :: otherItems) := by
  cases stack with
  | ground level =>
    cases level with
    | first => exact .ground (.first (item :: items))
    | later branches first => exact .ground (.later branches first (item :: items))
  | nested around kind positive flags behindFrom =>
    exact .nested around kind positive flags behindFrom branches (item :: items)

/-- Without its latest part, where there is one. -/
theorem Stack.tail {item : Expression}
    (stack : Stack base frames branches (item :: items) otherFrames otherBranches otherItems) :
    ∃ others, otherItems = item.renumber base.groups.length :: others ∧
      Stack base frames branches items otherFrames otherBranches others := by
  cases stack with
  | ground level =>
    cases level with
    | first => exact ⟨_, rfl, .ground (.first items)⟩
    | later branches first => exact ⟨_, rfl, .ground (.later branches first items)⟩
  | nested around kind positive flags behindFrom =>
    exact ⟨_, rfl, .nested around kind positive flags behindFrom branches items⟩

/-- Where nothing has been read, there is what `base` has read. -/
theorem Stack.start
    (stack : Stack base frames branches items otherFrames otherBranches otherItems)
    (noFrame : frames = []) (noBranch : branches = []) (noItem : items = []) :
    otherItems = base.items := by
  cases stack with
  | ground level =>
    cases level with
    | first => simp [noItem]
    | later => simp at noBranch
  | nested => cases noFrame

/-- A branch ends in both. -/
theorem Stack.nextBranch
    (stack : Stack base frames branches items otherFrames otherBranches otherItems) :
    Stack base frames (.sequenceOf items.reverse :: branches) [] otherFrames
      (.sequenceOf otherItems.reverse :: otherBranches) [] := by
  cases stack with
  | ground level =>
    cases level with
    | first =>
      rw [List.reverse_append, Expression.sequenceOf_append, ← List.map_reverse,
        ← Expression.renumber_sequenceOf]
      exact .ground (.later [] (.sequenceOf items.reverse) [])
    | later branches first =>
      rw [← List.map_reverse, ← Expression.renumber_sequenceOf]
      exact .ground (.later (.sequenceOf items.reverse :: branches) first [])
  | nested around kind positive flags behindFrom =>
    rw [← List.map_reverse, ← Expression.renumber_sequenceOf]
    exact .nested around kind positive flags behindFrom
      (.sequenceOf items.reverse :: branches) []

end

namespace Reader

/-! ## Readers -/

/-- The other reader has read the same behind what `base` has read. -/
structure Alongside (base reader other : Reader) : Prop where
  mode : reader.mode.Alike other.mode
  flags : other.flags = reader.flags
  stack : Stack base reader.frames reader.branches reader.items
    other.frames other.branches other.items
  groups : other.groups = base.groups ++ reader.groups
  behindFrom : other.behindFrom = reader.behindFrom.map (· + base.groups.length)
  names : reader.names = [] ∧ other.names = []
  conditions : ∀ entry ∈ other.conditions,
    entry.1 ≤ base.groups.length ∨ entry.1 ∈ reader.conditions.map Prod.fst
  globals : reader.globals = {} ∧ other.globals = {}

namespace Alongside

variable {base reader other : Reader}

/-- Readers may move on and change into modes that are alike. -/
theorem become (along : Alongside base reader other) {mode otherMode : Mode}
    (alike : mode.Alike otherMode) (position otherPosition : Nat) :
    Alongside base { reader with position := position, mode := mode }
      { other with position := otherPosition, mode := otherMode } :=
  { along with mode := alike }

theorem push (along : Alongside base reader other) {item : Expression} (bare : item.groups = []) :
    Alongside base (reader.push item) (other.push item) := by
  have stack := along.stack.cons item
  rw [Expression.renumber_of_groups_eq_nil _ bare] at stack
  exact { along with mode := .ordinary, stack := stack }

theorem pushCode (along : Alongside base reader other) (code : Nat) :
    Alongside base (reader.pushCode code) (other.pushCode code) := by
  unfold Reader.pushCode
  rw [along.flags]
  exact along.push rfl

theorem nextBranch (along : Alongside base reader other) :
    Alongside base reader.nextBranch other.nextBranch :=
  { along with stack := along.stack.nextBranch }

theorem repeatLast (along : Alongside base reader other) (items : reader.items ≠ [])
    (pace : Pace) (least : Nat) (most : Option Nat) :
    Alongside base (reader.repeatLast pace least most) (other.repeatLast pace least most) := by
  obtain ⟨item, rest, shape⟩ := List.exists_cons_of_ne_nil items
  have stack := along.stack
  rw [shape] at stack
  obtain ⟨others, otherShape, stackRest⟩ := stack.tail
  unfold Reader.repeatLast
  simp only [shape, otherShape]
  exact { along with mode := .ordinary, stack := stackRest.cons (.repeated pace least most item) }

theorem openGroup (along : Alongside base reader other) (kind : GroupKind)
    (positive : kind ≠ .capture 0) (start otherStart : Nat) (flags : Flags) :
    Alongside base (reader.openGroup kind start flags)
      (other.openGroup (kind.renumber base.groups.length) otherStart flags) :=
  { along with
    mode := .ordinary
    flags := rfl
    stack := .nested along.stack rfl positive along.flags along.behindFrom [] [] }

theorem openCapture (along : Alongside base reader other) (start otherStart : Nat) :
    Alongside base (reader.openCapture start) (other.openCapture otherStart) := by
  have number : GroupKind.capture (other.groups.length + 1) =
      (GroupKind.capture (reader.groups.length + 1)).renumber base.groups.length := by
    rw [along.groups, List.length_append, GroupKind.renumber]
    congr 1
    omega
  have opened := along.openGroup (.capture (reader.groups.length + 1)) (by simp) start otherStart
    reader.flags
  unfold Reader.openCapture
  rw [number, along.flags]
  refine { opened with groups := ?_ }
  rw [along.groups, List.append_assoc]

theorem openBehind (along : Alongside base reader other) (negated : Bool)
    (start otherStart : Nat) :
    Alongside base (reader.openBehind negated start) (other.openBehind negated otherStart) := by
  have opened := along.openGroup (.look .behind negated) (by simp) start otherStart
    reader.flags
  unfold Reader.openBehind
  rw [along.flags]
  refine { opened with behindFrom := ?_ }
  rw [along.behindFrom, along.groups, List.length_append]
  cases reader.behindFrom with
  | none => simp [Nat.add_assoc, Nat.add_comm]
  | some first => rfl

/-- Inside parentheses the content is the same, renumbered. -/
theorem groupItem_renumber {shift : Nat}
    (branches : other.branches = reader.branches.map (.renumber shift))
    (items : other.items = reader.items.map (.renumber shift)) (kind : GroupKind) :
    other.groupItem (kind.renumber shift) = (reader.groupItem kind).renumber shift := by
  have branch : other.branch = reader.branch.renumber shift := by
    rw [Reader.branch, Reader.branch, items, ← List.map_reverse, Expression.renumber_sequenceOf]
  have content : other.content = reader.content.renumber shift := by
    rw [Reader.content, Reader.content, branch, branches, ← List.map_cons, ← List.map_reverse,
      Expression.renumber_choiceOf]
  cases kind with
  | capture number => exact congrArg (Expression.captured (number + shift)) content
  | enclosed => exact congrArg Expression.enclosed content
  | atomic => exact congrArg Expression.atomic content
  | look side negated => exact congrArg (Expression.look side negated) content
  | conditional number =>
    simp only [GroupKind.renumber, groupItem, branches, branch]
    cases reader.branches <;> rfl

/-- The group that is closed gets the same width in both. -/
theorem groupsAfter_renumber (groups : other.groups = base.groups ++ reader.groups)
    {kind : GroupKind} (positive : kind ≠ .capture 0)
    (content : other.groupItem (kind.renumber base.groups.length) =
      (reader.groupItem kind).renumber base.groups.length) :
    other.groupsAfter (kind.renumber base.groups.length) =
      base.groups ++ reader.groupsAfter kind := by
  cases kind with
  | capture number =>
    have width : other.content.width = reader.content.width :=
      (congrArg Expression.width content).trans (Expression.width_renumber _ _)
    have inside : base.groups.length ≤ number + base.groups.length - 1 := by
      have : number ≠ 0 := by
        rintro rfl
        exact positive rfl
      omega
    simp only [GroupKind.renumber, groupsAfter, width, groups]
    rw [List.set_append_right _ _ inside]
    congr 2
    omega
  | enclosed | atomic | look _ _ | conditional _ => exact groups

theorem closeGroup (along : Alongside base reader other) :
    Alongside base reader.closeGroup other.closeGroup := by
  have stack := along.stack
  unfold Reader.closeGroup
  generalize readerFrames : reader.frames = frames, otherFrames : other.frames = others,
    readerBranches : reader.branches = branches, otherBranches : other.branches = branches',
    readerItems : reader.items = items, otherItems : other.items = items' at stack
  cases stack with
  | ground level =>
    exact along
  | nested around kind positive flags behindFrom =>
    have item : ∀ inner : GroupKind, other.groupItem (inner.renumber base.groups.length) =
        (reader.groupItem inner).renumber base.groups.length := by
      apply groupItem_renumber
      · rw [otherBranches, readerBranches]
      · rw [otherItems, readerItems]
    dsimp only
    exact {
      mode := .ordinary
      flags := flags
      stack := by
        rw [kind, item]
        exact around.cons _
      groups := by rw [kind, groupsAfter_renumber along.groups positive (item _)]
      behindFrom := behindFrom
      names := along.names
      conditions := along.conditions
      globals := along.globals }

theorem isEmpty_frames (along : Alongside base reader other) :
    other.frames.isEmpty = reader.frames.isEmpty := by
  have stack := along.stack
  generalize reader.frames = frames, other.frames = others, reader.branches = branches,
    other.branches = otherBranches, reader.items = items, other.items = otherItems at stack
  cases stack <;> rfl

/-- Both may begin a branch, or neither may. -/
theorem inLastBranch (along : Alongside base reader other) :
    other.inLastBranch = reader.inLastBranch := by
  have stack := along.stack
  unfold Reader.inLastBranch
  generalize reader.frames = frames, other.frames = others, reader.branches = branches,
    other.branches = otherBranches, reader.items = items, other.items = otherItems at stack
  cases stack with
  | ground => rfl
  | @nested frame otherFrame _ _ _ kind =>
    obtain ⟨frameKind, _, _, _, _, _⟩ := frame
    obtain ⟨otherKind, _, _, _, _, _⟩ := otherFrame
    obtain rfl : otherKind = frameKind.renumber base.groups.length := kind
    cases frameKind with
    | capture | enclosed | atomic | look => rfl
    | conditional number => simp [GroupKind.renumber]

theorem noteCondition (along : Alongside base reader other) (number place otherPlace : Nat) :
    Alongside base (reader.noteCondition number place) (other.noteCondition number otherPlace) := by
  obtain ⟨conditions, same, kept, noted, -⟩ := noteCondition_eq reader number place
  obtain ⟨otherConditions, otherSame, -, -, known⟩ := noteCondition_eq other number otherPlace
  rw [same, otherSame]
  refine { along with conditions := ?_ }
  intro entry member
  obtain old | new := known entry member
  · exact (along.conditions entry old).imp_right (List.map_subset _ kept ·)
  · exact .inr (new ▸ noted)

/-- The group that a condition asks for may be referred to from behind `base`, too. -/
theorem checkBehind (along : Alongside base reader other) (modest : reader.groups.length ≤ 1)
    (closed : ∀ width ∈ base.groups, width.isSome = true)
    {number : Nat} (checked : reader.checkBehind number = .ok ()) :
    other.checkBehind number = .ok () := by
  unfold Reader.checkBehind complain at checked ⊢
  rw [along.behindFrom]
  cases begun : reader.behindFrom with
  | none => rfl
  | some first =>
    obtain ⟨isClosed, before⟩ : reader.closedWidth? number ≠ none ∧ number < first := by
      simp only [begun] at checked
      split at checked
      · cases checked
      · split at checked
        · cases checked
        · simp_all
    -- The only group that can have been closed is the first one.
    obtain rfl : number = 1 := by
      match number with
      | 0 => exact absurd rfl isClosed
      | index + 1 =>
        have inside : index < reader.groups.length := by
          refine Nat.lt_of_not_le fun outside => isClosed ?_
          simp [closedWidth?, outside]
        omega
    have otherClosed : other.closedWidth? 1 ≠ none := by
      simp only [closedWidth?, along.groups] at isClosed ⊢
      cases groups : base.groups with
      | nil => exact isClosed
      | cons width rest =>
        have := closed width (by simp [groups])
        simp_all [Option.isSome_iff_ne_none]
    have later : ¬ first + base.groups.length ≤ 1 := by omega
    simp [otherClosed, later]

end Alongside

end Reader

end RoutePattern.Regex
