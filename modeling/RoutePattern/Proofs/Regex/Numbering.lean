import RoutePattern.Proofs.Regex.Edits

/-! # How groups are numbered

* `Reader.Modest` — at most one group and no names. What is absent after an edit was absent before,
  and so it is with flags for the whole expression.
* `Reader.Orderly` — the groups read so far are numbered from left to right, starting with one, and
  each is closed or belongs to an open pair of parentheses.
* `groups_content`, `sound_content` — the groups of what was read, and whether anything is wrong
  with it.
-/

namespace RoutePattern.Regex

theorem FlagSet.union_eq_empty {set other : FlagSet} (empty : set.union other = {}) :
    set = {} ∧ other = {} := by
  cases set
  cases other
  simp_all [FlagSet.union]

namespace Reader

/-! ## What reading never takes back -/

structure Modest (reader : Reader) : Prop where
  groups : reader.groups.length ≤ 1
  names : reader.names = []

theorem length_groupsAfter (reader : Reader) (kind : GroupKind) :
    (reader.groupsAfter kind).length = reader.groups.length := by
  unfold groupsAfter
  split <;> simp

theorem Edit.modest {reader next : Reader} (edit : Edit reader next) (modest : next.Modest) :
    reader.Modest := by
  obtain ⟨groups, names⟩ := modest
  cases edit with
  | become | push | nextBranch | openGroup | openBehind | turnOn => exact ⟨groups, names⟩
  | repeatLast pace least most =>
    unfold Reader.repeatLast at groups names
    cases items : reader.items <;> simp only [items] at groups names <;> exact ⟨groups, names⟩
  | openCapture =>
    refine ⟨?_, names⟩
    simp only [Reader.openCapture, List.length_append, List.length_singleton] at groups
    omega
  | closeGroup =>
    unfold Reader.closeGroup at groups names
    cases frames : reader.frames <;> simp only [frames, length_groupsAfter] at groups names <;>
      exact ⟨groups, names⟩
  | name => exact absurd names (by simp)
  | noteCondition number place =>
    unfold Reader.noteCondition at groups names
    cases noted : (reader.conditions.lookup number).isSome <;>
      simp only [noted] at groups names <;> exact ⟨groups, names⟩

theorem Edits.modest {reader next : Reader} (edits : Edits reader next) (modest : next.Modest) :
    reader.Modest := by
  induction edits using Relation.ReflTransGen.head_induction_on with
  | refl => exact modest
  | head edit _ ih => exact edit.modest ih

/-- Flags for the whole expression are never turned off again. -/
theorem Edit.silent {reader next : Reader} (edit : Edit reader next) (silent : next.globals = {}) :
    reader.globals = {} := by
  cases edit with
  | become | push | nextBranch | openGroup | openCapture | openBehind | name => exact silent
  | repeatLast pace least most =>
    unfold Reader.repeatLast at silent
    split at silent <;> exact silent
  | closeGroup =>
    unfold Reader.closeGroup at silent
    split at silent <;> exact silent
  | noteCondition number place =>
    unfold Reader.noteCondition at silent
    split at silent <;> exact silent
  | turnOn some => exact (FlagSet.union_eq_empty silent).1

theorem Edits.silent {reader next : Reader} (edits : Edits reader next)
    (silent : next.globals = {}) : reader.globals = {} := by
  induction edits using Relation.ReflTransGen.head_induction_on with
  | refl => exact silent
  | head edit _ ih => exact edit.silent ih

/-! ## Numbers from left to right -/

/-- The groups among branches and items, both of which have the latest first. -/
def held (branches items : List Expression) : List (Nat × Expression) :=
  (branches.reverse ++ items.reverse).flatMap Expression.groups

/-- The groups of what was read at the innermost level. -/
theorem groups_content (reader : Reader) :
    reader.content.groups = held reader.branches reader.items := by
  simp [content, branch, held, Expression.groups_choiceOf, Expression.groups_sequenceOf]

theorem sound_content {reader : Reader} :
    reader.content.Sound ↔
      (∀ branch ∈ reader.branches, branch.Sound) ∧ ∀ item ∈ reader.items, item.Sound := by
  simp only [content, branch, Expression.sound_choiceOf, List.mem_reverse, List.forall_mem_cons,
    Expression.sound_sequenceOf]
  exact And.comm

theorem held_cons (branches items : List Expression) (item : Expression) :
    held branches (item :: items) = held branches items ++ item.groups := by
  simp [held]

theorem held_nextBranch (branches items : List Expression) :
    held (.sequenceOf items.reverse :: branches) [] = held branches items := by
  simp [held, Expression.groups_sequenceOf]

/-- The numbers of the groups read so far, those of the outer levels first. -/
def numbersOf : List Frame → (branches items : List Expression) → List Nat
  | [], branches, items => (held branches items).map Prod.fst
  | frame :: outer, branches, items =>
    numbersOf outer frame.branches frame.items ++ frame.kind.captures
      ++ (held branches items).map Prod.fst

theorem numbersOf_cons (frames : List Frame) (branches items : List Expression)
    (item : Expression) :
    numbersOf frames branches (item :: items) =
      numbersOf frames branches items ++ item.groups.map Prod.fst := by
  cases frames <;> simp [numbersOf, held_cons]

/-- At the outermost level no flags are on and nothing is looked behind, and a condition has at
    most two branches. -/
def Grounded : Flags → Option Nat → List Expression → List Frame → Prop
  | flags, behindFrom, _, [] => flags = {} ∧ behindFrom = none
  | _, _, branches, frame :: outer =>
    ((∃ number, frame.kind = .conditional number) → branches.length ≤ 1) ∧
      Grounded frame.flags frame.behindFrom frame.branches outer

/-- The groups are numbered from left to right, and those that are not closed are open. -/
structure Orderly (reader : Reader) : Prop where
  numbers : numbersOf reader.frames reader.branches reader.items =
    List.range' 1 reader.groups.length
  unclosed : ∀ index, reader.groups[index]? = some none →
    index + 1 ∈ reader.frames.flatMap (·.kind.captures)
  grounded : Grounded reader.flags reader.behindFrom reader.branches reader.frames

theorem orderly_start : ({} : Reader).Orderly := by
  refine ⟨rfl, by simp, rfl, rfl⟩

/-- A new part without groups changes no number. -/
theorem Orderly.push {reader : Reader} (orderly : reader.Orderly) {item : Expression}
    (bare : item.groups = []) : (reader.push item).Orderly := by
  refine ⟨?_, orderly.unclosed, orderly.grounded⟩
  simpa [Reader.push, numbersOf_cons, bare] using orderly.numbers

theorem Orderly.nextBranch {reader : Reader} (orderly : reader.Orderly)
    (allowed : reader.inLastBranch = false) : reader.nextBranch.Orderly := by
  obtain ⟨numbers, unclosed, grounded⟩ := orderly
  unfold inLastBranch at allowed
  cases frames : reader.frames with
  | nil =>
    simp only [frames, numbersOf, Grounded] at numbers grounded
    refine ⟨?_, unclosed, ?_⟩
    · simpa [Reader.nextBranch, frames, numbersOf, branch, held_nextBranch] using numbers
    · simpa [Reader.nextBranch, frames, Grounded] using grounded
  | cons frame outer =>
    simp only [frames, numbersOf, Grounded] at numbers grounded allowed
    refine ⟨?_, unclosed, ?_⟩
    · simpa [Reader.nextBranch, frames, numbersOf, branch, held_nextBranch] using numbers
    · rw [Reader.nextBranch, frames]
      refine ⟨?_, grounded.2⟩
      rintro ⟨number, kind⟩
      -- The innermost group asks a condition, so its first branch has just ended.
      obtain ⟨frameKind, start, flags, behindFrom, branches, items⟩ := frame
      simp only at kind
      simpa [kind] using allowed

/-- Parentheses that capture nothing change no number. -/
theorem Orderly.openGroup {reader : Reader} (orderly : reader.Orderly) {kind : GroupKind}
    (bare : kind.captures = []) (start : Nat) (flags : Flags) :
    (reader.openGroup kind start flags).Orderly := by
  obtain ⟨numbers, unclosed, grounded⟩ := orderly
  refine ⟨?_, ?_, ?_⟩
  · simpa [Reader.openGroup, numbersOf, bare, held] using numbers
  · simpa [Reader.openGroup, bare] using unclosed
  · exact ⟨fun _ => Nat.zero_le 1, grounded⟩

theorem Orderly.openCapture {reader : Reader} (orderly : reader.Orderly) (start : Nat) :
    (reader.openCapture start).Orderly := by
  obtain ⟨numbers, unclosed, grounded⟩ := orderly
  refine ⟨?_, ?_, ?_⟩
  · simp [Reader.openCapture, Reader.openGroup, numbersOf, GroupKind.captures, held, numbers,
      List.range'_concat, Nat.add_comm]
  · intro index unset
    simp only [Reader.openCapture, Reader.openGroup, List.flatMap_cons, GroupKind.captures]
      at unset ⊢
    rw [List.getElem?_append] at unset
    split at unset
    · exact List.mem_append_right _ (unclosed index unset)
    · have last : index = reader.groups.length := by
        have := (List.getElem?_eq_some_iff.mp unset).1
        simp only [List.length_singleton] at this
        omega
      simp [last]
  · exact ⟨fun _ => Nat.zero_le 1, grounded⟩

/-- The numbers of the part that a group becomes. -/
theorem numbers_groupItem (reader : Reader) {kind : GroupKind}
    (paired : (∃ number, kind = .conditional number) → reader.branches.length ≤ 1) :
    (reader.groupItem kind).groups.map Prod.fst =
      kind.captures ++ (held reader.branches reader.items).map Prod.fst := by
  rw [← groups_content]
  cases kind with
  | capture number => rfl
  | enclosed | atomic | look _ _ => rfl
  | conditional number =>
    have short := paired ⟨number, rfl⟩
    match branches : reader.branches with
    | [] => simp [groupItem, branches, groups_content, held, branch, GroupKind.captures,
        Expression.groups, Expression.groups_sequenceOf]
    | [present] => simp [groupItem, branches, groups_content, held, branch, GroupKind.captures,
        Expression.groups, Expression.groups_sequenceOf]
    | _ :: _ :: _ => simp [branches] at short

/-- Closing a group puts its numbers behind those before it. -/
theorem Orderly.closeGroup {reader : Reader} (orderly : reader.Orderly) :
    reader.closeGroup.Orderly := by
  obtain ⟨numbers, unclosed, grounded⟩ := orderly
  unfold Reader.closeGroup
  split
  · exact ⟨numbers, unclosed, grounded⟩
  · rename_i frame outer frames
    rw [frames] at numbers unclosed grounded
    refine ⟨?_, ?_, grounded.2⟩
    · simp only [numbersOf_cons, numbers_groupItem reader grounded.1, length_groupsAfter]
      rw [← numbers, numbersOf, List.append_assoc]
    · intro index unset
      have inFrames : index + 1 ∈ frame.kind.captures ∨
          index + 1 ∈ outer.flatMap (·.kind.captures) := by
        apply List.mem_append.mp
        apply unclosed index
        simp only [groupsAfter] at unset
        split at unset
        · rw [List.getElem?_set] at unset
          split at unset
          · split at unset <;> cases unset
          · exact unset
        · exact unset
      refine inFrames.resolve_left fun own => ?_
      -- The group that is closed now has its width.
      cases kind : frame.kind with
      | capture number =>
        rw [kind, GroupKind.captures, List.mem_singleton] at own
        subst own
        simp [kind, groupsAfter, List.getElem?_set] at unset
      | enclosed | atomic | look _ _ | conditional _ => simp [kind, GroupKind.captures] at own

theorem Edit.orderly {reader next : Reader} (edit : Edit reader next) (silent : next.globals = {})
    (orderly : reader.Orderly) : next.Orderly := by
  cases edit with
  | become | name => exact ⟨orderly.numbers, orderly.unclosed, orderly.grounded⟩
  | push bare => exact orderly.push bare
  | nextBranch allowed => exact orderly.nextBranch allowed
  | repeatLast pace least most =>
    obtain ⟨numbers, unclosed, grounded⟩ := orderly
    unfold Reader.repeatLast
    split
    · exact ⟨numbers, unclosed, grounded⟩
    · rename_i items
      rw [items, numbersOf_cons] at numbers
      refine ⟨?_, unclosed, grounded⟩
      rw [numbersOf_cons]
      exact numbers
  | openGroup bare noted start flags => exact orderly.openGroup bare start flags
  | openCapture start => exact orderly.openCapture start
  | openBehind negated start =>
    have opened : (reader.openGroup (.look .behind negated) start reader.flags).Orderly :=
      orderly.openGroup rfl start reader.flags
    refine ⟨opened.numbers, opened.unclosed, ?_⟩
    exact ⟨fun _ => Nat.zero_le 1, orderly.grounded⟩
  | closeGroup => exact orderly.closeGroup
  | noteCondition number place =>
    unfold Reader.noteCondition
    split <;> exact ⟨orderly.numbers, orderly.unclosed, orderly.grounded⟩
  | turnOn some => exact absurd (FlagSet.union_eq_empty silent).2 some

theorem Edits.orderly {reader next : Reader} (edits : Edits reader next)
    (silent : next.globals = {}) (orderly : reader.Orderly) : next.Orderly := by
  induction edits with
  | refl => exact orderly
  | tail _ edit ih => exact edit.orderly silent (ih (edit.silent silent))

end Reader

end RoutePattern.Regex
