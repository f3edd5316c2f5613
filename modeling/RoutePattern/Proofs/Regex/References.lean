import RoutePattern.Proofs.Regex.Numbering

/-! # Which groups an expression asks for

Conditions and references back ask for a group. Where groups have no names, what asks for a group by
number is a condition, and the reader notes its number.

* `Reader.referred` — the numbers asked for among branches and items.
* `Reader.Noted` — everything read so far asks for numbers that are noted.
* `Edits.noted` — this stays so, as long as no group has a name.
* `Expression.Unreferring` — no reference back stands in an expression.
* `Edits.unreferring` — none is read, as long as no group has a name.
-/

namespace RoutePattern.Regex

namespace Reader

/-! ## What was read asks for -/

/-- The numbers that branches and items ask for, both of which have the latest first. -/
def referred (branches items : List Expression) : List Nat :=
  (branches.reverse ++ items.reverse).flatMap Expression.references

theorem references_branch (reader : Reader) :
    reader.branch.references = referred [] reader.items :=
  Expression.references_sequenceOf _

theorem references_content (reader : Reader) :
    reader.content.references = referred reader.branches reader.items := by
  simp [content, references_branch, referred, Expression.references_choiceOf]

theorem referred_cons (branches items : List Expression) (item : Expression) :
    referred branches (item :: items) = referred branches items ++ item.references := by
  simp [referred]

theorem referred_nextBranch (branches items : List Expression) :
    referred (.sequenceOf items.reverse :: branches) [] = referred branches items := by
  simp [referred, Expression.references_sequenceOf]

/-- The numbers that everything read so far asks for, the outer levels first. -/
def referredAround : List Frame → (branches items : List Expression) → List Nat
  | [], branches, items => referred branches items
  | frame :: outer, branches, items =>
    referredAround outer frame.branches frame.items ++ frame.kind.references
      ++ referred branches items

theorem referredAround_cons (frames : List Frame) (branches items : List Expression)
    (item : Expression) :
    referredAround frames branches (item :: items) =
      referredAround frames branches items ++ item.references := by
  cases frames <;> simp [referredAround, referred_cons]

/-- A group asks for nothing but its head and its content. -/
theorem references_groupItem (reader : Reader) (kind : GroupKind) :
    (reader.groupItem kind).references ⊆
      kind.references ++ referred reader.branches reader.items := by
  rw [← references_content]
  cases kind with
  | capture | enclosed | atomic | look => exact List.Subset.refl _
  | conditional number =>
    rw [references_content, groupItem, GroupKind.references]
    split
    · rename_i none
      simp [none, references_branch]
    · rename_i present others branches
      simp only [Expression.references, references_branch, branches, referred]
      intro asked member
      simp only [List.mem_cons, List.mem_append, List.mem_flatMap] at member ⊢
      grind

/-! ## Noted numbers -/

/-- What was read asks only for groups whose numbers are noted, and none of them is zero. -/
def Noted (reader : Reader) : Prop :=
  ∀ number ∈ referredAround reader.frames reader.branches reader.items,
    number ≠ 0 ∧ number ∈ reader.conditions.map Prod.fst

theorem noted_start : ({} : Reader).Noted := by
  intro number member
  cases member

theorem Noted.closeGroup {reader : Reader} (noted : reader.Noted) : reader.closeGroup.Noted := by
  unfold Reader.closeGroup
  split
  · exact noted
  · rename_i frame outer frames
    unfold Noted at noted ⊢
    rw [frames] at noted
    intro number member
    rw [referredAround_cons] at member
    apply noted
    rw [referredAround, List.append_assoc]
    obtain before | inside := List.mem_append.mp member
    · exact List.mem_append_left _ before
    · exact List.mem_append_right _ (reader.references_groupItem frame.kind inside)

theorem Edit.noted {reader next : Reader} (edit : Edit reader next) (modest : next.Modest)
    (noted : reader.Noted) : next.Noted := by
  have names : reader.names = [] := (edit.modest modest).names
  unfold Noted at noted ⊢
  cases edit with
  | become | name | turnOn => exact noted
  | push bare named =>
    simpa [Reader.push, referredAround_cons, named names] using noted
  | nextBranch =>
    cases frames : reader.frames <;>
      simpa [Reader.nextBranch, branch, frames, referredAround, referred_nextBranch] using noted
  | repeatLast pace least most =>
    unfold Reader.repeatLast
    split
    · exact noted
    · rename_i item rest items
      rw [items] at noted
      simpa [referredAround_cons] using noted
  | openGroup bare asked start flags =>
    simp only [Reader.openGroup, referredAround, List.mem_append]
    rintro number ((before | own) | none)
    · exact noted number before
    · exact asked names number own
    · cases none
  | openCapture | openBehind =>
    simpa [Reader.openCapture, Reader.openBehind, Reader.openGroup, referredAround,
      GroupKind.references, referred] using noted
  | closeGroup => exact Noted.closeGroup noted
  | noteCondition number place =>
    obtain ⟨conditions, same, kept, -⟩ := reader.noteCondition_eq number place
    rw [same]
    intro asked member
    exact (noted asked member).imp_right (List.map_subset _ kept ·)

theorem Edits.noted {reader next : Reader} (edits : Edits reader next) (modest : next.Modest)
    (noted : reader.Noted) : next.Noted := by
  induction edits with
  | refl => exact noted
  | tail _ edit ih => exact edit.noted modest (ih (edit.modest modest))

end Reader

/-! ## References back -/

namespace Expression

/-- No reference back stands in the expression. Conditions may. -/
def Unreferring : Expression → Prop
  | .empty | .one _ | .anchor _ => True
  | .sequence first second | .choice first second => first.Unreferring ∧ second.Unreferring
  | .repeated _ _ _ body | .enclosed body | .captured _ body | .atomic body | .look _ _ body =>
    body.Unreferring
  | .conditional _ present absent => present.Unreferring ∧ absent.Unreferring
  | .backreference _ _ _ => False

theorem unreferring_sequenceOf {items : List Expression} :
    (sequenceOf items).Unreferring ↔ ∀ item ∈ items, item.Unreferring := by
  induction items with
  | nil => simp [sequenceOf, Unreferring]
  | cons item rest ih => rw [List.forall_mem_cons, ← ih, sequenceOf, Unreferring]

theorem unreferring_choiceOf {branches : List Expression} :
    (choiceOf branches).Unreferring ↔ ∀ branch ∈ branches, branch.Unreferring := by
  induction branches with
  | nil => simp [choiceOf, Unreferring]
  | cons first rest ih =>
    cases rest with
    | nil => simp [choiceOf]
    | cons second others => rw [choiceOf_cons_cons, List.forall_mem_cons, ← ih, Unreferring]

/-- What asks for no group does not refer back either. -/
theorem unreferring_of_references {expression : Expression} (unasked : expression.references = []) :
    expression.Unreferring := by
  induction expression with
  | empty | one | anchor => trivial
  | sequence first second ihFirst ihSecond | choice first second ihFirst ihSecond =>
    obtain ⟨firstUnasked, secondUnasked⟩ := List.append_eq_nil_iff.mp unasked
    exact ⟨ihFirst firstUnasked, ihSecond secondUnasked⟩
  | repeated _ _ _ body ih | enclosed body ih | captured _ body ih | atomic body ih
    | look _ _ body ih => exact ih unasked
  | conditional | backreference => cases unasked

end Expression

namespace Reader

/-- No reference back has been read, neither in the innermost open group nor around it. -/
structure Unreferring (reader : Reader) : Prop where
  branches : ∀ branch ∈ reader.branches, branch.Unreferring
  items : ∀ item ∈ reader.items, item.Unreferring
  frames : ∀ frame ∈ reader.frames,
    (∀ branch ∈ frame.branches, branch.Unreferring) ∧ ∀ item ∈ frame.items, item.Unreferring

theorem unreferring_start : ({} : Reader).Unreferring :=
  ⟨List.forall_mem_nil _, List.forall_mem_nil _, List.forall_mem_nil _⟩

section

variable {reader : Reader}

theorem Unreferring.branch (unreferring : reader.Unreferring) : reader.branch.Unreferring := by
  apply Expression.unreferring_sequenceOf.mpr
  intro item member
  exact unreferring.items item (List.mem_reverse.mp member)

theorem Unreferring.content (unreferring : reader.Unreferring) : reader.content.Unreferring := by
  apply Expression.unreferring_choiceOf.mpr
  intro branch member
  obtain rfl | earlier := List.mem_cons.mp (List.mem_reverse.mp member)
  · exact unreferring.branch
  · exact unreferring.branches branch earlier

theorem Unreferring.push (unreferring : reader.Unreferring) {item : Expression}
    (new : item.Unreferring) : (reader.push item).Unreferring :=
  ⟨unreferring.branches, List.forall_mem_cons.mpr ⟨new, unreferring.items⟩, unreferring.frames⟩

theorem Unreferring.openGroup (unreferring : reader.Unreferring) (kind : GroupKind) (start : Nat)
    (flags : Flags) : (reader.openGroup kind start flags).Unreferring :=
  ⟨List.forall_mem_nil _, List.forall_mem_nil _,
    List.forall_mem_cons.mpr ⟨⟨unreferring.branches, unreferring.items⟩, unreferring.frames⟩⟩

theorem Unreferring.groupItem (unreferring : reader.Unreferring) (kind : GroupKind) :
    (reader.groupItem kind).Unreferring := by
  cases kind with
  | capture | enclosed | atomic | look => exact unreferring.content
  | conditional number =>
    have earlier := unreferring.branches
    rw [Reader.groupItem]
    cases branches : reader.branches with
    | nil => exact ⟨unreferring.branch, trivial⟩
    | cons present others =>
      rw [branches, List.forall_mem_cons] at earlier
      exact ⟨earlier.1, unreferring.branch⟩

theorem Unreferring.closeGroup (unreferring : reader.Unreferring) :
    reader.closeGroup.Unreferring := by
  unfold Reader.closeGroup
  split
  · exact unreferring
  · rename_i frame outer frames
    have around := unreferring.frames
    rw [frames, List.forall_mem_cons] at around
    obtain ⟨⟨branches, items⟩, outside⟩ := around
    exact ⟨branches, List.forall_mem_cons.mpr ⟨unreferring.groupItem frame.kind, items⟩, outside⟩

/-- Without names there is nothing that could be referred to by its name. -/
theorem Edit.unreferring {next : Reader} (edit : Edit reader next) (modest : next.Modest)
    (unreferring : reader.Unreferring) : next.Unreferring := by
  have names : reader.names = [] := (edit.modest modest).names
  cases edit with
  | become | name | turnOn => exact ⟨unreferring.branches, unreferring.items, unreferring.frames⟩
  | push bare named =>
    exact unreferring.push (Expression.unreferring_of_references (named names))
  | nextBranch =>
    exact ⟨List.forall_mem_cons.mpr ⟨unreferring.branch, unreferring.branches⟩,
      List.forall_mem_nil _, unreferring.frames⟩
  | repeatLast pace least most =>
    unfold Reader.repeatLast
    split
    · exact unreferring
    · rename_i item rest items
      have read := unreferring.items
      rw [items, List.forall_mem_cons] at read
      exact ⟨unreferring.branches, List.forall_mem_cons.mpr read, unreferring.frames⟩
  | openGroup bare noted start flags => exact unreferring.openGroup _ start flags
  | openCapture start =>
    obtain ⟨branches, items, frames⟩ := unreferring.openGroup (.capture _) start reader.flags
    exact ⟨branches, items, frames⟩
  | openBehind negated start =>
    obtain ⟨branches, items, frames⟩ :=
      unreferring.openGroup (.look .behind negated) start reader.flags
    exact ⟨branches, items, frames⟩
  | closeGroup => exact unreferring.closeGroup
  | noteCondition number place =>
    obtain ⟨conditions, same, -⟩ := reader.noteCondition_eq number place
    rw [same]
    exact ⟨unreferring.branches, unreferring.items, unreferring.frames⟩

theorem Edits.unreferring {next : Reader} (edits : Edits reader next) (modest : next.Modest)
    (unreferring : reader.Unreferring) : next.Unreferring := by
  induction edits with
  | refl => exact unreferring
  | tail _ edit ih => exact edit.unreferring modest (ih (edit.modest modest))

end

end Reader

end RoutePattern.Regex
