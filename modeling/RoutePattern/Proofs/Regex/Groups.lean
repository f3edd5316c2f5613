import RoutePattern.Regex.Program

/-! # The groups of an expression

* `Expression.groups` — the capturing groups of an expression from left to right, each with its
  number and its body.
* `Expression.references` — the numbers of the groups that an expression asks for.
* `Expression.renumber` — the same expression with all group numbers moved up, as when it stands
  behind other groups.
* `Expression.Sound` — nothing is wrong with an expression that was read.
* `groups_sequenceOf`, `sound_sequenceOf`, … — rows of expressions have the groups of their members,
  and are sound if their members are.
-/

namespace RoutePattern.Regex.Expression

/-- The capturing groups from left to right, an outer one before those inside it. -/
@[simp] def groups : Expression → List (Nat × Expression)
  | .empty => []
  | .one _ => []
  | .anchor _ => []
  | .sequence first second => first.groups ++ second.groups
  | .choice first second => first.groups ++ second.groups
  | .repeated _ _ _ body => body.groups
  | .enclosed body => body.groups
  | .captured number body => (number, body) :: body.groups
  | .atomic body => body.groups
  | .look _ _ body => body.groups
  | .conditional _ present absent => present.groups ++ absent.groups
  | .backreference _ _ _ => []

/-- The numbers of the groups that are asked for, by conditions or by references back. -/
@[simp] def references : Expression → List Nat
  | .empty => []
  | .one _ => []
  | .anchor _ => []
  | .sequence first second => first.references ++ second.references
  | .choice first second => first.references ++ second.references
  | .repeated _ _ _ body => body.references
  | .enclosed body => body.references
  | .captured _ body => body.references
  | .atomic body => body.references
  | .look _ _ body => body.references
  | .conditional number present absent => number :: (present.references ++ absent.references)
  | .backreference number _ _ => [number]

/-- Moves the number of every group up. Groups that are asked for by number stay as they are. -/
@[simp] def renumber (shift : Nat) : Expression → Expression
  | .empty => .empty
  | .one set => .one set
  | .anchor kind => .anchor kind
  | .sequence first second => .sequence (first.renumber shift) (second.renumber shift)
  | .choice first second => .choice (first.renumber shift) (second.renumber shift)
  | .repeated pace least most body => .repeated pace least most (body.renumber shift)
  | .enclosed body => .enclosed (body.renumber shift)
  | .captured number body => .captured (number + shift) (body.renumber shift)
  | .atomic body => .atomic (body.renumber shift)
  | .look side negated body => .look side negated (body.renumber shift)
  | .conditional number present absent =>
    .conditional number (present.renumber shift) (absent.renumber shift)
  | .backreference number width folding => .backreference number width folding

/-- The group of an expression after `shift` other groups. -/
def renumberGroup (shift : Nat) (group : Nat × Expression) : Nat × Expression :=
  (group.1 + shift, group.2.renumber shift)

theorem groups_renumber (shift : Nat) (expression : Expression) :
    (expression.renumber shift).groups = expression.groups.map (renumberGroup shift) := by
  induction expression with
  | empty | one _ | anchor _ | backreference _ _ _ => rfl
  | sequence first second ihFirst ihSecond | choice first second ihFirst ihSecond
  | conditional _ first second ihFirst ihSecond =>
    simp only [renumber, groups, ihFirst, ihSecond, List.map_append]
  | repeated _ _ _ body ih | enclosed body ih | atomic body ih | look _ _ body ih => exact ih
  | captured number body ih => exact congrArg (_ :: ·) ih

theorem flatMap_groups_renumber (shift : Nat) (expressions : List Expression) :
    (expressions.map (renumber shift)).flatMap groups =
      (expressions.flatMap groups).map (renumberGroup shift) := by
  induction expressions with
  | nil => rfl
  | cons first rest ih =>
    rw [List.map_cons, List.flatMap_cons, List.flatMap_cons, List.map_append, ih, groups_renumber]

theorem references_renumber (shift : Nat) (expression : Expression) :
    (expression.renumber shift).references = expression.references := by
  induction expression with
  | empty | one _ | anchor _ | backreference _ _ _ => rfl
  | sequence first second ihFirst ihSecond | choice first second ihFirst ihSecond
  | conditional _ first second ihFirst ihSecond =>
    simp only [renumber, references, ihFirst, ihSecond]
  | repeated _ _ _ body ih | enclosed body ih | captured _ body ih | atomic body ih
  | look _ _ body ih => exact ih

theorem flatMap_references_renumber (shift : Nat) (expressions : List Expression) :
    (expressions.map (renumber shift)).flatMap references = expressions.flatMap references := by
  rw [List.flatMap_map]
  simp only [references_renumber]

theorem width_renumber (shift : Nat) (expression : Expression) :
    (expression.renumber shift).width = expression.width := by
  induction expression with
  | empty | one _ | anchor _ | backreference _ _ _ | look _ _ _ => rfl
  | sequence first second ihFirst ihSecond | choice first second ihFirst ihSecond
  | conditional _ first second ihFirst ihSecond =>
    simp only [renumber, width, ihFirst, ihSecond]
  | repeated _ _ _ body ih => simp only [renumber, width, ih]
  | enclosed body ih | atomic body ih | captured _ body ih => exact ih

theorem flaw?_renumber (shift : Nat) (template : Bool) (expression : Expression) :
    (expression.renumber shift).flaw? template = expression.flaw? template := by
  induction expression with
  | empty | one _ | anchor _ | backreference _ _ _ => rfl
  | sequence first second ihFirst ihSecond | choice first second ihFirst ihSecond
  | conditional _ first second ihFirst ihSecond =>
    simp only [renumber, flaw?, ihFirst, ihSecond]
  | repeated _ _ _ body ih => simp only [renumber, flaw?, ih]
  | enclosed body ih | atomic body ih | captured _ body ih => exact ih
  | look side _ body ih =>
    cases side with
    | ahead => exact ih
    | behind => simp only [renumber, flaw?, width_renumber, ih]

/-- Without groups there is nothing to renumber. -/
theorem renumber_of_groups_eq_nil (shift : Nat) {expression : Expression}
    (none : expression.groups = []) : expression.renumber shift = expression := by
  induction expression with
  | empty | one _ | anchor _ | backreference _ _ _ => rfl
  | sequence first second ihFirst ihSecond | choice first second ihFirst ihSecond
  | conditional _ first second ihFirst ihSecond =>
    rw [groups, List.append_eq_nil_iff] at none
    simp only [renumber, ihFirst none.1, ihSecond none.2]
  | repeated _ _ _ body ih | enclosed body ih | atomic body ih | look _ _ body ih =>
    simp only [renumber, ih none]
  | captured number body ih => cases none

/-- The groups inside the body of a group are groups of the expression, and there is at least one
    more, the group itself. -/
theorem length_groups_lt {expression : Expression} {group : Nat × Expression}
    (member : group ∈ expression.groups) :
    group.2.groups.length < expression.groups.length := by
  induction expression with
  | empty | one _ | anchor _ | backreference _ _ _ => cases member
  | sequence first second ihFirst ihSecond | choice first second ihFirst ihSecond
  | conditional _ first second ihFirst ihSecond =>
    rw [groups, List.length_append]
    obtain inFirst | inSecond := List.mem_append.mp member
    · have shorter := ihFirst inFirst
      omega
    · have shorter := ihSecond inSecond
      omega
  | repeated _ _ _ body ih | enclosed body ih | atomic body ih | look _ _ body ih =>
    exact ih member
  | captured number body ih =>
    rw [groups, List.length_cons]
    obtain rfl | inBody := List.mem_cons.mp member
    · exact Nat.lt_succ_self _
    · exact Nat.lt_succ_of_lt (ih inBody)

/-! ## Rows of expressions -/

theorem groups_sequenceOf (items : List Expression) :
    (sequenceOf items).groups = items.flatMap groups := by
  induction items with
  | nil => rfl
  | cons item rest ih => rw [sequenceOf, groups, ih, List.flatMap_cons]

theorem choiceOf_cons_cons (first second : Expression) (rest : List Expression) :
    choiceOf (first :: second :: rest) = .choice first (choiceOf (second :: rest)) :=
  rfl

theorem groups_choiceOf (branches : List Expression) :
    (choiceOf branches).groups = branches.flatMap groups := by
  induction branches with
  | nil => rfl
  | cons first rest ih =>
    cases rest with
    | nil => simp [choiceOf]
    | cons second others =>
      rw [choiceOf_cons_cons, groups, ih]
      rfl

theorem references_sequenceOf (items : List Expression) :
    (sequenceOf items).references = items.flatMap references := by
  induction items with
  | nil => rfl
  | cons item rest ih => rw [sequenceOf, references, ih, List.flatMap_cons]

theorem references_choiceOf (branches : List Expression) :
    (choiceOf branches).references = branches.flatMap references := by
  induction branches with
  | nil => rfl
  | cons first rest ih =>
    cases rest with
    | nil => simp [choiceOf]
    | cons second others =>
      rw [choiceOf_cons_cons, references, ih]
      rfl

theorem renumber_sequenceOf (shift : Nat) (items : List Expression) :
    (sequenceOf items).renumber shift = sequenceOf (items.map (renumber shift)) := by
  induction items with
  | nil => rfl
  | cons item rest ih => rw [sequenceOf, renumber, ih, List.map_cons, sequenceOf]

theorem renumber_choiceOf (shift : Nat) (branches : List Expression) :
    (choiceOf branches).renumber shift = choiceOf (branches.map (renumber shift)) := by
  induction branches with
  | nil => rfl
  | cons first rest ih =>
    cases rest with
    | nil => rfl
    | cons second others =>
      rw [choiceOf_cons_cons, renumber, ih]
      rfl

/-- Nothing is wrong with the expression, unless templates are asked for. -/
def Sound (expression : Expression) : Prop :=
  expression.flaw? false = none

theorem sound_sequenceOf {items : List Expression} :
    (sequenceOf items).Sound ↔ ∀ item ∈ items, item.Sound := by
  induction items with
  | nil => simp [sequenceOf, Sound, flaw?]
  | cons item rest ih =>
    rw [List.forall_mem_cons, ← ih]
    exact Option.or_eq_none_iff

theorem sound_choiceOf {branches : List Expression} :
    (choiceOf branches).Sound ↔ ∀ branch ∈ branches, branch.Sound := by
  induction branches with
  | nil => simp [choiceOf, Sound, flaw?]
  | cons first rest ih =>
    cases rest with
    | nil => simp [choiceOf]
    | cons second others =>
      rw [choiceOf_cons_cons, List.forall_mem_cons, ← ih]
      exact Option.or_eq_none_iff

theorem sound_renumber {shift : Nat} {expression : Expression} :
    (expression.renumber shift).Sound ↔ expression.Sound := by
  rw [Sound, flaw?_renumber, Sound]

/-- An expression with others before it, in one row. -/
def behind (front : List Expression) (last : Expression) : Expression :=
  front.foldr .sequence last

theorem sequenceOf_append (front items : List Expression) :
    sequenceOf (front ++ items) = behind front (sequenceOf items) := by
  induction front with
  | nil => rfl
  | cons first rest ih => exact congrArg (Expression.sequence first) ih

theorem groups_behind (front : List Expression) (last : Expression) :
    (behind front last).groups = front.flatMap groups ++ last.groups := by
  induction front with
  | nil => rfl
  | cons first rest ih =>
    rw [List.flatMap_cons, List.append_assoc, ← ih]
    rfl

theorem references_behind (front : List Expression) (last : Expression) :
    (behind front last).references = front.flatMap references ++ last.references := by
  induction front with
  | nil => rfl
  | cons first rest ih =>
    rw [List.flatMap_cons, List.append_assoc, ← ih]
    rfl

theorem sound_behind {front : List Expression} {last : Expression} :
    (behind front last).Sound ↔ (∀ item ∈ front, item.Sound) ∧ last.Sound := by
  induction front with
  | nil => simp [behind]
  | cons first rest ih =>
    rw [List.forall_mem_cons, and_assoc, ← ih]
    exact Option.or_eq_none_iff

end RoutePattern.Regex.Expression
