import Mathlib.Data.Option.Basic
import RoutePattern.Proofs.Regex.Groups

/-! # What a match depends on

An expression looks at the text and at the groups it asks for, and at nothing else: where two points
agree on these, matching goes the same way from both.

* `Point.Agrees` — the same position in the same text, with some groups in the same state.
* `Parallel` — continuations that find the same from points that agree.
* `Runner.Heeds` — a runner that depends on no other groups.
* `heeds_run` — an expression heeds the groups it asks for.
-/

namespace RoutePattern.Regex

/-! ## Points that agree -/

namespace Point

/-- The other point has the same position in the same text, and there the groups of the given
    numbers are in the same state. -/
structure Agrees (numbers : List Nat) (point other : Point) : Prop where
  before : other.before = point.before
  after : other.after = point.after
  slots : ∀ number ∈ numbers, other.slots[number - 1]? = point.slots[number - 1]?

namespace Agrees

variable {numbers : List Nat} {point other : Point}

theorem offset (agrees : point.Agrees numbers other) : other.offset = point.offset := by
  rw [other.offset_eq, point.offset_eq, agrees.before]

theorem span? (agrees : point.Agrees numbers other) {number : Nat} (known : number ∈ numbers) :
    other.span? number = point.span? number := by
  cases number with
  | zero => rfl
  | succ index => exact congrArg (·.bind Slot.span?) (agrees.slots (index + 1) known)

theorem slice (agrees : point.Agrees numbers other) (span : Nat × Nat) :
    other.slice span = point.slice span := by
  rw [Point.slice, Point.slice, text, text, agrees.before, agrees.after]

theorem withSlots (agrees : point.Agrees numbers other) {seen otherSeen : Point}
    (agreesSeen : seen.Agrees numbers otherSeen) :
    (point.withSlots seen.slots).Agrees numbers (other.withSlots otherSeen.slots) :=
  ⟨agrees.before, agrees.after, agreesSeen.slots⟩

/-- Marks are made in both, in whichever group. -/
theorem modify (agrees : point.Agrees numbers other) (index : Nat) (change : Slot → Slot) :
    (point.withSlots (point.slots.modify index change)).Agrees numbers
      (other.withSlots (other.slots.modify index change)) := by
  refine ⟨agrees.before, agrees.after, fun number known => ?_⟩
  simp only [Point.withSlots, List.getElem?_modify, agrees.slots number known]

theorem markStart (agrees : point.Agrees numbers other) (number : Nat) :
    (point.markStart number).Agrees numbers (other.markStart number) := by
  unfold Point.markStart
  rw [agrees.offset]
  exact agrees.modify _ _

theorem markStop (agrees : point.Agrees numbers other) (number : Nat) :
    (point.markStop number).Agrees numbers (other.markStop number) := by
  unfold Point.markStop
  rw [agrees.offset]
  exact agrees.modify _ _

theorem next? (agrees : point.Agrees numbers other) :
    Option.Rel (fun step otherStep => otherStep.1 = step.1 ∧ step.2.Agrees numbers otherStep.2)
      point.next? other.next? := by
  unfold Point.next?
  rw [agrees.after]
  cases point.after with
  | nil => exact .none
  | cons c rest =>
    exact .some ⟨rfl, congrArg (c :: ·) agrees.before, rfl, agrees.slots⟩

theorem back? (agrees : point.Agrees numbers other) (count : Nat) :
    Option.Rel (Agrees numbers) (point.back? count) (other.back? count) := by
  induction count generalizing point other with
  | zero => exact .some agrees
  | succ count ih =>
    obtain ⟨front, rest, slots, offset, same⟩ := point
    obtain ⟨otherFront, otherRest, otherSlots, otherOffset, otherSame⟩ := other
    obtain ⟨sameFront, sameRest, agreesSlots⟩ := agrees
    obtain rfl : otherFront = front := sameFront
    obtain rfl : otherRest = rest := sameRest
    cases otherFront with
    | nil => exact .none
    | cons c front => exact ih ⟨rfl, rfl, agreesSlots⟩

end Agrees

end Point

/-! ## Runners that go the same way -/

theorem rel_orElse {α β : Type} {relation : α → β → Prop} {first : Option α} {otherFirst : Option β}
    {second : Unit → Option α} {otherSecond : Unit → Option β}
    (firsts : Option.Rel relation first otherFirst)
    (seconds : Option.Rel relation (second ()) (otherSecond ())) :
    Option.Rel relation (first.orElse second) (otherFirst.orElse otherSecond) := by
  cases firsts with
  | none => exact seconds
  | some related => exact .some related

theorem rel_bind {α β γ δ : Type} {relation : α → β → Prop} {later : γ → δ → Prop}
    {found : Option α} {otherFound : Option β} {rest : α → Option γ} {otherRest : β → Option δ}
    (related : Option.Rel relation found otherFound)
    (rests : ∀ value otherValue, relation value otherValue →
      Option.Rel later (rest value) (otherRest otherValue)) :
    Option.Rel later (found.bind rest) (otherFound.bind otherRest) := by
  cases related with
  | none => exact .none
  | some related => exact rests _ _ related

theorem rel_map {α β γ δ : Type} {relation : α → β → Prop} {later : γ → δ → Prop}
    {found : Option α} {otherFound : Option β} {change : α → γ} {otherChange : β → δ}
    (related : Option.Rel relation found otherFound)
    (changes : ∀ value otherValue, relation value otherValue →
      later (change value) (otherChange otherValue)) :
    Option.Rel later (found.map change) (otherFound.map otherChange) := by
  cases related with
  | none => exact .none
  | some related => exact .some (changes _ _ related)

/-- From points that agree, both find nothing, or points that agree. -/
def Parallel (numbers : List Nat) (rest otherRest : Continuation) : Prop :=
  ∀ point other, point.Agrees numbers other →
    Option.Rel (Point.Agrees numbers) (rest point) (otherRest other)

theorem parallel_some (numbers : List Nat) : Parallel numbers some some :=
  fun _ _ agrees => .some agrees

/-- Which way a runner goes depends on the text and on the groups of the given numbers, and on no
    other groups. -/
def Runner.Heeds (numbers : List Nat) (runner : Runner) : Prop :=
  ∀ rest otherRest, Parallel numbers rest otherRest →
    Parallel numbers (runner rest) (runner otherRest)

/-! ## Repetition -/

theorem exhausted_of_agrees {numbers : List Nat} {point other : Point}
    (agrees : point.Agrees numbers other) (most last : Option Nat) :
    exhausted most last other = exhausted most last point := by
  rw [exhausted, exhausted, agrees.offset]

section

variable {numbers : List Nat} {round : Runner} (heeds : round.Heeds numbers)

include heeds

theorem heeds_rounds (count : Nat) : Runner.Heeds numbers fun rest => rounds round rest count := by
  intro rest otherRest parallel
  induction count with
  | zero => exact parallel
  | succ count ih => exact heeds _ _ ih

theorem heeds_greedily (fuel : Nat) (most last : Option Nat) :
    Runner.Heeds numbers fun rest => greedily round rest fuel most last := by
  intro rest otherRest parallel
  induction fuel generalizing most last with
  | zero => exact parallel
  | succ fuel ih =>
    intro point other agrees
    simp only [greedily, exhausted_of_agrees agrees, agrees.offset]
    split
    · exact parallel point other agrees
    · exact rel_orElse (heeds _ _ (ih _ _) point other agrees) (parallel point other agrees)

theorem heeds_lazily (fuel : Nat) (most last : Option Nat) :
    Runner.Heeds numbers fun rest => lazily round rest fuel most last := by
  intro rest otherRest parallel
  induction fuel generalizing most last with
  | zero => exact parallel
  | succ fuel ih =>
    intro point other agrees
    simp only [lazily, exhausted_of_agrees agrees, agrees.offset]
    refine rel_orElse (parallel point other agrees) ?_
    split
    · exact .none
    · exact heeds _ _ (ih _ _) point other agrees

theorem parallel_firstRounds (count : Nat) :
    Parallel numbers (firstRounds round count) (firstRounds round count) := by
  induction count with
  | zero => exact parallel_some numbers
  | succ count ih =>
    intro point other agrees
    exact rel_bind (heeds _ _ (parallel_some numbers) point other agrees) ih

theorem agrees_possessively (fuel : Nat) (most last : Option Nat) {point other : Point}
    (agrees : point.Agrees numbers other) :
    (possessively round fuel most last point).Agrees numbers
      (possessively round fuel most last other) := by
  induction fuel generalizing most last point other with
  | zero => exact agrees
  | succ fuel ih =>
    have next := heeds _ _ (parallel_some numbers) point other agrees
    simp only [possessively, exhausted_of_agrees agrees, agrees.offset]
    split
    · exact agrees
    · generalize round some point = found, round some other = otherFound at next
      cases next with
      | none => exact agrees
      | some agreesNext => exact ih _ _ agreesNext

theorem heeds_repeatRounds (pace : Pace) (least : Nat) (most : Option Nat) :
    Runner.Heeds numbers (repeatRounds pace least most round) := by
  intro rest otherRest parallel
  cases pace with
  | greedy =>
    refine heeds_rounds heeds least _ _ fun point other agrees => ?_
    rw [agrees.after]
    exact heeds_greedily heeds _ _ none _ _ parallel point other agrees
  | lazy =>
    refine heeds_rounds heeds least _ _ fun point other agrees => ?_
    rw [agrees.after]
    exact heeds_lazily heeds _ _ none _ _ parallel point other agrees
  | possessive =>
    intro point other agrees
    refine rel_bind (rel_map (parallel_firstRounds heeds least point other agrees) ?_) parallel
    intro next otherNext agreesNext
    rw [agreesNext.after]
    exact agrees_possessively heeds _ _ none agreesNext

end

/-! ## Expressions -/

theorem parallel_consumeText (numbers : List Nat) (folding : Folding) (text : List Char) :
    Parallel numbers (consumeText folding text) (consumeText folding text) := by
  induction text with
  | nil => exact parallel_some numbers
  | cons expected others ih =>
    intro point other agrees
    have next := agrees.next?
    simp only [consumeText]
    generalize point.next? = found, other.next? = otherFound at next
    cases next with
    | none => exact .none
    | some step =>
      obtain ⟨same, agreesNext⟩ := step
      dsimp only
      rw [same]
      split
      · exact ih _ _ agreesNext
      · exact .none

theorem holds_of_agrees {numbers : List Nat} {point other : Point}
    (agrees : point.Agrees numbers other) (kind : Anchor) : kind.holds other = kind.holds point := by
  cases kind <;> simp only [Anchor.holds, Point.atWordEdge, agrees.before, agrees.after]

/-- Going on depends on whether something was seen, and takes over the groups of what was seen. -/
theorem rel_look {numbers : List Nat} {point other : Point} (agrees : point.Agrees numbers other)
    {rest otherRest : Continuation} (parallel : Parallel numbers rest otherRest) (negated : Bool)
    {found otherFound : Option Point} :
    Option.Rel (Point.Agrees numbers) found otherFound → Option.Rel (Point.Agrees numbers)
      (match negated, found with
        | false, some seen => rest (point.withSlots seen.slots)
        | false, none => none
        | true, some _ => none
        | true, none => rest point)
      (match negated, otherFound with
        | false, some seen => otherRest (other.withSlots seen.slots)
        | false, none => none
        | true, some _ => none
        | true, none => otherRest other) := by
  intro sought
  cases sought with
  | none =>
    cases negated with
    | false => exact .none
    | true => exact parallel point other agrees
  | some agreesSeen =>
    cases negated with
    | false => exact parallel _ _ (agrees.withSlots agreesSeen)
    | true => exact .none

/-- An expression heeds the groups that it asks for. -/
theorem heeds_run {numbers : List Nat} (expression : Expression)
    (known : ∀ number ∈ expression.references, number ∈ numbers) :
    expression.run.Heeds numbers := by
  induction expression with
  | empty => exact fun _ _ parallel => parallel
  | one set =>
    intro rest otherRest parallel point other agrees
    have next := agrees.next?
    simp only [Expression.run]
    generalize point.next? = found, other.next? = otherFound at next
    cases next with
    | none => exact .none
    | some step =>
      obtain ⟨same, agreesNext⟩ := step
      dsimp only
      rw [same]
      split
      · exact parallel _ _ agreesNext
      · exact .none
  | anchor kind =>
    intro rest otherRest parallel point other agrees
    simp only [Expression.run, holds_of_agrees agrees]
    split
    · exact parallel point other agrees
    · exact .none
  | sequence first second ihFirst ihSecond =>
    rw [Expression.references, List.forall_mem_append] at known
    intro rest otherRest parallel
    exact ihFirst known.1 _ _ (ihSecond known.2 _ _ parallel)
  | choice first second ihFirst ihSecond =>
    rw [Expression.references, List.forall_mem_append] at known
    intro rest otherRest parallel point other agrees
    exact rel_orElse (ihFirst known.1 _ _ parallel point other agrees)
      (ihSecond known.2 _ _ parallel point other agrees)
  | repeated pace least most body ih => exact heeds_repeatRounds (ih known) pace least most
  | enclosed body ih => exact ih known
  | captured number body ih =>
    intro rest otherRest parallel point other agrees
    refine ih known _ _ ?_ _ _ (agrees.markStart number)
    exact fun next otherNext agreesNext => parallel _ _ (agreesNext.markStop number)
  | atomic body ih =>
    intro rest otherRest parallel point other agrees
    exact rel_bind (ih known _ _ (parallel_some numbers) point other agrees) parallel
  | look side negated body ih =>
    intro rest otherRest parallel point other agrees
    have alone := ih known _ _ (parallel_some numbers)
    cases side with
    | ahead => exact rel_look agrees parallel negated (alone point other agrees)
    | behind => exact rel_look agrees parallel negated (rel_bind (agrees.back? _) alone)
  | conditional number present absent ihPresent ihAbsent =>
    simp only [Expression.references, List.forall_mem_cons, List.forall_mem_append] at known
    obtain ⟨asked, inPresent, inAbsent⟩ := known
    intro rest otherRest parallel point other agrees
    simp only [Expression.run, agrees.span? asked]
    split
    · exact ihPresent inPresent _ _ parallel point other agrees
    · exact ihAbsent inAbsent _ _ parallel point other agrees
  | backreference number width folding =>
    have asked : number ∈ numbers := known number (List.mem_singleton_self number)
    intro rest otherRest parallel point other agrees
    simp only [Expression.run, agrees.span? asked, agrees.slice]
    split
    · exact rel_bind (parallel_consumeText numbers folding _ point other agrees) parallel
    · exact .none

end RoutePattern.Regex
