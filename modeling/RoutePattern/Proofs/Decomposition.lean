import Mathlib.Data.List.Forall2
import RoutePattern.Template

/-! # Ways to read a path along a pattern

A path has the form of a pattern when it is a leading slash, the segments of the pattern with a
value in place of each placeholder, and a trailing slash.

* `Reach.Accepts` — what a placeholder may stand for.
* `Segment.Stands`, `filledPieces` — a segment with a value in place of its placeholder.
* `Decomposition`, `Decomposition.Along` — a leading slash, values and a trailing slash that
  together make up a path.
* `Decomposition.Greedy` — the decomposition that gives as much as possible to the leading slash,
  then to the first value, then to the second, and so on.
-/

namespace RoutePattern

/-! ## What segments stand for -/

/-- The characters that may occur in the value of a placeholder. -/
def Reach.admits (reach : Reach) (c : Char) : Bool :=
  Regex.isWord c.toNat || c == '.' || c == '-' ||
    match reach with
    | .single => false
    | .multi => c == '/'

/-- A value for a placeholder: some characters, all of which are admitted. -/
def Reach.Accepts (reach : Reach) (value : List Char) : Prop :=
  value ≠ [] ∧ ∀ c ∈ value, reach.admits c = true

/-- The texts that a segment stands for. -/
inductive Segment.Stands : Segment → List Char → Prop where
  | literal (value : String) : Stands (.literal value) value.toList
  | placeholder {reach : Reach} {value : List Char} (name suffix : String)
      (accepted : reach.Accepts value) :
      Stands (.placeholder reach name suffix) (value ++ suffix.toList)

/-- How far the placeholder of a segment reaches, if it has one. -/
def Segment.reach? : Segment → Option Reach
  | .literal _ => none
  | .placeholder reach _ _ => some reach

/-- Segments with values in place of the placeholders, from left to right. -/
def filledPieces : List Segment → List (List Char) → List (List Char)
  | [], _ => []
  | .literal value :: rest, values => value.toList :: filledPieces rest values
  | .placeholder _ _ suffix :: rest, [] => suffix.toList :: filledPieces rest []
  | .placeholder _ _ suffix :: rest, value :: values =>
    (value ++ suffix.toList) :: filledPieces rest values

theorem length_filledPieces (segments : List Segment) (values : List (List Char)) :
    (filledPieces segments values).length = segments.length := by
  fun_induction filledPieces segments values with
  | case1 => rfl
  | case2 values value rest ih => simp [ih]
  | case3 reach name suffix rest ih => simp [ih]
  | case4 reach name suffix rest value values ih => simp [ih]

theorem filledPieces_ne_nil (segment : Segment) (rest : List Segment)
    (values : List (List Char)) : filledPieces (segment :: rest) values ≠ [] := by
  rw [← List.length_pos_iff, length_filledPieces]
  exact Nat.zero_lt_succ _

/-- Values for the placeholders of some segments. -/
def Fit (segments : List Segment) (values : List (List Char)) : Prop :=
  List.Forall₂ Reach.Accepts (segments.filterMap Segment.reach?) values

/-- Choosing what each segment stands for is choosing values for the placeholders. -/
theorem forall₂_stands_iff {segments : List Segment} {pieces : List (List Char)} :
    List.Forall₂ Segment.Stands segments pieces ↔
      ∃ values, Fit segments values ∧ pieces = filledPieces segments values := by
  constructor
  · intro stands
    induction stands with
    | nil => exact ⟨[], .nil, rfl⟩
    | cons first _ ih =>
      obtain ⟨values, fit, rfl⟩ := ih
      cases first with
      | literal value => exact ⟨values, fit, rfl⟩
      | placeholder name suffix accepted => exact ⟨_ :: values, .cons accepted fit, rfl⟩
  · intro filled
    obtain ⟨values, fit, rfl⟩ := filled
    induction segments generalizing values with
    | nil => exact .nil
    | cons segment rest ih =>
      cases segment with
      | literal value => exact .cons (.literal value) (ih values fit)
      | placeholder reach name suffix =>
        cases fit with
        | cons accepted others => exact .cons (.placeholder name suffix accepted) (ih _ others)

/-! ## Decompositions -/

/-- A leading slash, values for the placeholders and a trailing slash. -/
structure Decomposition where
  lead : List Char
  values : List (List Char)
  trail : List Char

/-- What may stand before the first segment: a slash or nothing, or exactly what the pattern
    has there. -/
def LeadAllowed (optional rooted : Bool) (lead : List Char) : Prop :=
  if optional then lead = [] ∨ lead = ['/'] else lead = if rooted then ['/'] else []

theorem LeadAllowed.eq_nil_or_slash {optional rooted : Bool} {lead : List Char}
    (allowed : LeadAllowed optional rooted lead) : lead = [] ∨ lead = ['/'] := by
  unfold LeadAllowed at allowed
  split at allowed
  · exact allowed
  · split at allowed
    · exact .inr allowed
    · exact .inl allowed

/-- What may stand after the last segment: nothing, or a slash if slashes are optional. -/
def TrailAllowed (optional : Bool) (trail : List Char) : Prop :=
  trail = [] ∨ optional = true ∧ trail = ['/']

namespace Decomposition

/-- A path read along segments. -/
structure Along (optional rooted : Bool) (segments : List Segment) (path : List Char)
    (choice : Decomposition) : Prop where
  text : path =
    choice.lead ++ Text.joinPieces (filledPieces segments choice.values) ++ choice.trail
  fit : Fit segments choice.values
  lead : LeadAllowed optional rooted choice.lead
  trail : TrailAllowed optional choice.trail

/-- Among some decompositions, the one whose leading slash is longest, among those with this
    leading slash the one whose first value is longest, and so on: a value is compared with those
    of the decompositions that agree on everything before it. -/
structure Greedy (among : Decomposition → Prop) (choice : Decomposition) : Prop where
  mem : among choice
  lead : ∀ other, among other → other.lead.length ≤ choice.lead.length
  values : ∀ other, among other → other.lead = choice.lead →
    ∀ index, other.values.take index = choice.values.take index →
      ∀ value ∈ choice.values[index]?, ∀ otherValue ∈ other.values[index]?,
        otherValue.length ≤ value.length

end Decomposition

end RoutePattern
