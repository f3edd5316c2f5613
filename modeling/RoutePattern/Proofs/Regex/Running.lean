import RoutePattern.Regex.Program

/-! # What a match leaves as it is

Matching moves the position and fills slots. The text stays the same, and so does the number of
slots.

* `Point.Kin` — points in the same text with the same number of slots.
* `Runner.Steady` — whatever a runner finds, it finds by going on from a kindred point.
* `steady_run` — every expression is steady.
-/

namespace RoutePattern.Regex

namespace Point

/-- The other point lies in the same text and has the same number of slots. -/
structure Kin (point other : Point) : Prop where
  text : other.text = point.text
  slots : other.slots.length = point.slots.length

theorem Kin.refl (point : Point) : point.Kin point :=
  ⟨rfl, rfl⟩

theorem Kin.trans {point middle other : Point} (first : point.Kin middle)
    (second : middle.Kin other) : point.Kin other :=
  ⟨second.text.trans first.text, second.slots.trans first.slots⟩

theorem kin_next? {point next : Point} {c : Char} (found : point.next? = some (c, next)) :
    point.Kin next := by
  unfold next? at found
  split at found
  · cases found
  · rename_i first rest after
    cases found
    exact ⟨by simp [text, after], rfl⟩

theorem kin_back? {point next : Point} {count : Nat} (found : point.back? count = some next) :
    point.Kin next := by
  induction count generalizing point with
  | zero =>
    cases found
    exact .refl _
  | succ count ih =>
    obtain ⟨before, after, slots, offset, same⟩ := point
    cases before with
    | nil => cases found
    | cons c before =>
      have rest := ih found
      exact ⟨by simpa [text] using rest.text, rest.slots⟩

theorem kin_withSlots {point : Point} {slots : List Slot}
    (length : slots.length = point.slots.length) : point.Kin (point.withSlots slots) :=
  ⟨rfl, length⟩

theorem kin_markStart (point : Point) (number : Nat) : point.Kin (point.markStart number) :=
  kin_withSlots (List.length_modify ..)

theorem kin_markStop (point : Point) (number : Nat) : point.Kin (point.markStop number) :=
  kin_withSlots (List.length_modify ..)

end Point

/-! ## Runners -/

/-- What is found is found by going on from a point in the same text, with as many slots. -/
def Runner.Steady (runner : Runner) : Prop :=
  ∀ (rest : Continuation) (point found : Point), runner rest point = some found →
    ∃ next, point.Kin next ∧ rest next = some found

/-- A runner that stops where it gets to. -/
theorem Runner.Steady.kin {runner : Runner} (steady : runner.Steady) {point found : Point}
    (reached : runner some point = some found) : point.Kin found := by
  obtain ⟨next, kin, same⟩ := steady some point found reached
  cases same
  exact kin

theorem of_orElse {first : Option Point} {second : Unit → Option Point} {found : Point}
    (reached : first.orElse second = some found) : first = some found ∨ second () = some found := by
  cases first with
  | none => exact .inr reached
  | some point => exact .inl reached

/-- Further on from a kindred point. -/
theorem exists_of_kin {rest : Continuation} {point middle found : Point} (kin : point.Kin middle)
    (later : ∃ next, middle.Kin next ∧ rest next = some found) :
    ∃ next, point.Kin next ∧ rest next = some found := by
  obtain ⟨next, kinNext, reached⟩ := later
  exact ⟨next, kin.trans kinNext, reached⟩

/-! ## Repetition -/

section

variable {round : Runner} (steady : round.Steady)

include steady

theorem steady_rounds (count : Nat) : Runner.Steady fun rest => rounds round rest count := by
  intro rest point found reached
  induction count generalizing point with
  | zero => exact ⟨point, .refl _, reached⟩
  | succ count ih =>
    obtain ⟨middle, kin, later⟩ := steady _ point found reached
    exact exists_of_kin kin (ih middle later)

theorem steady_greedily (fuel : Nat) (most last : Option Nat) :
    Runner.Steady fun rest => greedily round rest fuel most last := by
  intro rest point found reached
  induction fuel generalizing most last point with
  | zero => exact ⟨point, .refl _, reached⟩
  | succ fuel ih =>
    simp only [greedily] at reached
    split at reached
    · exact ⟨point, .refl _, reached⟩
    · obtain more | enough := of_orElse reached
      · obtain ⟨middle, kin, later⟩ := steady _ point found more
        exact exists_of_kin kin (ih _ _ middle later)
      · exact ⟨point, .refl _, enough⟩

theorem steady_lazily (fuel : Nat) (most last : Option Nat) :
    Runner.Steady fun rest => lazily round rest fuel most last := by
  intro rest point found reached
  induction fuel generalizing most last point with
  | zero => exact ⟨point, .refl _, reached⟩
  | succ fuel ih =>
    simp only [lazily] at reached
    obtain enough | more := of_orElse reached
    · exact ⟨point, .refl _, enough⟩
    · split at more
      · cases more
      · obtain ⟨middle, kin, later⟩ := steady _ point found more
        exact exists_of_kin kin (ih _ _ middle later)

theorem kin_firstRounds {count : Nat} {point found : Point}
    (reached : firstRounds round count point = some found) : point.Kin found := by
  induction count generalizing point with
  | zero =>
    cases reached
    exact .refl _
  | succ count ih =>
    obtain ⟨middle, first, later⟩ := Option.bind_eq_some_iff.mp reached
    exact (steady.kin first).trans (ih later)

theorem kin_possessively (fuel : Nat) (most last : Option Nat) (point : Point) :
    point.Kin (possessively round fuel most last point) := by
  induction fuel generalizing most last point with
  | zero => exact .refl _
  | succ fuel ih =>
    simp only [possessively]
    split
    · exact .refl _
    · split
      · exact .refl _
      · exact (steady.kin ‹_›).trans (ih _ _ _)

theorem steady_repeatRounds (pace : Pace) (least : Nat) (most : Option Nat) :
    Runner.Steady (repeatRounds pace least most round) := by
  intro rest point found reached
  cases pace with
  | greedy =>
    obtain ⟨middle, kin, later⟩ := steady_rounds steady least _ point found reached
    exact exists_of_kin kin (steady_greedily steady _ _ none rest middle found later)
  | lazy =>
    obtain ⟨middle, kin, later⟩ := steady_rounds steady least _ point found reached
    exact exists_of_kin kin (steady_lazily steady _ _ none rest middle found later)
  | possessive =>
    obtain ⟨last, ended, later⟩ := Option.bind_eq_some_iff.mp reached
    obtain ⟨middle, first, rfl⟩ := Option.map_eq_some_iff.mp ended
    exact ⟨_, (kin_firstRounds steady first).trans (kin_possessively steady ..), later⟩

end

/-! ## Expressions -/

theorem kin_consumeText {folding : Folding} {text : List Char} {point found : Point}
    (reached : consumeText folding text point = some found) : point.Kin found := by
  induction text generalizing point with
  | nil =>
    cases reached
    exact .refl _
  | cons expected others ih =>
    simp only [consumeText] at reached
    split at reached
    · split at reached
      · exact (Point.kin_next? ‹_›).trans (ih reached)
      · cases reached
    · cases reached

theorem steady_run (expression : Expression) : Runner.Steady expression.run := by
  induction expression with
  | empty => exact fun rest point found reached => ⟨point, .refl _, reached⟩
  | one set =>
    intro rest point found reached
    simp only [Expression.run] at reached
    split at reached
    · split at reached
      · exact ⟨_, Point.kin_next? ‹_›, reached⟩
      · cases reached
    · cases reached
  | anchor kind =>
    intro rest point found reached
    simp only [Expression.run] at reached
    split at reached
    · exact ⟨point, .refl _, reached⟩
    · cases reached
  | sequence first second ihFirst ihSecond =>
    intro rest point found reached
    obtain ⟨middle, kin, later⟩ := ihFirst _ point found reached
    exact exists_of_kin kin (ihSecond rest middle found later)
  | choice first second ihFirst ihSecond =>
    intro rest point found reached
    obtain inFirst | inSecond := of_orElse reached
    · exact ihFirst rest point found inFirst
    · exact ihSecond rest point found inSecond
  | repeated pace least most body ih => exact steady_repeatRounds ih pace least most
  | enclosed body ih => exact ih
  | captured number body ih =>
    intro rest point found reached
    obtain ⟨middle, kin, later⟩ := ih _ _ found reached
    exact ⟨_, ((Point.kin_markStart point number).trans kin).trans (Point.kin_markStop middle number),
      later⟩
  | atomic body ih =>
    intro rest point found reached
    obtain ⟨middle, first, later⟩ := Option.bind_eq_some_iff.mp reached
    exact ⟨middle, ih.kin first, later⟩
  | look side negated body ih =>
    intro rest point found reached
    simp only [Expression.run] at reached
    split at reached
    · rename_i seen sought
      have kin : point.Kin seen := by
        cases side with
        | ahead => exact ih.kin sought
        | behind =>
          obtain ⟨before, back, looked⟩ := Option.bind_eq_some_iff.mp sought
          exact (Point.kin_back? back).trans (ih.kin looked)
      exact ⟨_, Point.kin_withSlots kin.slots, reached⟩
    · cases reached
    · cases reached
    · exact ⟨point, .refl _, reached⟩
  | conditional number present absent ihPresent ihAbsent =>
    intro rest point found reached
    simp only [Expression.run] at reached
    split at reached
    · exact ihPresent rest point found reached
    · exact ihAbsent rest point found reached
  | backreference number width folding =>
    intro rest point found reached
    simp only [Expression.run] at reached
    split at reached
    · obtain ⟨middle, consumed, later⟩ := Option.bind_eq_some_iff.mp reached
      exact ⟨middle, kin_consumeText consumed, later⟩
    · cases reached

/-! ## First matches -/

theorem kin_of_firstMatch {expression : Expression} {groups : Nat} {text : List Char}
    {point : Point} (matched : expression.firstMatch groups text = some point) :
    (Point.start groups text).Kin point :=
  (steady_run expression).kin matched

/-- There is one capture for each group. -/
theorem Program.length_captures {program : Program} {text : String}
    {values : List (Option String)} (captured : program.captures? text = some values) :
    values.length = program.groups := by
  obtain ⟨point, matched, rfl⟩ := Option.map_eq_some_iff.mp captured
  have slots := (kin_of_firstMatch matched).slots
  rw [Point.captures, List.length_map, slots, Point.start, List.length_replicate]

end RoutePattern.Regex
