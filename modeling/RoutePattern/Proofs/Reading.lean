import RoutePattern.Proofs.Decomposition
import RoutePattern.Proofs.Text

/-! # All decompositions in order of preference

The segments of a pattern form one row of places, each for a given character or for a value.

* `Place`, `placesOf` — the row.
* `runs` — the values that can begin at a place, the longest first.
* `readings` — all ways to read the beginning of a text along a row, in the order in which a
  backtracking matcher finds them.
* `choices` — all decompositions of a path, in this order.
* `mem_choices`, `greedy_iff_head` — they are the decompositions along the pattern, and the first
  one is the greedy one.
-/

namespace RoutePattern

/-! ## Places -/

/-- What stands at one place: a given character, or a value. -/
inductive Place where
  | char (c : Char)
  | value (reach : Reach)
  deriving DecidableEq, Repr

def placesOfText (text : List Char) : List Place :=
  text.map .char

def Segment.places : Segment → List Place
  | .literal value => placesOfText value.toList
  | .placeholder reach _ suffix => .value reach :: placesOfText suffix.toList

theorem places_literal (value : String) :
    (Segment.literal value).places = placesOfText value.toList :=
  rfl

theorem places_placeholder (reach : Reach) (name suffix : String) :
    (Segment.placeholder reach name suffix).places =
      .value reach :: placesOfText suffix.toList :=
  rfl

/-- The places of all segments, with a slash between neighbours. -/
def placesOf : List Segment → List Place
  | [] => []
  | segment :: rest => segment.places ++ rest.flatMap fun next => .char '/' :: next.places

/-- A text is spelled by a row of places with values. -/
inductive Spells : List Place → List (List Char) → List Char → Prop where
  | nil : Spells [] [] []
  | char {places : List Place} {values : List (List Char)} {text : List Char} (c : Char)
      (rest : Spells places values text) : Spells (.char c :: places) values (c :: text)
  | value {places : List Place} {values : List (List Char)} {text : List Char} {reach : Reach}
      {value : List Char} (accepted : reach.Accepts value) (rest : Spells places values text) :
      Spells (.value reach :: places) (value :: values) (value ++ text)

theorem spells_placesOfText_append {literal : List Char} {places : List Place}
    {values : List (List Char)} {text : List Char} :
    Spells (placesOfText literal ++ places) values text ↔
      ∃ others, Spells places values others ∧ text = literal ++ others := by
  induction literal generalizing text with
  | nil => simp [placesOfText]
  | cons c rest ih =>
    simp only [placesOfText, List.map_cons, List.cons_append] at ih ⊢
    constructor
    · intro found
      cases found with
      | char _ spelled =>
        obtain ⟨others, spelledOthers, rfl⟩ := ih.mp spelled
        exact ⟨others, spelledOthers, rfl⟩
    · intro found
      obtain ⟨others, spelled, rfl⟩ := found
      exact .char c (ih.mpr ⟨others, spelled, rfl⟩)

theorem spells_value_append {reach : Reach} {literal : List Char} {places : List Place}
    {values : List (List Char)} {text : List Char} :
    Spells (.value reach :: placesOfText literal ++ places) values text ↔
      ∃ value others rest, values = value :: others ∧ reach.Accepts value ∧
        Spells places others rest ∧ text = value ++ literal ++ rest := by
  constructor
  · intro found
    cases found with
    | value accepted spelled =>
      obtain ⟨rest, spelledRest, rfl⟩ := spells_placesOfText_append.mp spelled
      exact ⟨_, _, rest, rfl, accepted, spelledRest, by simp⟩
  · intro found
    obtain ⟨value, others, rest, rfl, accepted, spelled, rfl⟩ := found
    rw [List.append_assoc]
    exact .value accepted (spells_placesOfText_append.mpr ⟨rest, spelled, rfl⟩)

theorem spells_nil {values : List (List Char)} {text : List Char} :
    Spells [] values text ↔ values = [] ∧ text = [] := by
  constructor
  · intro found
    cases found
    exact ⟨rfl, rfl⟩
  · intro found
    obtain ⟨rfl, rfl⟩ := found
    exact .nil

theorem spells_char {c : Char} {places : List Place} {values : List (List Char)}
    {text : List Char} :
    Spells (.char c :: places) values text ↔
      ∃ others, Spells places values others ∧ text = c :: others := by
  have literal := @spells_placesOfText_append [c] places values text
  exact literal

theorem spells_append {front back : List Place} {values : List (List Char)} {text : List Char} :
    Spells (front ++ back) values text ↔ ∃ before after first last, Spells front before first ∧
      Spells back after last ∧ values = before ++ after ∧ text = first ++ last := by
  induction front generalizing values text with
  | nil => simp [spells_nil]
  | cons place front ih =>
    constructor
    · intro spelled
      cases spelled with
      | char c rest =>
        obtain ⟨before, after, first, last, start, stop, rfl, rfl⟩ := ih.mp rest
        exact ⟨before, after, c :: first, last, .char c start, stop, rfl, rfl⟩
      | value accepted rest =>
        obtain ⟨before, after, first, last, start, stop, rfl, rfl⟩ := ih.mp rest
        exact ⟨_ :: before, after, _, last, .value accepted start, stop, rfl, by simp⟩
    · intro split
      obtain ⟨before, after, first, last, start, stop, rfl, rfl⟩ := split
      cases start with
      | char c rest => exact .char c (ih.mpr ⟨_, _, _, _, rest, stop, rfl, rfl⟩)
      | value accepted rest =>
        rw [List.append_assoc]
        exact .value accepted (ih.mpr ⟨_, _, _, _, rest, stop, rfl, rfl⟩)

theorem spells_concat_char {front : List Place} {c : Char} {values : List (List Char)}
    {text : List Char} :
    Spells (front ++ [.char c]) values text ↔
      ∃ first, Spells front values first ∧ text = first ++ [c] := by
  simp only [spells_append, spells_char, spells_nil]
  grind

theorem spells_concat_value {front : List Place} {reach : Reach} {values : List (List Char)}
    {text : List Char} :
    Spells (front ++ [.value reach]) values text ↔
      ∃ before value first, Spells front before first ∧ reach.Accepts value ∧
        values = before ++ [value] ∧ text = first ++ value := by
  rw [spells_append]
  constructor
  · intro split
    obtain ⟨before, after, first, last, start, stop, rfl, rfl⟩ := split
    cases stop with
    | value accepted rest =>
      cases rest
      exact ⟨before, _, first, start, accepted, rfl, by simp⟩
  · intro split
    obtain ⟨before, value, first, start, accepted, rfl, rfl⟩ := split
    exact ⟨before, [value], first, value, start, by simpa using Spells.value accepted .nil, rfl, rfl⟩

/-! ## Places of segments -/

theorem fit_placeholder {reach : Reach} {name suffix : String} {rest : List Segment}
    {values : List (List Char)} :
    Fit (.placeholder reach name suffix :: rest) values ↔
      ∃ value others, values = value :: others ∧ reach.Accepts value ∧ Fit rest others := by
  simp only [Fit, List.filterMap_cons, Segment.reach?, List.forall₂_cons_left_iff]
  grind

theorem spells_segment_append {segment : Segment} {rest : List Segment} {slashed : List Place}
    (spelled : ∀ values text, Spells slashed values text ↔
      Fit rest values ∧ text = (filledPieces rest values).flatMap ('/' :: ·))
    {values : List (List Char)} {text : List Char} :
    Spells (segment.places ++ slashed) values text ↔
      Fit (segment :: rest) values ∧
        text = Text.joinPieces (filledPieces (segment :: rest) values) := by
  cases segment with
  | literal value =>
    rw [places_literal, spells_placesOfText_append, filledPieces, Text.joinPieces_cons]
    constructor
    · intro found
      obtain ⟨others, spelledOthers, rfl⟩ := found
      obtain ⟨fit, rfl⟩ := (spelled values others).mp spelledOthers
      exact ⟨fit, rfl⟩
    · intro found
      obtain ⟨fit, rfl⟩ := found
      exact ⟨_, (spelled values _).mpr ⟨fit, rfl⟩, rfl⟩
  | placeholder reach name suffix =>
    rw [places_placeholder, spells_value_append, fit_placeholder]
    constructor
    · intro found
      obtain ⟨value, others, left, rfl, accepted, spelledOthers, rfl⟩ := found
      obtain ⟨fit, rfl⟩ := (spelled others left).mp spelledOthers
      exact ⟨⟨value, others, rfl, accepted, fit⟩, by rw [filledPieces, Text.joinPieces_cons]⟩
    · intro found
      obtain ⟨⟨value, others, rfl, accepted, fit⟩, rfl⟩ := found
      exact ⟨value, others, _, rfl, accepted, (spelled others _).mpr ⟨fit, rfl⟩,
        by rw [filledPieces, Text.joinPieces_cons]⟩

/-- Each segment behind a slash. -/
theorem spells_slashed (segments : List Segment) (values : List (List Char)) (text : List Char) :
    Spells (segments.flatMap fun next => .char '/' :: next.places) values text ↔
      Fit segments values ∧ text = (filledPieces segments values).flatMap ('/' :: ·) := by
  induction segments generalizing values text with
  | nil => simp [spells_nil, Fit, filledPieces]
  | cons segment rest ih =>
    have slashed : (filledPieces (segment :: rest) values).flatMap ('/' :: ·) =
        '/' :: Text.joinPieces (filledPieces (segment :: rest) values) :=
      Text.flatMap_slash (filledPieces_ne_nil segment rest values)
    rw [List.flatMap_cons, List.cons_append, spells_char, slashed]
    constructor
    · intro found
      obtain ⟨others, spelled, rfl⟩ := found
      obtain ⟨fit, rfl⟩ := (spells_segment_append ih).mp spelled
      exact ⟨fit, rfl⟩
    · intro found
      obtain ⟨fit, rfl⟩ := found
      exact ⟨_, (spells_segment_append ih).mpr ⟨fit, rfl⟩, rfl⟩

/-- The row of places of some segments spells these segments with values filled in. -/
theorem spells_placesOf {segments : List Segment} {values : List (List Char)}
    {text : List Char} :
    Spells (placesOf segments) values text ↔
      Fit segments values ∧ text = Text.joinPieces (filledPieces segments values) := by
  cases segments with
  | nil => simp [placesOf, spells_nil, Fit, filledPieces, Text.joinPieces]
  | cons segment rest => exact spells_segment_append (spells_slashed rest)

/-! ## Values that can begin a text -/

/-- The values of admitted characters that a text begins with, the longest first. -/
def runs (admits : Char → Bool) : List Char → List (List Char)
  | [] => []
  | c :: rest => if admits c then (runs admits rest).map (c :: ·) ++ [[c]] else []

theorem mem_runs {admits : Char → Bool} {text value : List Char} :
    value ∈ runs admits text ↔
      value ≠ [] ∧ (∀ c ∈ value, admits c = true) ∧ ∃ rest, text = value ++ rest := by
  induction text generalizing value with
  | nil =>
    simp only [runs, List.not_mem_nil, false_iff]
    intro found
    obtain ⟨present, -, rest, empty⟩ := found
    exact present (List.append_eq_nil_iff.mp empty.symm).1
  | cons c rest ih =>
    by_cases admitted : admits c = true
    · simp only [runs, if_pos admitted, List.mem_append, List.mem_map, List.mem_singleton, ih]
      constructor
      · intro found
        obtain ⟨more, ⟨-, all, left, rfl⟩, rfl⟩ | rfl := found
        · exact ⟨by simp, by simpa [admitted] using all, left, by simp⟩
        · exact ⟨by simp, by simpa using admitted, rest, by simp⟩
      · intro found
        obtain ⟨present, all, left, split⟩ := found
        cases value with
        | nil => exact absurd rfl present
        | cons first more =>
          simp only [List.cons_append, List.cons.injEq] at split
          obtain ⟨rfl, rfl⟩ := split
          cases more with
          | nil => exact .inr rfl
          | cons second others =>
            have allMore : ∀ d ∈ second :: others, admits d = true :=
              fun d member => all d (List.mem_cons_of_mem _ member)
            exact .inl ⟨_, ⟨by simp, allMore, left, rfl⟩, rfl⟩
    · simp only [runs, if_neg admitted, List.not_mem_nil, false_iff]
      intro found
      obtain ⟨present, all, left, split⟩ := found
      cases value with
      | nil => exact present rfl
      | cons first more =>
        simp only [List.cons_append, List.cons.injEq] at split
        exact admitted (split.1 ▸ all first (by simp))

theorem runs_pairwise (admits : Char → Bool) (text : List Char) :
    (runs admits text).Pairwise fun value other => other.length < value.length := by
  induction text with
  | nil => exact .nil
  | cons c rest ih =>
    by_cases admitted : admits c = true
    · simp only [runs, if_pos admitted, List.pairwise_append, List.pairwise_map]
      refine ⟨ih.imp (by simp), List.pairwise_singleton _ _, ?_⟩
      intro value member other last
      obtain ⟨more, inRuns, rfl⟩ := List.mem_map.mp member
      obtain rfl := List.mem_singleton.mp last
      have present := (mem_runs.mp inRuns).1
      simpa using List.length_pos_iff.mpr present
    · simp [runs, admitted]

/-! ## Ways to read the beginning of a text -/

/-- All ways to read the beginning of a text along a row of places: the values, and what is left
    of the text. A value that is longer comes first, whatever follows it. -/
def readings : List Place → List Char → List (List (List Char) × List Char)
  | [], text => [([], text)]
  | .char _ :: _, [] => []
  | .char c :: places, d :: rest => if d = c then readings places rest else []
  | .value reach :: places, text =>
    (runs reach.admits text).flatMap fun value =>
      (readings places (text.drop value.length)).map fun reading =>
        (value :: reading.1, reading.2)

theorem mem_readings {places : List Place} {text left : List Char} {values : List (List Char)} :
    (values, left) ∈ readings places text ↔
      ∃ spelled, Spells places values spelled ∧ text = spelled ++ left := by
  induction places generalizing text values with
  | nil => simp [readings, spells_nil]; grind
  | cons place places ih =>
    cases place with
    | char c =>
      cases text with
      | nil => simp [readings, spells_char]
      | cons d rest =>
        by_cases same : d = c
        · simp only [readings, if_pos same, ih, spells_char]
          grind
        · simp only [readings, if_neg same, List.not_mem_nil, spells_char]
          grind
    | value reach =>
      simp only [readings, List.mem_flatMap, List.mem_map, mem_runs, Prod.mk.injEq]
      constructor
      · intro found
        obtain ⟨value, ⟨present, admitted, rest, rfl⟩, ⟨others, after⟩, member, rfl, rfl⟩ := found
        rw [List.drop_left] at member
        obtain ⟨spelled, spells, rfl⟩ := ih.mp member
        exact ⟨value ++ spelled, .value ⟨present, admitted⟩ spells, by simp⟩
      · intro found
        obtain ⟨_, ⟨⟩ | ⟨⟩ | ⟨accepted, spells⟩, rfl⟩ := found
        refine ⟨_, ⟨accepted.1, accepted.2, _, List.append_assoc _ _ _⟩, (_, left), ?_, rfl, rfl⟩
        rw [List.append_assoc, List.drop_left]
        exact ih.mpr ⟨_, spells, rfl⟩

/-! ## Order of preference -/

/-- At the first place where two rows of values differ in length, the first row is longer. Up to
    there they are equal. -/
inductive Longer : List (List Char) → List (List Char) → Prop where
  | head {value other : List Char} {values others : List (List Char)}
      (longer : other.length < value.length) : Longer (value :: values) (other :: others)
  | tail (value : List Char) {values others : List (List Char)} (rest : Longer values others) :
      Longer (value :: values) (value :: others)

theorem Longer.length_le {values others : List (List Char)} (longer : Longer values others)
    {index : Nat} (agree : others.take index = values.take index) {value other : List Char}
    (mem : value ∈ values[index]?) (otherMem : other ∈ others[index]?) :
    other.length ≤ value.length := by
  induction longer generalizing index with
  | head longer =>
    cases index with
    | zero =>
      cases mem
      cases otherMem
      exact Nat.le_of_lt longer
    | succ index =>
      simp only [List.take_succ_cons, List.cons.injEq] at agree
      rw [agree.1] at longer
      exact absurd longer (Nat.lt_irrefl _)
  | tail value rest ih =>
    cases index with
    | zero =>
      cases mem
      cases otherMem
      exact Nat.le_refl _
    | succ index =>
      simp only [List.take_succ_cons, List.cons.injEq, true_and] at agree
      exact ih agree mem otherMem

theorem Longer.exists_index {values others : List (List Char)} (longer : Longer values others) :
    ∃ index, others.take index = values.take index ∧ ∃ value ∈ values[index]?,
      ∃ other ∈ others[index]?, other.length < value.length := by
  induction longer with
  | head longer => exact ⟨0, rfl, _, rfl, _, rfl, longer⟩
  | tail value rest ih =>
    obtain ⟨index, agree, found⟩ := ih
    exact ⟨index + 1, by simp [agree], by simpa using found⟩

theorem longer_of_index {values others : List (List Char)} {index : Nat}
    (agree : others.take index = values.take index) {value other : List Char}
    (mem : value ∈ values[index]?) (otherMem : other ∈ others[index]?)
    (shorter : other.length < value.length) : Longer values others := by
  induction index generalizing values others with
  | zero =>
    obtain ⟨rest, rfl⟩ := List.head?_eq_some_iff.mp (List.head?_eq_getElem?.trans mem)
    obtain ⟨otherRest, rfl⟩ := List.head?_eq_some_iff.mp (List.head?_eq_getElem?.trans otherMem)
    exact .head shorter
  | succ index ih =>
    cases values with
    | nil => cases mem
    | cons first values =>
      cases others with
      | nil => cases otherMem
      | cons otherFirst others =>
        simp only [List.take_succ_cons, List.cons.injEq] at agree
        obtain ⟨rfl, agree⟩ := agree
        exact .tail _ (ih agree mem otherMem)

theorem Longer.trans {first second third : List (List Char)} (longer : Longer first second)
    (further : Longer second third) : Longer first third := by
  induction longer generalizing third with
  | head longer =>
    cases further with
    | head further => exact .head (Nat.lt_trans further longer)
    | tail _ _ => exact .head longer
  | tail value _ ih =>
    cases further with
    | head further => exact .head further
    | tail _ further => exact .tail value (ih further)

theorem Longer.behind (front : List (List Char)) {values others : List (List Char)}
    (longer : Longer values others) : Longer (front ++ values) (front ++ others) := by
  induction front with
  | nil => exact longer
  | cons value front ih => exact .tail value ih

theorem readings_pairwise (places : List Place) (text : List Char) :
    (readings places text).Pairwise fun reading other => Longer reading.1 other.1 := by
  induction places generalizing text with
  | nil => exact List.pairwise_singleton _ _
  | cons place places ih =>
    cases place with
    | char c =>
      cases text with
      | nil => exact .nil
      | cons d rest =>
        by_cases same : d = c
        · simpa [readings, same] using ih rest
        · simp [readings, same]
    | value reach =>
      simp only [readings, List.pairwise_flatMap, List.pairwise_map]
      refine ⟨fun value _ => (ih _).imp (.tail value), ?_⟩
      refine (runs_pairwise _ _).imp ?_
      intro value other longer reading member otherReading otherMember
      obtain ⟨_, -, rfl⟩ := List.mem_map.mp member
      obtain ⟨_, -, rfl⟩ := List.mem_map.mp otherMember
      exact .head longer

/-! ## All decompositions of a path -/

/-- What can be split off the start of a path as its leading slash, and what is left. -/
def leads (optional rooted : Bool) (path : List Char) : List (List Char × List Char) :=
  let slash := if path.head? = some '/' then [(['/'], path.tail)] else []
  if optional then slash ++ [([], path)] else if rooted then slash else [([], path)]

/-- What is left of a path after its last segment may be its trailing slash. -/
def isTrail (optional : Bool) (left : List Char) : Bool :=
  left.isEmpty || (optional && left == ['/'])

/-- All decompositions along a row of places, in the order in which they are found. -/
def choices (optional rooted : Bool) (places : List Place) (path : List Char) :
    List Decomposition :=
  (leads optional rooted path).flatMap fun lead =>
    ((readings places lead.2).filter fun reading => isTrail optional reading.2).map
      fun reading => { lead := lead.1, values := reading.1, trail := reading.2 }

theorem mem_leads {optional rooted : Bool} {path lead rest : List Char} :
    (lead, rest) ∈ leads optional rooted path ↔
      LeadAllowed optional rooted lead ∧ path = lead ++ rest := by
  unfold leads LeadAllowed
  cases path <;> cases optional <;> cases rooted <;> grind

theorem isTrail_iff {optional : Bool} {left : List Char} :
    isTrail optional left = true ↔ TrailAllowed optional left := by
  simp [isTrail, TrailAllowed]

/-- The enumerated decompositions are those along the segments. -/
theorem mem_choices {optional rooted : Bool} {segments : List Segment} {path : List Char}
    {choice : Decomposition} :
    choice ∈ choices optional rooted (placesOf segments) path ↔
      choice.Along optional rooted segments path := by
  simp only [choices, List.mem_flatMap, List.mem_map, List.mem_filter]
  constructor
  · intro found
    obtain ⟨⟨lead, rest⟩, isLead, ⟨values, left⟩, ⟨member, trail⟩, rfl⟩ := found
    obtain ⟨allowed, rfl⟩ := mem_leads.mp isLead
    obtain ⟨spelled, spells, rfl⟩ := mem_readings.mp member
    obtain ⟨fit, rfl⟩ := spells_placesOf.mp spells
    exact ⟨by simp, fit, allowed, isTrail_iff.mp trail⟩
  · intro along
    obtain ⟨lead, values, trail⟩ := choice
    refine ⟨(lead, _), mem_leads.mpr ⟨along.lead, ?_⟩, (values, trail),
      ⟨mem_readings.mpr ⟨_, spells_placesOf.mpr ⟨along.fit, rfl⟩, rfl⟩,
        isTrail_iff.mpr along.trail⟩, rfl⟩
    rw [along.text, List.append_assoc]

theorem choices_pairwise (optional rooted : Bool) (places : List Place) (path : List Char) :
    (choices optional rooted places path).Pairwise fun choice other =>
      other.lead.length < choice.lead.length ∨
        other.lead = choice.lead ∧ Longer choice.values other.values := by
  simp only [choices, List.pairwise_flatMap, List.pairwise_map]
  constructor
  · intro lead _
    refine ((readings_pairwise places lead.2).filter _).imp ?_
    simp
  · have ordered : (leads optional rooted path).Pairwise fun lead other =>
        other.1.length < lead.1.length := by
      unfold leads
      cases path <;> cases optional <;> cases rooted <;> grind
    refine ordered.imp ?_
    intro lead other shorter choice member otherChoice otherMember
    obtain ⟨_, -, rfl⟩ := List.mem_map.mp member
    obtain ⟨_, -, rfl⟩ := List.mem_map.mp otherMember
    exact .inl shorter

/-- No decomposition with the same leading slash is longer than the greedy one at the first value in
    which they differ. -/
theorem Decomposition.Greedy.not_longer {among : Decomposition → Prop}
    {choice other : Decomposition} (greedy : choice.Greedy among) (mem : among other)
    (sameLead : other.lead = choice.lead) : ¬ Longer other.values choice.values := by
  intro longer
  obtain ⟨index, agree, value, inOther, ownValue, inChoice, shorter⟩ := longer.exists_index
  have bounded := greedy.values other mem sameLead index agree.symm ownValue inChoice value inOther
  exact absurd bounded (Nat.not_le_of_lt shorter)

/-- A decomposition is greedy if none has a longer leading slash, and none with the same leading slash
    is longer at the first value in which they differ. -/
theorem Decomposition.greedy_of_not_longer {among : Decomposition → Prop} {choice : Decomposition}
    (mem : among choice) (lead : ∀ other, among other → other.lead.length ≤ choice.lead.length)
    (notLonger : ∀ other, among other → other.lead = choice.lead →
      ¬ Longer other.values choice.values) : choice.Greedy among where
  mem := mem
  lead := lead
  values := by
    intro other otherMem sameLead index agree value inChoice otherValue inOther
    refine Nat.le_of_not_lt fun shorter => notLonger other otherMem sameLead ?_
    exact longer_of_index agree.symm inOther inChoice shorter

/-- The greedy decomposition is the one that is found first, and no other one. -/
theorem greedy_iff_head {optional rooted : Bool} {segments : List Segment} {path : List Char}
    {choice : Decomposition} :
    Decomposition.Greedy (Decomposition.Along optional rooted segments path) choice ↔
      (choices optional rooted (placesOf segments) path).head? = some choice := by
  have preferred : ∀ first, (choices optional rooted (placesOf segments) path).head? = some first →
      ∀ other, other.Along optional rooted segments path →
        other = first ∨ other.lead.length < first.lead.length ∨
          other.lead = first.lead ∧ Longer first.values other.values := by
    intro first found other along
    obtain ⟨rest, enumerated⟩ := List.head?_eq_some_iff.mp found
    have ordered := choices_pairwise optional rooted (placesOf segments) path
    have member := mem_choices.mpr along
    rw [enumerated] at ordered member
    exact (List.mem_cons.mp member).imp_right ((List.pairwise_cons.mp ordered).1 other)
  constructor
  · intro greedy
    have member := mem_choices.mpr greedy.mem
    obtain ⟨first, rest, enumerated⟩ := List.exists_cons_of_ne_nil (List.ne_nil_of_mem member)
    have found := List.head?_eq_some_iff.mpr ⟨rest, enumerated⟩
    have along := mem_choices.mp (List.mem_of_mem_head? found)
    -- Anything found before the greedy decomposition would be longer somewhere.
    obtain same | shorter | ⟨sameLead, longer⟩ := preferred first found choice greedy.mem
    · rw [found, same]
    · exact absurd (greedy.lead first along) (Nat.not_le_of_lt shorter)
    · exact absurd longer (greedy.not_longer along sameLead.symm)
  · intro found
    refine ⟨mem_choices.mp (List.mem_of_mem_head? found), ?_, ?_⟩
    · intro other along
      obtain rfl | shorter | ⟨same, -⟩ := preferred choice found other along
      · exact Nat.le_refl _
      · exact Nat.le_of_lt shorter
      · exact Nat.le_of_eq (congrArg List.length same)
    · intro other along sameLead index agree value mem otherValue otherMem
      obtain rfl | shorter | ⟨-, longer⟩ := preferred choice found other along
      · cases mem.symm.trans otherMem
        exact Nat.le_refl _
      · rw [sameLead] at shorter
        exact absurd shorter (Nat.lt_irrefl _)
      · exact longer.length_le agree mem otherMem

end RoutePattern
