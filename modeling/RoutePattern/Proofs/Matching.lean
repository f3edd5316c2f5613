import RoutePattern.Proofs.Reading
import RoutePattern.Proofs.Regex.Reading

/-! # Matching a row of places

* `Point.advance`, `Point.capture` — a point some characters further, as they are or as the text
  of a group.
* `expressionsOf` — the expressions of a row of places.
* `run_expressionsOf` — matching them tries the readings of the row in order.
* `captures_follow` — after a reading, the groups hold its values.
-/

namespace RoutePattern.Regex

/-! ## Moving through a text -/

namespace Point

/-- Some characters further. -/
def advance (count : Nat) (point : Point) : Point where
  before := (point.after.take count).reverse ++ point.before
  after := point.after.drop count
  slots := point.slots
  offset := ((point.after.take count).reverse ++ point.before).length
  offset_eq := rfl

/-- Some characters further, which become the text of a group. -/
def capture (number count : Nat) (point : Point) : Point :=
  ((point.markStart number).advance count).markStop number

theorem eq_of_parts {point other : Point} (before : point.before = other.before)
    (after : point.after = other.after) (slots : point.slots = other.slots) : point = other := by
  obtain ⟨_, _, _, offset, offset_eq⟩ := point
  obtain ⟨_, _, _, otherOffset, otherOffset_eq⟩ := other
  simp only at before after slots
  subst before after slots
  rw [← otherOffset_eq] at offset_eq
  subst offset_eq
  rfl

theorem next?_eq_some {point : Point} {c : Char} {rest : List Char}
    (after : point.after = c :: rest) : point.next? = some (c, point.advance 1) := by
  have moved : point.next? = some (c,
      { before := c :: point.before, after := rest, slots := point.slots,
        offset := point.offset + 1, offset_eq := by simp [point.offset_eq] }) := by
    obtain ⟨before, text, slots, offset, offset_eq⟩ := point
    simp only at after
    subst after
    rfl
  rw [moved]
  congr 2
  apply eq_of_parts <;> simp [advance, after]

theorem next?_eq_none {point : Point} (after : point.after = []) : point.next? = none := by
  obtain ⟨before, text, slots, offset, offset_eq⟩ := point
  simp only at after
  subst after
  rfl

theorem advance_zero (point : Point) : point.advance 0 = point := by
  apply eq_of_parts <;> simp [advance]

theorem advance_advance (point : Point) (first second : Nat) :
    (point.advance first).advance second = point.advance (first + second) := by
  apply eq_of_parts
  · simp [advance, List.take_add]
  · simp [advance, Nat.add_comm]
  · rfl

theorem advance_offset (point : Point) (count : Nat) :
    (point.advance count).offset = min count point.after.length + point.offset := by
  simp [advance, point.offset_eq]

/-- A step forward leaves the place where it began. -/
theorem offset_lt_advance {point : Point} {count : Nat} (positive : 0 < count)
    (fits : count ≤ point.after.length) :
    ∀ offset ∈ some point.offset, offset < (point.advance count).offset := by
  intro offset same
  cases same
  rw [advance_offset]
  omega

theorem text_advance (point : Point) (count : Nat) : (point.advance count).text = point.text := by
  simp [text, advance]

@[simp] theorem capture_after (point : Point) (number count : Nat) :
    (point.capture number count).after = point.after.drop count :=
  rfl

end Point

/-! ## Sets and repetition -/

theorem run_one (set : Charset) (rest : Continuation) (point : Point) :
    (Expression.one set).run rest point =
      match point.after with
      | [] => none
      | c :: _ => if set.contains c then rest (point.advance 1) else none := by
  cases after : point.after with
  | nil => simp [Expression.run, Point.next?_eq_none after]
  | cons c others => simp [Expression.run, Point.next?_eq_some after]

theorem findSome?_runs_cons {α : Type} {admits : Char → Bool} {c : Char}
    (admitted : admits c = true) (others : List Char) (attempt : List Char → Option α) :
    (runs admits (c :: others)).findSome? attempt =
      ((runs admits others).findSome? fun value => attempt (c :: value)).or (attempt [c]) := by
  simp only [runs, if_pos admitted, List.findSome?_append, List.findSome?_map,
    List.findSome?_singleton, Function.comp_def]

/-- Without a greatest count another round is allowed wherever the last one did not begin. -/
theorem exhausted_of_moved {last : Option Nat} {point : Point}
    (moved : ∀ offset ∈ last, offset < point.offset) : exhausted none last point = false := by
  cases last with
  | none => rfl
  | some offset =>
    have earlier := moved offset rfl
    simp [exhausted]
    omega

/-- As many rounds of a set as the rest allows: the rest is tried after each run of characters of
    the set, the longest first, and at last without any. -/
theorem greedily_one (set : Charset) (rest : Continuation) {fuel : Nat} {last : Option Nat}
    {point : Point} (enough : point.after.length < fuel)
    (moved : ∀ offset ∈ last, offset < point.offset) :
    greedily (Expression.one set).run rest fuel none last point =
      ((runs set.contains point.after).findSome? fun value =>
        rest (point.advance value.length)).or (rest point) := by
  induction fuel generalizing last point with
  | zero => omega
  | succ fuel ih =>
    simp only [greedily, exhausted_of_moved moved, Bool.false_eq_true, if_false, Option.map_none, run_one]
    cases after : point.after with
    | nil => simp [runs]
    | cons c others =>
      by_cases contained : set.contains c = true
      · have left : (point.advance 1).after = others := by simp [Point.advance, after]
        have fits : 1 ≤ point.after.length := by simp [after]
        have further := Point.offset_lt_advance Nat.one_pos fits
        rw [after] at enough
        have shorter : (point.advance 1).after.length < fuel := by
          rw [left]
          simpa using enough
        simp only [if_pos contained, findSome?_runs_cons contained, ih shorter further, left,
          Point.advance_advance, List.length_cons, List.length_nil, Nat.add_comm 1]
        cases List.findSome? _ _ <;> cases rest (point.advance 1) <;> rfl
      · simp [contained, runs]

/-- One round of a set and as many more as the rest allows. -/
theorem run_repeated_one (set : Charset) (rest : Continuation) (point : Point) :
    (Expression.repeated .greedy 1 none (.one set)).run rest point =
      (runs set.contains point.after).findSome? fun value =>
        rest (point.advance value.length) := by
  let more : Continuation := fun next =>
    greedily (Expression.one set).run rest (next.after.length + 1) none none next
  change (Expression.one set).run more point = _
  rw [run_one]
  cases after : point.after with
  | nil => rfl
  | cons c others =>
    by_cases contained : set.contains c = true
    · have left : (point.advance 1).after = others := by simp [Point.advance, after]
      have rounds : more (point.advance 1) = _ :=
        greedily_one set rest (Nat.lt_succ_self _) (by simp)
      simp only [if_pos contained, findSome?_runs_cons contained, rounds, left,
        Point.advance_advance, List.length_cons, List.length_nil, Nat.add_comm 1]
    · simp [contained, runs]

/-! ## Characters and slashes -/

theorem contains_literal (c d : Char) :
    (Charset.single .exact c.toNat).contains d = (d == c) := by
  simp only [Charset.single, Charset.contains, Folding.lower, Member.holds, List.any_cons,
    List.any_nil, Bool.or_false, Bool.bne_false]
  by_cases same : d = c
  · simp [same]
  · have differ : c.toNat ≠ d.toNat := fun equal => same (Char.toNat_inj.mp equal.symm)
    simp [same, differ]

theorem run_literal (c : Char) (rest : Continuation) (point : Point) :
    (Expression.literal c).run rest point =
      if point.after.head? = some c then rest (point.advance 1) else none := by
  rw [Expression.literal, run_one]
  cases point.after with
  | nil => simp
  | cons d others => simp [contains_literal]

/-- A slash is taken if there is one and the rest allows it. -/
theorem run_optionalSlash (rest : Continuation) (point : Point) :
    Expression.optionalSlash.run rest point =
      (if point.after.head? = some '/' then rest (point.advance 1) else none).or
        (rest point) := by
  let last (offset : Nat) : Continuation :=
    greedily (Expression.literal '/').run rest point.after.length (some 0) (some offset)
  have done : last point.offset = rest := by
    funext next
    simp only [last]
    cases point.after.length <;> simp [greedily, exhausted]
  change (if exhausted (some 1) none point then rest point else
    ((Expression.literal '/').run (last point.offset) point).orElse fun _ => rest point) = _
  rw [done, run_literal]
  simp [exhausted, Option.orElse_eq_or]

end RoutePattern.Regex

namespace RoutePattern

open Regex

/-! ## Placeholders -/

/-- The set of admitted characters, with its members as a capture fragment lists them. -/
def Reach.charset (reach : Reach) : Charset :=
  { complement := false
    members := .category .word false false ::
      match reach with
      | .single => [.code 0x2e, .code 0x2d]
      | .multi => [.code 0x2f, .code 0x2e, .code 0x2d]
    folding := .exact }

theorem code_holds (c d : Char) : Member.holds .exact d.toNat (.code c.toNat) = (d == c) := by
  simpa [Charset.single, Charset.contains, Folding.lower] using contains_literal c d

theorem contains_charset (reach : Reach) : reach.charset.contains = reach.admits := by
  funext c
  have word : Member.holds .exact c.toNat (.category .word false false) = isWord c.toNat := by
    simp [Member.holds, Category.holds]
  have slash : Member.holds .exact c.toNat (.code 0x2f) = (c == '/') := code_holds '/' c
  have dot : Member.holds .exact c.toNat (.code 0x2e) = (c == '.') := code_holds '.' c
  have hyphen : Member.holds .exact c.toNat (.code 0x2d) = (c == '-') := code_holds '-' c
  cases reach with
  | single =>
    simp [Reach.charset, Charset.contains, Reach.admits, Folding.lower, word, dot, hyphen,
      Bool.or_assoc]
  | multi =>
    simp [Reach.charset, Charset.contains, Reach.admits, Folding.lower, word, slash, dot, hyphen]
    grind

/-- What a placeholder becomes: a group around characters of its set. -/
def Reach.group (reach : Reach) (number : Nat) : Expression :=
  .captured number (.sequence (.repeated .greedy 1 none (.one reach.charset)) .empty)

theorem run_group (reach : Reach) (number : Nat) (rest : Continuation) (point : Point) :
    (reach.group number).run rest point =
      (runs reach.admits point.after).findSome? fun value =>
        rest (point.capture number value.length) := by
  change (Expression.repeated .greedy 1 none (.one reach.charset)).run
    (fun next => rest (next.markStop number)) (point.markStart number) = _
  rw [run_repeated_one, contains_charset]
  rfl

/-! ## Rows of places -/

theorem findSome?_flatMap {α β γ : Type} (items : List α) (more : α → List β)
    (attempt : β → Option γ) :
    (items.flatMap more).findSome? attempt =
      items.findSome? fun item => (more item).findSome? attempt := by
  induction items with
  | nil => rfl
  | cons item rest ih =>
    rw [List.flatMap_cons, List.findSome?_append, ih, List.findSome?_cons]
    cases List.findSome? attempt (more item) <;> rfl

/-- The expressions of a row of places, whose groups are numbered from `number` on. -/
def expressionsOf : (number : Nat) → List Place → List Expression
  | _, [] => []
  | number, .char c :: places => .literal c :: expressionsOf number places
  | number, .value reach :: places => reach.group number :: expressionsOf (number + 1) places

/-- The point behind a row of places that has been read with certain values. -/
def follow : (number : Nat) → List Place → List (List Char) → Point → Point
  | _, [], _, point => point
  | number, .char _ :: places, values, point => follow number places values (point.advance 1)
  | _, .value _ :: _, [], point => point
  | number, .value _ :: places, value :: values, point =>
    follow (number + 1) places values (point.capture number value.length)

theorem run_sequenceOf_append (first second : List Expression) (rest : Continuation)
    (point : Point) :
    (Expression.sequenceOf (first ++ second)).run rest point =
      (Expression.sequenceOf first).run ((Expression.sequenceOf second).run rest) point := by
  induction first generalizing rest point with
  | nil => rfl
  | cons item others ih =>
    change item.run ((Expression.sequenceOf (others ++ second)).run rest) point = _
    rw [funext (ih rest)]
    rfl

/-- Matching a row of places tries its readings in order. -/
theorem run_expressionsOf (number : Nat) (places : List Place) (rest : Continuation)
    (point : Point) :
    (Expression.sequenceOf (expressionsOf number places)).run rest point =
      (readings places point.after).findSome? fun reading =>
        rest (follow number places reading.1 point) := by
  induction places generalizing number point with
  | nil => simp [expressionsOf, readings, follow, Expression.sequenceOf, Expression.run]
  | cons place places ih =>
    cases place with
    | char c =>
      change (Expression.literal c).run
        ((Expression.sequenceOf (expressionsOf number places)).run rest) point = _
      rw [run_literal, ih]
      cases after : point.after with
      | nil => simp [readings]
      | cons d others =>
        by_cases same : d = c
        · simp [readings, same, follow, Point.advance, after]
        · simp [readings, same]
    | value reach =>
      change (reach.group number).run
        ((Expression.sequenceOf (expressionsOf (number + 1) places)).run rest) point = _
      simp only [run_group, ih, readings, findSome?_flatMap, List.findSome?_map,
        Function.comp_def, follow, Point.capture_after]

/-! ## What the groups hold after a reading -/

def slotText (text : List Char) (slot : Slot) : Option String :=
  slot.span?.map fun span => String.ofList ((text.drop span.1).take (span.2 - span.1))

theorem captures_eq_map (point : Point) :
    point.captures = point.slots.map (slotText point.text) :=
  rfl

theorem modify_append_cons {α : Type} (before : List α) (item : α) (after : List α)
    (change : α → α) :
    (before ++ item :: after).modify before.length change = before ++ change item :: after := by
  induction before with
  | nil => rfl
  | cons first rest ih => simp [ih]

theorem capture_slots {point : Point} {filled : List Slot} {empty : List Slot}
    (slots : point.slots = filled ++ .mk none none :: empty) {count : Nat}
    (enough : count ≤ point.after.length) :
    (point.capture (filled.length + 1) count).slots =
      filled ++ { start := some point.offset, stop := some (point.offset + count) } :: empty := by
  have moved : ((point.markStart (filled.length + 1)).advance count).offset =
      point.offset + count := by
    rw [Point.advance_offset]
    simp only [Point.markStart, Point.withSlots]
    omega
  simp only [Point.capture, Point.markStop, moved]
  simp only [Point.advance, Point.markStart, Point.withSlots, slots, Nat.add_sub_cancel,
    modify_append_cons]

theorem slotText_span {before value after : List Char} {start : Nat}
    (start_eq : start = before.length) :
    slotText (before ++ (value ++ after))
      { start := some start, stop := some (start + value.length) } =
        some (String.ofList value) := by
  simp [slotText, Slot.span?, start_eq]

theorem captures_follow {places : List Place} {values : List (List Char)}
    {spelled left : List Char} (spells : Spells places values spelled) {point : Point}
    (after : point.after = spelled ++ left) {filled : List Slot}
    (slots : point.slots = filled ++ List.replicate values.length (.mk none none)) :
    (follow (filled.length + 1) places values point).after = left ∧
      (follow (filled.length + 1) places values point).captures =
        filled.map (slotText point.text) ++ values.map fun value => some (String.ofList value) := by
  induction spells generalizing point filled with
  | nil =>
    simp only [List.length_nil, List.replicate_zero, List.append_nil] at slots
    exact ⟨after, by simp [follow, captures_eq_map, slots]⟩
  | @char places values text c rest ih =>
    have moved : (point.advance 1).after = text ++ left := by
      simp [Point.advance, after]
    have later := ih moved slots
    rwa [Point.text_advance] at later
  | @value places values text reach value accepted rest ih =>
    have enough : value.length ≤ point.after.length := by
      rw [after]
      simp
    have marked := capture_slots slots enough
    have sameText : (point.capture (filled.length + 1) value.length).text = point.text :=
      Point.text_advance (point.markStart _) _
    have moved : (point.capture (filled.length + 1) value.length).after = text ++ left := by
      simp [after]
    have later := ih moved (marked.trans (List.append_cons _ _ _))
    rw [sameText] at later
    -- the span that has just been marked lies before the value in the text
    have own : slotText point.text
        { start := some point.offset, stop := some (point.offset + value.length) } =
          some (String.ofList value) := by
      rw [Point.text, after, List.append_assoc]
      exact slotText_span (by simp [point.offset_eq])
    simpa [follow, own] using later

/-! ## Whole paths -/

/-- The expressions before a row of places. -/
def leadItems (optional rooted : Bool) : List Expression :=
  if optional then [.optionalSlash] else if rooted then [.literal '/'] else []

/-- The expressions behind a row of places. -/
def trailItems (optional : Bool) : List Expression :=
  (if optional then [.optionalSlash] else []) ++ [.anchor .textEnd]

def wholeExpression (optional rooted : Bool) (places : List Place) : Expression :=
  .sequenceOf
    (.anchor .textStart :: (leadItems optional rooted ++ (expressionsOf 1 places ++
      trailItems optional)))

theorem run_leadItems (optional rooted : Bool) (rest : Continuation) (point : Point) :
    (Expression.sequenceOf (leadItems optional rooted)).run rest point =
      (leads optional rooted point.after).findSome? fun lead =>
        rest (point.advance lead.1.length) := by
  cases optional with
  | true =>
    change Expression.optionalSlash.run rest point = _
    rw [run_optionalSlash]
    by_cases slash : point.after.head? = some '/'
    · simp only [leads, slash, if_true, List.singleton_append, List.findSome?_cons,
        List.findSome?_nil, List.length_cons, List.length_nil, Point.advance_zero]
      cases rest (point.advance 1) <;> cases rest point <;> rfl
    · simp [leads, slash, Point.advance_zero]
  | false =>
    cases rooted with
    | true =>
      change (Expression.literal '/').run rest point = _
      rw [run_literal]
      by_cases slash : point.after.head? = some '/' <;> simp [leads, slash]
    | false =>
      change rest point = _
      simp [leads, Point.advance_zero]

theorem run_textEnd (point : Point) :
    (Expression.sequenceOf [.anchor .textEnd]).run some point =
      if point.after.isEmpty then some point else none :=
  rfl

theorem run_trailItems (optional : Bool) (point : Point) :
    (Expression.sequenceOf (trailItems optional)).run some point =
      if isTrail optional point.after then some (point.advance point.after.length) else none := by
  cases optional with
  | true =>
    change Expression.optionalSlash.run
      (fun next => (Expression.sequenceOf [.anchor .textEnd]).run some next) point = _
    simp only [run_optionalSlash, run_textEnd, isTrail]
    cases after : point.after with
    | nil => simp [Point.advance_zero]
    | cons c others =>
      cases others with
      | nil => by_cases slash : c = '/' <;> simp [slash, Point.advance, after]
      | cons d more => simp [Point.advance, after]
  | false =>
    change (Expression.sequenceOf [.anchor .textEnd]).run some point = _
    rw [run_textEnd, isTrail]
    cases after : point.after with
    | nil => simp [Point.advance_zero]
    | cons c others => simp

theorem findSome?_congr {α β : Type} {items : List α} {attempt other : α → Option β}
    (same : ∀ item ∈ items, attempt item = other item) :
    items.findSome? attempt = items.findSome? other := by
  induction items with
  | nil => rfl
  | cons item rest ih =>
    rw [List.findSome?_cons, List.findSome?_cons, same item (by simp),
      ih fun later member => same later (by simp [member])]

theorem head?_map_filter {α β : Type} (items : List α) (keep : α → Bool) (change : α → β) :
    ((items.filter keep).map change).head? =
      items.findSome? fun item => if keep item then some (change item) else none := by
  induction items with
  | nil => rfl
  | cons item rest ih =>
    rw [List.findSome?_cons, ← ih]
    by_cases kept : keep item = true <;> simp [kept]

def valueCount (places : List Place) : Nat :=
  places.countP fun place => match place with
    | .char _ => false
    | .value _ => true

theorem Spells.length_values {places : List Place} {values : List (List Char)}
    {text : List Char} (spells : Spells places values text) :
    values.length = valueCount places := by
  induction spells with
  | nil => rfl
  | char c rest ih => simpa [valueCount] using ih
  | value accepted rest ih => simpa [valueCount] using ih

/-- The first match that goes on with a reading whose rest may be a trailing slash. -/
theorem firstMatch_wholeExpression (optional rooted : Bool) (places : List Place) (groups : Nat)
    (path : List Char) :
    (wholeExpression optional rooted places).firstMatch groups path =
      (leads optional rooted path).findSome? fun lead =>
        (readings places (path.drop lead.1.length)).findSome? fun reading =>
          let point := follow 1 places reading.1 ((Point.start groups path).advance lead.1.length)
          if isTrail optional point.after then some (point.advance point.after.length)
          else none := by
  have start : ∀ rest : Continuation,
      (Expression.anchor .textStart).run rest (.start groups path) = rest (.start groups path) :=
    fun _ => rfl
  change (Expression.anchor .textStart).run ((Expression.sequenceOf
    (leadItems optional rooted ++ (expressionsOf 1 places ++ trailItems optional))).run some)
      (.start groups path) = _
  rw [start, run_sequenceOf_append, run_leadItems]
  simp only [run_sequenceOf_append, run_expressionsOf, run_trailItems]
  rfl

theorem captures_advance (point : Point) (count : Nat) :
    (point.advance count).captures = point.captures := by
  rw [captures_eq_map, Point.text_advance]
  rfl

/-- Matching a whole path finds the first decomposition, and the groups then hold its values. -/
theorem captures_firstMatch (optional rooted : Bool) (places : List Place)
    (path : List Char) :
    ((wholeExpression optional rooted places).firstMatch (valueCount places) path).map
        Point.captures =
      (choices optional rooted places path).head?.map fun choice =>
        choice.values.map fun value => some (String.ofList value) := by
  rw [firstMatch_wholeExpression, choices, List.head?_flatMap, List.map_findSome?,
    List.map_findSome?]
  apply findSome?_congr
  intro leading member
  obtain ⟨lead, rest⟩ := leading
  obtain ⟨-, rfl⟩ := mem_leads.mp member
  simp only [Function.comp_apply, List.drop_left, List.map_findSome?]
  rw [← List.head?_map, List.map_map, head?_map_filter]
  apply findSome?_congr
  intro reading found
  obtain ⟨values, left⟩ := reading
  obtain ⟨spelled, spells, rfl⟩ := mem_readings.mp found
  let begun := (Point.start (valueCount places) (lead ++ (spelled ++ left))).advance lead.length
  have after : begun.after = spelled ++ left := by simp [begun, Point.advance, Point.start]
  have slots : begun.slots = [] ++ List.replicate values.length (.mk none none) := by
    rw [spells.length_values]
    rfl
  obtain ⟨followed, captured⟩ := captures_follow spells after slots
  simp only [List.length_nil, List.map_nil, List.nil_append, Nat.zero_add] at followed captured
  simp only [Function.comp_apply, followed, apply_ite (Option.map Point.captures),
    Option.map_some, Option.map_none, captures_advance, captured, begun]

end RoutePattern
