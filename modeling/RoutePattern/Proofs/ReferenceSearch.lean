import RoutePattern.Proofs.Conditions
import RoutePattern.Proofs.Escape

/-! # The search for references back

A capture fragment is searched for what could be a reference back: the opening of a reference by
name, or a digit behind a backslash that is not itself escaped. The search is an expression of its
own, and it comes down to the parity of runs of backslashes.

* `Program.search?` — a match that begins anywhere in a text.
* `isSome_greedily_text`, `run_notBehind` — repeated texts, and a character that may not stand
  before.
* `BehindOddRun`, `hasNumberedReference_run` — a digit behind a run of backslashes of odd length.
* `isSome_search?_referencePattern` — what the search finds.
* `ReadsReference` — the reader comes to a reference by number.
* `reference_search_exact` — the search finds every reference that the reader reads, and a fragment
  is rejected for nothing but such runs and openings.
-/

namespace RoutePattern.Regex

/-! ## Searching -/

namespace Program

/-- The first match that begins anywhere in a text. -/
def search? (program : Program) (text : String) : Option Point :=
  (List.range (text.toList.length + 1)).findSome? fun skipped =>
    program.expression.run some ((Point.start program.groups text.toList).advance skipped)

theorem isSome_search? (program : Program) (text : String) :
    (program.search? text).isSome = true ↔ ∃ before after, text.toList = before ++ after ∧
      (program.expression.run some
        ((Point.start program.groups (before ++ after)).advance before.length)).isSome = true := by
  rw [search?, List.findSome?_isSome_iff]
  constructor
  · rintro ⟨skipped, inside, matched⟩
    have short : skipped ≤ text.toList.length := Nat.le_of_lt_succ (List.mem_range.mp inside)
    refine ⟨text.toList.take skipped, text.toList.drop skipped,
      (List.take_append_drop _ _).symm, ?_⟩
    rwa [List.take_append_drop, List.length_take, Nat.min_eq_left short]
  · rintro ⟨before, after, split, matched⟩
    refine ⟨before.length, List.mem_range.mpr ?_, split ▸ matched⟩
    rw [split, List.length_append]
    omega

end Program

/-! ## Repeated texts and texts before -/

theorem begins_replicate_succ {word text : List Char} {count : Nat} :
    (List.replicate (count + 1) word).flatten <+: text ↔
      word <+: text ∧ (List.replicate count word).flatten <+: text.drop word.length := by
  rw [List.replicate_succ, List.flatten_cons]
  constructor
  · rintro ⟨left, rfl⟩
    rw [List.append_assoc, List.drop_left]
    exact ⟨List.prefix_append _ _, List.prefix_append _ _⟩
  · rintro ⟨⟨left, rfl⟩, later⟩
    rw [List.drop_left] at later
    exact (List.prefix_append_right_inj word).mpr later

/-- As many rounds of a text as the rest allows. -/
theorem isSome_greedily_text {word : List Char} (nonempty : word ≠ []) (rest : Continuation)
    {fuel : Nat} {last : Option Nat} {point : Point} (enough : point.after.length < fuel)
    (moved : ∀ offset ∈ last, offset < point.offset) :
    (greedily (Expression.sequenceOf (word.map .literal)).run rest fuel none last point).isSome =
        true ↔
      ∃ count, (List.replicate count word).flatten <+: point.after ∧
        (rest (point.advance (count * word.length))).isSome = true := by
  have positive : 0 < word.length := List.length_pos_of_ne_nil nonempty
  induction fuel generalizing last point with
  | zero => omega
  | succ fuel ih =>
    simp only [greedily, exhausted_of_moved moved, Bool.false_eq_true, if_false,
      Option.map_none, run_text]
    have later : ∀ count, (rest (point.advance ((count + 1) * word.length))) =
        rest ((point.advance word.length).advance (count * word.length)) := by
      intro count
      rw [Point.advance_advance, Nat.succ_mul, Nat.add_comm]
    rw [← Nat.or_exists_add_one, or_comm]
    simp only [begins_replicate_succ, later, Option.orElse_eq_or, Option.isSome_or, Bool.or_eq_true]
    refine or_congr ?_ ?_
    · by_cases begins : word <+: point.after
      · have fits : word.length ≤ point.after.length := begins.length_le
        have shorter : (point.advance word.length).after.length < fuel := by
          simp only [Point.advance, List.length_drop]
          omega
        have further := Point.offset_lt_advance positive fits
        rw [if_pos begins]
        refine (ih shorter further).trans (exists_congr fun count => ?_)
        rw [and_iff_right begins]
        rfl
      · simp [begins]
    · simp [Point.advance_zero]

theorem isSome_run_repeated_text {word : List Char} (nonempty : word ≠ []) (rest : Continuation)
    (point : Point) :
    ((Expression.repeated .greedy 0 none
        (.enclosed (.sequenceOf (word.map .literal)))).run rest point).isSome = true ↔
      ∃ count, (List.replicate count word).flatten <+: point.after ∧
        (rest (point.advance (count * word.length))).isSome = true :=
  isSome_greedily_text nonempty rest (Nat.lt_succ_self _) (by simp)

/-- A character may not stand right before the position. -/
theorem run_notBehind (c : Char) (rest : Continuation) (point : Point) :
    (Expression.look .behind true (.sequenceOf [.literal c])).run rest point =
      if point.before.head? = some c then none else rest point := by
  have seen : (point.back? (Expression.sequenceOf [.literal c]).width.least).bind
      ((Expression.sequenceOf [.literal c]).run some) =
        if point.before.head? = some c then some point else none := by
    obtain ⟨before, after, slots, offset, counted⟩ := point
    cases before with
    | nil => rfl
    | cons d before =>
      let back : Point := ⟨before, d :: after, slots, before.length, rfl⟩
      change (Expression.literal c).run some back = _
      have returns : back.advance 1 = ⟨d :: before, after, slots, offset, counted⟩ :=
        Point.eq_of_parts rfl rfl rfl
      rw [run_literal, returns]
      rfl
  rw [Expression.run]
  dsimp only
  rw [seen]
  by_cases behind : point.before.head? = some c <;> simp [behind]

end RoutePattern.Regex

namespace RoutePattern

open Regex

/-! ## Runs of backslashes -/

/-- A digit from 1 to 9 stands behind backslashes whose number is odd, and no further backslash
    stands before these. -/
def BehindOddRun (text : List Char) : Prop :=
  ∃ before count digit after, text = before ++ (List.replicate count '\\' ++ digit :: after) ∧
    before.getLast? ≠ some '\\' ∧ count % 2 = 1 ∧ '1' ≤ digit ∧ digit ≤ '9'

theorem isReferenceDigit_iff {c : Char} : isReferenceDigit c = true ↔ '1' ≤ c ∧ c ≤ '9' := by
  simp only [isReferenceDigit, Bool.and_eq_true, Nat.ble_eq]
  rfl

theorem ne_backslash {digit : Char} (isDigit : '1' ≤ digit ∧ digit ≤ '9') : digit ≠ '\\' := by
  rintro rfl
  exact absurd isDigit.2 (by decide)

/-- How often a character stands at the start of a text can be read off in one way only. -/
theorem replicate_append_inj {c first second : Char} (firstOther : first ≠ c)
    (secondOther : second ≠ c) {count other : Nat} {rest others : List Char}
    (same : List.replicate count c ++ first :: rest = List.replicate other c ++ second :: others) :
    count = other ∧ first = second := by
  induction count generalizing other with
  | zero =>
    cases other with
    | zero => exact ⟨rfl, (List.cons.inj same).1⟩
    | succ other => exact absurd (List.cons.inj same).1 firstOther
  | succ count ih =>
    cases other with
    | zero => exact absurd (List.cons.inj same).1.symm secondOther
    | succ other =>
      obtain ⟨counts, firsts⟩ := ih (List.cons.inj same).2
      exact ⟨congrArg (· + 1) counts, firsts⟩

/-- A character that is no backslash ends a run, and what stands behind it is on its own. -/
theorem behindOddRun_run_cons {count : Nat} {c : Char} (other : c ≠ '\\') {rest : List Char} :
    BehindOddRun (List.replicate count '\\' ++ c :: rest) ↔
      (count % 2 = 1 ∧ '1' ≤ c ∧ c ≤ '9') ∨ BehindOddRun rest := by
  constructor
  · rintro ⟨before, run, digit, after, split, ended, odd, isDigit⟩
    obtain ⟨skipped, begins, later⟩ | ⟨inside, begins, later⟩ := List.append_eq_append_iff.mp split
    · cases skipped with
      | nil =>
        obtain ⟨less, rfl⟩ : ∃ less, run = less + 1 := ⟨run - 1, by omega⟩
        exact absurd (List.cons.inj later).1 other
      | cons d skipped =>
        obtain ⟨-, behind⟩ := List.cons.inj later
        refine .inr ⟨skipped, run, digit, after, behind, ?_, odd, isDigit⟩
        intro ends
        apply ended
        rw [begins]
        simp [List.getLast?_append, List.getLast?_cons, ends]
    · have none : before = [] := by
        obtain rfl | ⟨front, last, rfl⟩ := List.eq_nil_or_concat before
        · rfl
        · have isBackslash : last = '\\' :=
            List.eq_of_mem_replicate (begins ▸ (by simp : last ∈ front.concat last ++ inside))
          exact absurd (by simp [isBackslash]) ended
      rw [none, List.nil_append] at begins
      rw [← begins] at later
      obtain ⟨rfl, rfl⟩ := replicate_append_inj (ne_backslash isDigit) other later
      exact .inl ⟨odd, isDigit⟩
  · rintro (⟨odd, isDigit⟩ | ⟨before, run, digit, after, rfl, ended, odd, isDigit⟩)
    · exact ⟨[], count, c, rest, rfl, by simp, odd, isDigit⟩
    · refine ⟨List.replicate count '\\' ++ c :: before, run, digit, after, by simp, ?_, odd, isDigit⟩
      cases last : before.getLast? with
      | none => simp [List.getLast?_append, List.getLast?_cons, last, other]
      | some d =>
        rw [last] at ended
        simpa [List.getLast?_append, List.getLast?_cons, last] using ended

/-- Counting the backslashes up to here modulo two decides about the digits from here on. -/
theorem hasNumberedReference_run {count : Nat} {text : List Char} :
    hasNumberedReference (count % 2 == 1) text = true ↔
      BehindOddRun (List.replicate count '\\' ++ text) := by
  induction text generalizing count with
  | nil =>
    constructor
    · intro found
      cases found
    · rintro ⟨before, run, digit, after, split, -, -, isDigit⟩
      have member : digit ∈ List.replicate count '\\' ++ [] := by simp [split]
      rw [List.append_nil] at member
      exact absurd (List.eq_of_mem_replicate member) (ne_backslash isDigit)
  | cons c rest ih =>
    by_cases backslash : c = '\\'
    · have parity : (!(count % 2 == 1)) = ((count + 1) % 2 == 1) := by
        obtain even | odd : count % 2 = 0 ∨ count % 2 = 1 := by omega
        · have next : (count + 1) % 2 = 1 := by omega
          rw [even, next]
          rfl
        · have next : (count + 1) % 2 = 0 := by omega
          rw [odd, next]
          rfl
      have moved : List.replicate count '\\' ++ '\\' :: rest =
          List.replicate (count + 1) '\\' ++ rest := by
        rw [List.replicate_succ', List.append_assoc]
        rfl
      rw [backslash, hasNumberedReference, if_pos rfl, parity, ih, moved]
    · have later : hasNumberedReference false rest = true ↔ BehindOddRun rest := @ih 0
      rw [behindOddRun_run_cons backslash, hasNumberedReference, if_neg backslash, Bool.or_eq_true,
        later, Bool.and_eq_true, isReferenceDigit_iff, beq_iff_eq]

theorem containsText_iff {wanted text : List Char} :
    containsText wanted text = true ↔ wanted <:+: text := by
  induction text with
  | nil => rw [containsText, List.isEmpty_iff, List.infix_nil]
  | cons c rest ih =>
    rw [containsText, Bool.or_eq_true, List.isPrefixOf_iff_prefix, ih, List.infix_cons_iff]

/-- What is textually taken for a reference back is an opening or a digit behind an odd run. -/
theorem refersBack_iff {fragment : String} :
    refersBack fragment = true ↔
      namedReferenceOpening <:+: fragment.toList ∨ BehindOddRun fragment.toList := by
  have counted : hasNumberedReference false fragment.toList = true ↔
      BehindOddRun fragment.toList := @hasNumberedReference_run 0 fragment.toList
  rw [refersBack, Bool.or_eq_true, counted, containsText_iff, or_comm]

/-! ## The expression -/

/-- A digit behind pairs of backslashes and one more, or the opening of a reference by name. -/
def referencePattern : String :=
  "(?<!\\\\)(?:\\\\\\\\)*\\\\[1-9]|\\(\\?P="

/-- The characters from 1 to 9. -/
def referenceDigits : Charset :=
  { complement := false, members := [.range 0x31 0x39], folding := .exact }

/-- Pairs of backslashes. -/
def escapedBackslashes : Expression :=
  .repeated .greedy 0 none (.enclosed (.sequenceOf (['\\', '\\'].map .literal)))

/-- What `referencePattern` says about references by number. -/
def numberedReference : Expression :=
  .sequenceOf
    [.look .behind true (.sequenceOf [.literal '\\']), escapedBackslashes, .literal '\\',
      .one referenceDigits]

/-- What it says about references by name. -/
def namedReference : Expression :=
  .sequenceOf (namedReferenceOpening.map .literal)

theorem compile_referencePattern [Character.Names] :
    Program.compile referencePattern =
      .ok { source := referencePattern, expression := .choice numberedReference namedReference,
            groups := 0, names := [] } := by
  rfl

theorem contains_referenceDigits (c : Char) : referenceDigits.contains c = isReferenceDigit c := by
  simp [referenceDigits, Charset.contains, Member.holds, Folding.lower, isReferenceDigit]

/-- The end of a reference by number: a backslash and a digit. -/
def escapedDigit : Continuation :=
  (Expression.literal '\\').run ((Expression.one referenceDigits).run some)

theorem isSome_escapedDigit (point : Point) :
    (escapedDigit point).isSome = true ↔
      ∃ digit rest, point.after = '\\' :: digit :: rest ∧ isReferenceDigit digit = true := by
  rw [escapedDigit, run_literal]
  cases after : point.after with
  | nil => simp
  | cons c others =>
    have left : (point.advance 1).after = others := by simp [Point.advance, after]
    rw [run_one, left]
    by_cases backslash : c = '\\'
    · cases others with
      | nil => simp
      | cons digit rest => simp [backslash, contains_referenceDigits]
    · simp [backslash]

/-- A text goes on with a run of backslashes of odd length and a digit. -/
def BeginsOddRun (text : List Char) : Prop :=
  ∃ count digit rest, text = List.replicate count '\\' ++ digit :: rest ∧ count % 2 = 1 ∧
    isReferenceDigit digit = true

/-- Pairs of backslashes and one more with a digit are an odd run. -/
theorem isSome_run_escapedBackslashes (point : Point) :
    (escapedBackslashes.run escapedDigit point).isSome = true ↔ BeginsOddRun point.after := by
  have pairs : ∀ count, (List.replicate count ['\\', '\\']).flatten =
      List.replicate (count * 2) '\\' := by
    intro count
    change (List.replicate count (List.replicate 2 '\\')).flatten = _
    rw [List.flatten_replicate_replicate]
  rw [escapedBackslashes, isSome_run_repeated_text (by decide)]
  constructor
  · rintro ⟨count, ⟨left, split⟩, found⟩
    obtain ⟨digit, rest, next, isDigit⟩ := (isSome_escapedDigit _).mp found
    rw [pairs] at split
    have same : left = '\\' :: digit :: rest := by
      rw [← next]
      simp [Point.advance, ← split]
    refine ⟨count * 2 + 1, digit, rest, ?_, by omega, isDigit⟩
    rw [← split, same, List.replicate_succ', List.append_assoc]
    rfl
  · rintro ⟨count, digit, rest, after, odd, isDigit⟩
    obtain ⟨half, rfl⟩ : ∃ half, count = half * 2 + 1 := ⟨count / 2, by omega⟩
    rw [List.replicate_succ', List.append_assoc] at after
    refine ⟨half, ⟨'\\' :: digit :: rest, ?_⟩, ?_⟩
    · rw [pairs, after]
      rfl
    · apply (isSome_escapedDigit _).mpr
      refine ⟨digit, rest, ?_, isDigit⟩
      simp [Point.advance, after]

/-- No backslash stands before an odd run that is found. -/
theorem isSome_run_numberedReference (point : Point) :
    (numberedReference.run some point).isSome = true ↔
      point.before.head? ≠ some '\\' ∧ BeginsOddRun point.after := by
  change ((Expression.look .behind true (.sequenceOf [.literal '\\'])).run
    (escapedBackslashes.run escapedDigit) point).isSome = true ↔ _
  rw [run_notBehind]
  by_cases behind : point.before.head? = some '\\'
  · simp [behind]
  · rw [if_neg behind, isSome_run_escapedBackslashes, and_iff_right behind]

theorem isSome_run_namedReference (point : Point) :
    (namedReference.run some point).isSome = true ↔ namedReferenceOpening <+: point.after := by
  rw [namedReference, run_text]
  by_cases begins : namedReferenceOpening <+: point.after <;> simp [begins]

/-- What is found between two parts of a text. -/
theorem isSome_run_reference (before after : List Char) :
    ((Expression.choice numberedReference namedReference).run some
        ((Point.start 0 (before ++ after)).advance before.length)).isSome = true ↔
      (before.getLast? ≠ some '\\' ∧ BeginsOddRun after) ∨ namedReferenceOpening <+: after := by
  let point : Point := (Point.start 0 (before ++ after)).advance before.length
  have behind : point.before.head? = before.getLast? := by
    simp [point, Point.advance, Point.start, List.head?_reverse]
  have ahead : point.after = after := by simp [point, Point.advance, Point.start]
  change ((numberedReference.run some point).orElse fun _ =>
    namedReference.run some point).isSome = true ↔ _
  rw [Option.orElse_eq_or, Option.isSome_or, Bool.or_eq_true, isSome_run_numberedReference,
    isSome_run_namedReference, behind, ahead]

section

variable [Character.Names]

/-- The search finds the opening of a reference by name, or a digit behind an odd run of
    backslashes. -/
theorem isSome_search?_referencePattern {program : Program}
    (compiled : Program.compile referencePattern = .ok program) (fragment : String) :
    (program.search? fragment).isSome = true ↔
      namedReferenceOpening <:+: fragment.toList ∨ BehindOddRun fragment.toList := by
  cases compiled.symm.trans compile_referencePattern
  simp only [Program.isSome_search?, isSome_run_reference]
  constructor
  · rintro ⟨before, after, split, ⟨ended, count, digit, rest, rfl, odd, isDigit⟩ | ⟨left, opening⟩⟩
    · right
      obtain ⟨least, most⟩ := isReferenceDigit_iff.mp isDigit
      exact ⟨before, count, digit, rest, split, ended, odd, least, most⟩
    · left
      exact ⟨before, left, by rw [split, ← opening, List.append_assoc]⟩
  · rintro (⟨before, left, whole⟩ | ⟨before, count, digit, rest, split, ended, odd, isDigit⟩)
    · refine ⟨before, namedReferenceOpening ++ left, ?_, .inr (List.prefix_append _ _)⟩
      rw [← whole, List.append_assoc]
    · have isReference := isReferenceDigit_iff.mpr isDigit
      exact ⟨before, _, split, .inl ⟨ended, count, digit, rest, rfl, odd, isReference⟩⟩

/-! ## What the reader reads -/

/-- The reader comes to an escape that refers to a group by its number. -/
def ReadsReference (text : List Char) : Prop :=
  ∃ taken reader site digits, taken <+: tokens text ∧ taken.foldlM Reader.step {} = .ok reader ∧
    reader.mode = .escape site (.reference digits)

/-- Where no digit stands behind an odd run, none is read as a reference. -/
theorem not_readsReference {text : List Char} (unreferred : hasNumberedReference false text = false) :
    ¬ ReadsReference text := by
  rintro ⟨taken, reader, site, digits, begins, read, mode⟩
  have plain : ∀ c, .escaped c ∈ taken → isReferenceDigit c = false := fun c member =>
    unreferred_of_hasNumberedReference unreferred c (begins.subset member)
  obtain ⟨-, proper⟩ := Reader.leads_foldlM {} (Reader.proper_of_ordinary rfl) plain reader read
  rw [Reader.Proper, mode] at proper
  exact proper

example : ReadsReference "(a)\\1".toList :=
  ⟨tokens _, _, _, _, List.prefix_rfl, rfl, rfl⟩

theorem unreferring_fragmentOf {settings : Settings} (valid : settings.check = .ok ())
    (reach : Reach) : (fragmentOf settings reach).Unreferring := by
  have barless : False → hasOuterBar (settings.capture reach) = false := False.elim
  obtain ⟨program, final, -, -, -, fragment⟩ :=
    fragment_of_checkCapture (checkCapture_of_check valid reach) barless
  rw [fragmentOf_eq_content valid fragment.read]
  exact fragment.unreferring

/-- A fragment is rejected for a reference back only if it holds one, textually. -/
theorem refersBack_of_checkCapture {settings : Settings} {reach blamed : Reach} {fragment : String}
    (rejected : settings.checkCapture reach =
      .error (.configuration (.backreference blamed fragment))) :
    blamed = reach ∧ refersBack (settings.capture reach) = true := by
  unfold Settings.checkCapture at rejected
  dsimp only at rejected
  split at rejected
  · rename_i error malformed
    cases error <;> cases rejected
  · split at rejected
    · cases rejected
    · split at rejected
      · cases rejected
      · split at rejected
        · cases rejected
          exact ⟨rfl, ‹_›⟩
        · cases rejected

theorem refersBack_of_check {settings : Settings} {reach : Reach} {fragment : String}
    (rejected : settings.check = .error (.configuration (.backreference reach fragment))) :
    refersBack (settings.capture reach) = true := by
  unfold Settings.check at rejected
  cases single : settings.checkCapture .single with
  | error failure =>
    rw [single] at rejected
    cases rejected
    obtain ⟨rfl, found⟩ := refersBack_of_checkCapture single
    exact found
  | ok value =>
    rw [single] at rejected
    obtain ⟨rfl, found⟩ := refersBack_of_checkCapture rejected
    exact found

/-- The search of a fragment for references back finds the opening of a reference by name, or a
    digit behind an odd run of backslashes, and nothing else. So settings pass the check only if
    the reader comes to no reference in their fragments, and a fragment without such a digit and
    without such an opening is not rejected for a reference. -/
theorem reference_search_exact :
    ∃ program, Program.compile referencePattern = .ok program ∧
      (∀ fragment, (program.search? fragment).isSome = refersBack fragment) ∧
      (∀ fragment, (program.search? fragment).isSome = true ↔
        "(?P=".toList <:+: fragment.toList ∨ BehindOddRun fragment.toList) ∧
      (∀ (settings : Settings) (reach : Reach), settings.check = .ok () →
        ¬ ReadsReference (settings.capture reach).toList ∧
          (fragmentOf settings reach).Unreferring) ∧
      ∀ (settings : Settings) (reach : Reach),
        ¬ "(?P=".toList <:+: (settings.capture reach).toList →
        ¬ BehindOddRun (settings.capture reach).toList →
          ∀ fragment, settings.check ≠ .error (.configuration (.backreference reach fragment)) := by
  have found := @isSome_search?_referencePattern _ _ compile_referencePattern
  refine ⟨_, compile_referencePattern, ?_, found, ?_, ?_⟩
  · intro fragment
    rw [Bool.eq_iff_iff, found, refersBack_iff]
  · intro settings reach valid
    refine ⟨not_readsReference ?_, unreferring_fragmentOf valid reach⟩
    obtain ⟨program, -, -, -, unreferred⟩ :=
      checkCapture_eq_ok (checkCapture_of_check valid reach)
    rw [refersBack, Bool.or_eq_false_iff] at unreferred
    exact unreferred.1
  · intro settings reach unnamed even fragment rejected
    obtain named | odd := refersBack_iff.mp (refersBack_of_check rejected)
    · exact unnamed named
    · exact even odd

end

/-- A fragment with a digit behind two backslashes and a character by its name. -/
theorem reference_search_exact_pair :
    ∃ settings : Settings, settings.singleCapture = "(\\\\1|[^\\N\x7bSOLIDUS\x7d]+)" ∧
      settings.check = .ok () ∧
      ¬ ReadsReference settings.singleCapture.toList ∧
      ¬ "(?P=".toList <:+: settings.singleCapture.toList ∧
      ¬ BehindOddRun settings.singleCapture.toList ∧
      ∀ fragment, settings.check ≠ .error (.configuration (.backreference .single fragment)) := by
  let settings : Settings := { singleCapture := "(\\\\1|[^\\N\x7bSOLIDUS\x7d]+)" }
  have valid : settings.check = .ok () := by decide +kernel
  have plain : ¬ refersBack settings.singleCapture = true := by decide +kernel
  rw [refersBack_iff, not_or] at plain
  obtain ⟨program, -, -, -, reads, rejects⟩ := reference_search_exact
  exact ⟨settings, rfl, valid, (reads settings .single valid).1, plain.1, plain.2,
    rejects settings .single plain.1 plain.2⟩

end RoutePattern
